import TimeCoinWallet.Network.Manager
import TimeCoinWallet.Network.Fetch
import TimeCoinWallet.Network.Sync
import TimeCoinWallet.Network.History
import TimeCoinWallet.Network.Phases
import TimeCoinWallet.App.Sessions
import TimeCoinWallet.App.SvgImage
import TimeCoinWallet.App.AddressQr
