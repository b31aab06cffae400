import TimeCoinWallet.App.SvgImage

/-!
# The address QR code, from the key file to the screen

The receive screen draws a QR code for the selected address in two steps.
`get_address_qr_code_svg` (`use_svg_qr.py`) finds the address among the keys
of `wallet.dat`, rebuilds the wallet from that key's secret with
`Wallet::from_secret_key`, and asks it for the SVG; the screen
(`add_svg_renderer.py`) rasterises that SVG with `svg_to_image` and shows it
as the texture `"qr_code"`, or a failure label.

The lookup runs `find` twice: once to decide between "Address not found" and
the key, and once more, with `unwrap`, to read the key's bytes. The key file
and the `wallet` crate are interfaces here, as `Raster` is for the SVG
libraries; a panic is `none`.

## Main results

* `getAddressQrCodeSvg_eq` — the lookup never panics and uses the first key
  with the address.
* `qrCodeSection_eq` — the QR section never panics, and draws nothing, the
  image `svg_to_image` returns, or the failure label, by what each step
  returned.
-/

namespace TimeCoinWallet.App.AddressQr

open TimeCoinWallet.App.SvgImage

/-! ## The key file and the wallet crate -/

/-- The two fields of a key of `wallet.dat` the lookup reads. -/
structure KeyEntry where
  address : String
  keypairBytes : List UInt8
  deriving DecidableEq, Repr

/-- The part of `WalletDat` the lookup reads: `get_keys()` and `network`. -/
structure WalletDat (Network : Type) where
  keys : List KeyEntry
  network : Network

/-- The `wallet` crate's `Wallet::from_secret_key` and `address_qr_code_svg`,
with their errors already through `to_string`. -/
structure WalletLib (Network Wallet : Type) where
  fromSecretKey : List UInt8 → Network → Except String Wallet
  addressQrCodeSvg : Wallet → Except String String

variable {Network Wallet Tree : Type}

/-- `WalletManager::get_address_qr_code_svg`. -/
def getAddressQrCodeSvg (lib : WalletLib Network Wallet) (walletDat : WalletDat Network)
    (address : String) : Option (Except String String) :=
  match walletDat.keys.find? (·.address == address) with
  | none => some (.error "Address not found")
  | some _ =>
    match walletDat.keys.find? (·.address == address) with
    | none => none
    | some k =>
      match lib.fromSecretKey k.keypairBytes walletDat.network with
      | .error e => some (.error e)
      | .ok wallet => some (lib.addressQrCodeSvg wallet)

/-- **The lookup never panics.** The `unwrap` always finds the key the first
`find` found, so the result is "Address not found" or what the wallet crate
makes of the first key with the address. -/
theorem getAddressQrCodeSvg_eq (lib : WalletLib Network Wallet)
    (walletDat : WalletDat Network) (address : String) :
    getAddressQrCodeSvg lib walletDat address =
      some (match walletDat.keys.find? (·.address == address) with
        | none => .error "Address not found"
        | some k => (lib.fromSecretKey k.keypairBytes walletDat.network).bind
            lib.addressQrCodeSvg) := by
  unfold getAddressQrCodeSvg
  cases walletDat.keys.find? (·.address == address) with
  | none => rfl
  | some k =>
      dsimp only
      cases lib.fromSecretKey k.keypairBytes walletDat.network <;> rfl

/-! ## The QR section of the screen -/

/-- What the QR section draws. -/
inductive Widget
  | label (text : String)
  | image (name : String) (image : ColorImage)
  deriving DecidableEq, Repr

/-- The QR section of the receive screen, as `add_svg_renderer.py` leaves it.
Spacing is left out. -/
def qrCodeSection (lib : WalletLib Network Wallet) (R : Raster Tree)
    (walletDat : WalletDat Network) (address : String) : Option (List Widget) :=
  match getAddressQrCodeSvg lib walletDat address with
  | none => none
  | some (.error _) => some []
  | some (.ok svgString) =>
    match svgToImage R svgString with
    | none => none
    | some (.ok imageData) => some [.label "📱 Scan QR Code:", .image "qr_code" imageData]
    | some (.error _) => some [.label "📱 Scan QR Code:", .label "Failed to render QR code"]

/-- **The QR section never panics.** For every key file, address, wallet
crate and SVG backend it draws nothing when the address has no key or the
SVG cannot be made; otherwise the scan label, then the image `svgImageSpec`
describes (the pixmap's buffer in 4-byte chunks) or the failure label. -/
theorem qrCodeSection_eq (lib : WalletLib Network Wallet) (R : Raster Tree)
    (walletDat : WalletDat Network) (address : String) :
    qrCodeSection lib R walletDat address =
      some (match walletDat.keys.find? (·.address == address) with
        | none => []
        | some k =>
          match (lib.fromSecretKey k.keypairBytes walletDat.network).bind
              lib.addressQrCodeSvg with
          | .error _ => []
          | .ok svgString => .label "📱 Scan QR Code:" ::
              match svgImageSpec R svgString with
              | .ok imageData => [.image "qr_code" imageData]
              | .error _ => [.label "Failed to render QR code"]) := by
  unfold qrCodeSection
  rw [getAddressQrCodeSvg_eq]
  cases walletDat.keys.find? (·.address == address) with
  | none => rfl
  | some k =>
      dsimp only
      cases (lib.fromSecretKey k.keypairBytes walletDat.network).bind lib.addressQrCodeSvg with
      | error e => rfl
      | ok svgString =>
          dsimp only
          rw [svgToImage_eq_spec]
          cases svgImageSpec R svgString <;> rfl

end TimeCoinWallet.App.AddressQr
