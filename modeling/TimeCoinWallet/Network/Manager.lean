import Mathlib.Data.Rat.Defs
import Mathlib.Data.List.Basic

/-!
# The wallet's network state

`wallet-gui/src/network.rs` keeps everything the wallet knows about the
network in one record, `NetworkManager`: the peer registry
(`connected_peers`), two sync flags and the two block heights the status bar
shows. This module is that record with its constructor, `add_peer`, and the
accessors the rest of the wallet reads; the operations that change it over the
network are in `Network.Fetch` and `Network.Sync`.

`sync_progress` is an `f32` in the source, but the only values ever stored in
it are the literals `0.0` and `1.0`, both exact, so it is a rational here and
`sync_progress >= 1.0` keeps its meaning. Heights are `u64` that are only
copied and compared with `0`, so they are `UInt64`.
-/

namespace TimeCoinWallet.Network.Manager

/-- A registry entry. Only `address`, a `host:port` string, is read by the
code modelled here. -/
structure Peer where
  address : String
  deriving DecidableEq, Repr

/-- The status a peer serves at `/blockchain/info`. Of its four fields only
`height` is ever read. -/
structure BlockchainInfo where
  height : UInt64
  deriving DecidableEq, Repr

/-- `NetworkManager` as `fix_network_methods.py` leaves it, with the two
heights next to the registry and the sync flags. -/
structure NetworkManager where
  apiEndpoint : String
  connectedPeers : List Peer
  isSyncing : Bool
  syncProgress : Rat
  currentBlockHeight : UInt64
  networkBlockHeight : UInt64
  deriving DecidableEq, Repr

namespace NetworkManager

/-- `NetworkManager::new`: an empty registry, not syncing, no height known. -/
def new (apiEndpoint : String) : NetworkManager where
  apiEndpoint := apiEndpoint
  connectedPeers := []
  isSyncing := false
  syncProgress := 0
  currentBlockHeight := 0
  networkBlockHeight := 0

/-- Modelled from the spec: `add_peer` itself is not in the sources, only its
calls. The spec's registry "may grow (add_peer)", each bootstrap address being
"added to the registry verbatim, in input order", so it appends one entry. -/
def addPeer (self : NetworkManager) (address : String) : NetworkManager :=
  { self with connectedPeers := self.connectedPeers ++ [⟨address⟩] }

/-- Modelled from the spec: `peer_count` is not in the sources; the status bar
shows it as the size of the registry. -/
def peerCount (self : NetworkManager) : Nat := self.connectedPeers.length

/-- `is_synced` after `fix_sync_logic.py`: a wallet counts as synchronised only
once a height is known. -/
def isSynced (self : NetworkManager) : Bool :=
  !self.isSyncing && self.syncProgress ≥ 1 && self.currentBlockHeight > 0

/-- A height is positive exactly when it is not the "unknown" sentinel `0`. -/
theorem height_pos_iff (h : UInt64) : 0 < h ↔ h ≠ 0 := by
  refine ⟨fun hp => (UInt64.ne_of_lt hp).symm, fun hne => ?_⟩
  rw [← UInt64.not_le]
  exact fun hle => hne (UInt64.eq_of_toBitVec_eq (by simp [UInt64.le_def] at hle ⊢; bv_omega))

theorem isSynced_iff (s : NetworkManager) :
    s.isSynced = true ↔
      s.isSyncing = false ∧ 1 ≤ s.syncProgress ∧ 0 < s.currentBlockHeight := by
  simp [isSynced, and_assoc]

/-- A run of `add_peer` calls appends every address, in order, and touches
nothing but the registry. -/
theorem foldl_addPeer (s : NetworkManager) (addresses : List String) :
    addresses.foldl addPeer s =
      { s with connectedPeers := s.connectedPeers ++ addresses.map Peer.mk } := by
  induction addresses generalizing s with
  | nil => simp
  | cons a rest ih => simp [ih, addPeer]

end NetworkManager

end TimeCoinWallet.Network.Manager
