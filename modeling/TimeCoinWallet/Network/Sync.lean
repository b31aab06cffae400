import TimeCoinWallet.Network.Fetch

/-!
# Bootstrap, refresh and sync

The three `async` methods of `NetworkManager` that run the status fetcher:

* `bootstrap` — `fix_sync_logic.py` with the end `fix_missing_api.py` gives
  it: discovery (or the bootstrap nodes, through `add_peer`) fills the
  registry, then one status fetch; a failed fetch leaves the wallet
  "connected, height unknown", and the call returns `Ok` either way.
* `bootstrapConnect` — the later rewrite `add_blockchain_fetch.py` patches,
  with the same status fetch at its end: its fallback goes through
  `connect_to_peers(fallback_peers).await?`, so a failed `connect_to_peers`
  returns `Err` before any status fetch. `bootstrap_eq_bootstrapConnect`
  shows the earlier rewrite is the later one with a `connect_to_peers` that
  adds the nodes and never fails.
* `refresh_blockchain_state` — `fix_sync_logic.py`: the fetch alone, against
  the registry as it is.
* `start_sync` — `fix_start_sync.py`: the same fetch, but a failure resets
  the progress and both heights.

A method is a function from the state before the call to its `Result` and
the state after it. The discovery directory (`fetch_peers`, not in the
sources) is an arbitrary outcome `Except String (List Peer)`, `connect_to_peers`
(not in the sources either) an arbitrary result and registry, and every
status fetch meets an arbitrary `Http`.
-/

namespace TimeCoinWallet.Network.Sync

open TimeCoinWallet.Network.Manager
open TimeCoinWallet.Network.Fetch

/-! ## The methods -/

/-- The discovery half of `bootstrap`: a discovered list replaces the registry;
if discovery fails, every bootstrap node goes through `add_peer`. -/
def discover (self : NetworkManager) (bootstrapNodes : List String)
    (fetchPeers : Except String (List Peer)) : NetworkManager :=
  match fetchPeers with
  | .ok peers => { self with connectedPeers := peers }
  | .error _ => bootstrapNodes.foldl NetworkManager.addPeer self

/-- `bootstrap(&mut self, bootstrap_nodes)`. -/
def bootstrap (self : NetworkManager) (bootstrapNodes : List String)
    (fetchPeers : Except String (List Peer)) (http : Http) :
    Except String Unit × NetworkManager :=
  let self := discover self bootstrapNodes fetchPeers
  match (fetchBlockchainInfo http self.connectedPeers).result with
  | .ok info =>
    (.ok (), { self with
      networkBlockHeight := info.height
      currentBlockHeight := info.height
      isSyncing := false
      syncProgress := 1 })
  | .error _ =>
    (.ok (), { self with
      isSyncing := false
      syncProgress := 1
      currentBlockHeight := 0
      networkBlockHeight := 0 })

/-- `refresh_blockchain_state(&mut self)`. -/
def refreshBlockchainState (self : NetworkManager) (http : Http) :
    Except String Unit × NetworkManager :=
  if self.connectedPeers.isEmpty then (.error "No peers connected", self) else
  match (fetchBlockchainInfo http self.connectedPeers).result with
  | .ok info =>
    (.ok (), { self with
      networkBlockHeight := info.height
      currentBlockHeight := info.height
      isSyncing := false
      syncProgress := 1 })
  | .error e => (.error ("Failed to refresh blockchain: " ++ e), self)

/-- `start_sync(&mut self)`. The first two writes happen before the fetch's
`await`; the caller's `&mut` borrow hides them until the call returns. -/
def startSync (self : NetworkManager) (http : Http) :
    Except String Unit × NetworkManager :=
  if self.connectedPeers.isEmpty then (.error "No peers connected", self) else
  let self := { self with isSyncing := true, syncProgress := 0 }
  match (fetchBlockchainInfo http self.connectedPeers).result with
  | .ok info =>
    (.ok (), { self with
      networkBlockHeight := info.height
      currentBlockHeight := info.height
      isSyncing := false
      syncProgress := 1 })
  | .error e =>
    (.error ("Failed to sync blockchain: " ++ e), { self with
      isSyncing := false
      syncProgress := 0
      currentBlockHeight := 0
      networkBlockHeight := 0 })

/-! ## One spec lemma per method -/

/-- The height a status fetch leaves behind: the status's, or the `0` that
stands for "unknown". -/
def heightOf : Except String BlockchainInfo → UInt64
  | .ok info => info.height
  | .error _ => 0

/-- The state a successful fetch leaves: both heights set, sync complete. -/
def atHeight (s : NetworkManager) (height : UInt64) : NetworkManager :=
  { s with
    networkBlockHeight := height
    currentBlockHeight := height
    isSyncing := false
    syncProgress := 1 }

/-- The state a failed `start_sync` leaves: progress and both heights back to
`0`, the registry kept. -/
def unsynced (s : NetworkManager) : NetworkManager :=
  { s with isSyncing := false, syncProgress := 0, currentBlockHeight := 0, networkBlockHeight := 0 }

/-- **`bootstrap` always returns `Ok`**, and what it leaves is the registry it
built at the height its fetch found, `0` when the fetch failed. -/
theorem bootstrap_eq (s : NetworkManager) (ns : List String)
    (d : Except String (List Peer)) (http : Http) :
    bootstrap s ns d http =
      (.ok (), atHeight (discover s ns d)
        (heightOf (fetchBlockchainInfo http (discover s ns d).connectedPeers).result)) := by
  simp only [bootstrap]
  split <;> simp_all [atHeight, heightOf]

/-- `refresh_blockchain_state` changes the state only through a successful
fetch. -/
theorem refreshBlockchainState_eq (s : NetworkManager) (http : Http) :
    refreshBlockchainState s http =
      if s.connectedPeers = [] then (.error "No peers connected", s) else
      match (fetchBlockchainInfo http s.connectedPeers).result with
      | .ok info => (.ok (), atHeight s info.height)
      | .error e => (.error ("Failed to refresh blockchain: " ++ e), s) := by
  simp only [refreshBlockchainState, List.isEmpty_iff]
  split
  · rfl
  · split <;> simp_all [atHeight]

/-- `start_sync` on a non-empty registry ends at the fetched height, or reset
to height `0` with progress `0`. -/
theorem startSync_eq (s : NetworkManager) (http : Http) :
    startSync s http =
      if s.connectedPeers = [] then (.error "No peers connected", s) else
      match (fetchBlockchainInfo http s.connectedPeers).result with
      | .ok info => (.ok (), atHeight s info.height)
      | .error e => (.error ("Failed to sync blockchain: " ++ e), unsynced s) := by
  simp only [startSync, List.isEmpty_iff]
  split
  · rfl
  · split <;> simp_all [atHeight, unsynced]

/-! ## The later `bootstrap` -/

/-- The discovery half of `bootstrap` as `add_blockchain_fetch.py` finds it:
on a failed discovery the fallback goes through
`self.connect_to_peers(fallback_peers).await?`. Of that rewrite only the
fallback's last lines are in the sources; neither `connect_to_peers` nor how
`fallback_peers` is built from the nodes is, so `connectToPeers nodes` is an
arbitrary outcome of the call for these nodes: its result and the registry
it leaves. A discovered list replaces the registry, as in every rewrite whose
discovery branch is in the sources. -/
def discoverConnect (self : NetworkManager) (bootstrapNodes : List String)
    (fetchPeers : Except String (List Peer))
    (connectToPeers : List String → Except String Unit × List Peer) :
    Except String Unit × NetworkManager :=
  match fetchPeers with
  | .ok peers => (.ok (), { self with connectedPeers := peers })
  | .error _ =>
    let (result, peers) := connectToPeers bootstrapNodes
    (result, { self with connectedPeers := peers })

/-- `bootstrap(&mut self, bootstrap_nodes)` as `add_blockchain_fetch.py`
leaves it: the `?` returns a failed `connect_to_peers` at once, and otherwise
the status fetch ends the call as in `fix_missing_api.py`. -/
def bootstrapConnect (self : NetworkManager) (bootstrapNodes : List String)
    (fetchPeers : Except String (List Peer))
    (connectToPeers : List String → Except String Unit × List Peer) (http : Http) :
    Except String Unit × NetworkManager :=
  match discoverConnect self bootstrapNodes fetchPeers connectToPeers with
  | (.error e, self) => (.error e, self)
  | (.ok (), self) =>
    match (fetchBlockchainInfo http self.connectedPeers).result with
    | .ok info =>
      (.ok (), { self with
        networkBlockHeight := info.height
        currentBlockHeight := info.height
        isSyncing := false
        syncProgress := 1 })
    | .error _ =>
      (.ok (), { self with
        isSyncing := false
        syncProgress := 1
        currentBlockHeight := 0
        networkBlockHeight := 0 })

/-- What discovery and the fallback's `connect_to_peers` leave: whether the
call goes on, and the registry. -/
def connectOutcome (bootstrapNodes : List String) (fetchPeers : Except String (List Peer))
    (connectToPeers : List String → Except String Unit × List Peer) :
    Except String Unit × List Peer :=
  match fetchPeers with
  | .ok peers => (.ok (), peers)
  | .error _ => connectToPeers bootstrapNodes

theorem discoverConnect_eq (s : NetworkManager) (ns : List String)
    (d : Except String (List Peer)) (c : List String → Except String Unit × List Peer) :
    discoverConnect s ns d c =
      ((connectOutcome ns d c).1, { s with connectedPeers := (connectOutcome ns d c).2 }) := by
  cases d <;> rfl

/-- **The later `bootstrap` fails only through `connect_to_peers`.** It
returns `Err` exactly when discovery failed and `connect_to_peers` failed,
leaving the registry that call left; otherwise it returns `Ok` at the height
its status fetch found, `0` when the fetch failed. -/
theorem bootstrapConnect_eq (s : NetworkManager) (ns : List String)
    (d : Except String (List Peer)) (c : List String → Except String Unit × List Peer)
    (http : Http) :
    bootstrapConnect s ns d c http =
      ((connectOutcome ns d c).1,
        match (connectOutcome ns d c).1 with
        | .error _ => { s with connectedPeers := (connectOutcome ns d c).2 }
        | .ok () => atHeight { s with connectedPeers := (connectOutcome ns d c).2 }
            (heightOf (fetchBlockchainInfo http (connectOutcome ns d c).2).result)) := by
  unfold bootstrapConnect
  rw [discoverConnect_eq]
  rcases (connectOutcome ns d c).1 with e | ⟨⟩
  · rfl
  · dsimp only
    cases (fetchBlockchainInfo http (connectOutcome ns d c).2).result <;> rfl

/-- The later `bootstrap` keeps the endpoint. -/
theorem bootstrapConnect_apiEndpoint (s : NetworkManager) (ns : List String)
    (d : Except String (List Peer)) (c : List String → Except String Unit × List Peer)
    (http : Http) : (bootstrapConnect s ns d c http).2.apiEndpoint = s.apiEndpoint := by
  rw [bootstrapConnect_eq]
  cases (connectOutcome ns d c).1 <;> rfl

/-- What the later `bootstrap` returns with `Ok`: the registry discovery or
`connect_to_peers` left, at the height its status fetch found. -/
theorem bootstrapConnect_ok {s m : NetworkManager} {ns : List String}
    {d : Except String (List Peer)} {c : List String → Except String Unit × List Peer}
    {http : Http} (h : bootstrapConnect s ns d c http = (.ok (), m)) :
    (connectOutcome ns d c).1 = .ok () ∧
      m = atHeight { s with connectedPeers := (connectOutcome ns d c).2 }
        (heightOf (fetchBlockchainInfo http (connectOutcome ns d c).2).result) := by
  rw [bootstrapConnect_eq] at h
  rcases hc : (connectOutcome ns d c).1 with e | ⟨⟩ <;> rw [hc] at h
  · cases h
  · exact ⟨rfl, (Prod.mk.inj h).2.symm⟩

/-- **The earlier rewrite is a case of the later one**: its fallback is a
`connect_to_peers` that adds every node as `add_peer` does and never
fails. -/
theorem bootstrap_eq_bootstrapConnect (s : NetworkManager) (ns : List String)
    (d : Except String (List Peer)) (http : Http) :
    bootstrap s ns d http =
      bootstrapConnect s ns d (fun nodes => (.ok (), s.connectedPeers ++ nodes.map Peer.mk))
        http := by
  rw [bootstrap_eq, bootstrapConnect_eq]
  cases d with
  | ok peers => rfl
  | error e => simp only [discover, NetworkManager.foldl_addPeer]; rfl

/-! ## A failed fetch -/

/-- **A failed fetch: `refresh_blockchain_state` keeps the state,
`start_sync` resets it.** When no response is accepted (an empty registry
included), refresh returns `Err` and leaves every field as it was, and so does
`start_sync` on an empty registry; on a non-empty one `start_sync` returns
`Err` with progress and both heights reset to `0`. -/
theorem failed_fetch_frame (s : NetworkManager) (http : Http)
    (hnone : NoneAccepted http 0 s.connectedPeers) :
    (∃ e, refreshBlockchainState s http = (.error e, s)) ∧
    (s.connectedPeers = [] → startSync s http = (.error "No peers connected", s)) ∧
    (s.connectedPeers ≠ [] → ∃ e, startSync s http = (.error e, unsynced s)) := by
  obtain ⟨e, he⟩ := fetchLoop_error hnone
  refine ⟨?_, fun h => by simp [startSync_eq, h], fun h => ⟨"Failed to sync blockchain: " ++ e, by
    simp [startSync_eq, h, fetchBlockchainInfo, he]⟩⟩
  by_cases h : s.connectedPeers = []
  · exact ⟨"No peers connected", by simp [refreshBlockchainState_eq, h]⟩
  · exact ⟨"Failed to refresh blockchain: " ++ e,
      by simp [refreshBlockchainState_eq, h, fetchBlockchainInfo, he]⟩

theorem failed_fetch_frame_one_peer :
    let s : NetworkManager := { NetworkManager.new "https://time-coin.io" with
      connectedPeers := [⟨"10.0.0.1:24100"⟩] }
    let http : Http := ⟨fun _ => .ok (), fun _ _ => .err "connection refused"⟩
    NoneAccepted http 0 s.connectedPeers ∧
      (∃ e, refreshBlockchainState s http = (.error e, s)) ∧
      (s.connectedPeers = [] → startSync s http = (.error "No peers connected", s)) ∧
      (s.connectedPeers ≠ [] → ∃ e, startSync s http = (.error e, unsynced s)) :=
  have hnone : NoneAccepted ⟨fun _ => .ok (), fun _ _ => .err "connection refused"⟩ 0
      [⟨"10.0.0.1:24100"⟩] := fun i hi => by simp at hi; subst hi; rfl
  ⟨hnone, failed_fetch_frame _ _ hnone⟩

/-- A wallet synchronised at height `5` that runs `start_sync` while its one
peer is unreachable is no longer synchronised: the failure is not a frame. -/
theorem startSync_failure_unsyncs :
    let s := atHeight { NetworkManager.new "https://time-coin.io" with
      connectedPeers := [⟨"10.0.0.1:24100"⟩] } 5
    let http : Http := ⟨fun _ => .ok (), fun _ _ => .err "connection refused"⟩
    NoneAccepted http 0 s.connectedPeers ∧ s.isSynced = true ∧
      (startSync s http).2 ≠ s ∧ (startSync s http).2.isSynced = false :=
  ⟨fun i hi => by simp [atHeight] at hi; subst hi; rfl, by decide, by decide, by decide⟩

end TimeCoinWallet.Network.Sync
