import TimeCoinWallet.Network.History

/-!
# The orchestrator's state machine

The design gives the orchestrator the states `Idle`, `Bootstrapping`,
`Synced` and `Disconnected` ("peers connected, height unknown").
`Bootstrapping` lasts only while a `bootstrap` call holds the manager by
`&mut`, so no caller sees it; the other three are steady. Here that machine
is `SyncPhase`, moved by the status fetches a run makes (`SyncPhase.next`),
and `SyncPhase.realize` is the `NetworkManager` each of its states stands
for, given a registry.

The refinement theorem says the faithful model has no other states: after
every run from `NetworkManager::new`, the manager is exactly the realisation of
the machine's state after the run's fetch log. Nothing but the registry is
left for the concrete state to differ in, so every question about heights,
flags and `is_synced()` is a question about the abstract machine.

`start_sync` adds one transition the design does not list: its failure
returns to `Idle`.

## Main results

* `realizes_effect`, `realizes_step`, `realizes_run` — each status fetch, each
  call and each run moves the manager as the machine moves.
* `run_refines_syncPhase` — from `NetworkManager::new`, every run is the
  machine's state realised, and `is_synced()` holds exactly in `Synced`.
-/

namespace TimeCoinWallet.Network.Phases

open TimeCoinWallet.Network.Manager
open TimeCoinWallet.Network.Fetch
open TimeCoinWallet.Network.Sync
open TimeCoinWallet.Network.History

/-- The orchestrator's steady states. -/
inductive SyncPhase
  | idle
  | synced (height : UInt64)
  | disconnected
  deriving DecidableEq, Repr

/-- How a status fetch moves the machine. A status with height `0` is the
"unknown" sentinel, so it lands in `Disconnected`. -/
def SyncPhase.next (p : SyncPhase) (f : StatusFetch) : SyncPhase :=
  match f.result, f.caller with
  | .ok info, _ => if info.height = 0 then .disconnected else .synced info.height
  | .error _, .bootstrap => .disconnected
  | .error _, .refreshBlockchainState => p
  | .error _, .startSync => .idle

/-- The `NetworkManager` a state of the machine stands for. -/
def SyncPhase.realize (p : SyncPhase) (endpoint : String) (peers : List Peer) :
    NetworkManager :=
  match p with
  | .idle => { NetworkManager.new endpoint with connectedPeers := peers }
  | .synced h => atHeight { NetworkManager.new endpoint with connectedPeers := peers } h
  | .disconnected => atHeight { NetworkManager.new endpoint with connectedPeers := peers } 0

/-- No state of the machine is `Synced` at the sentinel `0`. -/
def SyncPhase.WF : SyncPhase → Prop
  | .synced h => h ≠ 0
  | _ => True

/-- `atHeight` keeps only the endpoint and the registry of what it updates. -/
theorem atHeight_eq (s : NetworkManager) (h : UInt64) :
    atHeight s h = atHeight { NetworkManager.new s.apiEndpoint with
      connectedPeers := s.connectedPeers } h := rfl

/-- A success moves the machine to the fetched height, realised by
`atHeight`. -/
theorem realize_next_ok (p : SyncPhase) (c : Caller) (info : BlockchainInfo)
    (endpoint : String) (peers : List Peer) :
    (p.next ⟨c, .ok info⟩).realize endpoint peers =
      atHeight { NetworkManager.new endpoint with connectedPeers := peers } info.height ∧
    (p.next ⟨c, .ok info⟩).WF := by
  by_cases h0 : info.height = 0 <;> simp [SyncPhase.next, SyncPhase.realize, SyncPhase.WF, h0]

/-! ## Refinement -/

/-- The manager is the realisation of the machine's state `p`. -/
def Realizes (s : NetworkManager) (p : SyncPhase) : Prop :=
  s = p.realize s.apiEndpoint s.connectedPeers ∧ p.WF

/-- Building the registry keeps the machine's state. -/
theorem realizes_with_peers {s : NetworkManager} {p : SyncPhase} (h : Realizes s p)
    (peers : List Peer) : Realizes { s with connectedPeers := peers } p := by
  obtain ⟨hs, hwf⟩ := h
  refine ⟨?_, hwf⟩
  rw [hs]
  cases p <;> rfl

/-- What a status fetch leaves realises the machine moved by that fetch. -/
theorem realizes_effect {s : NetworkManager} {p : SyncPhase} (h : Realizes s p)
    (f : StatusFetch) : Realizes (f.effect s) (p.next f) := by
  obtain ⟨c, r⟩ := f
  cases r with
  | ok info =>
      show Realizes (atHeight s info.height) _
      rw [Realizes, atHeight_eq]
      exact (realize_next_ok p c info _ _).imp (·.symm) id
  | error e =>
      cases c with
      | bootstrap => exact ⟨rfl, trivial⟩
      | refreshBlockchainState => exact h
      | startSync => exact ⟨rfl, trivial⟩

/-- **Step lemma.** Every call keeps the manager the realisation of the
machine, moved by the call's status fetch. -/
theorem realizes_step {s : NetworkManager} {p : SyncPhase} (h : Realizes s p) (c : Call) :
    Realizes (c.apply s) ((c.statusFetch s).toList.foldl SyncPhase.next p) := by
  obtain ⟨peers, hp⟩ := c.prepare_eq s
  have hprep : Realizes (c.prepare s) p := hp ▸ realizes_with_peers h peers
  rw [Call.apply_eq]
  cases c.statusFetch s with
  | none => exact hprep
  | some f => exact realizes_effect hprep f

/-- **Run lemma.** -/
theorem realizes_run (calls : List Call) :
    ∀ (s : NetworkManager) (p : SyncPhase), Realizes s p →
      Realizes (run s calls) ((fetchLog s calls).foldl SyncPhase.next p) := by
  induction calls with
  | nil => exact fun _ _ h => h
  | cons c cs ih =>
      intro s p h
      simpa [run, fetchLog, List.foldl_append] using ih _ _ (realizes_step h c)

/-- **The faithful model refines the design's machine.** After any run from
`NetworkManager::new`, the manager is the realisation, with its registry, of
the machine's state after the run's status fetches; it is synchronised
exactly when that state is `Synced`. -/
theorem run_refines_syncPhase (endpoint : String) (calls : List Call) :
    let s := run (.new endpoint) calls
    let p := (fetchLog (.new endpoint) calls).foldl SyncPhase.next .idle
    s = p.realize s.apiEndpoint s.connectedPeers ∧
      (s.isSynced = true ↔ ∃ h, p = .synced h) := by
  obtain ⟨hs, hwf⟩ := realizes_run calls (.new endpoint) .idle ⟨rfl, trivial⟩
  refine ⟨hs, ?_⟩
  generalize (fetchLog (.new endpoint) calls).foldl SyncPhase.next .idle = p at hs hwf ⊢
  rw [hs]
  cases p with
  | idle => simp [SyncPhase.realize, NetworkManager.isSynced, NetworkManager.new]
  | synced h =>
      simp only [SyncPhase.WF] at hwf
      simp [SyncPhase.realize, NetworkManager.isSynced, atHeight, NetworkManager.height_pos_iff,
        hwf, show (1 : Rat) ≤ 1 by decide]
  | disconnected => simp [SyncPhase.realize, NetworkManager.isSynced, atHeight]

end TimeCoinWallet.Network.Phases
