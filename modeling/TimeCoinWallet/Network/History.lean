import TimeCoinWallet.Network.Sync

/-!
# What a sequence of calls leaves behind

A `NetworkManager` changes only through completed calls of `add_peer`,
`bootstrap` (either rewrite), `refresh_blockchain_state` and `start_sync`,
each meeting its own outcomes of discovery, of `connect_to_peers` and of every
status request. This module runs arbitrary
sequences of such calls from `NetworkManager::new` and ties the state they
leave to the history of status fetches they ran.

The history is `fetchLog`: for every call that ran `fetch_blockchain_info`,
which method ran it and what it returned. `SyncedAt log h` says, in the
history's terms, when the wallet should be synchronised at height `h`: the
last successful fetch returned `h`, and every fetch after it was a failed
refresh, the one failure that keeps what an earlier success set.

## Main results

* `Call.apply_eq` — what one call can do: build its registry, then let its
  status fetch, if it runs one, decide every other field (`StatusFetch.effect`).
* `syncedAt_snoc` — how one more fetch changes `SyncedAt`.
* `runInv_step`, `runInv_run` — the run invariant, one call at a time and
  over a whole run.
* `run_sync_state` — in every reachable state the two heights agree, and
  `is_synced()` holds exactly when the history is synchronised at a positive
  height, which is then the height shown; `run_height_pos_fetched` — a
  positive height needs a successful fetch.
-/

namespace TimeCoinWallet.Network.History

open TimeCoinWallet.Network.Manager
open TimeCoinWallet.Network.Fetch
open TimeCoinWallet.Network.Sync

/-! ## Runs -/

/-- One completed call, with the outcomes its network I/O met. -/
inductive Call
  | addPeer (address : String)
  | bootstrap (bootstrapNodes : List String) (fetchPeers : Except String (List Peer))
      (http : Http)
  | bootstrapConnect (bootstrapNodes : List String) (fetchPeers : Except String (List Peer))
      (connectToPeers : List String → Except String Unit × List Peer) (http : Http)
  | refreshBlockchainState (http : Http)
  | startSync (http : Http)

/-- The state a completed call leaves. -/
def Call.apply (s : NetworkManager) : Call → NetworkManager
  | .addPeer address => s.addPeer address
  | .bootstrap ns d http => (Sync.bootstrap s ns d http).2
  | .bootstrapConnect ns d c http => (Sync.bootstrapConnect s ns d c http).2
  | .refreshBlockchainState http => (Sync.refreshBlockchainState s http).2
  | .startSync http => (Sync.startSync s http).2

/-- The state after a sequence of completed calls. -/
def run (s : NetworkManager) (calls : List Call) : NetworkManager :=
  calls.foldl Call.apply s

/-- The method that ran a status fetch. -/
inductive Caller
  | bootstrap
  | refreshBlockchainState
  | startSync
  deriving DecidableEq

/-- A status fetch a call ran, and what it returned. -/
structure StatusFetch where
  caller : Caller
  result : Except String BlockchainInfo

/-- Whether a fetch returned a status. -/
def StatusFetch.succeeded (f : StatusFetch) : Bool :=
  match f.result with
  | .ok _ => true
  | .error _ => false

/-- The status fetch a call runs from state `s`: `bootstrap` fetches after
discovery, unless the later rewrite's `connect_to_peers` failed; the other two
fetch only from a non-empty registry. -/
def Call.statusFetch (s : NetworkManager) : Call → Option StatusFetch
  | .addPeer _ => none
  | .bootstrap ns d http =>
      some ⟨.bootstrap, (fetchBlockchainInfo http (discover s ns d).connectedPeers).result⟩
  | .bootstrapConnect ns d c http =>
      match (connectOutcome ns d c).1 with
      | .error _ => none
      | .ok () => some ⟨.bootstrap, (fetchBlockchainInfo http (connectOutcome ns d c).2).result⟩
  | .refreshBlockchainState http =>
      if s.connectedPeers = [] then none
      else some ⟨.refreshBlockchainState, (fetchBlockchainInfo http s.connectedPeers).result⟩
  | .startSync http =>
      if s.connectedPeers = [] then none
      else some ⟨.startSync, (fetchBlockchainInfo http s.connectedPeers).result⟩

/-- The status fetches of a run, in order. -/
def fetchLog : NetworkManager → List Call → List StatusFetch
  | _, [] => []
  | s, c :: cs => (c.statusFetch s).toList ++ fetchLog (c.apply s) cs

/-! ## What one call does -/

/-- The state a call has built when its status fetch starts: `add_peer`'s
registry, or `bootstrap`'s after discovery; the other two methods fetch from
the state as it is. -/
def Call.prepare (s : NetworkManager) : Call → NetworkManager
  | .addPeer address => s.addPeer address
  | .bootstrap ns d _ => discover s ns d
  | .bootstrapConnect ns d c _ => (discoverConnect s ns d c).2
  | .refreshBlockchainState _ => s
  | .startSync _ => s

/-- What a status fetch leaves in the state it started from: a success sets
both heights; a failure leaves them unknown (`bootstrap`), keeps the state
(`refresh_blockchain_state`) or resets it (`start_sync`). -/
def StatusFetch.effect (f : StatusFetch) (s : NetworkManager) : NetworkManager :=
  match f.result, f.caller with
  | .ok info, _ => atHeight s info.height
  | .error _, .bootstrap => atHeight s 0
  | .error _, .refreshBlockchainState => s
  | .error _, .startSync => unsynced s

/-- Building the registry touches nothing else. -/
theorem Call.prepare_eq (s : NetworkManager) (c : Call) :
    ∃ peers, c.prepare s = { s with connectedPeers := peers } := by
  cases c with
  | addPeer address => exact ⟨_, rfl⟩
  | bootstrap ns d http =>
      cases d with
      | ok peers => exact ⟨peers, rfl⟩
      | error e => exact ⟨_, NetworkManager.foldl_addPeer s ns⟩
  | bootstrapConnect ns d c http => exact ⟨_, congrArg Prod.snd (discoverConnect_eq s ns d c)⟩
  | refreshBlockchainState http => exact ⟨s.connectedPeers, rfl⟩
  | startSync http => exact ⟨s.connectedPeers, rfl⟩

/-- **What a call can do.** It builds its registry, and then its status
fetch, if it runs one, decides every other field. -/
theorem Call.apply_eq (s : NetworkManager) (c : Call) :
    c.apply s = ((c.statusFetch s).map (·.effect (c.prepare s))).getD (c.prepare s) := by
  cases c with
  | addPeer address => rfl
  | bootstrap ns d http =>
      simp only [Call.apply, Call.statusFetch, bootstrap_eq]
      cases (fetchBlockchainInfo http (discover s ns d).connectedPeers).result <;> rfl
  | bootstrapConnect ns d c http =>
      simp only [Call.apply, Call.statusFetch, Call.prepare, bootstrapConnect_eq,
        discoverConnect_eq]
      rcases (connectOutcome ns d c).1 with e | ⟨⟩
      · rfl
      · cases (fetchBlockchainInfo http (connectOutcome ns d c).2).result <;> rfl
  | refreshBlockchainState http =>
      simp only [Call.apply, Call.statusFetch, refreshBlockchainState_eq]
      by_cases hempty : s.connectedPeers = [] <;> simp only [hempty, if_true, if_false]
      · rfl
      · cases (fetchBlockchainInfo http s.connectedPeers).result <;> rfl
  | startSync http =>
      simp only [Call.apply, Call.statusFetch, startSync_eq]
      by_cases hempty : s.connectedPeers = [] <;> simp only [hempty, if_true, if_false]
      · rfl
      · cases (fetchBlockchainInfo http s.connectedPeers).result <;> rfl

/-! ## When a history is synchronised -/

/-- The last successful fetch of `log` returned height `h`, and no fetch after
it succeeded or was run by `bootstrap` or `start_sync`. -/
def SyncedAt (log : List StatusFetch) (h : UInt64) : Prop :=
  ∃ pre f post info, log = pre ++ f :: post ∧ f.result = .ok info ∧ info.height = h ∧
    ∀ g ∈ post, g.succeeded = false ∧ g.caller = .refreshBlockchainState

/-- One more fetch: a success decides the height alone; a failure keeps an
earlier success only when a refresh ran it. -/
theorem syncedAt_snoc (log : List StatusFetch) (f : StatusFetch) (h : UInt64) :
    SyncedAt (log ++ [f]) h ↔
      (∃ info, f.result = .ok info ∧ info.height = h) ∨
      (f.succeeded = false ∧ f.caller = .refreshBlockchainState ∧ SyncedAt log h) := by
  constructor
  · rintro ⟨pre, g, post, info, hlog, hg, hh, hpost⟩
    rcases List.eq_nil_or_concat post with rfl | ⟨L, b, rfl⟩
    · obtain ⟨rfl, hfg⟩ := List.append_inj' hlog rfl
      cases List.cons.inj hfg |>.1
      exact .inl ⟨info, hg, hh⟩
    · rw [List.concat_eq_append, ← List.cons_append, ← List.append_assoc] at hlog
      obtain ⟨rfl, hfb⟩ := List.append_inj' hlog rfl
      cases List.cons.inj hfb |>.1
      have hb := hpost f (by simp)
      exact .inr ⟨hb.1, hb.2, pre, g, L, info, rfl, hg, hh,
        fun x hx => hpost x (by simp [hx])⟩
  · rintro (⟨info, hf, hh⟩ | ⟨hs, hc, pre, g, post, info, rfl, hg, hh, hpost⟩)
    · exact ⟨log, f, [], info, rfl, hf, hh, by simp⟩
    · refine ⟨pre, g, post ++ [f], info, by simp, hg, hh, fun x hx => ?_⟩
      rcases List.mem_append.mp hx with hx | hx
      · exact hpost x hx
      · simp at hx; subst hx; exact ⟨hs, hc⟩

/-! ## The run invariant -/

/-- What every state reachable from `NetworkManager::new` keeps, against the
history `log` that led to it. -/
structure RunInv (s : NetworkManager) (log : List StatusFetch) : Prop where
  heights_eq : s.currentBlockHeight = s.networkBlockHeight
  not_syncing : s.isSyncing = false
  synced : ∀ h, SyncedAt log h → s.currentBlockHeight = h ∧ s.syncProgress = 1
  unknown : (∀ h, ¬ SyncedAt log h) → s.currentBlockHeight = 0

theorem runInv_new (endpoint : String) : RunInv (.new endpoint) [] where
  heights_eq := rfl
  not_syncing := rfl
  synced := fun h ⟨pre, _, _, _, hlog, _⟩ => by simp at hlog
  unknown := fun _ => rfl

/-- After a successful fetch the state is `atHeight` of that fetch. -/
private theorem runInv_success {s : NetworkManager} {log : List StatusFetch} {c : Caller}
    {info : BlockchainInfo} : RunInv (atHeight s info.height) (log ++ [⟨c, .ok info⟩]) where
  heights_eq := rfl
  not_syncing := rfl
  synced := fun h hsync => by
    rcases (syncedAt_snoc log _ h).mp hsync with ⟨info', hf, rfl⟩ | ⟨hs, -⟩
    · cases hf; exact ⟨rfl, rfl⟩
    · simp [StatusFetch.succeeded] at hs
  unknown := fun hnone =>
    absurd ((syncedAt_snoc log _ _).mpr (.inl ⟨info, rfl, rfl⟩)) (hnone _)

/-- After a failed `bootstrap` or `start_sync` fetch no height is known. -/
private theorem runInv_reset {s : NetworkManager} {log : List StatusFetch} {c : Caller}
    {e : String} (hc : c ≠ .refreshBlockchainState) (h0 : s.currentBlockHeight = 0)
    (hn : s.networkBlockHeight = 0) (hsyncing : s.isSyncing = false) :
    RunInv s (log ++ [⟨c, .error e⟩]) where
  heights_eq := by rw [h0, hn]
  not_syncing := hsyncing
  synced := fun h hsync => by
    rcases (syncedAt_snoc log _ h).mp hsync with ⟨info, hf, -⟩ | ⟨-, hc', -⟩
    · cases hf
    · exact absurd hc' hc
  unknown := fun _ => h0

/-- A failed refresh keeps the state and what the history says. -/
private theorem runInv_refresh_failed {s : NetworkManager} {log : List StatusFetch}
    {e : String} (hinv : RunInv s log) :
    RunInv s (log ++ [⟨.refreshBlockchainState, .error e⟩]) where
  heights_eq := hinv.heights_eq
  not_syncing := hinv.not_syncing
  synced := fun h hsync => hinv.synced h (by
    simpa [syncedAt_snoc, StatusFetch.succeeded] using hsync)
  unknown := fun hnone => hinv.unknown fun h hsync => hnone h (by
    simpa [syncedAt_snoc, StatusFetch.succeeded] using hsync)

/-- What a status fetch leaves keeps the invariant, with the fetch appended
to the history. -/
theorem runInv_effect {s : NetworkManager} {log : List StatusFetch} (hinv : RunInv s log)
    (f : StatusFetch) : RunInv (f.effect s) (log ++ [f]) := by
  obtain ⟨c, r⟩ := f
  cases r with
  | ok info => exact runInv_success
  | error e =>
      cases c with
      | bootstrap => exact runInv_reset (by decide) rfl rfl rfl
      | refreshBlockchainState => exact runInv_refresh_failed hinv
      | startSync => exact runInv_reset (by decide) rfl rfl rfl

/-- **Step lemma.** Every call keeps the invariant, with its fetch (if any)
appended to the history. -/
theorem runInv_step {s : NetworkManager} {log : List StatusFetch} (hinv : RunInv s log)
    (c : Call) : RunInv (c.apply s) (log ++ (c.statusFetch s).toList) := by
  obtain ⟨peers, hp⟩ := c.prepare_eq s
  have hprep : RunInv (c.prepare s) log := hp ▸ ⟨hinv.1, hinv.2, hinv.3, hinv.4⟩
  rw [Call.apply_eq]
  cases c.statusFetch s with
  | none => simpa using hprep
  | some f => exact runInv_effect hprep f

/-- A positive height is the one the history is synchronised at. -/
theorem RunInv.syncedAt_of_pos {s : NetworkManager} {log : List StatusFetch}
    (hinv : RunInv s log) (hpos : 0 < s.currentBlockHeight) :
    SyncedAt log s.currentBlockHeight := by
  by_contra hnone
  have h0 := hinv.unknown fun h hsync => hnone ((hinv.synced h hsync).1 ▸ hsync)
  rw [h0] at hpos
  exact absurd hpos (by decide)

/-- **Run lemma.** A whole run keeps the invariant, against its fetch log. -/
theorem runInv_run (calls : List Call) :
    ∀ (s : NetworkManager) (log : List StatusFetch), RunInv s log →
      RunInv (run s calls) (log ++ fetchLog s calls) := by
  induction calls with
  | nil => intro s log hinv; simpa [run, fetchLog] using hinv
  | cons c cs ih =>
      intro s log hinv
      simpa [run, fetchLog, List.append_assoc] using ih _ _ (runInv_step hinv c)

/-- Every run from `NetworkManager::new` keeps the invariant against its own
fetch log. -/
theorem runInv_from_new (endpoint : String) (calls : List Call) :
    RunInv (run (.new endpoint) calls) (fetchLog (.new endpoint) calls) := by
  simpa using runInv_run calls _ _ (runInv_new endpoint)

/-- **The sync state of every reachable `NetworkManager`.** Whatever calls
were made and whatever their network I/O met, the two heights agree, and the
wallet reports synchronised exactly when the run's last successful fetch
returned a positive height that no later `bootstrap` or `start_sync` failure
erased; the heights shown are then that height. -/
theorem run_sync_state (endpoint : String) (calls : List Call) :
    (run (.new endpoint) calls).currentBlockHeight =
        (run (.new endpoint) calls).networkBlockHeight ∧
    ((run (.new endpoint) calls).isSynced = true ↔
      ∃ h, 0 < h ∧ SyncedAt (fetchLog (.new endpoint) calls) h) ∧
    (∀ h, SyncedAt (fetchLog (.new endpoint) calls) h →
      (run (.new endpoint) calls).currentBlockHeight = h ∧
      (run (.new endpoint) calls).networkBlockHeight = h) := by
  have hinv := runInv_from_new endpoint calls
  refine ⟨hinv.heights_eq, ?_, fun h hsync => ?_⟩
  · rw [NetworkManager.isSynced_iff]
    constructor
    · rintro ⟨-, -, hpos⟩
      exact ⟨_, hpos, hinv.syncedAt_of_pos hpos⟩
    · rintro ⟨h, hpos, hsync⟩
      obtain ⟨hcur, hprog⟩ := hinv.synced h hsync
      exact ⟨hinv.not_syncing, hprog ▸ (by decide : (1 : Rat) ≤ 1), hcur ▸ hpos⟩
  · obtain ⟨hcur, -⟩ := hinv.synced h hsync
    exact ⟨hcur, hinv.heights_eq ▸ hcur⟩

/-- **A known height comes from a fetch.** From `NetworkManager::new`, the
current height is positive only after some status fetch of the run
succeeded. -/
theorem run_height_pos_fetched (endpoint : String) (calls : List Call)
    (hpos : 0 < (run (.new endpoint) calls).currentBlockHeight) :
    ∃ f ∈ fetchLog (.new endpoint) calls, f.succeeded = true := by
  have hinv := runInv_from_new endpoint calls
  obtain ⟨pre, f, post, info, hlog, hf, -⟩ := hinv.syncedAt_of_pos hpos
  exact ⟨f, by simp [hlog], by simp [StatusFetch.succeeded, hf]⟩

theorem run_height_pos_fetched_bootstrap :
    let http : Http := ⟨fun _ => .ok (), fun _ _ => .response 200 (.ok ⟨1000⟩)⟩
    let calls := [Call.bootstrap [] (.ok [⟨"10.0.0.1:24100"⟩]) http]
    0 < (run (.new "https://time-coin.io") calls).currentBlockHeight ∧
      ∃ f ∈ fetchLog (.new "https://time-coin.io") calls, f.succeeded = true :=
  ⟨by decide, run_height_pos_fetched _ _ (by decide)⟩

end TimeCoinWallet.Network.History
