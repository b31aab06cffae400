import TimeCoinWallet.Network.Manager

/-!
# Fetching the chain status from the peers

`fetch_blockchain_info` (as `fix_peer_query.py` and `add_fetch_method.py`
write it) walks the registry in order. For each peer it derives a status url
from the peer's address, builds a `reqwest` client, sends one GET, and returns
the first 2xx response whose body parses as `BlockchainInfo`; every other
outcome is logged and the loop moves on.

The network is an oracle, `Http`: whether the `n`-th round's client builds,
and the outcome of that round's request, are arbitrary functions of `n` (and
of the url), so every assignment of outcomes to rounds is covered. A run
returns the urls it requested next to its result, which is what lets the
main theorem speak of requests that were *not* sent.

## Main results

* `fetchLoop_accept`, `fetchLoop_exhausted` — the loop stops exactly at the
  first accepted response, after one request per earlier peer, and otherwise
  asks every peer once.
* `fetchLoop_requests`, `fetchLoop_error` — every run requests a prefix of
  the registry's urls, in order, and a run with no accepted response fails,
  whether or not the client builds.
* `fetchLoop_client_error` — a client that fails to build ends the whole
  fetch with its error, after the requests of the rounds before it.
* `fetchBlockchainInfo_first_success` — the two together, from the first
  request on.
* `peerIp_of_host`, `statusUrl_port` — the url keeps the whole host when the
  host has no `:`, and never depends on the peer's port; `statusUrl_ipv6`
  shows what happens to a bracketed IPv6 host.
-/

namespace TimeCoinWallet.Network.Fetch

open TimeCoinWallet.Network.Manager

/-! ## The status url of a peer -/

/-- `str::split` by one character, as Rust yields it: the pieces between the
occurrences of `c`, in order. There is always at least one piece. -/
def split (c : Char) : List Char → List (List Char)
  | [] => [[]]
  | x :: xs => if x = c then [] :: split c xs else (split c xs).modifyHead (x :: ·)

/-- `split(c).next()` is the text before the first `c`. -/
theorem head?_split (c : Char) (s : List Char) :
    (split c s).head? = some (s.takeWhile (· != c)) := by
  induction s with
  | nil => rfl
  | cons x xs ih =>
      by_cases hx : x = c
      · simp [split, hx]
      · obtain ⟨rest, hrest⟩ : ∃ rest, split c xs = xs.takeWhile (· != c) :: rest := by
          cases hs : split c xs with
          | nil => simp [hs] at ih
          | cons p rest => exact ⟨rest, by simp_all⟩
        simp [split, hx, hrest, List.takeWhile_cons]

/-- `peer.address.split(':').next().unwrap_or(&peer.address)`. -/
def peerIp (peer : Peer) : String :=
  ((split ':' peer.address.data).head?.map String.mk).getD peer.address

/-- `format!("http://{}:24101/blockchain/info", peer_ip)`. -/
def statusUrl (peer : Peer) : String :=
  "http://" ++ peerIp peer ++ ":24101/blockchain/info"

/-- For a host without a `:` (an IPv4 address or a DNS name) the derived ip
is the whole host, whatever the port. -/
theorem peerIp_of_host (host port : String) (hhost : ':' ∉ host.data) :
    peerIp ⟨host ++ ":" ++ port⟩ = host := by
  have hall : ∀ a ∈ host.data, (a != ':') = true := fun a ha => by
    simpa using fun h : a = ':' => hhost (h ▸ ha)
  simp [peerIp, head?_split, String.data_append, List.takeWhile_append_of_pos hall]

theorem statusUrl_of_host (host port : String) (hhost : ':' ∉ host.data) :
    statusUrl ⟨host ++ ":" ++ port⟩ = "http://" ++ host ++ ":24101/blockchain/info" := by
  rw [statusUrl, peerIp_of_host host port hhost]

/-- The derived ip is the address up to its first `:`. -/
theorem peerIp_eq (peer : Peer) :
    peerIp peer = ⟨peer.address.data.takeWhile (· != ':')⟩ := by
  simp [peerIp, head?_split]

/-- Whatever the host, the url never depends on what follows the first `:`:
the peer's own port never reaches it. -/
theorem statusUrl_port (host port port' : String) :
    statusUrl ⟨host ++ ":" ++ port⟩ = statusUrl ⟨host ++ ":" ++ port'⟩ := by
  simp only [statusUrl, peerIp_eq, String.data_append, List.append_assoc, List.takeWhile_append]
  split <;> simp

/-! ## One request -/

/-- What `client.get(&url).send().await` gave for one request: a transport
error (a timeout included), or a response with its status code and what
`response.json::<BlockchainInfo>().await` makes of its body. -/
inductive SendResult
  | err (e : String)
  | response (status : UInt16) (json : Except String BlockchainInfo)

/-- `StatusCode::is_success`: a 2xx status. -/
def isSuccess (status : UInt16) : Bool := 200 ≤ status && status ≤ 299

/-- The outcome that ends the loop: a 2xx response whose body parses. -/
def SendResult.accepted : SendResult → Option BlockchainInfo
  | .response status (.ok info) => if isSuccess status then some info else none
  | _ => none

/-- The network as one `fetch_blockchain_info` call meets it. The client is
built from the same builder on every round of the loop, so it has one
outcome per round: `client n` is the outcome of the `n`-th round's
`Client::builder().build()`, and `send n url` that of its request. -/
structure Http where
  client : Nat → Except String Unit
  send : Nat → String → SendResult

/-- A run of `fetch_blockchain_info`: the urls it requested, in order, and
what it returned. -/
structure FetchRun where
  requests : List String
  result : Except String BlockchainInfo

/-! ## The loop -/

/-- The `for peer in &self.connected_peers` loop, from the `n`-th request on. -/
def fetchLoop (http : Http) : Nat → List Peer → FetchRun
  | _, [] => ⟨[], .error "No peers responded with blockchain info"⟩
  | n, peer :: rest =>
    match http.client n with
    | .error e => ⟨[], .error ("Failed to create HTTP client: " ++ e)⟩
    | .ok () =>
      let url := statusUrl peer
      let next := fetchLoop http (n + 1) rest
      match http.send n url with
      | .response status json =>
        if isSuccess status then
          match json with
          | .ok info => ⟨[url], .ok info⟩
          | .error _ => ⟨url :: next.requests, next.result⟩
        else ⟨url :: next.requests, next.result⟩
      | .err _ => ⟨url :: next.requests, next.result⟩

/-- `fetch_blockchain_info` on a registry. -/
def fetchBlockchainInfo (http : Http) (peers : List Peer) : FetchRun :=
  fetchLoop http 0 peers

/-- One round of the loop whose client builds: stop on an accepted response,
otherwise record the request and go on. -/
theorem fetchLoop_cons {http : Http} {n : Nat} (hclient : http.client n = .ok ()) (peer : Peer)
    (rest : List Peer) :
    fetchLoop http n (peer :: rest) =
      match (http.send n (statusUrl peer)).accepted with
      | some info => ⟨[statusUrl peer], .ok info⟩
      | none => ⟨statusUrl peer :: (fetchLoop http (n + 1) rest).requests,
          (fetchLoop http (n + 1) rest).result⟩ := by
  simp only [fetchLoop, hclient]
  cases http.send n (statusUrl peer) with
  | err e => rfl
  | response status json =>
      cases json <;> by_cases hs : isSuccess status <;> simp [SendResult.accepted, hs]

/-- No request from the `n`-th on is accepted. -/
def NoneAccepted (http : Http) (n : Nat) (peers : List Peer) : Prop :=
  ∀ (i : Nat) (hi : i < peers.length),
    (http.send (n + i) (statusUrl peers[i])).accepted = none

theorem noneAccepted_cons {http : Http} {n : Nat} {peer : Peer} {rest : List Peer} :
    NoneAccepted http n (peer :: rest) ↔
      (http.send n (statusUrl peer)).accepted = none ∧ NoneAccepted http (n + 1) rest := by
  constructor
  · intro h
    refine ⟨h 0 (by simp), fun i hi => ?_⟩
    simpa [Nat.add_right_comm n 1 i, Nat.add_assoc] using h (i + 1) (by simp [hi])
  · rintro ⟨h0, h⟩ i hi
    cases i with
    | zero => simpa using h0
    | succ i => simpa [Nat.add_right_comm n 1 i, Nat.add_assoc] using h i (by simpa using hi)

/-- **The loop stops at the first accepted response.** If peers `0 … k-1`
fail and peer `k` is accepted, exactly those `k + 1` peers are asked, in
order, and peer `k`'s status is returned. -/
theorem fetchLoop_accept {http : Http} (hclient : ∀ m, http.client m = .ok ())
    (info : BlockchainInfo) :
    ∀ (peers : List Peer) (n k : Nat) (hk : k < peers.length),
      NoneAccepted http n (peers.take k) →
      (http.send (n + k) (statusUrl peers[k])).accepted = some info →
      fetchLoop http n peers = ⟨(peers.take (k + 1)).map statusUrl, .ok info⟩ := by
  intro peers
  induction peers with
  | nil => intro n k hk; simp at hk
  | cons peer rest ih =>
      intro n k hk hnone hk_ok
      cases k with
      | zero => simp_all [fetchLoop_cons (hclient n)]
      | succ k =>
          rw [List.take_succ_cons, noneAccepted_cons] at hnone
          have hnext := ih (n + 1) k (by simpa using hk) hnone.2
            (by simpa [Nat.add_right_comm n 1 k, Nat.add_assoc] using hk_ok)
          simp [fetchLoop_cons (hclient n), hnone.1, hnext]

/-- **No failure ends the loop early.** If no response is accepted, every peer
is asked exactly once, in order, and the loop reports that none answered. -/
theorem fetchLoop_exhausted {http : Http} (hclient : ∀ m, http.client m = .ok ()) :
    ∀ (peers : List Peer) (n : Nat), NoneAccepted http n peers →
      fetchLoop http n peers =
        ⟨peers.map statusUrl, .error "No peers responded with blockchain info"⟩ := by
  intro peers
  induction peers with
  | nil => intro n _; rfl
  | cons peer rest ih =>
      intro n hnone
      rw [noneAccepted_cons] at hnone
      simp [fetchLoop_cons (hclient n), hnone.1, ih (n + 1) hnone.2]

/-- **Requests follow the registry.** Whatever the network does, a client
failing to build in any round included, a call asks a prefix of the registry,
in order, one request per peer. -/
theorem fetchLoop_requests (http : Http) :
    ∀ (peers : List Peer) (n : Nat),
      ∃ k ≤ peers.length, (fetchLoop http n peers).requests = (peers.take k).map statusUrl := by
  intro peers
  induction peers with
  | nil => exact fun _ => ⟨0, le_refl 0, rfl⟩
  | cons peer rest ih =>
      intro n
      cases hclient : http.client n with
      | error e => exact ⟨0, Nat.zero_le _, by simp [fetchLoop, hclient]⟩
      | ok u =>
          rw [fetchLoop_cons hclient]
          cases (http.send n (statusUrl peer)).accepted with
          | some info => exact ⟨1, by simp, by simp⟩
          | none =>
              obtain ⟨k, hk, hreq⟩ := ih (n + 1)
              exact ⟨k + 1, by simpa using hk, by simp [hreq]⟩

/-- Whatever each round's client build does, a call in which no response is
accepted fails. -/
theorem fetchLoop_error {http : Http} :
    ∀ {n : Nat} {peers : List Peer}, NoneAccepted http n peers →
      ∃ e, (fetchLoop http n peers).result = .error e := by
  intro n peers
  induction peers generalizing n with
  | nil => exact fun _ => ⟨_, rfl⟩
  | cons peer rest ih =>
      intro hnone
      rw [noneAccepted_cons] at hnone
      cases hclient : http.client n with
      | error e => exact ⟨"Failed to create HTTP client: " ++ e, by simp [fetchLoop, hclient]⟩
      | ok u => simpa [fetchLoop_cons hclient, hnone.1] using ih hnone.2

/-- **A client that fails to build ends the whole call.** Unlike every
per-peer failure, a failed `Client::builder().build()` in round `k` returns
`"Failed to create HTTP client: …"` at once, after exactly the requests of the
earlier rounds, though a later peer might have answered. -/
theorem fetchLoop_client_error {http : Http} {e : String} :
    ∀ (peers : List Peer) (n k : Nat), k < peers.length →
      (∀ i < k, http.client (n + i) = .ok ()) → NoneAccepted http n (peers.take k) →
      http.client (n + k) = .error e →
      fetchLoop http n peers =
        ⟨(peers.take k).map statusUrl, .error ("Failed to create HTTP client: " ++ e)⟩ := by
  intro peers
  induction peers with
  | nil => intro n k hk; simp at hk
  | cons peer rest ih =>
      intro n k hk hclient hnone hfail
      cases k with
      | zero => simp [fetchLoop, show http.client n = .error e from hfail]
      | succ k =>
          rw [List.take_succ_cons, noneAccepted_cons] at hnone
          have hnext := ih (n + 1) k (Nat.lt_of_succ_lt_succ hk)
            (fun i hi => by
              rw [Nat.add_right_comm, Nat.add_assoc]; exact hclient (i + 1) (by omega))
            hnone.2 (by rw [Nat.add_right_comm, Nat.add_assoc]; exact hfail)
          simp [fetchLoop_cons (by simpa using hclient 0 (Nat.succ_pos k)), hnone.1, hnext]

theorem fetchLoop_client_error_second_round :
    let http : Http := ⟨fun n => if n = 1 then .error "no TLS backend" else .ok (),
      fun n _ => if n = 0 then .err "operation timed out" else .response 200 (.ok ⟨1000⟩)⟩
    let peers : List Peer := [⟨"10.0.0.1:24100"⟩, ⟨"10.0.0.2:24100"⟩, ⟨"10.0.0.3:24100"⟩]
    1 < peers.length ∧ (∀ i < 1, http.client (0 + i) = .ok ()) ∧
      NoneAccepted http 0 (peers.take 1) ∧ http.client (0 + 1) = .error "no TLS backend" ∧
      fetchLoop http 0 peers = ⟨["http://10.0.0.1:24101/blockchain/info"],
        .error ("Failed to create HTTP client: " ++ "no TLS backend")⟩ :=
  have hclient : ∀ i < 1, (if 0 + i = 1 then Except.error "no TLS backend" else .ok ()) =
      (.ok () : Except String Unit) := fun i hi => by simp at hi; subst hi; rfl
  have hnone : NoneAccepted ⟨fun n => if n = 1 then .error "no TLS backend" else .ok (),
      fun n _ => if n = 0 then .err "operation timed out" else .response 200 (.ok ⟨1000⟩)⟩ 0
      ([⟨"10.0.0.1:24100"⟩, ⟨"10.0.0.2:24100"⟩, ⟨"10.0.0.3:24100"⟩].take 1) :=
    fun i hi => by simp at hi; subst hi; rfl
  ⟨by decide, hclient, hnone, rfl, fetchLoop_client_error _ 0 1 (by decide) hclient hnone rfl⟩

/-- **`fetch_blockchain_info` is "first success wins".** Given a client: if
peer `k` is the first whose response is accepted, the call asks peers
`0 … k` in registry order, one request each, and returns peer `k`'s status;
if no peer is accepted, it asks every peer exactly once (none at all on an
empty registry) and fails with `"No peers responded with blockchain info"`. -/
theorem fetchBlockchainInfo_first_success (http : Http) (peers : List Peer)
    (hclient : ∀ n, http.client n = .ok ()) :
    (∀ (k : Nat) (hk : k < peers.length) (info : BlockchainInfo),
      (∀ (i : Nat) (hi : i < k), (http.send i (statusUrl peers[i])).accepted = none) →
      (http.send k (statusUrl peers[k])).accepted = some info →
      fetchBlockchainInfo http peers = ⟨(peers.take (k + 1)).map statusUrl, .ok info⟩) ∧
    ((∀ (i : Nat) (hi : i < peers.length), (http.send i (statusUrl peers[i])).accepted = none) →
      fetchBlockchainInfo http peers =
        ⟨peers.map statusUrl, .error "No peers responded with blockchain info"⟩) := by
  constructor
  · intro k hk info hbefore hat
    refine fetchLoop_accept hclient info peers 0 k hk (fun i hi => ?_) (by simpa using hat)
    have hik : i < k := by simp at hi; omega
    simpa [List.getElem_take] using hbefore i hik
  · intro hnone
    exact fetchLoop_exhausted hclient peers 0 (fun i hi => by simpa using hnone i hi)

/-- The spec's example: of `[A, B, C]`, `A` times out and `B` answers height
`1000`, so `C` is never asked. -/
theorem fetchBlockchainInfo_second_answers :
    let http : Http := ⟨fun _ => .ok (), fun n _ =>
      if n = 1 then .response 200 (.ok ⟨1000⟩) else .err "operation timed out"⟩
    let peers : List Peer := [⟨"10.0.0.1:24100"⟩, ⟨"10.0.0.2:24100"⟩, ⟨"10.0.0.3:24100"⟩]
    (∀ n, http.client n = .ok ()) ∧
      fetchBlockchainInfo http peers =
        ⟨["http://10.0.0.1:24101/blockchain/info", "http://10.0.0.2:24101/blockchain/info"],
          .ok ⟨1000⟩⟩ :=
  ⟨fun _ => rfl, (fetchBlockchainInfo_first_success _ _ fun _ => rfl).1 1 (by decide) ⟨1000⟩
    (by decide) (by decide)⟩

/-- A bracketed IPv6 host loses everything after its first `:`: the url
names the host `[2001`. -/
theorem statusUrl_ipv6 :
    statusUrl ⟨"[2001:db8::1]:24100"⟩ = "http://[2001:24101/blockchain/info" := by
  decide

end TimeCoinWallet.Network.Fetch
