import Knights.Gateway.UdpBind
import Knights.Net.Resilience

namespace Knights.Gateway

open Knights.Lib Knights.Protocol Knights.Net Finmap

/-!
# Gateway — admission of client connections

A new connection is admitted if the gateway is ready, the breaker of the backends is closed, the
session table is not full and there is a token (`admit_ingress_connection`).  It is entered into
the table only later, when its login is complete (`create_backend_connection`), and leaves it when
it is disconnected.

* `Ingress.machine` — accepts, logins and disconnects of any number of clients, in any order;
* `Ingress.session_limit` — if connections that wait for their login are counted at admission, the
  table never holds more sessions than it should;
* `Ingress.limit_exceeded` — they are not counted, and two clients that connect before either has
  logged in both get in.
-/

/-- The answers to a new connection. -/
inductive IngressAdmission where
  | kAccept
  | kRejectNotReady
  | kRejectRateLimited
  | kRejectSessionLimit
  | kRejectCircuitOpen
  deriving DecidableEq, Repr

/-- What the gateway's host says of its state. -/
structure HostState where
  ready : Bool := true
  healthy : Bool := true
  stopRequested : Bool := false
  deriving DecidableEq, Repr

/-- The settings of admission. -/
structure IngressConfig where
  bind : BindConfig
  ingressMaxActiveSessions : ℕ := 50000

/-- The gateway, as far as admission goes: the session table, the limiters, and the client
    connections that wait for their login or have a session. -/
structure Ingress where
  table : UdpGateway := {}
  ingressTokenBucket : TokenBucket := {}
  backendCircuitBreaker : CircuitBreaker := {}
  waiting : Finset ℕ := ∅
  bridging : FMap ℕ Bytes := ∅

namespace Ingress

/-- What can happen. -/
inductive Input where
  /-- `on_connect` of connection `n`. -/
  | accept (n : ℕ) (host : HostState) (now : UInt64)
  /-- The login of connection `n` is complete.  `backend` says whether `select_best_server` finds
      one; `nonce` and `wallNow` are for the bind ticket. -/
  | login (n : ℕ) (client : Bytes) (backend : Bool) (now nonce wallNow : UInt64)
  /-- `on_disconnect` of connection `n`. -/
  | disconnect (n : ℕ)
  /-- A backend connection could not be made. -/
  | connectFailure (now : UInt64)
  /-- A backend connection was made. -/
  | connectSuccess
  deriving DecidableEq, Repr

section

variable (g : Ingress) (cfg : IngressConfig)

/-- The number of sessions. -/
def sessionCount : ℕ := g.table.sessions.keys.card

/-- `admit_ingress_connection`. -/
def admitIngressConnection (host : HostState) (now : UInt64) : Ingress × IngressAdmission :=
  if !host.ready || !host.healthy || host.stopRequested then (g, .kRejectNotReady)
  else
    let circuit := g.backendCircuitBreaker.isOpen now
    let g := { g with backendCircuitBreaker := circuit.1 }
    if circuit.2 then (g, .kRejectCircuitOpen)
    else if 0 < cfg.ingressMaxActiveSessions ∧ cfg.ingressMaxActiveSessions ≤ g.sessionCount then
      (g, .kRejectSessionLimit)
    else
      let token := g.ingressTokenBucket.consume now
      let g := { g with ingressTokenBucket := token.1 }
      if token.2 then (g, .kAccept) else (g, .kRejectRateLimited)

/-- `on_connect`: a connection that is not admitted is stopped. -/
def onConnect (n : ℕ) (host : HostState) (now : UInt64) : Ingress × IngressAdmission :=
  let r := g.admitIngressConnection cfg host now
  if r.2 = .kAccept then ({ r.1 with waiting := insert n r.1.waiting }, .kAccept) else r

/-- The end of the handshake: `create_backend_connection`, then the bind ticket.  A connection that
    gets no backend is stopped. -/
def login (n : ℕ) (client : Bytes) (backend : Bool) (now nonce wallNow : UInt64) : Ingress :=
  let circuit := g.backendCircuitBreaker.allow now
  let g := { g with backendCircuitBreaker := circuit.1, waiting := g.waiting.erase n }
  if circuit.2 && backend then
    let sessionId := g.table.nextSessionId cfg.bind
    let table := (g.table.opening cfg.bind client).1
    { g with
      table := (table.issueTicket cfg.bind sessionId nonce wallNow).1
      bridging := g.bridging.insert n sessionId }
  else g

/-- `on_disconnect`: the session goes with its connection. -/
def onDisconnect (n : ℕ) : Ingress :=
  match g.bridging.lookup n with
  | some sessionId =>
    { g with table := g.table.close sessionId, bridging := g.bridging.erase n }
  | none => { g with waiting := g.waiting.erase n }

/-- One step.  A connection is accepted once, and only a connection that waits can log in. -/
def step (g : Ingress) : Input → Ingress × Option IngressAdmission
  | .accept n host now =>
    if n ∈ g.waiting ∨ n ∈ g.bridging then (g, none)
    else
      let r := g.onConnect cfg n host now
      (r.1, some r.2)
  | .login n client backend now nonce wallNow =>
    if n ∈ g.waiting then (g.login cfg n client backend now nonce wallNow, none) else (g, none)
  | .disconnect n => (g.onDisconnect n, none)
  | .connectFailure now =>
    ({ g with backendCircuitBreaker := (g.backendCircuitBreaker.recordFailure now).1 }, none)
  | .connectSuccess =>
    ({ g with backendCircuitBreaker := g.backendCircuitBreaker.recordSuccess }, none)

/-- The gateway as a machine. -/
def machine : Machine Ingress Input (Option IngressAdmission) where
  step := step cfg

end

/-! ### The size of the table -/

/-- A ticket enters no session. -/
theorem keys_issueTicket (s : UdpGateway) (cfg : BindConfig) (sessionId : Bytes)
    (nonce now : UInt64) : (s.issueTicket cfg sessionId nonce now).1.sessions.keys =
      s.sessions.keys := by
  unfold UdpGateway.issueTicket
  split
  case h_1 st token hst htoken =>
    have hmem : sessionId ∈ s.sessions.keys := mem_keys.mpr (mem_iff.mpr ⟨st, hst⟩)
    rw [keys_insert]
    exact Finset.insert_eq_of_mem hmem
  case h_2 => rfl

variable {cfg : IngressConfig} {g : Ingress} {n : ℕ}

/-- A login turns a waiting connection into one session at most. -/
theorem count_login (hn : n ∈ g.waiting) (client : Bytes) (backend : Bool)
    (now nonce wallNow : UInt64) :
    (g.login cfg n client backend now nonce wallNow).sessionCount +
        (g.login cfg n client backend now nonce wallNow).waiting.card ≤
      g.sessionCount + g.waiting.card := by
  have hleft : (g.waiting.erase n).card + 1 = g.waiting.card := Finset.card_erase_add_one hn
  unfold login sessionCount
  dsimp only
  split_ifs
  · dsimp only
    rw [keys_issueTicket]
    have hopened : (g.table.opening cfg.bind client).1.sessions.keys.card ≤
        g.table.sessions.keys.card + 1 := by
      show (g.table.sessions.insert _ _).keys.card ≤ _
      rw [keys_insert]
      apply Finset.card_insert_le
    omega
  · dsimp only
    omega

/-- A disconnect takes its session or its waiting place away. -/
theorem count_onDisconnect : (g.onDisconnect n).sessionCount + (g.onDisconnect n).waiting.card ≤
      g.sessionCount + g.waiting.card := by
  unfold onDisconnect
  cases hsid : g.bridging.lookup n with
  | some sessionId =>
    have herased : (g.table.sessions.erase sessionId).keys.card ≤ g.table.sessions.keys.card := by
      rw [keys_erase]
      exact Finset.card_erase_le
    exact Nat.add_le_add_right herased _
  | none => exact Nat.add_le_add_left Finset.card_erase_le _

/-- Admission itself touches only the limiters. -/
theorem admit_same (host : HostState) (now : UInt64) :
    (g.admitIngressConnection cfg host now).1.table = g.table ∧
      (g.admitIngressConnection cfg host now).1.waiting = g.waiting := by
  unfold admitIngressConnection
  dsimp only
  split_ifs <;> exact ⟨rfl, rfl⟩

/-! ### The limit -/

/-- **The condition.** A connection is admitted only while the sessions and the connections that
    wait for their login are together fewer than the limit. -/
def Reserved (cfg : IngressConfig) (g : Ingress) (i : Input) : Prop :=
  (g.step cfg i).2 = some .kAccept → g.sessionCount + g.waiting.card < cfg.ingressMaxActiveSessions

instance (cfg : IngressConfig) (g : Ingress) (i : Input) : Decidable (Reserved cfg g i) :=
  inferInstanceAs (Decidable (_ → _))

/-- **One step** keeps a place free for every connection that waits. -/
theorem reserved_step
    (h : g.sessionCount + g.waiting.card ≤ cfg.ingressMaxActiveSessions) {i : Input}
    (hreserved : Reserved cfg g i) :
    (g.step cfg i).1.sessionCount + (g.step cfg i).1.waiting.card ≤
      cfg.ingressMaxActiveSessions := by
  cases i with
  | accept n host now =>
    unfold Reserved at hreserved
    unfold step onConnect at hreserved ⊢
    dsimp only at hreserved ⊢
    obtain ⟨htable, hwaiting⟩ := admit_same host now
    split_ifs at hreserved ⊢ with hknown haccept
    · exact h
    · -- Admitted: by the condition there is a place for it.
      have hroom := hreserved rfl
      have hinsert := Finset.card_insert_le n g.waiting
      dsimp only [sessionCount] at hroom ⊢
      rw [htable, hwaiting]
      omega
    · dsimp only [sessionCount] at h ⊢
      rw [htable, hwaiting]
      exact h
  | login n client backend now nonce wallNow =>
    unfold step
    dsimp only
    split_ifs with hn
    · exact (count_login hn client backend now nonce wallNow).trans h
    · exact h
  | disconnect n => exact count_onDisconnect.trans h
  | connectFailure | connectSuccess => exact h

/-- A gateway without clients. -/
def idle (bucket : TokenBucket) (breaker : CircuitBreaker) : Ingress where
  ingressTokenBucket := bucket
  backendCircuitBreaker := breaker

/-- **The session limit.** In every run in which connections are admitted only while sessions and
    waiting connections together are fewer than the limit, the number of sessions never exceeds
    the limit. -/
theorem session_limit (cfg : IngressConfig) (bucket : TokenBucket) (breaker : CircuitBreaker)
    {is : List Input} (h : (machine cfg).Guarded (Reserved cfg) (idle bucket breaker) is) :
    ∀ pre, pre <+: is → ((machine cfg).run (idle bucket breaker) pre).sessionCount ≤
        cfg.ingressMaxActiveSessions := by
  rintro pre ⟨post, rfl⟩
  have hpre := ((machine cfg).guarded_append _ _ pre post |>.mp h).1
  have hsum := (machine cfg).guarded_invariant
    (fun g => g.sessionCount + g.waiting.card ≤ cfg.ingressMaxActiveSessions) (Reserved cfg)
    (fun g i hg hi => reserved_step hg hi) (Nat.zero_le _) hpre
  exact (Nat.le_add_right _ _).trans hsum

/-- A gateway for one session. -/
def singleConfig : IngressConfig where
  bind :=
    { gatewayId := [0x67]
      bootId := [0x62]
      udpListenPort := 7000
      udpBindSecret := [0x6B]
      hmac := fun _ _ => [0x61]
      sessionSelected := fun _ _ => false }
  ingressMaxActiveSessions := 1

/-- A gateway without clients, with the default limiters. -/
def idleDefault : Ingress := idle (.configure 200 400) (.configure true 5 10000)

/-- Two clients, one after the other; the second is turned away until the first has left. -/
def oneByOne : List Input :=
  [.accept 0 {} 1000, .login 0 [1] true 1001 5 1001, .accept 1 {} 1002, .disconnect 0,
    .accept 1 {} 1003, .login 1 [2] true 1004 6 1004]

theorem session_limit_oneByOne :
    (machine singleConfig).Guarded (Reserved singleConfig) idleDefault oneByOne ∧
      ((machine singleConfig).run idleDefault oneByOne).sessionCount ≤ 1 := by
  have hguarded : (machine singleConfig).Guarded (Reserved singleConfig) idleDefault oneByOne := by
    decide +kernel
  exact ⟨hguarded, session_limit singleConfig _ _ hguarded oneByOne (List.prefix_refl _)⟩

/-- **The limit is exceeded.** Both clients connect before either has logged in: the table is empty
    at both admissions, and the logins are not counted against it. -/
theorem limit_exceeded : ((machine singleConfig).run idleDefault
      [.accept 0 {} 1000, .accept 1 {} 1000, .login 0 [1] true 1001 5 1001,
        .login 1 [2] true 1001 6 1001]).sessionCount = 2 := by
  decide +kernel

end Ingress

end Knights.Gateway
