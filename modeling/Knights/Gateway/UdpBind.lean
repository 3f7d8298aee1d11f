import Knights.Lib.Assoc
import Knights.Gateway.UdpIngress

namespace Knights.Gateway

open Knights.Lib Knights.Protocol Knights.Rudp Finmap

/-!
# Gateway — tickets, bind requests and the session table

A session gets a ticket over TCP (`make_udp_bind_ticket_frame`): a random nonce, an expiry time and
a token that signs them.  A client that presents the ticket in a datagram binds the session to the
endpoint the datagram came from (`apply_udp_bind_request`); datagrams from that endpoint then belong
to the session (`do_udp_receive`).  Two limiters stand in front: every failed request makes the
session refuse requests for a while, and an endpoint with too many failures is blocked
(`UdpBindAbuseGuard`).  All of it is in `gateway/src/gateway_app.cpp`.

The HMAC and the rollout policy's choice of sessions are parameters.  An input brings what the code
reads from outside: the nonce, each reading of the clock, and the order in which a loop over the
hash table meets the sessions.

* `UdpGateway.machine` — the session table with everything that can happen to it;
* `Touched` — what one input can do to one session, said once for all results below it.
-/

/-! ### Endpoints and the abuse guard -/

/-- A UDP endpoint; addresses are identified by their text. -/
structure Endpoint where
  address : String := ""
  port : UInt16 := 0
  deriving DecidableEq, Repr

/-- The key of an endpoint in the guard. -/
def endpointKey (e : Endpoint) : String := e.address ++ ":" ++ e.port.toNat.repr

namespace UdpBindAbuseGuard

/-- What the guard remembers of an endpoint. -/
structure Entry where
  windowStartedMs : UInt64 := 0
  failuresInWindow : UInt32 := 0
  blockedUntilMs : UInt64 := 0
  deriving DecidableEq, Repr

/-- The settings of the guard. -/
structure Config where
  failWindowMs : UInt32 := 10000
  failLimit : UInt32 := 5
  blockMs : UInt32 := 60000
  deriving DecidableEq, Repr

/-- Whether the endpoint is blocked; a block that is over is cleared. -/
def Entry.blockState (entry : Entry) (now : UInt64) : Entry × Bool :=
  if entry.blockedUntilMs ≤ now then ({ entry with blockedUntilMs := 0 }, false) else (entry, true)

/-- Count a failure. -/
def Entry.recordFailure (entry : Entry) (cfg : Config) (now : UInt64) : Entry :=
  if entry.blockedUntilMs > now then entry
  else
    let entry :=
      if entry.windowStartedMs = 0 || now < entry.windowStartedMs ||
          now - entry.windowStartedMs > cfg.failWindowMs.toUInt64 then
        { entry with windowStartedMs := now, failuresInWindow := 0 }
      else entry
    let entry := { entry with failuresInWindow := entry.failuresInWindow + 1 }
    if entry.failuresInWindow < cfg.failLimit then entry
    else
      { windowStartedMs := 0, failuresInWindow := 0, blockedUntilMs := now + cfg.blockMs.toUInt64 }

/-- Forget the failures. -/
def Entry.recordSuccess (entry : Entry) : Entry :=
  { entry with windowStartedMs := 0, failuresInWindow := 0 }

end UdpBindAbuseGuard

/-- The guard: an entry for each endpoint that it has seen fail. -/
abbrev UdpBindAbuseGuard := FMap String UdpBindAbuseGuard.Entry

namespace UdpBindAbuseGuard

/-- The guard is asked about an endpoint. -/
def blockState (guard : UdpBindAbuseGuard) (key : String) (now : UInt64) :
    UdpBindAbuseGuard × Bool :=
  match guard.lookup key with
  | none => (guard, false)
  | some entry => (guard.insert key (entry.blockState now).1, (entry.blockState now).2)

/-- A bind request of the endpoint failed. -/
def recordFailure (guard : UdpBindAbuseGuard) (cfg : Config) (key : String) (now : UInt64) :
    UdpBindAbuseGuard :=
  guard.insert key (((guard.lookup key).getD {}).recordFailure cfg now)

/-- A bind request of the endpoint succeeded. -/
def recordSuccess (guard : UdpBindAbuseGuard) (key : String) : UdpBindAbuseGuard :=
  match guard.lookup key with
  | none => guard
  | some entry => guard.insert key entry.recordSuccess

end UdpBindAbuseGuard

/-! ### Tickets and requests -/

/-- The payload is not what it should be. -/
def INVALID_PAYLOAD : UInt16 := 0x0007

/-- Try again later. -/
def SERVER_BUSY : UInt16 := 0x0008

/-- A ticket, and what a bind request repeats of it. -/
structure UdpBindTicket where
  sessionId : Bytes := []
  nonce : UInt64 := 0
  expiresUnixMs : UInt64 := 0
  token : Bytes := []
  deriving DecidableEq, Repr

/-- The settings of UDP binding, with the parameters: `hmac` is the hex form of HMAC-SHA256 of
    secret and message, `sessionSelected` the rollout policy's choice. -/
structure BindConfig where
  udp : UdpConfig := {}
  guard : UdpBindAbuseGuard.Config := {}
  gatewayId : Bytes
  bootId : Bytes
  udpListenPort : UInt16
  udpBindSecret : Bytes
  udpBindTtlMs : UInt32 := 5000
  udpBindRetryBackoffMs : UInt32 := 200
  udpBindRetryBackoffMaxMs : UInt32 := 2000
  udpBindRetryMaxAttempts : UInt32 := 6
  hmac : Bytes → Bytes → Bytes
  sessionSelected : Bytes → UInt64 → Bool

/-- A number as `std::to_string` writes it. -/
def decimal (n : ℕ) : Bytes := (Nat.toDigits 10 n).map fun c => c.toNat.toUInt8

/-- What the token signs; the parts are separated by `|`. -/
def makeBindSigningInput (sessionId : Bytes) (nonce expiresUnixMs : UInt64) : Bytes :=
  sessionId ++ 0x7C :: decimal nonce.toNat ++ 0x7C :: decimal expiresUnixMs.toNat

/-- The 64-bit word at the front, and what follows it. -/
def readBe64 (input : Bytes) : Option (UInt64 × Bytes) :=
  if input.length < 8 then none
  else
    some (((readBe32 input 0).toUInt64 <<< 32) ||| (readBe32 input 4).toUInt64, input.drop 8)

/-- Read a bind request; nothing may follow it. -/
def parseUdpBindReq (payload : Bytes) : Option UdpBindTicket := do
  let (sessionId, input) ← readLpUtf8 payload
  let (nonce, input) ← readBe64 input
  let (expiresUnixMs, input) ← readBe64 input
  let (token, input) ← readLpUtf8 input
  if input.isEmpty then some ⟨sessionId, nonce, expiresUnixMs, token⟩ else none

namespace BindConfig

/-- The token of a ticket. -/
def makeUdpBindToken (cfg : BindConfig) (sessionId : Bytes) (nonce expiresUnixMs : UInt64) :
    Bytes :=
  if cfg.udpBindSecret = [] then []
  else cfg.hmac cfg.udpBindSecret (makeBindSigningInput sessionId nonce expiresUnixMs)

/-- How long a session refuses bind requests after its `attempt`-th failure. -/
def udpBindRetryDelayMs (cfg : BindConfig) (attempt : UInt32) : UInt32 :=
  let cappedAttempt := min attempt 8
  let factor : UInt64 := 1 <<< (if cappedAttempt = 0 then 0 else cappedAttempt - 1).toUInt64
  let baseDelay := cfg.udpBindRetryBackoffMs.toUInt64 * factor
  (min baseDelay cfg.udpBindRetryBackoffMaxMs.toUInt64).toUInt32

end BindConfig

/-! ### One session -/

/-- The part of a session that bind requests are checked against. -/
structure BindState where
  udpEndpoint : Endpoint := {}
  udpNonce : UInt64 := 0
  udpExpiresUnixMs : UInt64 := 0
  udpTicketIssuedUnixMs : UInt64 := 0
  udpBindFailAttempts : UInt32 := 0
  udpBindRetryAfterUnixMs : UInt64 := 0
  udpToken : Bytes := []
  deriving DecidableEq, Repr

/-- A session of the table. -/
structure SessionState where
  clientId : Bytes
  bind : BindState := {}
  udp : UdpSession := {}
  deriving DecidableEq, Repr

namespace SessionState

variable (st : SessionState) (cfg : BindConfig)

/-- The session is bound to the endpoint. -/
def BoundTo (e : Endpoint) : Prop :=
  st.udp.udpBound = true ∧ st.bind.udpEndpoint = e

instance (st : SessionState) (e : Endpoint) : Decidable (st.BoundTo e) :=
  inferInstanceAs (Decidable (_ ∧ _))

/-- A ticket is issued: everything that a bind request set is reset. -/
def issue (sessionId : Bytes) (nonce now : UInt64) (token : Bytes) : SessionState :=
  let rudpSelected :=
    cfg.sessionSelected sessionId nonce && !cfg.udp.rudpRolloutPolicy.opcodeAllowlist.isEmpty
  { st with
    bind :=
      { udpEndpoint := {}
        udpNonce := nonce
        udpExpiresUnixMs := now + cfg.udpBindTtlMs.toUInt64
        udpTicketIssuedUnixMs := now
        udpBindFailAttempts := 0
        udpBindRetryAfterUnixMs := 0
        udpToken := token }
    udp :=
      { udpBound := false
        udpSequencedMetrics := {}
        rudpSelected := rudpSelected
        rudpFallbackToTcp := false
        rudpEngine := if rudpSelected then some { config := cfg.udp.rudpConfig } else none } }

/-- A failed request: the session refuses further ones for a while. -/
def applyRetryBackoff (now : UInt64) : SessionState :=
  let nextAttempt := min (st.bind.udpBindFailAttempts + 1) cfg.udpBindRetryMaxAttempts
  { st with
    bind := { st.bind with
      udpBindFailAttempts := nextAttempt
      udpBindRetryAfterUnixMs := now + (cfg.udpBindRetryDelayMs nextAttempt).toUInt64 } }

/-- The session is bound. -/
def accept (e : Endpoint) : SessionState :=
  { st with
    bind := { st.bind with
      udpEndpoint := e
      udpBindFailAttempts := 0
      udpBindRetryAfterUnixMs := 0 }
    udp := st.udp.bind cfg.udp }

/-- The checks of a bind request behind the retry backoff, in order; what refuses it. -/
def refusal (req : UdpBindTicket) (e : Endpoint) (now : UInt64) : Option (UInt16 × String) :=
  if st.bind.udpExpiresUnixMs = 0 || st.bind.udpNonce = 0 || st.bind.udpToken = [] then
    some (UNAUTHORIZED, "bind ticket not issued")
  else if req.expiresUnixMs < now then some (UNAUTHORIZED, "ticket expired")
  else if st.bind.udpExpiresUnixMs < now then some (UNAUTHORIZED, "ticket expired")
  else if req.expiresUnixMs ≠ st.bind.udpExpiresUnixMs || req.nonce ≠ st.bind.udpNonce then
    some (UNAUTHORIZED, "ticket mismatch")
  else if req.token ≠ st.bind.udpToken ||
      req.token ≠ cfg.makeUdpBindToken req.sessionId req.nonce req.expiresUnixMs then
    some (UNAUTHORIZED, "invalid token")
  else if st.udp.udpBound && st.bind.udpEndpoint ≠ e then
    some (FORBIDDEN, "session already bound")
  else none

/-- A bind request that names the session. -/
def applyBind (req : UdpBindTicket) (e : Endpoint)
    (now : UInt64) : SessionState × UInt16 × String :=
  if st.bind.udpBindRetryAfterUnixMs > now then (st, SERVER_BUSY, "bind retry backoff")
  else
    match st.refusal cfg req e now with
    | some (code, message) => (st.applyRetryBackoff cfg now, code, message)
    | none => (st.accept cfg e, 0, "bound")

end SessionState

/-! ### The table -/

/-- The sessions, the guard and the counter that names sessions. -/
structure UdpGateway where
  sessions : FMap Bytes SessionState := ∅
  guard : UdpBindAbuseGuard := ∅
  counter : UInt64 := 0

/-- A bind response. -/
structure UdpBindRes where
  code : UInt16
  sessionId : Bytes := []
  nonce : UInt64 := 0
  expiresUnixMs : UInt64 := 0
  token : Bytes := []
  message : String
  seq : UInt32 := 0
  deriving DecidableEq, Repr

/-- What an input makes the gateway do. -/
structure UdpOut where
  /-- The id of a session that was created. -/
  opened : Option Bytes := none
  /-- The ticket that was issued. -/
  ticket : Option UdpBindTicket := none
  /-- The session that a datagram was taken for. -/
  session : Option Bytes := none
  /-- Frames handed to the backend connection of that session. -/
  forwarded : List Bytes := []
  /-- Datagrams of the RUDP engine. -/
  egress : List Datagram := []
  /-- The response that is sent back. -/
  reply : Option UdpBindRes := none
  deriving DecidableEq, Repr

namespace UdpGateway

/-- What can happen. -/
inductive Input where
  /-- `create_backend_connection` adds a session for a client. -/
  | opening (client : Bytes)
  /-- `make_udp_bind_ticket_frame`, with the nonce it draws. -/
  | ticket (sessionId : Bytes) (nonce now : UInt64)
  /-- `close_backend_connection`. -/
  | close (sessionId : Bytes)
  /-- `do_udp_receive` takes a datagram.  A bind request reads the clock twice: for the guard, and
      in `apply_udp_bind_request`.  `order` is how a loop over the table meets the sessions. -/
  | datagram (e : Endpoint) (d : Datagram) (now bindNow : UInt64) (order : List Bytes)
  deriving DecidableEq, Repr

variable (s : UdpGateway) (cfg : BindConfig)

/-- The id of the next session: gateway, boot and count, separated by `-`. -/
def nextSessionId : Bytes :=
  cfg.gatewayId ++ 0x2D :: cfg.bootId ++ 0x2D :: decimal (s.counter + 1).toNat

/-- A session is created. -/
def opening (client : Bytes) : UdpGateway × UdpOut :=
  let sessionId := s.nextSessionId cfg
  ({ s with
      counter := s.counter + 1
      sessions := s.sessions.insert sessionId { clientId := client } },
    { opened := some sessionId })

/-- The token that a ticket would get; `none` if no ticket is issued. -/
def tokenFor (sessionId : Bytes) (nonce now : UInt64) : Option Bytes :=
  if cfg.udpListenPort = 0 || cfg.udpBindSecret = [] then none
  else
    let token := cfg.makeUdpBindToken sessionId nonce (now + cfg.udpBindTtlMs.toUInt64)
    if token = [] then none else some token

/-- A ticket is issued, and a response with code 0 goes to the client. -/
def issueTicket (sessionId : Bytes) (nonce now : UInt64) : UdpGateway × UdpOut :=
  match s.sessions.lookup sessionId, tokenFor cfg sessionId nonce now with
  | some st, some token =>
    let ticket : UdpBindTicket := ⟨sessionId, nonce, now + cfg.udpBindTtlMs.toUInt64, token⟩
    ({ s with sessions := s.sessions.insert sessionId (st.issue cfg sessionId nonce now token) },
      { ticket := some ticket
        reply := some { code := 0, sessionId := sessionId, nonce := nonce,
                        expiresUnixMs := ticket.expiresUnixMs, token := token,
                        message := "issued" } })
  | _, _ => (s, {})

/-- A session is closed. -/
def close (sessionId : Bytes) : UdpGateway :=
  { s with sessions := s.sessions.erase sessionId }

/-- The session of an endpoint: the first one in the loop that is bound to it. -/
def route (e : Endpoint) (order : List Bytes) : Option Bytes :=
  order.find? fun sessionId =>
    match s.sessions.lookup sessionId with
    | some st => st.BoundTo e
    | none => false

/-- `apply_udp_bind_request`. -/
def applyUdpBindRequest (req : UdpBindTicket) (e : Endpoint)
    (now : UInt64) : UdpGateway × UInt16 × String :=
  if req.sessionId = [] || req.token = [] then (s, INVALID_PAYLOAD, "invalid bind payload")
  else
    match s.sessions.lookup req.sessionId with
    | none => (s, UNAUTHORIZED, "unknown session")
    | some st =>
      let r := st.applyBind cfg req e now
      ({ s with sessions := s.sessions.insert req.sessionId r.1 }, r.2.1, r.2.2)

/-- The payload of a datagram behind its header. -/
def bindPayload (d : Datagram) : Bytes := d.drop kHeaderBytes

/-- The endpoint's entry after a request was answered. -/
def settle (e : Endpoint) (now : UInt64) (code : UInt16) : UdpGateway :=
  { s with
    guard :=
      if code = 0 then s.guard.recordSuccess (endpointKey e)
      else s.guard.recordFailure cfg.guard (endpointKey e) now }

/-- The branch of `do_udp_receive` for bind requests. -/
def receiveBind (e : Endpoint) (d : Datagram) (now bindNow : UInt64) : UdpGateway × UdpOut :=
  let seq := (Protocol.decodeHeader d).seq
  let blocked := s.guard.blockState (endpointKey e) now
  let s := { s with guard := blocked.1 }
  if blocked.2 then
    (s, { reply := some
            { code := SERVER_BUSY, message := "bind temporarily blocked", seq := seq } })
  else
    match parseUdpBindReq (bindPayload d) with
    | none =>
      (s.settle cfg e now INVALID_PAYLOAD,
        { reply := some
            { code := INVALID_PAYLOAD, message := "invalid bind payload", seq := seq } })
    | some req =>
      let r := s.applyUdpBindRequest cfg req e bindNow
      (r.1.settle cfg e now r.2.1,
        { reply := some { code := r.2.1, sessionId := req.sessionId, nonce := req.nonce,
                          expiresUnixMs := req.expiresUnixMs, token := req.token,
                          message := r.2.2, seq := seq } })

/-- A datagram that is a bind request. -/
def isBindRequest (d : Datagram) : Bool :=
  !looksLikeRudp d && wellSized d && (Protocol.decodeHeader d).msgId == MSG_UDP_BIND_REQ

/-- The other branches: the datagram belongs to the session of its endpoint, if there is one. -/
def receiveData (e : Endpoint) (d : Datagram) (now : UInt64)
    (order : List Bytes) : UdpGateway × UdpOut :=
  if !looksLikeRudp d && !wellSized d then (s, {})
  else
    match s.route e order with
    | none =>
      if looksLikeRudp d then (s, {})
      else
        (s, { reply := some { code := UNAUTHORIZED, message := "udp session not bound",
                              seq := (Protocol.decodeHeader d).seq } })
    | some sessionId =>
      match s.sessions.lookup sessionId with
      | none => (s, {})
      | some st =>
        let r := st.udp.receive cfg.udp d now
        ({ s with sessions := s.sessions.insert sessionId { st with udp := r.1 } },
          { session := some sessionId
            forwarded := r.2.forwarded
            egress := r.2.egress
            reply := r.2.reply.map fun b =>
              { code := b.code, message := b.message, seq := b.seq } })

/-- One input. -/
def step (s : UdpGateway) : Input → UdpGateway × UdpOut
  | .opening client => s.opening cfg client
  | .ticket sessionId nonce now => s.issueTicket cfg sessionId nonce now
  | .close sessionId => (s.close sessionId, {})
  | .datagram e d now bindNow order =>
    if isBindRequest d then s.receiveBind cfg e d now bindNow else s.receiveData cfg e d now order

/-- The gateway as a machine. -/
def machine : Machine UdpGateway Input UdpOut where
  step := step cfg

/-- The request that a bind datagram carries. -/
def requestOf (d : Datagram) : Option UdpBindTicket :=
  if isBindRequest d then parseUdpBindReq (bindPayload d) else none

/-- The eight big-endian bytes of a 64-bit word. -/
def writeBe64 (v : UInt64) : Bytes := writeBe32 (v >>> 32).toUInt32 ++ writeBe32 v.toUInt32

/-- The datagram of a bind request, as a client writes it. -/
def bindDatagram (ticket : UdpBindTicket) : Datagram :=
  let payload := writeBe16 ticket.sessionId.length.toUInt16 ++ ticket.sessionId ++
    writeBe64 ticket.nonce ++ writeBe64 ticket.expiresUnixMs ++
    writeBe16 ticket.token.length.toUInt16 ++ ticket.token
  encodeHeader { length := payload.length.toUInt16, msgId := MSG_UDP_BIND_REQ } ++ payload

/-- An accepted bind request: the endpoint it came from and the session it names. -/
def acceptedBind : Input → UdpOut → Option (Endpoint × Bytes)
  | .datagram e d _ _ _, out =>
    if isBindRequest d then
      match out.reply with
      | some r => if r.code = 0 then some (e, r.sessionId) else none
      | none => none
    else none
  | _, _ => none

end UdpGateway

/-! ### What a bind request can do to the session it names -/

namespace SessionState

variable {st : SessionState} {cfg : BindConfig} {req : UdpBindTicket} {e : Endpoint} {now : UInt64}

/-- A request that is not refused repeats the ticket of the session in time. -/
theorem of_refusal_eq_none (h : st.refusal cfg req e now = none) :
    st.bind.udpToken ≠ [] ∧ req.nonce = st.bind.udpNonce ∧
      req.expiresUnixMs = st.bind.udpExpiresUnixMs ∧ req.token = st.bind.udpToken ∧
      now ≤ st.bind.udpExpiresUnixMs ∧ (st.udp.udpBound = true → st.bind.udpEndpoint = e) := by
  unfold refusal at h
  split_ifs at h with hissued hreq hexp hmatch htoken hbound
  simp only [Bool.or_eq_true, decide_eq_true_eq, not_or, not_not] at hissued hmatch htoken
  simp only [Bool.and_eq_true, decide_eq_true_eq, not_and, not_not] at hbound
  exact ⟨hissued.2, hmatch.2, hmatch.1, htoken.1, UInt64.not_lt.mp hexp, hbound⟩

/-- **The three outcomes of a bind request**: the session is backing off and nothing changes; the
    request is refused and the session backs off; or it is accepted. -/
theorem applyBind_cases (st : SessionState) (cfg : BindConfig) (req : UdpBindTicket)
    (e : Endpoint) (now : UInt64) :
    st.applyBind cfg req e now = (st, SERVER_BUSY, "bind retry backoff") ∨
      (∃ code message, code ≠ 0 ∧
        st.applyBind cfg req e now = (st.applyRetryBackoff cfg now, code, message)) ∨
      (st.refusal cfg req e now = none ∧
        st.applyBind cfg req e now = (st.accept cfg e, 0, "bound")) := by
  unfold applyBind
  by_cases hback : now < st.bind.udpBindRetryAfterUnixMs
  · exact .inl (if_pos hback)
  · rw [if_neg hback]
    cases href : st.refusal cfg req e now with
    | none => exact .inr (.inr ⟨rfl, rfl⟩)
    | some r =>
      refine .inr (.inl ⟨r.1, r.2, ?_, rfl⟩)
      unfold refusal at href
      split_ifs at href <;> cases href <;> decide

end SessionState

/-! ### What an input can do to a session -/

namespace UdpGateway

variable {cfg : BindConfig} {s : UdpGateway} {sid sessionId : Bytes} {i : Input} {d : Datagram}
  {e : Endpoint} {order : List Bytes} {bindNow now : UInt64} {req : UdpBindTicket}

/-- The input has nothing to do with the session. -/
structure Apart (sid : Bytes) (i : Input) (out : UdpOut) : Prop where
  close : i ≠ .close sid
  opened : out.opened ≠ some sid
  ticket : ∀ ticket, out.ticket = some ticket → ticket.sessionId ≠ sid
  session : out.session ≠ some sid
  accepted : ∀ e, acceptedBind i out ≠ some (e, sid)

/-- A bind request is accepted exactly if it is answered with code 0. -/
theorem acceptedBind_of_reply {out : UdpOut} {r : UdpBindRes} (hreq : requestOf d = some req)
    (hr : out.reply = some r) :
    acceptedBind (.datagram e d now bindNow order) out =
      if r.code = 0 then some (e, r.sessionId) else none := by
  have hbind : isBindRequest d = true := by
    by_contra hnot
    rw [requestOf, if_neg hnot] at hreq
    cases hreq
  simp only [acceptedBind, hbind, if_true, hr]

/-- **The outcome of a request that reaches its session.** It is turned down, and at most the
    session's backoff changes; or nothing refuses it, and the session is bound. -/
theorem bind_outcome {st : SessionState} {out : UdpOut} (hreq : requestOf d = some req)
    (hreply : ∃ r, out.reply = some r ∧ r.sessionId = sid ∧
      r.code = (st.applyBind cfg req e bindNow).2.1) :
    (∃ attempts retryAfter,
        (st.applyBind cfg req e bindNow).1 =
          { st with
            bind := { st.bind with
              udpBindFailAttempts := attempts, udpBindRetryAfterUnixMs := retryAfter } } ∧
        ∀ now order, acceptedBind (.datagram e d now bindNow order) out = none) ∨
      (st.refusal cfg req e bindNow = none ∧
        (st.applyBind cfg req e bindNow).1 = st.accept cfg e ∧
        ∀ now order, acceptedBind (.datagram e d now bindNow order) out = some (e, sid)) := by
  obtain ⟨r, hr, rfl, hcode⟩ := hreply
  have hanswer : ∀ now order, acceptedBind (.datagram e d now bindNow order) out =
      if r.code = 0 then some (e, r.sessionId) else none := fun _ _ => acceptedBind_of_reply hreq hr
  obtain happly | ⟨code, message, hne, happly⟩ | ⟨hnone, happly⟩ :=
    st.applyBind_cases cfg req e bindNow <;> rw [happly] at hcode ⊢
  · have hbusy : SERVER_BUSY ≠ 0 := by decide
    exact .inl ⟨_, _, rfl, fun _ _ => (hanswer _ _).trans (if_neg (hcode ▸ hbusy))⟩
  · exact .inl ⟨_, _, rfl, fun _ _ => (hanswer _ _).trans (if_neg (hcode ▸ hne))⟩
  · exact .inr ⟨hnone, rfl, fun _ _ => (hanswer _ _).trans (if_pos hcode)⟩

/-- What an input can do to the session `sid`: its state afterwards, and the output. -/
inductive Touched (cfg : BindConfig) (s : UdpGateway) (sid : Bytes) :
    Input → Option SessionState → UdpOut → Prop where
  | apart {i st out} (hsame : s.sessions.lookup sid = st) (h : Apart sid i out) :
    Touched cfg s sid i st out
  | opened {client} (h : s.nextSessionId cfg = sid) :
    Touched cfg s sid (.opening client) (some { clientId := client }) { opened := some sid }
  | issued {st nonce now token out} (hst : s.sessions.lookup sid = some st)
      (hticket : out.ticket = some ⟨sid, nonce, now + cfg.udpBindTtlMs.toUInt64, token⟩) :
    Touched cfg s sid (.ticket sid nonce now) (some (st.issue cfg sid nonce now token)) out
  | closed : Touched cfg s sid (.close sid) none {}
  | data {st e d now bindNow order out} (hbind : isBindRequest d = false)
      (hst : s.sessions.lookup sid = some st) (hroute : s.route e order = some sid)
      (hsession : out.session = some sid)
      (hforwarded : out.forwarded = (st.udp.receive cfg.udp d now).2.forwarded) :
    Touched cfg s sid (.datagram e d now bindNow order)
      (some { st with udp := (st.udp.receive cfg.udp d now).1 }) out
  | bound {st e d now bindNow order req out} (hreq : requestOf d = some req)
      (hsid : req.sessionId = sid) (hst : s.sessions.lookup sid = some st)
      (hblocked : (s.guard.blockState (endpointKey e) now).2 = false)
      (hsession : out.session = none)
      (hreply : ∃ r, out.reply = some r ∧ r.sessionId = sid ∧
        r.code = (st.applyBind cfg req e bindNow).2.1) :
    Touched cfg s sid (.datagram e d now bindNow order)
      (some (st.applyBind cfg req e bindNow).1) out

/-- A session that the loop finds is bound to the endpoint. -/
theorem boundTo_of_route (h : s.route e order = some sid) :
    ∃ st, s.sessions.lookup sid = some st ∧ st.BoundTo e := by
  have hfound := List.find?_some h
  cases hst : s.sessions.lookup sid with
  | none => simp [hst] at hfound
  | some st => exact ⟨st, rfl, by simpa [hst] using hfound⟩

theorem touched_opening {client : Bytes} :
    Touched cfg s sid (.opening client) ((s.opening cfg client).1.sessions.lookup sid)
      (s.opening cfg client).2 := by
  unfold opening
  by_cases hsid : s.nextSessionId cfg = sid
  · subst hsid
    rw [lookup_insert s.sessions]
    exact .opened rfl
  · rw [lookup_insert_of_ne s.sessions (Ne.symm hsid)]
    exact .apart rfl ⟨nofun, fun h => hsid (Option.some.inj h), nofun, nofun, nofun⟩

theorem touched_ticket {nonce : UInt64} :
    Touched cfg s sid (.ticket sessionId nonce now)
      ((s.issueTicket cfg sessionId nonce now).1.sessions.lookup sid)
      (s.issueTicket cfg sessionId nonce now).2 := by
  unfold issueTicket
  cases hst : s.sessions.lookup sessionId with
  | none => exact .apart rfl ⟨nofun, nofun, nofun, nofun, nofun⟩
  | some st =>
    cases tokenFor cfg sessionId nonce now with
    | none => exact .apart rfl ⟨nofun, nofun, nofun, nofun, nofun⟩
    | some token =>
      dsimp only
      by_cases hsid : sessionId = sid
      · subst hsid
        rw [lookup_insert s.sessions]
        exact .issued hst rfl
      · rw [lookup_insert_of_ne s.sessions (Ne.symm hsid)]
        refine .apart rfl ⟨nofun, nofun, fun ticket h => ?_, nofun, nofun⟩
        cases h
        exact hsid

theorem touched_close :
    Touched cfg s sid (.close sessionId) ((s.close sessionId).sessions.lookup sid) {} := by
  unfold close
  by_cases hsid : sessionId = sid
  · subst hsid
    rw [lookup_erase]
    exact .closed
  · rw [lookup_erase_ne (Ne.symm hsid)]
    exact .apart rfl ⟨fun h => hsid (Input.close.inj h), nofun, nofun, nofun, nofun⟩

theorem touched_data (hbind : isBindRequest d = false) :
    Touched cfg s sid (.datagram e d now bindNow order)
      ((s.receiveData cfg e d now order).1.sessions.lookup sid)
      (s.receiveData cfg e d now order).2 := by
  have haccepted : ∀ out x, acceptedBind (.datagram e d now bindNow order) out ≠ some (x, sid) := by
    intro out x
    simp [acceptedBind, hbind]
  unfold receiveData
  split
  · exact .apart rfl ⟨nofun, nofun, nofun, nofun, haccepted _⟩
  · cases hroute : s.route e order with
    | none =>
      dsimp only
      split <;> exact .apart rfl ⟨nofun, nofun, nofun, nofun, haccepted _⟩
    | some sessionId =>
      obtain ⟨st, hst, -⟩ := boundTo_of_route hroute
      simp only [hst]
      by_cases hsid : sessionId = sid
      · subst hsid
        rw [lookup_insert s.sessions]
        exact .data hbind hst hroute rfl rfl
      · rw [lookup_insert_of_ne s.sessions (Ne.symm hsid)]
        exact .apart rfl ⟨nofun, nofun, nofun, fun h => hsid (Option.some.inj h), haccepted _⟩

/-- **The two outcomes of a bind datagram.** It gets no further than the guard, the parser or the
    search for its session, and no session changes; or the request is applied to its session. -/
theorem receiveBind_cases :
    (∃ r : UdpBindRes, r.code ≠ 0 ∧ (s.receiveBind cfg e d now bindNow).1.sessions = s.sessions ∧
        (s.receiveBind cfg e d now bindNow).2 = { reply := some r }) ∨
      ∃ req st, parseUdpBindReq (bindPayload d) = some req ∧
        (s.guard.blockState (endpointKey e) now).2 = false ∧
        s.sessions.lookup req.sessionId = some st ∧
        (s.receiveBind cfg e d now bindNow).1.sessions =
          s.sessions.insert req.sessionId (st.applyBind cfg req e bindNow).1 ∧
        ∃ r : UdpBindRes, r.code = (st.applyBind cfg req e bindNow).2.1 ∧
          r.sessionId = req.sessionId ∧
          (s.receiveBind cfg e d now bindNow).2 = { reply := some r } := by
  have hcodes : SERVER_BUSY ≠ 0 ∧ INVALID_PAYLOAD ≠ 0 ∧ UNAUTHORIZED ≠ 0 := by decide
  unfold receiveBind applyUdpBindRequest
  dsimp only
  split
  case isTrue => exact .inl ⟨_, hcodes.1, rfl, rfl⟩
  case isFalse hfree =>
    cases hparse : parseUdpBindReq (bindPayload d) with
    | none => exact .inl ⟨_, hcodes.2.1, rfl, rfl⟩
    | some req =>
      by_cases hempty : (req.sessionId = [] || req.token = []) = true
      · simp only [if_pos hempty]
        exact .inl ⟨_, hcodes.2.1, rfl, rfl⟩
      · simp only [if_neg hempty]
        cases hst : s.sessions.lookup req.sessionId with
        | none => exact .inl ⟨_, hcodes.2.2, rfl, rfl⟩
        | some st =>
          exact .inr ⟨req, st, rfl, Bool.eq_false_of_not_eq_true hfree, hst, rfl, _, rfl, rfl, rfl⟩

theorem touched_bind (hbind : isBindRequest d = true) :
    Touched cfg s sid (.datagram e d now bindNow order)
      ((s.receiveBind cfg e d now bindNow).1.sessions.lookup sid)
      (s.receiveBind cfg e d now bindNow).2 := by
  rcases receiveBind_cases with
    ⟨r, hcode, hsame, hout⟩ | ⟨req, st, hparse, hblocked, hst, hset, r, hcode, hrsid, hout⟩
  · rw [hsame, hout]
    refine .apart rfl ⟨nofun, nofun, nofun, nofun, fun x => ?_⟩
    simp [acceptedBind, hcode]
  · rw [hset, hout]
    by_cases hsid : req.sessionId = sid
    · subst hsid
      rw [lookup_insert s.sessions]
      have hreq : requestOf d = some req := by rw [requestOf, if_pos hbind, hparse]
      exact .bound hreq rfl hst hblocked rfl ⟨r, rfl, hrsid, hcode⟩
    · rw [lookup_insert_of_ne s.sessions (Ne.symm hsid)]
      refine .apart rfl ⟨nofun, nofun, nofun, nofun, fun x => ?_⟩
      simp [acceptedBind, hrsid, hsid]

/-- A datagram creates no session and issues no ticket. -/
theorem quiet_datagram :
    (s.step cfg (.datagram e d now bindNow order)).2.opened = none ∧
      (s.step cfg (.datagram e d now bindNow order)).2.ticket = none := by
  unfold step
  dsimp only
  split
  · rcases receiveBind_cases with
      ⟨r, -, -, hout⟩ | ⟨req, st, -, -, -, -, r, -, -, hout⟩
    · rw [hout]
      exact ⟨rfl, rfl⟩
    · rw [hout]
      exact ⟨rfl, rfl⟩
  · unfold receiveData
    repeat' split
    all_goals exact ⟨rfl, rfl⟩

/-- **One input, one session.** The state and the output are named, for the cases to fill in. -/
theorem touched_step (cfg : BindConfig) (s : UdpGateway) (sid : Bytes) (i : Input) :
    ∃ after out, (s.step cfg i).1.sessions.lookup sid = after ∧ (s.step cfg i).2 = out ∧
      Touched cfg s sid i after out := by
  refine ⟨_, _, rfl, rfl, ?_⟩
  cases i with
  | opening client => exact touched_opening
  | ticket sessionId nonce now => exact touched_ticket
  | close sessionId => exact touched_close
  | datagram e d now bindNow order =>
    by_cases hbind : isBindRequest d = true
    · simp only [step, if_pos hbind]
      exact touched_bind hbind
    · simp only [step, if_neg hbind]
      exact touched_data (Bool.not_eq_true _ ▸ hbind)

end UdpGateway

end Knights.Gateway
