import Knights.Protocol.Opcode
import Knights.Protocol.Packet

namespace Knights.Gateway

open Knights.Lib Knights.Protocol List

/-!
# Gateway — the client connection

A client connection first collects bytes until the login message is complete, then it hands
everything it reads to the backend (`gateway/src/gateway_connection.cpp`).  The authenticator and
the backend selection are parameters; each is asked at most once, at login.

* `tryFinishHandshake_fuel` — the handshake loop ends;
* `Forwards` — what a connection has read, in terms of what it dropped, handed on and keeps;
* `forwards_onRead` — every read keeps that.
-/

/-! ### The model -/

/-- What the authenticator is asked. -/
structure AuthRequest where
  token : Bytes
  clientId : Bytes
  remoteAddress : Bytes
  deriving DecidableEq, Repr

/-- What it answers. -/
structure AuthResult where
  success : Bool
  subject : Bytes
  deriving DecidableEq, Repr

/-- The surroundings of a connection: the authenticator, if there is one, whether anonymous logins
    are allowed, whether `create_backend_connection` succeeds for a client id, and the ticket frame
    for the new session. -/
structure HandshakeEnv where
  authenticator : Option (AuthRequest → AuthResult) := none
  remoteIp : Bytes := []
  allowAnonymous : Bool := true
  createBackend : Bytes → Bool := fun _ => true
  bindTicket : Option Bytes := none

/-- The phases of a connection. -/
inductive Phase where
  | kWaitingForLogin
  | kBridging
  deriving DecidableEq, Repr

/-- The state of a connection.  It has a backend connection and a session exactly while it is
    bridging; `stopped` ends its read loop. -/
structure GatewayConnection where
  phase : Phase := .kWaitingForLogin
  prebuffer : Bytes := []
  clientId : Bytes := []
  stopped : Bool := false
  deriving DecidableEq, Repr

/-- What a read makes the connection do: authentication requests, frames queued for the client,
    and buffers handed to `BackendConnection::send`. -/
structure Sends where
  asked : List AuthRequest := []
  toClient : List Bytes := []
  toBackend : List Bytes := []
  deriving DecidableEq, Repr

/-- The bytes of an ASCII text. -/
def ascii (s : String) : Bytes := s.toList.map fun c => c.toNat.toUInt8

/-- Largest login payload. -/
def kMaxLoginPayloadBytes : ℕ := 32 * 1024

/-- Largest buffer before the login is complete. -/
def kMaxHandshakeBytes : ℕ := 64 * 1024

/-- A reply that takes over the fields of a header. -/
def makeControlFrame (header : PacketHeader) (msgId : UInt16) (payload : Bytes) : Bytes :=
  encodeHeader { header with length := payload.length.toUInt16, msgId := msgId } ++ payload

namespace GatewayConnection

/-- Close the connection. -/
def stop (c : GatewayConnection) : GatewayConnection := { c with stopped := true }

/-- The client id a session is routed by. -/
def routingKey (request : AuthRequest) (auth : AuthResult) : Bytes :=
  let key := if !request.clientId.isEmpty then request.clientId else auth.subject
  if key.isEmpty || key == ascii "guest" then ascii "anonymous" else key

/-- The answer to an authentication request. -/
def authenticate (env : HandshakeEnv) (request : AuthRequest) : AuthResult :=
  match env.authenticator with
  | some auth => auth request
  | none =>
    { success := true
      subject := if request.clientId.isEmpty then ascii "anonymous" else request.clientId }

/-- What happens once the login message is complete: the part of `try_finish_handshake` behind the
    check of the message id. -/
def login (env : HandshakeEnv) (c : GatewayConnection) (payload : Bytes) :
    GatewayConnection × Sends :=
  match readLpUtf8 payload with
  | none => (c.stop, {})
  | some (user, rest) =>
    match readLpUtf8 rest with
    | none => (c.stop, {})
    | some (token, _) =>
      let request : AuthRequest :=
        { clientId := user, token := token, remoteAddress := env.remoteIp }
      let auth := authenticate env request
      let key := routingKey request auth
      if !auth.success then (c.stop, { asked := [request] })
      else if !env.allowAnonymous && token.isEmpty then (c.stop, { asked := [request] })
      else if !env.allowAnonymous && key == ascii "anonymous" then
        (c.stop, { asked := [request] })
      -- the client id is set before the backend is opened, and stays if that fails
      else if !env.createBackend key then
        ({ c with clientId := key, stopped := true }, { asked := [request] })
      else
        ({ c with clientId := key, phase := .kBridging, prebuffer := [] },
          { asked := [request]
            toClient := env.bindTicket.toList
            -- everything buffered goes on: the login frame itself and what came behind it
            toBackend := [c.prebuffer] })

/-- `try_finish_handshake`.  A round that goes on takes a frame off the buffer, so that there are
    at most as many rounds as bytes. -/
def tryFinishHandshake (env : HandshakeEnv) : ℕ → GatewayConnection → GatewayConnection × Sends
  | 0, c => (c, {})
  | fuel + 1, c =>
    if c.prebuffer.length < kHeaderBytes then (c, {})
    else
      let header := decodeHeader c.prebuffer
      if header.length.toNat > kMaxLoginPayloadBytes then (c.stop, {})
      else
        let frameBytes := kHeaderBytes + header.length.toNat
        -- wait for the rest of the body
        if c.prebuffer.length < frameBytes then (c, {})
        else
          let payload := (c.prebuffer.drop kHeaderBytes).take header.length.toNat
          let c' := { c with prebuffer := c.prebuffer.drop frameBytes }
          if classifySegmentType header.msgId ≠ .kApplicationPayload then
            if header.msgId = MSG_PING then
              let r := tryFinishHandshake env fuel c'
              (r.1, { r.2 with
                toClient := makeControlFrame header MSG_PONG payload :: r.2.toClient })
            else if header.msgId = MSG_PONG then tryFinishHandshake env fuel c'
            else (c.stop, {})
          -- the login frame stays in the buffer, for the backend
          else if header.msgId ≠ MSG_LOGIN_REQ then (c.stop, {})
          else login env c payload

/-- `on_read`.  The read loop calls it only while the connection is not stopped. -/
def onRead (env : HandshakeEnv) (c : GatewayConnection) (data : Bytes) :
    GatewayConnection × Sends :=
  if c.stopped then (c, {})
  else if data.isEmpty then (c, {})
  else
    match c.phase with
    | .kWaitingForLogin =>
      if c.prebuffer.length + data.length > kMaxHandshakeBytes then (c.stop, {})
      else
        tryFinishHandshake env (c.prebuffer ++ data).length
          { c with prebuffer := c.prebuffer ++ data }
    | .kBridging => (c, { toBackend := [data] })

/-- **The loop ends.** With as much fuel as there are bytes, more fuel changes nothing. -/
theorem tryFinishHandshake_fuel {env : HandshakeEnv} {fuel : ℕ} {c : GatewayConnection}
    (hfuel : c.prebuffer.length ≤ fuel) :
    tryFinishHandshake env (fuel + 1) c = tryFinishHandshake env fuel c := by
  induction fuel generalizing c with
  | zero =>
    have hshort : c.prebuffer.length < kHeaderBytes := by
      unfold kHeaderBytes
      omega
    exact if_pos hshort
  | succ fuel ih =>
    conv_lhs => unfold tryFinishHandshake
    conv_rhs => unfold tryFinishHandshake
    by_cases hheader : c.prebuffer.length < kHeaderBytes
    · rw [if_pos hheader, if_pos hheader]
    · -- a round that goes on leaves at least a header less
      have hgo : ∀ n, tryFinishHandshake env (fuel + 1)
            { c with prebuffer := c.prebuffer.drop (kHeaderBytes + n) }
          = tryFinishHandshake env fuel
            { c with prebuffer := c.prebuffer.drop (kHeaderBytes + n) } := by
        intro n
        apply ih
        simp only [length_drop]
        unfold kHeaderBytes at hheader ⊢
        omega
      simp only [hgo]

/-! ### What is handed to the backend -/

/-- What a connection has handed to the backend, of everything it has read: nothing while it waits,
    when it has dropped complete frames and keeps the rest in its buffer; all but the dropped
    frames once it is bridging; nothing if it was stopped before. -/
inductive Forwards (c : GatewayConnection) : Bytes → Bytes → Prop
  | waiting (dropped : Bytes) (hdropped : packetFraming.Complete dropped)
      (hphase : c.phase = .kWaitingForLogin) : Forwards c (dropped ++ c.prebuffer) []
  | bridging (dropped sent : Bytes) (hdropped : packetFraming.Complete dropped)
      (hphase : c.phase = .kBridging) (hrunning : c.stopped = false) :
      Forwards c (dropped ++ sent) sent
  | stopped (received : Bytes) (hstopped : c.stopped = true) : Forwards c received []

variable {env : HandshakeEnv} {c : GatewayConnection} {dropped : Bytes}

/-- Login hands the whole buffer on, or stops. -/
theorem forwards_login (hrunning : c.stopped = false) (hdropped : packetFraming.Complete dropped)
    (payload : Bytes) :
    Forwards (login env c payload).1 (dropped ++ c.prebuffer)
      (login env c payload).2.toBackend.flatten := by
  -- every check that fails stops the connection before anything is sent
  unfold login
  cases readLpUtf8 payload with
  | none => exact .stopped _ rfl
  | some user =>
    obtain ⟨user, rest⟩ := user
    simp only
    cases readLpUtf8 rest with
    | none => exact .stopped _ rfl
    | some token =>
      obtain ⟨token, -⟩ := token
      simp only
      split_ifs
      · exact .stopped _ rfl
      · exact .stopped _ rfl
      · exact .stopped _ rfl
      · exact .stopped _ rfl
      · rw [flatten_singleton]
        exact .bridging dropped _ hdropped rfl hrunning

/-- The handshake drops complete frames, hands the whole buffer on, or stops. -/
theorem forwards_tryFinishHandshake (hphase : c.phase = .kWaitingForLogin)
    (hrunning : c.stopped = false) (hdropped : packetFraming.Complete dropped) (fuel : ℕ) :
    Forwards (tryFinishHandshake env fuel c).1 (dropped ++ c.prebuffer)
      (tryFinishHandshake env fuel c).2.toBackend.flatten := by
  induction fuel generalizing c dropped with
  | zero => exact .waiting dropped hdropped hphase
  | succ fuel ih =>
    unfold tryFinishHandshake
    simp only
    by_cases hheader : c.prebuffer.length < kHeaderBytes
    · rw [if_pos hheader]
      exact .waiting dropped hdropped hphase
    -- behind a PING or PONG the loop goes on without it
    have hrest : ∀ n, n = kHeaderBytes + (Protocol.decodeHeader c.prebuffer).length.toNat →
        ¬ c.prebuffer.length < n →
        Forwards (tryFinishHandshake env fuel { c with prebuffer := c.prebuffer.drop n }).1
          (dropped ++ c.prebuffer)
          (tryFinishHandshake env fuel
            { c with prebuffer := c.prebuffer.drop n }).2.toBackend.flatten := by
      intro n hn hbody
      have hneed : packetFraming.need c.prebuffer = some n :=
        frameBytes_eq_some.mpr ⟨Nat.le_of_not_lt hheader, hn⟩
      have hframe := Framing.isFrame_take hneed (Nat.le_of_not_lt hbody)
      have hgoes := @ih { c with prebuffer := c.prebuffer.drop n } _ hphase hrunning
        (hdropped.append hframe.complete)
      rwa [append_assoc, take_append_drop] at hgoes
    split_ifs with hlarge hbody hsystem hping hpong hlogin
    · exact .stopped _ rfl
    · exact .waiting dropped hdropped hphase
    · exact hrest _ rfl hbody
    · exact hrest _ rfl hbody
    · exact .stopped _ rfl
    · exact .stopped _ rfl
    · exact forwards_login hrunning hdropped _

/-- **Every read** keeps the account of what was handed on. -/
theorem forwards_onRead {received sent : Bytes} (h : Forwards c received sent) (data : Bytes) :
    Forwards (c.onRead env data).1 (received ++ data)
      (sent ++ (c.onRead env data).2.toBackend.flatten) := by
  unfold onRead
  -- a stopped connection reads no more, an empty read changes nothing
  by_cases hstopped : c.stopped = true
  · rw [if_pos hstopped]
    cases h with
    | waiting | stopped => exact .stopped _ hstopped
    | bridging dropped sent hdropped hphase hrunning =>
      exact absurd (hrunning.symm.trans hstopped) (by simp)
  · rw [if_neg hstopped]
    by_cases hdata : data.isEmpty = true
    · rw [if_pos hdata, isEmpty_iff.mp hdata, append_nil]
      simpa using h
    · rw [if_neg hdata]
      cases h with
      | waiting dropped hdropped hphase =>
        rw [hphase]
        split_ifs
        · exact .stopped _ rfl
        · rw [append_assoc, nil_append]
          exact @forwards_tryFinishHandshake env
            { c with phase := .kWaitingForLogin, prebuffer := c.prebuffer ++ data } dropped rfl
            (by simpa using hstopped) hdropped _
      | bridging dropped sent hdropped hphase hrunning =>
        rw [hphase]
        simp only [flatten_singleton]
        rw [append_assoc]
        exact .bridging dropped _ hdropped hphase hrunning
      | stopped received hstopped' => exact absurd hstopped' hstopped

end GatewayConnection

end Knights.Gateway
