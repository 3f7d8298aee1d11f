import Knights.Rudp.RetransmissionQueue

namespace Knights.Rudp

open Knights.Lib

/-!
# RUDP — the engine

`RudpEngine` (`core/src/net/rudp/rudp_engine.cpp`) with its peer state and configuration
(`rudp_peer_state.hpp`).  The engine does no I/O: every call takes the clock as an argument
and gives the datagrams to send and the inner frames to hand on.  Metrics are left out; the
engine writes them and never reads them.

`processDatagram` is cut at the points where the source falls through: `processDecoded` is
what follows a successful decode, `processData` what follows the `switch`.  The lemmas below
say once what each call does, so that no later proof unfolds the calls.

* `processed`, `queueReliablePayload_cases`, `poll_eq` — every outcome of the three calls;
* `keeps_processDatagram` — what a datagram leaves alone.
-/

/-! ### Peer state -/

/-- Life cycle of a peer. -/
inductive LifecycleState where
  | kIdle
  | kHelloSent
  | kHelloReceived
  | kEstablished
  | kDraining
  | kClosed
  deriving DecidableEq, Repr

/-- Engine configuration, with the source's defaults. -/
structure RudpConfig where
  handshakeTimeoutMs : UInt32 := 1500
  idleTimeoutMs : UInt32 := 10000
  ackDelayMs : UInt32 := 10
  rtoMinMs : UInt32 := 50
  rtoMaxMs : UInt32 := 2000
  maxInflightPackets : Nat := 256
  maxInflightBytes : Nat := 256 * 1024
  mtuPayloadBytes : Nat := 1200
  deriving DecidableEq, Repr

/-- RTT and RTO estimation. -/
structure RttEstimator where
  initialized : Bool := false
  srttMs : UInt32 := 0
  rttvarMs : UInt32 := 0
  rtoMs : UInt32 := 200
  deriving DecidableEq, Repr

/-- `std::clamp` on 32-bit values. -/
def clamp32 (v lo hi : UInt32) : UInt32 := if v < lo then lo else if hi < v then hi else v

/-- Feed a sample.  The error term goes through `int`, as in the source: the difference of the
    two casts, taken modulo `2^32`, and its absolute value. -/
def RttEstimator.update (r : RttEstimator) (sampleMs rtoMinMs rtoMaxMs : UInt32) : RttEstimator :=
  if sampleMs = 0 then r
  else
    let r' : RttEstimator :=
      if !r.initialized then
        { r with initialized := true, srttMs := sampleMs, rttvarMs := max 1 (sampleMs / 2) }
      else
        let err := (r.srttMs.toInt32 - sampleMs.toInt32).abs.toUInt32
        { r with
          rttvarMs := ((3 * r.rttvarMs.toUInt64 + err.toUInt64) / 4).toUInt32,
          srttMs := ((7 * r.srttMs.toUInt64 + sampleMs.toUInt64) / 8).toUInt32 }
    let candidate := r'.srttMs + max 1 (4 * r'.rttvarMs)
    { r' with rtoMs := clamp32 candidate rtoMinMs rtoMaxMs }

/-- Runtime state of one peer. -/
structure RudpPeerState where
  lifecycle : LifecycleState := .kIdle
  connectionId : UInt32 := 0
  nextPacketNumber : UInt32 := 1
  lastRecvUnixMs : UInt64 := 0
  lastSendUnixMs : UInt64 := 0
  lastAckEmitUnixMs : UInt64 := 0
  ackLargest : UInt32 := 0
  ackMask : UInt64 := 0
  fallbackRequired : Bool := false
  fallbackReason : String := ""
  rtt : RttEstimator := {}
  deriving DecidableEq, Repr

/-! ### The engine -/

/-- Result of `process_datagram` and `poll`. -/
structure ProcessResult where
  parsed : Bool := false
  consumed : Bool := false
  handshakeEstablished : Bool := false
  fallbackRequired : Bool := false
  fallbackReason : String := ""
  egressDatagrams : List Datagram := []
  innerFrames : List (List UInt8) := []
  retransmitCount : Nat := 0
  deriving DecidableEq, Repr

/-- The engine. -/
structure RudpEngine where
  config : RudpConfig := {}
  state : RudpPeerState := {}
  ackWindow : AckWindow := {}
  retransmissionQueue : RetransmissionQueue := {}
  deriving DecidableEq, Repr

namespace RudpEngine

section

variable (e : RudpEngine) (h : RudpHeader) (now : UInt64)

/-- Forget everything but the configuration. -/
def reset : RudpEngine := { config := e.config }

/-- The header of a packet that carries the current acknowledgement. -/
def header (type : PacketType) (flags channel : UInt8) (packetNumber : UInt32) (now : UInt64)
    (payload : List UInt8) : RudpHeader :=
  { type := type, flags := flags, channel := channel,
    connectionId := e.state.connectionId, packetNumber := packetNumber,
    ackLargest := e.state.ackLargest, ackMask := e.state.ackMask,
    ackDelayMs := (min e.config.ackDelayMs 0xFFFF).toUInt16,
    timestampMs := (now &&& 0xFFFFFFFF).toUInt32,
    payloadLength := payload.length.toUInt16 }

/-- Build such a packet. -/
def makePacket (type : PacketType) (flags channel : UInt8) (packetNumber : UInt32) (now : UInt64)
    (payload : List UInt8) : Datagram :=
  encodePacket (e.header type flags channel packetNumber now payload) payload

/-- Record a fallback.  The reason is moved into the result, which leaves the state's own
    string empty. -/
def setFallback (result : ProcessResult) (reason : String) : RudpEngine × ProcessResult :=
  ({ e with state := { e.state with
      fallbackRequired := true, fallbackReason := "", lifecycle := .kDraining } },
   { result with fallbackRequired := true, fallbackReason := reason })

/-- Build a HELLO and wait for its answer. -/
def makeHello (connectionId : UInt32) (now : UInt64) : RudpEngine × Datagram :=
  let e := { e with state := { e.state with
    connectionId := connectionId, lifecycle := .kHelloSent, lastSendUnixMs := now } }
  (e, e.makePacket .kHello 0 0 0 now [])

/-- Build a CLOSE. -/
def makeClose : RudpEngine × Datagram :=
  let e := { e with state := { e.state with lifecycle := .kClosed, lastSendUnixMs := now } }
  (e, e.makePacket .kClose 0 0 0 now [])

/-- Does a packet that arrives now get an acknowledgement of its own? -/
def shouldEmitAck : Bool :=
  h.flags &&& kFlagAckOnly == 0 &&
    decide (now ≥ e.state.lastAckEmitUnixMs + e.config.ackDelayMs.toUInt64)

/-- The RTT sample of a packet: its age by the low 32 bits of the clock, `0` if it comes from
    the future. -/
def rttSample : UInt32 :=
  let sentTs := h.timestampMs.toUInt64
  let nowTs := now &&& 0xFFFFFFFF
  if nowTs ≥ sentTs then (nowTs - sentTs).toUInt32 else 0

/-- The state after observing a data packet: window and acknowledgement fields. -/
def observePacket (n : UInt32) : RudpEngine :=
  { e with
    ackWindow := e.ackWindow.after n
    state := { e.state with
      ackLargest := (e.ackWindow.observe n).2.ackLargest
      ackMask := (e.ackWindow.observe n).2.ackMask } }

/-- The clock of the last acknowledgement, restarted if one goes out now. -/
def ackClock : RudpEngine :=
  if e.shouldEmitAck h now then
    { e with state := { e.state with lastAckEmitUnixMs := now } }
  else e

/-- The acknowledgement that an accepted packet triggers, if any. -/
def emittedAcks : List Datagram :=
  if e.shouldEmitAck h now then [e.makePacket .kData kFlagAckOnly h.channel 0 now []] else []

/-- The inner frame an accepted packet hands on, unless it is empty. -/
def deliveredFrames (payload : List UInt8) : List (List UInt8) :=
  if payload.isEmpty then [] else [payload]

/-- The state after the RTT sample of a packet. -/
def sampleRtt : RudpEngine :=
  if h.timestampMs ≠ 0 then
    { e with state := { e.state with
      rtt := e.state.rtt.update (rttSample h now) e.config.rtoMinMs e.config.rtoMaxMs } }
  else e

/-- `processDatagram` after the `switch`: data packets, and types the `switch` does not
    name. -/
def processData (payload : List UInt8) (now : UInt64)
    (result : ProcessResult) : RudpEngine × ProcessResult :=
  if e.state.lifecycle ≠ .kEstablished then e.setFallback result "rudp_not_established"
  else
    let accepted := e.ackWindow.accepts h.packetNumber
    let e := e.observePacket h.packetNumber
    if !accepted then (e, result)
    else
      let result := { result with
        innerFrames := result.innerFrames ++ deliveredFrames payload
        egressDatagrams := result.egressDatagrams ++ e.emittedAcks h now }
      ((e.ackClock h now).sampleRtt h now, result)

/-- Packet and peer name different connections. -/
def connectionMismatch : Bool :=
  e.state.connectionId != 0 && h.connectionId != 0 && e.state.connectionId != h.connectionId

/-- The peer learns the connection id from the first packet that has one. -/
def adoptConnection : RudpEngine :=
  if e.state.connectionId = 0 then
    { e with state := { e.state with connectionId := h.connectionId } }
  else e

/-- Apply the acknowledgement a packet carries. -/
def applyAck : RudpEngine :=
  { e with retransmissionQueue := e.retransmissionQueue.markAcked h.ackLargest h.ackMask }

/-- Move to another life cycle state. -/
def withLifecycle (s : LifecycleState) : RudpEngine :=
  { e with state := { e.state with lifecycle := s } }

/-- A HELLO establishes the connection, and its answer leaves now. -/
def helloReceived : RudpEngine :=
  { e with state := { e.state with lifecycle := .kEstablished, lastSendUnixMs := now } }

/-- Note the arrival of a packet. -/
def received : RudpEngine :=
  { e with state := { e.state with lastRecvUnixMs := now } }

/-- `processDatagram` after a successful decode. -/
def processDecoded (payload : List UInt8) (now : UInt64) : RudpEngine × ProcessResult :=
  let result : ProcessResult := { consumed := true, parsed := true }
  let e := e.received now
  if e.connectionMismatch h then e.setFallback result "connection_id_mismatch"
  else
    -- the acknowledgement is applied in every state and for every type
    let e := (e.adoptConnection h).applyAck h
    match h.type with
    | .kHello =>
      let newEstablished := e.state.lifecycle ≠ .kEstablished
      let e := e.helloReceived now
      (e, { result with
        handshakeEstablished := newEstablished
        egressDatagrams := [e.makePacket .kHelloAck 0 0 0 now []] })
    | .kHelloAck =>
      (e.withLifecycle .kEstablished, { result with handshakeEstablished := true })
    | .kClose => (e.withLifecycle .kClosed).setFallback result "peer_closed"
    | .kPing =>
      (e, { result with egressDatagrams := [e.makePacket .kData kFlagAckOnly 0 0 now []] })
    | .kData => e.processData h payload now result
    -- a type byte outside the enumeration falls out of the source's `switch`, like data
    | .other _ _ => e.processData h payload now result

/-- Advance the state by a received datagram. -/
def processDatagram (datagram : Datagram) (now : UInt64) : RudpEngine × ProcessResult :=
  if !looksLikeRudp datagram then (e, {})
  else
    match decodePacket datagram with
    | none => e.setFallback { consumed := true } "invalid_rudp_packet"
    | some (h, payload) =>
      if h.version ≠ 1 then e.setFallback { consumed := true } "invalid_rudp_packet"
      else e.processDecoded h payload now

/-- Wrap an inner frame as a reliable packet; `none` is the source's `false`. -/
def queueReliablePayload (innerFrame : List UInt8) (channel : UInt8)
    (now : UInt64) : RudpEngine × Option Datagram :=
  if e.state.lifecycle ≠ .kEstablished then (e, none)
  else if innerFrame.isEmpty then (e, none)
  else if innerFrame.length > e.config.mtuPayloadBytes then (e, none)
  else if e.retransmissionQueue.inflightPackets ≥ e.config.maxInflightPackets then (e, none)
  else if e.retransmissionQueue.inflightBytes + innerFrame.length > e.config.maxInflightBytes then
    (e, none)
  else
    let packetNumber := e.state.nextPacketNumber
    let e := { e with state := { e.state with nextPacketNumber := packetNumber + 1 } }
    let frame := e.makePacket .kData 0 channel packetNumber now innerFrame
    ({ e with
      retransmissionQueue := e.retransmissionQueue.push packetNumber now frame
      state := { e.state with lastSendUnixMs := now } },
     some frame)

/-- Largest number of packets one `poll` sends again. -/
def kPollBatch : Nat := 16

/-- Timeouts and retransmissions. -/
def poll : RudpEngine × ProcessResult :=
  if e.state.lifecycle = .kHelloSent ∧ e.state.lastSendUnixMs > 0 ∧
      now > e.state.lastSendUnixMs + e.config.handshakeTimeoutMs.toUInt64 then
    e.setFallback {} "rudp_handshake_timeout"
  else if e.state.lifecycle = .kEstablished ∧ e.state.lastRecvUnixMs > 0 ∧
      now > e.state.lastRecvUnixMs + e.config.idleTimeoutMs.toUInt64 then
    e.setFallback {} "rudp_idle_timeout"
  else
    let r := e.retransmissionQueue.collectTimeouts now e.state.rtt.rtoMs kPollBatch
    if r.2.isEmpty then ({ e with retransmissionQueue := r.1 }, {})
    else
      ({ e with retransmissionQueue := r.1 },
       { egressDatagrams := r.2.map fun p => setRetransmit p.encodedFrame
         retransmitCount := r.2.length })

end

/-! ### Calls as inputs of a machine -/

/-- A call on an engine. -/
inductive Call where
  | processDatagram (datagram : Datagram) (now : UInt64)
  | queueReliablePayload (innerFrame : List UInt8) (channel : UInt8) (now : UInt64)
  | poll (now : UInt64)
  | makeHello (connectionId : UInt32) (now : UInt64)
  | makeClose (now : UInt64)
  | reset
  deriving DecidableEq, Repr

/-- The answer to a call. -/
inductive Reply where
  | result (r : ProcessResult)
  | queued (out : Option Datagram)
  | datagram (d : Datagram)
  | done
  deriving DecidableEq, Repr

/-- The engine as a machine. -/
def machine : Machine RudpEngine Call Reply where
  step e
    | .processDatagram d now => ((e.processDatagram d now).1, .result (e.processDatagram d now).2)
    | .queueReliablePayload p ch now =>
      ((e.queueReliablePayload p ch now).1, .queued (e.queueReliablePayload p ch now).2)
    | .poll now => ((e.poll now).1, .result (e.poll now).2)
    | .makeHello id now => ((e.makeHello id now).1, .datagram (e.makeHello id now).2)
    | .makeClose now => ((e.makeClose now).1, .datagram (e.makeClose now).2)
    | .reset => (e.reset, .done)

/-! ### What a call leaves alone -/

variable {e : RudpEngine} {d : Datagram} {h : RudpHeader} {p : List UInt8} {now : UInt64}

/-- The engine after a packet of its connection arrived and its acknowledgement was applied. -/
def admitted (e : RudpEngine) (h : RudpHeader) (now : UInt64) : RudpEngine :=
  ((e.received now).adoptConnection h).applyAck h

/-- The engine after it accepted a data packet. -/
def accepted (e : RudpEngine) (h : RudpHeader) (now : UInt64) : RudpEngine :=
  ((e.observePacket h.packetNumber).ackClock h now).sampleRtt h now

@[simp] theorem setFallback_queue (r : ProcessResult) (s : String) :
    (e.setFallback r s).1.retransmissionQueue = e.retransmissionQueue := rfl

@[simp] theorem setFallback_egress (r : ProcessResult) (s : String) :
    (e.setFallback r s).2.egressDatagrams = r.egressDatagrams := rfl

@[simp] theorem received_connectionMismatch :
    (e.received now).connectionMismatch h = e.connectionMismatch h := rfl

@[simp] theorem observePacket_window (n : UInt32) :
    (e.observePacket n).ackWindow = e.ackWindow.after n := rfl

@[simp] theorem observePacket_ackLargest {n : UInt32} :
    (e.observePacket n).state.ackLargest = (e.ackWindow.after n).largest :=
  (e.ackWindow.observe_reports n).1

@[simp] theorem observePacket_ackMask {n : UInt32} :
    (e.observePacket n).state.ackMask = (e.ackWindow.after n).mask :=
  (e.ackWindow.observe_reports n).2

/-- What the admission of a packet changes. -/
theorem admitted_eq (h : RudpHeader) (now : UInt64) : e.admitted h now =
    { e with
      retransmissionQueue := e.retransmissionQueue.markAcked h.ackLargest h.ackMask
      state := { e.state with
        lastRecvUnixMs := now
        connectionId :=
          if e.state.connectionId = 0 then h.connectionId else e.state.connectionId } } := by
  by_cases hid : e.state.connectionId = 0 <;>
    simp [admitted, adoptConnection, applyAck, received, hid]

/-- What the acceptance of a data packet changes. -/
theorem accepted_eq (h : RudpHeader) (now : UInt64) : e.accepted h now =
    { e with
      ackWindow := e.ackWindow.after h.packetNumber
      state := { e.state with
        ackLargest := (e.ackWindow.after h.packetNumber).largest
        ackMask := (e.ackWindow.after h.packetNumber).mask
        lastAckEmitUnixMs :=
          if e.shouldEmitAck h now then now else e.state.lastAckEmitUnixMs
        rtt := if h.timestampMs = 0 then e.state.rtt else
          e.state.rtt.update (rttSample h now) e.config.rtoMinMs e.config.rtoMaxMs } } := by
  have hack : (e.observePacket h.packetNumber).shouldEmitAck h now = e.shouldEmitAck h now := rfl
  obtain ⟨hlargest, hmask⟩ := e.ackWindow.observe_reports h.packetNumber
  unfold accepted sampleRtt ackClock
  rw [hack]
  by_cases hts : h.timestampMs = 0 <;> by_cases hdue : e.shouldEmitAck h now = true <;>
    simp [hts, hdue, observePacket, hlargest, hmask]

@[simp] theorem admitted_window : (e.admitted h now).ackWindow = e.ackWindow := by
  rw [admitted_eq]

@[simp] theorem admitted_queue : (e.admitted h now).retransmissionQueue
    = e.retransmissionQueue.markAcked h.ackLargest h.ackMask := by rw [admitted_eq]

@[simp] theorem admitted_config : (e.admitted h now).config = e.config := by rw [admitted_eq]

@[simp] theorem admitted_lifecycle :
    (e.admitted h now).state.lifecycle = e.state.lifecycle := by rw [admitted_eq]

@[simp] theorem admitted_lastAckEmit :
    (e.admitted h now).state.lastAckEmitUnixMs = e.state.lastAckEmitUnixMs := by rw [admitted_eq]

/-! ### What a datagram can do -/

/-- The datagram is a version 1 packet with header `h` and payload `p`. -/
def Parsed (d : Datagram) (h : RudpHeader) (p : List UInt8) : Prop :=
  looksLikeRudp d = true ∧ decodePacket d = some (h, p) ∧ h.version = 1

/-- A packet decodes in one way only. -/
theorem Parsed.unique {h' : RudpHeader} {p' : List UInt8} (hd : Parsed d h p)
    (hd' : Parsed d h' p') :
    h = h' ∧ p = p' :=
  Prod.mk.inj (Option.mem_unique hd.2.1 hd'.2.1)

/-- The types that the `switch` does not handle. -/
def fallsThrough : PacketType → Bool
  | .kData => true
  | .other _ _ => true
  | _ => false

/-- **Every outcome of `processDatagram`.** One constructor per way through the source. -/
inductive Processed (e : RudpEngine) (d : Datagram) (now : UInt64) :
    RudpEngine × ProcessResult → Prop
  | ignored (hl : looksLikeRudp d = false) : Processed e d now (e, {})
  | invalid (hd : ∀ h p, ¬ Parsed d h p) :
      Processed e d now (e.setFallback { consumed := true } "invalid_rudp_packet")
  | mismatch {h : RudpHeader} {p : List UInt8} (hd : Parsed d h p)
      (hm : e.connectionMismatch h = true) :
      Processed e d now ((e.received now).setFallback { consumed := true, parsed := true }
        "connection_id_mismatch")
  | hello {h : RudpHeader} {p : List UInt8} (hd : Parsed d h p)
      (hm : e.connectionMismatch h = false) (ht : h.type = .kHello) :
      Processed e d now ((e.admitted h now).helloReceived now,
        { consumed := true, parsed := true
          handshakeEstablished := e.state.lifecycle ≠ .kEstablished
          egressDatagrams :=
            [((e.admitted h now).helloReceived now).makePacket .kHelloAck 0 0 0 now []] })
  | helloAck {h : RudpHeader} {p : List UInt8} (hd : Parsed d h p)
      (hm : e.connectionMismatch h = false) (ht : h.type = .kHelloAck) :
      Processed e d now ((e.admitted h now).withLifecycle .kEstablished,
        { consumed := true, parsed := true, handshakeEstablished := true })
  | close {h : RudpHeader} {p : List UInt8} (hd : Parsed d h p)
      (hm : e.connectionMismatch h = false) (ht : h.type = .kClose) :
      Processed e d now (((e.admitted h now).withLifecycle .kClosed).setFallback
        { consumed := true, parsed := true } "peer_closed")
  | ping {h : RudpHeader} {p : List UInt8} (hd : Parsed d h p)
      (hm : e.connectionMismatch h = false) (ht : h.type = .kPing) :
      Processed e d now (e.admitted h now,
        { consumed := true, parsed := true
          egressDatagrams := [(e.admitted h now).makePacket .kData kFlagAckOnly 0 0 now []] })
  | notEstablished {h : RudpHeader} {p : List UInt8} (hd : Parsed d h p)
      (hm : e.connectionMismatch h = false) (ht : fallsThrough h.type = true)
      (hs : e.state.lifecycle ≠ .kEstablished) :
      Processed e d now ((e.admitted h now).setFallback { consumed := true, parsed := true }
        "rudp_not_established")
  | refused {h : RudpHeader} {p : List UInt8} (hd : Parsed d h p)
      (hm : e.connectionMismatch h = false) (ht : fallsThrough h.type = true)
      (hs : e.state.lifecycle = .kEstablished)
      (ha : e.ackWindow.accepts h.packetNumber = false) :
      Processed e d now ((e.admitted h now).observePacket h.packetNumber,
        { consumed := true, parsed := true })
  | accepted {h : RudpHeader} {p : List UInt8} (hd : Parsed d h p)
      (hm : e.connectionMismatch h = false) (ht : fallsThrough h.type = true)
      (hs : e.state.lifecycle = .kEstablished)
      (ha : e.ackWindow.accepts h.packetNumber = true) :
      Processed e d now ((e.admitted h now).accepted h now,
        { consumed := true, parsed := true, innerFrames := deliveredFrames p
          egressDatagrams :=
            ((e.admitted h now).observePacket h.packetNumber).emittedAcks h now })

/-- `processData` on an admitted packet is one of the last three outcomes. -/
theorem processed_processData (hd : Parsed d h p) (hm : e.connectionMismatch h = false)
    (ht : fallsThrough h.type = true) :
    Processed e d now ((e.admitted h now).processData h p now
      { consumed := true, parsed := true }) := by
  unfold processData
  rw [admitted_lifecycle]
  by_cases hs : e.state.lifecycle = .kEstablished
  · rw [if_neg (by simpa using hs), admitted_window]
    cases ha : e.ackWindow.accepts h.packetNumber
    · exact Processed.refused hd hm ht hs ha
    · exact Processed.accepted hd hm ht hs ha
  · rw [if_pos hs]
    exact Processed.notEstablished hd hm ht hs

/-- **Inversion of `processDatagram`.** -/
theorem processed (e : RudpEngine) (d : Datagram) (now : UInt64) :
    Processed e d now (e.processDatagram d now) := by
  unfold processDatagram
  cases hl : looksLikeRudp d
  · exact Processed.ignored hl
  · cases hdec : decodePacket d with
    | none =>
      refine Processed.invalid fun h p hd => ?_
      have hsome := hd.2.1
      rw [hdec] at hsome
      exact absurd hsome (by simp)
    | some hp =>
      obtain ⟨h, p⟩ := hp
      by_cases hv : h.version = 1
      · have hd : Parsed d h p := ⟨hl, hdec, hv⟩
        simp only [ne_eq, hv, not_true_eq_false, if_false]
        -- noting the arrival does not touch what the checks before the `switch` read
        have hadm : ((e.received now).adoptConnection h).applyAck h = e.admitted h now := rfl
        unfold processDecoded
        simp only [received_connectionMismatch, hadm, admitted_lifecycle]
        cases hm : e.connectionMismatch h
        · cases ht : h.type with
          | kHello => exact Processed.hello hd hm ht
          | kHelloAck => exact Processed.helloAck hd hm ht
          | kData | other => exact processed_processData hd hm (by rw [ht]; rfl)
          | kPing => exact Processed.ping hd hm ht
          | kClose => exact Processed.close hd hm ht
        · exact Processed.mismatch hd hm
      · simp only [ne_eq, hv, not_false_eq_true, if_true]
        refine Processed.invalid fun h' p' hd => hv ?_
        have heq : (h, p) = (h', p') := Option.mem_unique hdec hd.2.1
        rw [(Prod.mk.inj heq).1]
        exact hd.2.2

/-- The parts of an engine that a datagram changes only by what its acknowledgement and its
    connection id say. -/
structure Keeps (e e' : RudpEngine) : Prop where
  config : e'.config = e.config
  queue : e'.retransmissionQueue = e.retransmissionQueue
  connectionId : e'.state.connectionId = e.state.connectionId
  next : e'.state.nextPacketNumber = e.state.nextPacketNumber

/-- **Frame rule.** A packet of this connection keeps these parts from the point where it was
    admitted, any other datagram keeps them altogether. -/
theorem keeps_processDatagram :
    (∃ h p, Parsed d h p ∧ e.connectionMismatch h = false ∧
        (e.admitted h now).Keeps (e.processDatagram d now).1) ∨
      ((∀ h p, Parsed d h p → e.connectionMismatch h = true) ∧
        e.Keeps (e.processDatagram d now).1) := by
  have hproc := processed e d now
  generalize e.processDatagram d now = r at hproc
  cases hproc with
  | ignored hl =>
    refine Or.inr ⟨fun h p hd => absurd hd.1 ?_, ⟨rfl, rfl, rfl, rfl⟩⟩
    rw [hl]
    simp
  | invalid hd => exact Or.inr ⟨fun h p hd' => absurd hd' (hd h p), ⟨rfl, rfl, rfl, rfl⟩⟩
  | mismatch hd hm =>
    refine Or.inr ⟨fun h p hd' => ?_, ⟨rfl, rfl, rfl, rfl⟩⟩
    rw [← (hd.unique hd').1]
    exact hm
  | hello hd hm ht | helloAck hd hm ht | close hd hm ht | ping hd hm ht
  | notEstablished hd hm ht hs | refused hd hm ht hs ha =>
    exact Or.inl ⟨_, _, hd, hm, ⟨rfl, rfl, rfl, rfl⟩⟩
  | accepted hd hm ht hs ha =>
    exact Or.inl ⟨_, _, hd, hm,
      by rw [accepted_eq]; exact ⟨rfl, rfl, rfl, rfl⟩⟩

/-- The frame rule for a packet that is known to be of this connection. -/
theorem keeps_of_parsed (hd : Parsed d h p) (hm : e.connectionMismatch h = false) :
    (e.admitted h now).Keeps (e.processDatagram d now).1 := by
  rcases keeps_processDatagram with ⟨h', p', hd', -, hkeeps⟩ | ⟨hno, -⟩
  · rwa [(hd'.unique hd).1] at hkeeps
  · rw [hno h p hd] at hm
    exact absurd hm (by simp)

/-! ### What queueing and polling can do -/

/-- The engine after it queued a payload. -/
def queued (e : RudpEngine) (p : List UInt8) (channel : UInt8) (now : UInt64) : RudpEngine :=
  { e with
    retransmissionQueue := e.retransmissionQueue.push e.state.nextPacketNumber now
      (e.makePacket .kData 0 channel e.state.nextPacketNumber now p)
    state := { e.state with
      nextPacketNumber := e.state.nextPacketNumber + 1, lastSendUnixMs := now } }

/-- **Inversion of `queueReliablePayload`.** It is refused, or the payload takes the next
    packet number. -/
theorem queueReliablePayload_cases {ch : UInt8} :
    e.queueReliablePayload p ch now = (e, none) ∨
      (e.state.lifecycle = .kEstablished ∧ p ≠ [] ∧ p.length ≤ e.config.mtuPayloadBytes ∧
        e.queueReliablePayload p ch now = (e.queued p ch now,
          some (e.makePacket .kData 0 ch e.state.nextPacketNumber now p))) := by
  unfold queueReliablePayload
  -- one refusal per check of the source, in its order
  by_cases hs : e.state.lifecycle ≠ .kEstablished
  · exact Or.inl (if_pos hs)
  by_cases hp : p.isEmpty
  · exact Or.inl (by rw [if_neg hs, if_pos hp])
  by_cases hmtu : p.length > e.config.mtuPayloadBytes
  · exact Or.inl (by rw [if_neg hs, if_neg hp, if_pos hmtu])
  rw [if_neg hs, if_neg hp, if_neg hmtu]
  split
  · exact Or.inl rfl
  · split
    · exact Or.inl rfl
    · exact Or.inr ⟨not_not.mp hs, by simpa using hp, not_lt.mp hmtu, rfl⟩

/-- The retransmissions of a `poll` that meets no timeout. -/
def resend (e : RudpEngine) (now : UInt64) : RudpEngine × ProcessResult :=
  let r := e.retransmissionQueue.collectTimeouts now e.state.rtt.rtoMs kPollBatch
  ({ e with retransmissionQueue := r.1 },
   { egressDatagrams := r.2.map fun p => setRetransmit p.encodedFrame
     retransmitCount := r.2.length })

/-- **`poll`** gives up for one of its two timeouts, or it retransmits. -/
theorem poll_eq : e.poll now =
    if e.state.lifecycle = .kHelloSent ∧ e.state.lastSendUnixMs > 0 ∧
        now > e.state.lastSendUnixMs + e.config.handshakeTimeoutMs.toUInt64 then
      e.setFallback {} "rudp_handshake_timeout"
    else if e.state.lifecycle = .kEstablished ∧ e.state.lastRecvUnixMs > 0 ∧
        now > e.state.lastRecvUnixMs + e.config.idleTimeoutMs.toUInt64 then
      e.setFallback {} "rudp_idle_timeout"
    else e.resend now := by
  unfold poll resend
  simp only
  split
  · rfl
  · split
    · rfl
    · -- nothing due is the case of an empty list of retransmissions
      split
      · rename_i hnil
        rw [List.isEmpty_iff.mp hnil]
        rfl
      · rfl

/-- **Inversion of `poll`.** It gives up, or it retransmits. -/
theorem poll_cases :
    (∃ reason, e.poll now = e.setFallback {} reason) ∨ e.poll now = e.resend now := by
  rw [poll_eq]
  split
  · exact Or.inl ⟨_, rfl⟩
  · split
    · exact Or.inl ⟨_, rfl⟩
    · exact Or.inr rfl

end RudpEngine

end Knights.Rudp
