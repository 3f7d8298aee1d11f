import Knights.Protocol.Opcode
import Knights.Rudp.Engine

namespace Knights.Gateway

open Knights.Lib Knights.Protocol Knights.Rudp List

/-!
# Gateway — datagrams of a bound endpoint

What `do_udp_receive` does with a datagram from the endpoint that a session is bound to
(`gateway/src/gateway_app.cpp`).  A datagram with the RUDP magic goes to the session's engine, and
the inner frames it delivers are checked and forwarded; any other datagram is checked and forwarded
as it is.  The opcode tables and the allowlists are parameters.

* `UdpSequencedMetrics.packets_counted` — what the tracker of sequenced packets says of any run;
* `isFrame_receive` — whatever passes the checks is a complete frame.
-/

/-! ### Sequenced packets -/

/-- The order and quality tracker of a session. -/
structure UdpSequencedMetrics where
  initialized : Bool := false
  lastSeq : UInt32 := 0
  lastRecvMs : UInt64 := 0
  lastInterarrivalMs : UInt64 := 0
  deriving DecidableEq, Repr

/-- How a packet was classified. -/
structure UpdateResult where
  accepted : Bool := false
  duplicate : Bool := false
  reordered : Bool := false
  estimatedLostPackets : UInt64 := 0
  jitterMs : UInt64 := 0
  deriving DecidableEq, Repr

/-- Change in the time between arrivals. -/
def UdpSequencedMetrics.jitter (m : UdpSequencedMetrics) (interarrivalMs : UInt64) : UInt64 :=
  if m.lastInterarrivalMs = 0 then 0
  else if interarrivalMs ≥ m.lastInterarrivalMs then interarrivalMs - m.lastInterarrivalMs
  else m.lastInterarrivalMs - interarrivalMs

/-- Classify a packet by its sequence number and arrival time. -/
def UdpSequencedMetrics.onPacket (m : UdpSequencedMetrics) (seq : UInt32) (recvUnixMs : UInt64) :
    UdpSequencedMetrics × UpdateResult :=
  if !m.initialized then
    ({ initialized := true, lastSeq := seq, lastRecvMs := recvUnixMs, lastInterarrivalMs := 0 },
      { accepted := true })
  else if seq = m.lastSeq then (m, { duplicate := true })
  else if seq < m.lastSeq then (m, { reordered := true })
  else
    let lost : UInt64 := if seq > m.lastSeq + 1 then (seq - m.lastSeq - 1).toUInt64 else 0
    if m.lastRecvMs = 0 then
      ({ m with lastSeq := seq, lastRecvMs := recvUnixMs },
        { accepted := true, estimatedLostPackets := lost })
    else if recvUnixMs ≥ m.lastRecvMs then
      let interarrivalMs := recvUnixMs - m.lastRecvMs
      ({ m with lastSeq := seq, lastRecvMs := recvUnixMs, lastInterarrivalMs := interarrivalMs },
        { accepted := true, estimatedLostPackets := lost, jitterMs := m.jitter interarrivalMs })
    else
      ({ m with lastSeq := seq, lastRecvMs := recvUnixMs, lastInterarrivalMs := 0 },
        { accepted := true, estimatedLostPackets := lost })

namespace UdpSequencedMetrics

/-- **The tracker.** A packet is accepted if it is the first one or its number is above the last,
    and the numbers between are lost.  Otherwise the tracker is left as it was. -/
theorem onPacket_cases (m : UdpSequencedMetrics) (seq : UInt32) (recvUnixMs : UInt64) :
    (∃ lost jitterMs, (m.onPacket seq recvUnixMs).2 =
          { accepted := true, estimatedLostPackets := lost, jitterMs } ∧
        (m.onPacket seq recvUnixMs).1.initialized = true ∧
        (m.onPacket seq recvUnixMs).1.lastSeq = seq ∧
        (m.initialized = false ∧ lost = 0 ∨
          m.initialized = true ∧ m.lastSeq.toNat + lost.toNat + 1 = seq.toNat)) ∨
      m.initialized = true ∧ m.onPacket seq recvUnixMs =
        (m, { duplicate := decide (seq = m.lastSeq), reordered := decide (seq ≠ m.lastSeq) }) := by
  unfold UdpSequencedMetrics.onPacket
  dsimp only
  generalize hlost : (if seq > m.lastSeq + 1 then _ else _ : UInt64) = lost
  split_ifs with hinit heq hlt
  · exact .inl ⟨0, 0, rfl, rfl, rfl, .inl ⟨by simpa using hinit, rfl⟩⟩
  · exact .inr ⟨by simpa using hinit, by simp [heq]⟩
  · exact .inr ⟨by simpa using hinit, by simp [heq]⟩
  all_goals
    have hinit : m.initialized = true := by simpa using hinit
    have hgap : m.lastSeq.toNat + lost.toNat + 1 = seq.toNat := by
      have hne : seq.toNat ≠ m.lastSeq.toNat := fun h => heq (UInt32.toNat_inj.mp h)
      have hseq := seq.toNat_lt
      subst hlost
      split_ifs with hgap <;> simp only [gt_iff_lt, UInt32.lt_iff_toNat_lt, UInt32.toNat_add,
        UInt32.toNat_one, UInt32.toNat_toUInt64, UInt32.toNat_sub, UInt64.toNat_zero] at * <;>
        omega
    exact .inl ⟨lost, _, rfl, hinit, rfl, .inr ⟨hinit, hgap⟩⟩

/-- The tracker under packets, each with its number and the time when it came. -/
def machine : Machine UdpSequencedMetrics (UInt32 × UInt64) UpdateResult where
  step m p := m.onPacket p.1 p.2

section Counts

variable (tr : List (Event UdpSequencedMetrics (UInt32 × UInt64) UpdateResult))

/-- The accepted numbers. -/
def acceptedSeqs : List UInt32 := (tr.filter (·.output.accepted)).map (·.input.1)

/-- How many packets are taken for lost. -/
def lostPackets : ℕ := (tr.map (·.output.estimatedLostPackets.toNat)).sum

/-- What the tracker knows: nothing was accepted, or its number was the last, and between the
    first and the last every number was accepted or is lost. -/
def Counts (m : UdpSequencedMetrics) : Prop :=
  (acceptedSeqs tr).Pairwise (· < ·) ∧
    ((m.initialized = false ∧ acceptedSeqs tr = [] ∧ lostPackets tr = 0) ∨
      m.initialized = true ∧ ∃ first, (acceptedSeqs tr).head? = some first ∧
        (acceptedSeqs tr).getLast? = some m.lastSeq ∧
        lostPackets tr + (acceptedSeqs tr).length + first.toNat = m.lastSeq.toNat + 1)

theorem counts_run (ps : List (UInt32 × UInt64)) :
    Counts (machine.trace {} ps) (machine.run {} ps) := by
  refine machine.trace_invariant Counts ?_ ⟨.nil, .inl ⟨rfl, rfl, rfl⟩⟩ ps
  rintro tr m ⟨seq, recvUnixMs⟩ ⟨hincreasing, hcounts⟩
  have hseqs : ∀ r : UpdateResult, acceptedSeqs (tr ++ [⟨m, (seq, recvUnixMs), r⟩]) =
      acceptedSeqs tr ++ if r.accepted then [seq] else [] := by
    intro r
    cases hr : r.accepted <;> simp [acceptedSeqs, hr]
  have hlosts : ∀ r : UpdateResult, lostPackets (tr ++ [⟨m, (seq, recvUnixMs), r⟩]) =
      lostPackets tr + r.estimatedLostPackets.toNat := by simp [lostPackets]
  have hcases := onPacket_cases m seq recvUnixMs
  show Counts (tr ++ [⟨m, (seq, recvUnixMs), (m.onPacket seq recvUnixMs).2⟩])
    (m.onPacket seq recvUnixMs).1
  generalize m.onPacket seq recvUnixMs = r at hcases ⊢
  rw [Counts, hseqs, hlosts]
  obtain ⟨lost, jitterMs, hresult, hinit, rfl, hcase⟩ | ⟨hinit, rfl⟩ := hcases
  · rw [hresult, if_pos rfl]
    obtain ⟨hfresh, hnone, hzero⟩ | ⟨hrun, first, hhead, hlast, hsum⟩ := hcounts
    · obtain ⟨-, rfl⟩ | ⟨hrun, -⟩ := hcase
      · rw [hnone, hzero]
        exact ⟨pairwise_singleton .., .inr ⟨hinit, _, rfl, rfl, Nat.add_comm ..⟩⟩
      · exact absurd hrun (by simp [hfresh])
    · obtain ⟨hfresh, -⟩ | ⟨-, hnext⟩ := hcase
      · exact absurd hrun (by simp [hfresh])
      · refine ⟨pairwise_append.mpr ⟨hincreasing, pairwise_singleton .., ?_⟩,
          .inr ⟨hinit, first, by simp [hhead], by simp, ?_⟩⟩
        · -- the last accepted number is the largest
          obtain ⟨seqs, hseqs⟩ := List.getLast?_eq_some_iff.mp hlast
          rw [hseqs, pairwise_append] at hincreasing
          simp only [hseqs, mem_append, mem_singleton, UInt32.lt_iff_toNat_lt] at hincreasing ⊢
          rintro x (hx | rfl) _ rfl
          · have := hincreasing.2.2 x hx _ rfl
            omega
          · omega
        · rw [length_append, length_singleton]
          dsimp only
          omega
  · simpa using ⟨hincreasing, hcounts⟩

/-- **The tracker counts.** The accepted numbers increase, and from the first to the last every
    number was accepted or counted as lost.  A packet is accepted, or a duplicate of the last
    accepted one, or out of order, and one that is not accepted changes no later result. -/
theorem packets_counted (ps : List (UInt32 × UInt64)) :
    (acceptedSeqs (machine.trace {} ps)).Pairwise (· < ·) ∧
    (∀ first last, (acceptedSeqs (machine.trace {} ps)).head? = some first →
      (acceptedSeqs (machine.trace {} ps)).getLast? = some last →
      lostPackets (machine.trace {} ps) + (acceptedSeqs (machine.trace {} ps)).length =
        last.toNat - first.toNat + 1) ∧
    ∀ p r, r = (machine.step (machine.run {} ps) p).2 →
      [r.accepted, r.duplicate, r.reordered].count true = 1 ∧
      (r.duplicate = true ↔ (acceptedSeqs (machine.trace {} ps)).getLast? = some p.1) ∧
      (r.accepted = false → ∀ qs, machine.trace (machine.run {} (ps ++ [p])) qs =
        machine.trace (machine.run {} ps) qs) := by
  obtain ⟨hincreasing, hcounts⟩ := counts_run ps
  refine ⟨hincreasing, fun first last hhead hlast => ?_, ?_⟩
  · obtain ⟨-, hnone, -⟩ | ⟨-, first', hhead', hlast', hsum⟩ := hcounts
    · rw [hnone] at hhead
      cases hhead
    · obtain rfl := Option.mem_unique hhead hhead'
      obtain rfl := Option.mem_unique hlast hlast'
      have := length_pos_of_mem (mem_of_head? hhead)
      omega
  · rintro ⟨seq, recvUnixMs⟩ r rfl
    rw [machine.run_append]
    generalize machine.run {} ps = m at hcounts ⊢
    obtain ⟨lost, jitterMs, hresult, -, -, hcase⟩ | ⟨hinit, hsame⟩ :=
      onPacket_cases m seq recvUnixMs
    · rw [show (machine.step m (seq, recvUnixMs)).2 = _ from hresult]
      refine ⟨rfl, iff_of_false Bool.false_ne_true fun hdup => ?_, nofun⟩
      obtain ⟨-, hnone, -⟩ | ⟨hrun, first, -, hlast, -⟩ := hcounts
      · rw [hnone] at hdup
        cases hdup
      · obtain rfl : seq = m.lastSeq := Option.mem_unique hdup hlast
        obtain ⟨hfresh, -⟩ | ⟨-, hnext⟩ := hcase
        · exact absurd hrun (by simp [hfresh])
        · omega
    · obtain ⟨hfresh, -⟩ | ⟨-, first, -, hlast, -⟩ := hcounts
      · exact absurd hinit (by simp [hfresh])
      · rw [hlast, Machine.run_cons, Machine.run_nil, Machine.next,
          show machine.step m (seq, recvUnixMs) = _ from hsame]
        refine ⟨?_, ?_, fun _ _ => rfl⟩ <;> by_cases hseq : seq = m.lastSeq <;> simp [hseq]
        exact fun h => hseq h.symm

end Counts

end UdpSequencedMetrics

/-! ### The receive path -/

/-- The part of the rollout policy that the receive path reads. -/
structure RudpRolloutPolicy where
  enabled : Bool := false
  opcodeAllowlist : List UInt16 := []
  deriving DecidableEq, Repr

/-- Whether an opcode may come by RUDP. -/
def RudpRolloutPolicy.opcodeAllowed (p : RudpRolloutPolicy) (opcode : UInt16) : Bool :=
  !p.opcodeAllowlist.isEmpty && p.opcodeAllowlist.contains opcode

/-- The gateway's settings for UDP.  An empty allowlist from the environment becomes the default
    one. -/
structure UdpConfig where
  system : OpcodeTable := systemOpcodes
  game : OpcodeTable := gameOpcodes
  udpOpcodeAllowlist : List UInt16 := [MSG_UDP_BIND_REQ]
  rudpRolloutPolicy : RudpRolloutPolicy := {}
  rudpConfig : RudpConfig := {}

namespace UdpConfig

/-- The opcode is in one of the tables. -/
def knows (cfg : UdpConfig) (msgId : UInt16) : Bool :=
  !(cfg.game.opcodeName msgId).isEmpty || !(cfg.system.opcodeName msgId).isEmpty

/-- The policy of an opcode; the table of game messages comes first. -/
def policy (cfg : UdpConfig) (msgId : UInt16) : OpcodePolicy :=
  if !(cfg.game.opcodeName msgId).isEmpty then cfg.game.opcodePolicy msgId
  else cfg.system.opcodePolicy msgId

end UdpConfig

/-- The UDP side of a session. -/
structure UdpSession where
  udpBound : Bool := false
  udpSequencedMetrics : UdpSequencedMetrics := {}
  rudpSelected : Bool := false
  rudpFallbackToTcp : Bool := false
  rudpEngine : Option RudpEngine := none
  deriving DecidableEq, Repr

/-- A bind response that refuses a datagram. -/
structure BindReply where
  code : UInt16
  message : String
  seq : UInt32
  deriving DecidableEq, Repr

/-- What a datagram makes the gateway do: frames handed to `BackendConnection::send`, datagrams of
    the engine, a refusal. -/
structure UdpResult where
  forwarded : List Bytes := []
  egress : List Datagram := []
  reply : Option BindReply := none
  deriving DecidableEq, Repr

/-- The message id is in no table. -/
def UNKNOWN_MSG_ID : UInt16 := 0x0003

/-- No session for the endpoint. -/
def UNAUTHORIZED : UInt16 := 0x0101

/-- Not allowed on this path. -/
def FORBIDDEN : UInt16 := 0x0102

/-- The size of a buffer is that of the message its header announces. -/
def wellSized (bs : Bytes) : Bool :=
  !(bs.length < kHeaderBytes) && (Protocol.decodeHeader bs).length.toNat == bs.length - kHeaderBytes

namespace UdpSession

section

variable (s : UdpSession) (cfg : UdpConfig)

/-- The part of `apply_udp_bind_request` behind its checks: the session is bound. -/
def bind : UdpSession :=
  { s with
    udpBound := true
    udpSequencedMetrics := {}
    rudpFallbackToTcp := false
    rudpEngine :=
      if s.rudpSelected && s.rudpEngine.isNone then some { config := cfg.rudpConfig }
      else s.rudpEngine }

/-- The checks of an inner frame. -/
def innerAllowed (frame : Bytes) : Bool :=
  let msgId := (Protocol.decodeHeader frame).msgId
  wellSized frame && cfg.knows msgId && cfg.rudpRolloutPolicy.opcodeAllowed msgId &&
    transportAllows (cfg.policy msgId).transport .kUdp

/-- The loop over the inner frames: those before the first one that fails a check, and whether
    there is such a one. -/
def forwardInner (cfg : UdpConfig) : List Bytes → List Bytes × Bool
  | [] => ([], false)
  | frame :: frames =>
    if innerAllowed cfg frame then
      let rest := forwardInner cfg frames
      (frame :: rest.1, rest.2)
    else ([], true)

/-- A datagram with the RUDP magic. -/
def receiveRudp (d : Datagram) (now : UInt64) : UdpSession × UdpResult :=
  if !s.udpBound then (s, {})
  else
    match s.rudpEngine with
    | none => ({ s with rudpFallbackToTcp := true }, {})
    | some engine =>
      if !cfg.rudpRolloutPolicy.enabled || !s.rudpSelected || s.rudpFallbackToTcp then
        ({ s with rudpFallbackToTcp := true }, {})
      else
        let processed := engine.processDatagram d now
        -- the handler polls the engine after every datagram
        let polled := processed.1.poll now
        let egress := processed.2.egressDatagrams ++ polled.2.egressDatagrams
        -- what the engine delivered in a call that asks for fallback is not forwarded
        if processed.2.fallbackRequired || polled.2.fallbackRequired then
          ({ s with rudpEngine := some polled.1, rudpFallbackToTcp := true }, { egress := egress })
        else
          let inner := forwardInner cfg processed.2.innerFrames
          ({ s with rudpEngine := some polled.1, rudpFallbackToTcp := inner.2 },
            { forwarded := inner.1, egress := egress })

/-- Any other datagram.  A bind request never reaches the backend; one that is accepted is `bind`
    here. -/
def receivePlain (d : Datagram) (now : UInt64) : UdpSession × UdpResult :=
  let header := Protocol.decodeHeader d
  let refuse (code : UInt16) (message : String) : UdpResult :=
    { reply := some { code := code, message := message, seq := header.seq } }
  if !wellSized d then (s, {})
  else if header.msgId = MSG_UDP_BIND_REQ then (s, {})
  else if !s.udpBound then (s, refuse UNAUTHORIZED "udp session not bound")
  else if !cfg.knows header.msgId then (s, refuse UNKNOWN_MSG_ID "unknown udp msg_id")
  else if !cfg.udpOpcodeAllowlist.contains header.msgId then
    (s, refuse FORBIDDEN "opcode not in udp allowlist")
  else if !transportAllows (cfg.policy header.msgId).transport .kUdp then
    (s, refuse FORBIDDEN "opcode not allowed on udp")
  else if (cfg.policy header.msgId).delivery = .kUnreliableSequenced then
    let update := s.udpSequencedMetrics.onPacket header.seq now
    let s := { s with udpSequencedMetrics := update.1 }
    if !update.2.accepted then (s, refuse FORBIDDEN "stale sequenced udp packet")
    else (s, { forwarded := [d] })
  else (s, { forwarded := [d] })

/-- `do_udp_receive`. -/
def receive (d : Datagram) (now : UInt64) : UdpSession × UdpResult :=
  if looksLikeRudp d then s.receiveRudp cfg d now else s.receivePlain cfg d now

end

/-! ### Only frames are forwarded -/

theorem isFrame_of_wellSized {bs : Bytes} (h : wellSized bs = true) : packetFraming.IsFrame bs := by
  simp only [wellSized, Bool.and_eq_true, Bool.not_eq_true', decide_eq_false_iff_not,
    beq_iff_eq] at h
  exact isFrame_iff.mpr ⟨Nat.le_of_not_lt h.1, h.2⟩

variable {s : UdpSession} {cfg : UdpConfig} {d : Datagram} {now : UInt64}

/-- The loop over inner frames forwards frames. -/
theorem isFrame_forwardInner {frames : List Bytes} :
    ∀ f ∈ (forwardInner cfg frames).1, packetFraming.IsFrame f := by
  induction frames with
  | nil => exact fun f hf => absurd hf not_mem_nil
  | cons frame frames ih =>
    unfold forwardInner
    by_cases hok : innerAllowed cfg frame = true
    · rw [if_pos hok]
      intro f hf
      rcases mem_cons.mp hf with rfl | hf
      · simp only [innerAllowed, Bool.and_eq_true] at hok
        exact isFrame_of_wellSized hok.1.1.1
      · exact ih f hf
    · rw [if_neg hok]
      exact fun f hf => absurd hf not_mem_nil

/-- So does the RUDP path. -/
theorem isFrame_receiveRudp :
    ∀ f ∈ (s.receiveRudp cfg d now).2.forwarded, packetFraming.IsFrame f := by
  have hnone : ∀ f ∈ ([] : List Bytes), packetFraming.IsFrame f :=
    fun f hf => absurd hf not_mem_nil
  unfold receiveRudp
  cases s.rudpEngine with
  | none => split_ifs <;> exact hnone
  | some engine =>
    simp only
    split_ifs
    · exact hnone
    · exact hnone
    · exact hnone
    · exact isFrame_forwardInner

/-- And the plain one. -/
theorem isFrame_receivePlain :
    ∀ f ∈ (s.receivePlain cfg d now).2.forwarded, packetFraming.IsFrame f := by
  have hnone : ∀ f ∈ ([] : List Bytes), packetFraming.IsFrame f :=
    fun f hf => absurd hf not_mem_nil
  unfold receivePlain
  by_cases hsize : wellSized d = true
  · have hone : ∀ f ∈ [d], packetFraming.IsFrame f := by
      intro f hf
      rw [mem_singleton.mp hf]
      exact isFrame_of_wellSized hsize
    simp only [hsize, Bool.not_true, Bool.false_eq_true, if_false]
    split_ifs <;> first | exact hnone | exact hone
  · simp only [hsize, Bool.not_false, if_true]
    exact hnone

/-- **Whatever passes the checks is a frame.** -/
theorem isFrame_receive : ∀ f ∈ (s.receive cfg d now).2.forwarded, packetFraming.IsFrame f := by
  unfold receive
  split_ifs
  · exact isFrame_receiveRudp
  · exact isFrame_receivePlain

end UdpSession

end Knights.Gateway
