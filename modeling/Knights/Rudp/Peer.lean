import Knights.Rudp.Delivery

namespace Knights.Rudp

open Knights.Lib List RetransmissionQueue

/-!
# RUDP — what calls keep of an engine

Facts about one engine that hold between any two calls, whatever the calls and their data:
nothing in the queue is marked acknowledged, the window describes some set of numbers, the
acknowledgement fields are those of the window, and every pending frame is a data packet with
the number it is filed under.

* `Consistent` and `consistent_run` — the invariant, along every run from a reset engine, with the
  set of numbers that the window describes: those accepted since the last reset;
* `queue_processDatagram`, `pending_next` — what a call does to the queue: only an
  acknowledgement removes, only `queueReliablePayload` adds;
* `egress_processDatagram`, `egress_poll` — what a call sends.
-/

/-- `d` is the version 1 packet with header `h` and payload `p`, the payload length aside. -/
structure IsPacket (d : Datagram) (h : RudpHeader) (p : List UInt8) : Prop where
  eq : d = encodePacket h p
  magic : h.magic = kRudpMagic
  version : h.version = 1
  fits : p.length < 65536

namespace RudpEngine

open AckWindow (Tracks)

variable {e : RudpEngine} {d d' : Datagram} {h : RudpHeader} {p : List UInt8} {now : UInt64}

/-! ### Packets -/

/-- A packet is read as it was written. -/
theorem parsed_iff_of_isPacket (hd : IsPacket d h p) {h' : RudpHeader} {p' : List UInt8} :
    Parsed d h' p' ↔ h' = { h with payloadLength := p.length.toUInt16 } ∧ p' = p := by
  have hdec : decodePacket d = some ({ h with payloadLength := p.length.toUInt16 }, p) := by
    rw [hd.eq]
    exact decodePacket_encodePacket h p hd.fits
  unfold Parsed
  rw [hdec]
  constructor
  · rintro ⟨-, heq, -⟩
    obtain ⟨rfl, rfl⟩ := Prod.mk.inj (Option.some.inj heq)
    exact ⟨rfl, rfl⟩
  · rintro ⟨rfl, rfl⟩
    refine ⟨?_, rfl, hd.version⟩
    rw [hd.eq]
    exact looksLikeRudp_encodePacket h p' hd.magic

/-- The retransmission of a packet is the packet with its flag set. -/
theorem isPacket_setRetransmit (hd : IsPacket d h p) :
    IsPacket (setRetransmit d) { h with flags := h.flags ||| kFlagRetransmit } p where
  eq := by rw [hd.eq, setRetransmit_encodePacket]
  magic := hd.magic
  version := hd.version
  fits := hd.fits

theorem isPacket_makePacket (hp : p.length < 65536) (type : PacketType) (flags channel : UInt8)
    (n : UInt32) :
    IsPacket (e.makePacket type flags channel n now p) (e.header type flags channel n now p) p where
  eq := rfl
  magic := rfl
  version := rfl
  fits := hp

/-! ### The queue -/

/-- **A datagram only removes.** The queue stays, or loses what the acknowledgement of a
    packet of this connection covers. -/
theorem queue_processDatagram :
    (e.processDatagram d now).1.retransmissionQueue = e.retransmissionQueue ∨
      ∃ h p, Parsed d h p ∧ e.connectionMismatch h = false ∧
        (e.processDatagram d now).1.retransmissionQueue
          = e.retransmissionQueue.markAcked h.ackLargest h.ackMask := by
  rcases keeps_processDatagram with ⟨h, p, hd, hm, hkeeps⟩ | ⟨-, hkeeps⟩
  · exact Or.inr ⟨h, p, hd, hm, by rw [hkeeps.queue, admitted_queue]⟩
  · exact Or.inl hkeeps.queue

/-- What a datagram leaves in the queue was there. -/
theorem pending_processDatagram (hq : e.retransmissionQueue.Settled) {x : Entry}
    (hx : x ∈ (e.processDatagram d now).1.retransmissionQueue.pending) :
    x ∈ e.retransmissionQueue.pending := by
  rcases queue_processDatagram with hsame | ⟨h, p, -, -, hmark⟩
  · rwa [hsame] at hx
  · rw [hmark, mem_markAcked hq] at hx
    exact hx.1

/-- A `poll` keeps every entry, but for the times it was sent. -/
theorem pending_poll : (e.poll now).1.retransmissionQueue.pending.map Entry.body
      = e.retransmissionQueue.pending.map Entry.body := by
  rcases poll_cases with ⟨reason, hp⟩ | hp
  · rw [hp, setFallback_queue]
  · rw [hp]
    unfold resend RetransmissionQueue.collectTimeouts
    split
    · rfl
    · exact collect_map fun _ => rfl

/-- The body of the entry that a queued payload makes. -/
theorem pending_queued {ch : UInt8} :
    (e.queued p ch now).retransmissionQueue.pending = e.retransmissionQueue.pending ++
      [{ packet := { packetNumber := e.state.nextPacketNumber, firstSentUnixMs := now
                     lastSentUnixMs := now, retransmitCount := 0
                     encodedFrame := e.makePacket .kData 0 ch e.state.nextPacketNumber now p } }] :=
  by
  have hlen : 0 < (e.makePacket .kData 0 ch e.state.nextPacketNumber now p).length := by
    rw [makePacket, encodePacket_length]
    exact Nat.add_pos_left (by decide) _
  show (e.retransmissionQueue.push _ _ _).pending = _
  rw [RetransmissionQueue.push, if_neg (by simpa using ne_nil_of_length_pos hlen)]

/-- **Where pending entries come from.** After a call, an entry was there before, or it is the
    payload just queued. -/
theorem pending_next (hq : e.retransmissionQueue.Settled) (c : Call) {x : Entry}
    (hx : x ∈ (machine.next e c).retransmissionQueue.pending) :
    (∃ y ∈ e.retransmissionQueue.pending, Entry.body y = Entry.body x) ∨
      ∃ p ch now, c = .queueReliablePayload p ch now ∧ p ≠ [] ∧
        p.length ≤ e.config.mtuPayloadBytes ∧
        (e.queueReliablePayload p ch now).2 ≠ none ∧
        Entry.body x = (e.state.nextPacketNumber,
          e.makePacket .kData 0 ch e.state.nextPacketNumber now p, false) := by
  cases c with
  | processDatagram d now => exact Or.inl ⟨x, pending_processDatagram hq hx, rfl⟩
  | queueReliablePayload p ch now =>
    change x ∈ (e.queueReliablePayload p ch now).1.retransmissionQueue.pending at hx
    rcases queueReliablePayload_cases with hr | ⟨-, hp, hmtu, hr⟩
    · rw [hr] at hx
      exact Or.inl ⟨x, hx, rfl⟩
    · rw [hr, pending_queued, mem_append, mem_singleton] at hx
      rcases hx with hx | rfl
      · exact Or.inl ⟨x, hx, rfl⟩
      · refine Or.inr ⟨p, ch, now, rfl, hp, hmtu, ?_, rfl⟩
        rw [hr]
        simp
  | poll now =>
    have hmem := mem_map_of_mem (f := Entry.body) hx
    rw [show (machine.next e (.poll now)) = (e.poll now).1 from rfl, pending_poll] at hmem
    obtain ⟨y, hy, hbody⟩ := mem_map.mp hmem
    exact Or.inl ⟨y, hy, hbody⟩
  | makeHello | makeClose => exact Or.inl ⟨x, hx, rfl⟩
  | reset => exact absurd hx (by simp [Machine.next, machine, reset])

/-! ### What a call sends -/

/-- `d` is a packet without number and payload that carries the engine's acknowledgement. -/
def Control (e : RudpEngine) (d : Datagram) : Prop :=
  ∃ h, IsPacket d h [] ∧ h.packetNumber = 0 ∧ h.ackLargest = e.state.ackLargest ∧
    h.ackMask = e.state.ackMask

/-- **A datagram is answered by control packets** that carry the acknowledgement as it is
    after the call. -/
theorem egress_processDatagram (hd' : d' ∈ (e.processDatagram d now).2.egressDatagrams) :
    (e.processDatagram d now).1.Control d' := by
  have hproc := processed e d now
  generalize e.processDatagram d now = r at hproc hd'
  cases hproc with
  | ignored | invalid | mismatch | helloAck | close | notEstablished | refused =>
    exact absurd hd' (by simp)
  | hello | ping =>
    rw [mem_singleton.mp hd']
    exact ⟨_, isPacket_makePacket (by simp) _ _ _ _, rfl, rfl, rfl⟩
  | accepted hd hm ht hs ha =>
    unfold emittedAcks at hd'
    split at hd'
    · rw [mem_singleton.mp hd']
      rw [accepted_eq]
      exact ⟨_, isPacket_makePacket (by simp) _ _ _ _, rfl, observePacket_ackLargest,
        observePacket_ackMask⟩
    · exact absurd hd' (by simp)

/-- **A `poll` sends pending frames again.** -/
theorem egress_poll (hd' : d' ∈ (e.poll now).2.egressDatagrams) :
    ∃ x ∈ e.retransmissionQueue.pending, d' = setRetransmit x.packet.encodedFrame := by
  rcases poll_cases with ⟨reason, hp⟩ | hp
  · rw [hp, setFallback_egress] at hd'
    exact absurd hd' (by simp)
  · rw [hp] at hd'
    unfold resend RetransmissionQueue.collectTimeouts at hd'
    split at hd'
    · exact absurd hd' (by simp)
    · obtain ⟨y, hy, rfl⟩ := mem_map.mp hd'
      -- a collected packet is a due entry with its times changed
      have hmem := collect_due.subset hy
      obtain ⟨x, hx, rfl⟩ := mem_map.mp hmem
      exact ⟨x, (mem_filter.mp hx).1, rfl⟩

/-! ### The invariant -/

/-- `d` is the reliable data packet number `n`, as it was first sent. -/
structure DataFrame (mtu : Nat) (n : UInt32) (d : Datagram) (h : RudpHeader) (p : List UInt8) :
    Prop where
  eq : d = encodePacket h p
  magic : h.magic = kRudpMagic
  version : h.version = 1
  type : h.type = .kData
  flags : h.flags = 0
  number : h.packetNumber = n
  nonempty : p ≠ []
  length_le : p.length ≤ mtu

/-- The acknowledgement fields are those of the window. -/
def AckFields (e : RudpEngine) : Prop :=
  e.state.ackLargest = e.ackWindow.largest ∧ e.state.ackMask = e.ackWindow.mask

/-- What holds of an engine between calls. -/
structure Consistent (e : RudpEngine) : Prop where
  settled : e.retransmissionQueue.Settled
  tracks : ∃ S, Tracks e.ackWindow S
  ack : e.AckFields
  frames : ∀ x ∈ e.retransmissionQueue.pending, ∃ h p,
    DataFrame e.config.mtuPayloadBytes x.packet.packetNumber x.packet.encodedFrame h p

/-- No call changes the configuration. -/
theorem config_next {c : Call} : (machine.next e c).config = e.config := by
  cases c with
  | processDatagram d now =>
    show (e.processDatagram d now).1.config = e.config
    rcases keeps_processDatagram with ⟨h, p, -, -, hkeeps⟩ | ⟨-, hkeeps⟩
    · rw [hkeeps.config, admitted_config]
    · exact hkeeps.config
  | queueReliablePayload p ch now =>
    show (e.queueReliablePayload p ch now).1.config = e.config
    rcases queueReliablePayload_cases with hr | ⟨-, -, -, hr⟩ <;> rw [hr]
    rfl
  | poll now =>
    show (e.poll now).1.config = e.config
    rcases poll_cases with ⟨reason, hp⟩ | hp <;> rw [hp] <;> rfl
  | makeHello | makeClose | reset => rfl

/-- Every call keeps the acknowledgement fields those of the window. -/
theorem ackFields_next (ha : e.AckFields) (c : Call) : (machine.next e c).AckFields := by
  cases c with
  | processDatagram d now =>
    show (e.processDatagram d now).1.AckFields
    have hproc := processed e d now
    generalize e.processDatagram d now = r at hproc
    cases hproc with
    | ignored | invalid | mismatch => exact ha
    | hello | helloAck | close | ping | notEstablished =>
      rw [admitted_eq]
      exact ha
    | refused => exact ⟨observePacket_ackLargest, observePacket_ackMask⟩
    | accepted =>
      rw [accepted_eq]
      exact ⟨rfl, rfl⟩
  | queueReliablePayload p ch now =>
    show (e.queueReliablePayload p ch now).1.AckFields
    rcases queueReliablePayload_cases with hr | ⟨-, -, -, hr⟩ <;> rw [hr] <;>
      exact ha
  | poll now =>
    show (e.poll now).1.AckFields
    rcases poll_cases with ⟨reason, hp⟩ | hp <;> rw [hp] <;> exact ha
  | makeHello | makeClose => exact ha
  | reset => exact ⟨rfl, rfl⟩

/-- No call leaves a mark in the queue. -/
theorem settled_next (hq : e.retransmissionQueue.Settled) (c : Call) :
    (machine.next e c).retransmissionQueue.Settled := by
  intro x hx
  rcases pending_next hq c hx with ⟨y, hy, hbody⟩ | ⟨p, ch, now, -, -, -, -, hbody⟩
  · rw [← show y.acked = x.acked from congrArg (·.2.2) hbody]
    exact hq y hy
  · exact congrArg (·.2.2) hbody

/-- The numbers that the window describes after a call, if they were `S` before. -/
def acceptedNext (S : Set ℕ) (e : RudpEngine) : Call → Set ℕ
  | .reset => ∅
  | .processDatagram d _ => S ∪ {n | ∃ h p, e.Accepts d h p ∧ h.packetNumber.toNat = n}
  | _ => S

/-- The numbers accepted since the last reset, `S` being those accepted before the calls. -/
def acceptedSince (S : Set ℕ) : RudpEngine → List Call → Set ℕ
  | _, [] => S
  | e, c :: calls => acceptedSince (acceptedNext S e c) (machine.next e c) calls

/-- **The window over one call** gains the number that the call brings, if it is accepted. -/
theorem tracks_next {S : Set ℕ} (hS : Tracks e.ackWindow S) (c : Call) :
    Tracks (machine.next e c).ackWindow (acceptedNext S e c) := by
  cases c with
  | processDatagram d now =>
    show Tracks (e.processDatagram d now).1.ackWindow (S ∪ _)
    rcases processDatagram_window hS d now with ⟨hnone, -, hsame⟩ | ⟨h, p, ha, -, -, htr⟩
    · have hset : {n | ∃ h p, e.Accepts d h p ∧ h.packetNumber.toNat = n} = ∅ := by
        simp [hnone]
      rw [hsame, hset, Set.union_empty]
      exact hS
    · have hset : {n | ∃ h p, e.Accepts d h p ∧ h.packetNumber.toNat = n} =
          {h.packetNumber.toNat} := by
        ext n
        constructor
        · rintro ⟨h', p', ha', rfl⟩
          rw [(ha.parsed.unique ha'.parsed).1]
          rfl
        · rintro rfl
          exact ⟨h, p, ha, rfl⟩
      rw [hset, Set.union_singleton]
      exact htr
  | reset => exact Tracks.fresh
  | queueReliablePayload | poll | makeHello | makeClose =>
    rw [next_window (by simp) (by simp)]
    exact hS

/-- A reset engine is consistent. -/
theorem consistent_reset (e : RudpEngine) : e.reset.Consistent where
  settled := fun _ hx => absurd hx (by simp [reset])
  tracks := ⟨∅, Tracks.fresh⟩
  ack := ⟨rfl, rfl⟩
  frames := fun _ hx => absurd hx (by simp [reset])

/-- **Every call keeps an engine consistent.** -/
theorem Consistent.next (he : e.Consistent) (c : Call) : (machine.next e c).Consistent where
  settled := settled_next he.settled c
  tracks := by
    obtain ⟨S, hS⟩ := he.tracks
    exact ⟨_, tracks_next hS c⟩
  ack := ackFields_next he.ack c
  frames := by
    intro x hx
    rw [config_next]
    rcases pending_next he.settled c hx with ⟨y, hy, hbody⟩ | ⟨p, ch, now, -, hp, hmtu, -, hbody⟩
    · -- an old entry keeps its number and its frame
      obtain ⟨h, p, hf⟩ := he.frames y hy
      rw [show y.packet.packetNumber = x.packet.packetNumber from congrArg (·.1) hbody,
        show y.packet.encodedFrame = x.packet.encodedFrame from congrArg (·.2.1) hbody] at hf
      exact ⟨h, p, hf⟩
    · rw [show x.packet.packetNumber = _ from congrArg (·.1) hbody,
        show x.packet.encodedFrame = _ from congrArg (·.2.1) hbody]
      exact ⟨e.header .kData 0 ch e.state.nextPacketNumber now p, p,
        ⟨rfl, rfl, rfl, rfl, rfl, rfl, hp, hmtu⟩⟩

/-- **The invariant along every run**, and the set of numbers that the window describes. -/
theorem consistent_run {calls : List Call} : (machine.run e.reset calls).Consistent ∧
    Tracks (machine.run e.reset calls).ackWindow (acceptedSince ∅ e.reset calls) := by
  refine ⟨machine.run_invariant Consistent (fun _ c he => he.next c) (consistent_reset e) calls, ?_⟩
  have hfresh : Tracks e.reset.ackWindow ∅ := Tracks.fresh
  generalize e.reset = e at hfresh
  generalize (∅ : Set ℕ) = S at hfresh ⊢
  induction calls generalizing e S with
  | nil => exact hfresh
  | cons c calls ih => exact ih _ _ (tracks_next hfresh c)

end RudpEngine

end Knights.Rudp
