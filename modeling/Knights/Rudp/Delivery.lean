import Knights.Rudp.Engine

namespace Knights.Rudp

open Knights.Lib List AckWindow

/-!
# RUDP — at-most-once delivery

Between two resets an engine hands on at most one inner frame per packet number, whatever
datagrams it is fed and however they are interleaved with other calls.

* `call_window` — the step: a call that is not a reset keeps the numbers the window remembers,
  and hands on a frame only for a number the window did not remember and now does;
* `contributions_le_one` — the run, by induction on the calls: a number the window remembers
  never contributes again, any other at most once;
* `delivered_at_most_once` — the run from a reset engine, where the window remembers nothing;
* `delivery_gate` — what a packet must be for its payload to be handed on: a type byte outside the
  enumeration and a missing connection id get past the checks (`delivery_gate_passed`).
-/

namespace RudpEngine

open AckWindow (Tracks)

variable {e : RudpEngine} {S : Set ℕ}

/-- The datagram decodes to a packet with this number. -/
def carriesNumber (n : UInt32) (d : Datagram) : Bool :=
  match decodePacket d with
  | some (h, _) => h.packetNumber == n
  | none => false

/-- The event is a datagram with packet number `n` that contributed an inner frame. -/
def contributes (n : UInt32) (ev : Event RudpEngine Call Reply) : Bool :=
  match ev.input, ev.output with
  | .processDatagram d _, .result r => carriesNumber n d && !r.innerFrames.isEmpty
  | _, _ => false

/-- The datagram is a packet of this connection that gets to the window, and the window takes
    it. -/
structure Accepts (e : RudpEngine) (d : Datagram) (h : RudpHeader) (p : List UInt8) : Prop where
  parsed : Parsed d h p
  connection : e.connectionMismatch h = false
  type : fallsThrough h.type = true
  established : e.state.lifecycle = .kEstablished
  taken : e.ackWindow.accepts h.packetNumber = true

/-- **The window over one datagram.** Either nothing is accepted, no frame is handed on and the
    window stays as it is, or a new number enters it. -/
theorem processDatagram_window (hw : Tracks e.ackWindow S) (d : Datagram) (now : UInt64) :
    ((∀ h p, ¬ e.Accepts d h p) ∧ (e.processDatagram d now).2.innerFrames = [] ∧
        (e.processDatagram d now).1.ackWindow = e.ackWindow) ∨
      ∃ h p, e.Accepts d h p ∧ h.packetNumber.toNat ∉ S ∧
        (e.processDatagram d now).2.innerFrames = deliveredFrames p ∧
        Tracks (e.processDatagram d now).1.ackWindow (insert h.packetNumber.toNat S) := by
  generalize hr : e.processDatagram d now = r
  have hproc := processed e d now
  rw [hr] at hproc
  -- what is accepted is accepted on account of the one header that the datagram has
  have hnone : ∀ {h p}, Parsed d h p → ¬ e.Accepts d h p → ∀ h' p', ¬ e.Accepts d h' p' := by
    rintro h p hd hno h' p' ha
    obtain ⟨rfl, rfl⟩ := hd.unique ha.parsed
    exact hno ha
  cases hproc with
  | ignored hl =>
    exact Or.inl ⟨fun h p ha => absurd (hl.symm.trans ha.parsed.1) (by simp), rfl, rfl⟩
  | invalid hd => exact Or.inl ⟨fun h p ha => hd h p ha.parsed, rfl, rfl⟩
  | mismatch hd hm =>
    exact Or.inl ⟨hnone hd fun ha => absurd (hm.symm.trans ha.connection) (by simp), rfl, rfl⟩
  | hello hd hm ht | helloAck hd hm ht | close hd hm ht | ping hd hm ht =>
    refine Or.inl ⟨hnone hd fun ha => ?_, rfl, admitted_window⟩
    have htype := ha.type
    simp [ht, fallsThrough] at htype
  | notEstablished hd hm ht hs =>
    exact Or.inl ⟨hnone hd fun ha => hs ha.established, rfl, admitted_window⟩
  | refused hd hm ht hs ha =>
    refine Or.inl ⟨hnone hd fun h => absurd (ha.symm.trans h.taken) (by simp), rfl, ?_⟩
    rw [observePacket_window, admitted_window, after_of_not_accepts hw ha]
  | @accepted h p hd hm ht hs ha =>
    refine Or.inr ⟨h, p, ⟨hd, hm, ht, hs, ha⟩, ((accepts_iff hw _).mp ha).1, rfl, ?_⟩
    rw [accepted_eq, admitted_window]
    exact tracks_of_accepts hw ha

/-- No other call but `reset` touches the window. -/
theorem next_window {c : Call} (hd : ∀ d now, c ≠ .processDatagram d now) (hr : c ≠ .reset) :
    (machine.next e c).ackWindow = e.ackWindow := by
  cases c with
  | processDatagram d now => exact absurd rfl (hd d now)
  | queueReliablePayload p ch now =>
    show (e.queueReliablePayload p ch now).1.ackWindow = _
    rcases queueReliablePayload_cases with hq | ⟨-, -, -, hq⟩ <;> rw [hq]
    rfl
  | poll now =>
    show (e.poll now).1.ackWindow = _
    rcases poll_cases with ⟨reason, hp⟩ | hp <;> rw [hp] <;> rfl
  | makeHello | makeClose => rfl
  | reset => exact absurd rfl hr

/-- **One call.** The window forgets nothing, and a frame is only handed on for a number that
    was not remembered and now is. -/
theorem call_window (hw : Tracks e.ackWindow S) {c : Call} (hc : c ≠ .reset) :
    ∃ T, Tracks (machine.next e c).ackWindow T ∧ S ⊆ T ∧
      ∀ n, contributes n ⟨e, c, (machine.step e c).2⟩ = true → n.toNat ∉ S ∧ n.toNat ∈ T := by
  cases c with
  | processDatagram d now =>
    rcases processDatagram_window hw d now with ⟨-, hf, hsame⟩ | ⟨h, p, ha, hnew, -, htr⟩
    · refine ⟨S, ?_, subset_rfl, fun n hn => ?_⟩
      · show Tracks (e.processDatagram d now).1.ackWindow S
        rw [hsame]
        exact hw
      · simp [contributes, machine, hf] at hn
    · refine ⟨insert h.packetNumber.toNat S, htr, Set.subset_insert _ _, fun n hn => ?_⟩
      -- the number the event is counted for is the one the packet carries
      simp only [contributes, carriesNumber, machine, ha.parsed.2.1, Bool.and_eq_true,
        beq_iff_eq] at hn
      rw [← hn.1]
      exact ⟨hnew, Set.mem_insert _ _⟩
  | queueReliablePayload | poll =>
    rw [next_window (fun _ _ => by simp) hc]
    exact ⟨S, hw, subset_rfl, fun n hn => by simp [contributes] at hn⟩
  | makeHello | makeClose =>
    exact ⟨S, hw, subset_rfl, fun n hn => by simp [contributes] at hn⟩
  | reset => exact absurd rfl hc

/-- **A run without resets.** A remembered number contributes no more, any other at most
    once. -/
theorem contributions_le_one {n : UInt32} {calls : List Call} (hc : Call.reset ∉ calls)
    (hw : Tracks e.ackWindow S) :
    (n.toNat ∈ S → (machine.trace e calls).countP (contributes n) = 0) ∧
      (machine.trace e calls).countP (contributes n) ≤ 1 := by
  induction calls generalizing e S with
  | nil => simp
  | cons c calls ih =>
    rw [mem_cons, not_or] at hc
    obtain ⟨T, hT, hST, hcon⟩ := call_window hw (Ne.symm hc.1)
    obtain ⟨ih0, ih1⟩ := ih hc.2 hT
    rw [Machine.trace_cons, countP_cons]
    by_cases hn : contributes n ⟨e, c, (machine.step e c).2⟩ = true
    · -- this event takes the one contribution, and `T` remembers it
      obtain ⟨hnS, hnT⟩ := hcon n hn
      rw [if_pos hn, ih0 hnT]
      exact ⟨fun h => absurd h hnS, le_refl 1⟩
    · rw [if_neg hn]
      exact ⟨fun h => ih0 (hST h), ih1⟩

/-- **At-most-once delivery.** From a reset engine, over any calls up to the next reset, at
    most one datagram with a given packet number contributes to the inner frames. -/
theorem delivered_at_most_once (e : RudpEngine) (calls : List Call) (hc : Call.reset ∉ calls)
    (n : UInt32) :
    (machine.trace e.reset calls).countP (contributes n) ≤ 1 :=
  (contributions_le_one hc (show Tracks e.reset.ackWindow ∅ from Tracks.fresh)).2

/-- A packet that arrives twice after the handshake is handed on once. -/
theorem delivered_at_most_once_duplicate :
    let hello := encodePacket { type := .kHello, connectionId := 7 } []
    let data := encodePacket { connectionId := 7, packetNumber := 1, payloadLength := 2 } [10, 11]
    let calls : List Call :=
      [.processDatagram hello 1000, .processDatagram data 1001, .poll 1002,
        .processDatagram data 1003]
    Call.reset ∉ calls ∧ (machine.trace (reset {}) calls).countP (contributes 1) = 1 ∧
      (machine.trace (reset {}) calls).countP (contributes 1) ≤ 1 :=
  ⟨by decide, by decide +kernel, delivered_at_most_once {} _ (by decide) 1⟩

/-- **The delivery gate.** A frame is only handed on while the connection is established, and it is
    the payload of a version 1 packet.  The packet is a data packet of this connection exactly if
    its type byte names a packet type and it has a connection id. -/
theorem delivery_gate (e : RudpEngine) (hid : e.state.connectionId ≠ 0) (d : Datagram)
    (now : UInt64) (f : List UInt8) (hf : f ∈ (e.processDatagram d now).2.innerFrames) :
    ∃ h, Parsed d h f ∧ e.state.lifecycle = .kEstablished ∧
      (h.type = .kData ∧ h.connectionId = e.state.connectionId ↔
        (∀ byte unnamed, h.type ≠ .other byte unnamed) ∧ h.connectionId ≠ 0) := by
  have hproc := processed e d now
  generalize e.processDatagram d now = r at hproc hf
  cases hproc with
  | ignored | invalid | mismatch | hello | helloAck | close | ping | notEstablished | refused =>
    exact absurd hf not_mem_nil
  | @accepted h p hd hm ht hs ha =>
    have hfp : f = p := by
      unfold deliveredFrames at hf
      split at hf
      · exact absurd hf not_mem_nil
      · exact mem_singleton.mp hf
    rw [hfp]
    refine ⟨h, hd, hs, ⟨fun ⟨htype, hconn⟩ => ⟨by simp [htype], hconn ▸ hid⟩, fun ⟨hn, hz⟩ => ?_⟩⟩
    constructor
    · -- of the types that the `switch` leaves over, only this one has a name
      cases htype : h.type with
      | kData => rfl
      | other b u => exact absurd htype (hn b u)
      | kHello | kHelloAck | kPing | kClose => simp [fallsThrough, htype] at ht
    · simp only [connectionMismatch, Bool.and_eq_false_iff, bne_eq_false_iff_eq] at hm
      rcases hm with (hm | hm) | hm
      · exact absurd hm hid
      · exact absurd hm hz
      · exact hm.symm

/-- An engine on connection 7. -/
def onSeven : RudpEngine :=
  (({} : RudpEngine).processDatagram (encodePacket { type := .kHello, connectionId := 7 } []) 1).1

/-- A data packet of its connection passes the gate. -/
theorem delivery_gate_data :
    let d := encodePacket { connectionId := 7, packetNumber := 1, payloadLength := 1 } [42]
    ∃ h, Parsed d h [42] ∧ onSeven.state.lifecycle = .kEstablished ∧
      (h.type = .kData ∧ h.connectionId = onSeven.state.connectionId ↔
        (∀ byte unnamed, h.type ≠ .other byte unnamed) ∧ h.connectionId ≠ 0) :=
  delivery_gate onSeven (by decide +kernel) _ 2 [42] (by decide +kernel)

/-- Type byte 9, and a data packet without a connection id: both are handed on. -/
theorem delivery_gate_passed :
    let unnamed := encodePacket { type := .other 9 (by decide), connectionId := 7,
                                  packetNumber := 1, payloadLength := 1 } [42]
    let anonymous := encodePacket { packetNumber := 1, payloadLength := 1 } [42]
    onSeven.state.connectionId = 7 ∧ (onSeven.processDatagram unnamed 2).2.innerFrames = [[42]] ∧
      (onSeven.processDatagram anonymous 2).2.innerFrames = [[42]] := by
  decide +kernel

end RudpEngine

end Knights.Rudp
