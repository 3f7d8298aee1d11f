import Knights.Rudp.Engine

namespace Knights.Rudp

open Knights.Lib

/-!
# RUDP — after a fallback

A call that gives `fallback_required` is meant to pin the session to TCP
(`docs/protocol/rudp.md`).  `set_fallback` moves the peer to `kDraining`, and two ways lead out
of it: a HELLO or HELLO-ACK establishes the connection again, and `poll` goes on sending the
pending packets.  This file says that these are the only two.

* `down_of_fallsBack` — every call that asks for fallback leaves the connection down;
* `eventPinned_iff` — on a connection that is down, an event keeps the session pinned exactly
  when its call is `Quiet`;
* `pinned_iff_quiet` — over whole continuations: the session stays pinned exactly when every
  call is `Quiet`.
-/

namespace RudpEngine

variable {e : RudpEngine}

/-- The call asked for fallback. -/
def Reply.fallsBack : Reply → Bool
  | .result r => r.fallbackRequired
  | _ => false

/-- A call that may start over: `reset` or `makeHello`. -/
def Call.restarts : Call → Bool
  | .reset => true
  | .makeHello _ _ => true
  | _ => false

/-- The event keeps the session on TCP: the connection is not established after it, no inner
    frame is handed on, no payload is queued and `poll` sends nothing. -/
def EventPinned (ev : Event RudpEngine Call Reply) : Prop :=
  (machine.next ev.pre ev.input).state.lifecycle ≠ .kEstablished ∧
    match ev.input, ev.output with
    | .processDatagram _ _, .result r => r.innerFrames = []
    | .queueReliablePayload _ _ _, .queued out => out = none
    | .poll _, .result r => r.egressDatagrams = []
    | _, _ => True

/-- The datagram is a handshake packet of this connection. -/
def Handshakes (e : RudpEngine) (d : Datagram) : Prop :=
  ∃ h p, Parsed d h p ∧ e.connectionMismatch h = false ∧ (h.type = .kHello ∨ h.type = .kHelloAck)

/-- A call that finds neither way out of the fallback: a datagram that is no handshake packet
    of this connection, a `poll` while no retransmission timer has run out. -/
def Quiet (e : RudpEngine) : Call → Prop
  | .processDatagram d _ => ¬ e.Handshakes d
  | .poll now => e.state.rtt.rtoMs = 0 ∨ ∀ x ∈ e.retransmissionQueue.pending,
      RetransmissionQueue.due now e.state.rtt.rtoMs x = false
  | _ => True

/-- The connection is down: given up or closed. -/
def Down (e : RudpEngine) : Prop :=
  e.state.lifecycle = .kDraining ∨ e.state.lifecycle = .kClosed

theorem Down.not_established (hd : e.Down) : e.state.lifecycle ≠ .kEstablished := by
  rcases hd with h | h <;> rw [h] <;> decide

theorem Down.not_helloSent (hd : e.Down) : e.state.lifecycle ≠ .kHelloSent := by
  rcases hd with h | h <;> rw [h] <;> decide

/-! ### One call -/

/-- **Fallback takes the connection down.** -/
theorem down_of_fallsBack {c : Call} (hf : (machine.step e c).2.fallsBack = true) :
    (machine.next e c).Down := by
  cases c with
  | processDatagram d now =>
    change (e.processDatagram d now).2.fallbackRequired = true at hf
    show (e.processDatagram d now).1.Down
    -- the outcomes that ask for fallback are those that went through `setFallback`
    have hproc := processed e d now
    generalize e.processDatagram d now = r at hf hproc
    cases hproc with
    | ignored | hello | helloAck | ping | refused | accepted => exact absurd hf (by simp)
    | invalid | mismatch | close | notEstablished => exact Or.inl rfl
  | queueReliablePayload | makeHello | makeClose | reset =>
    exact absurd hf (by simp [machine, Reply.fallsBack])
  | poll now =>
    change (e.poll now).2.fallbackRequired = true at hf
    show (e.poll now).1.Down
    rcases poll_cases with ⟨reason, hp⟩ | hp
    · rw [hp]
      exact Or.inl rfl
    · rw [hp] at hf
      exact absurd hf (by simp [resend])

/-- A packet of another type is no handshake packet. -/
theorem not_handshakes {d : Datagram} {h : RudpHeader} {p : List UInt8} (hd : Parsed d h p)
    (ht₁ : h.type ≠ .kHello) (ht₂ : h.type ≠ .kHelloAck) : ¬ e.Handshakes d := by
  rintro ⟨h', p', hd', -, ht⟩
  rw [← (hd.unique hd').1] at ht
  rcases ht with ht | ht
  · exact ht₁ ht
  · exact ht₂ ht

/-- **A datagram on a connection that is down.** A handshake packet establishes the connection;
    any other leaves it down and hands nothing on. -/
theorem processDatagram_down (hdown : e.Down) (d : Datagram) (now : UInt64) :
    (e.Handshakes d ∧ (e.processDatagram d now).1.state.lifecycle = .kEstablished) ∨
      (¬ e.Handshakes d ∧ (e.processDatagram d now).1.Down ∧
        (e.processDatagram d now).2.innerFrames = []) := by
  have hproc := processed e d now
  generalize e.processDatagram d now = r at hproc
  cases hproc with
  | ignored hl =>
    refine Or.inr ⟨?_, hdown, rfl⟩
    rintro ⟨h, p, hp, -⟩
    rw [hp.1] at hl
    exact absurd hl (by simp)
  | invalid hd => exact Or.inr ⟨fun ⟨h, p, hp, _⟩ => hd h p hp, Or.inl rfl, rfl⟩
  | @mismatch h p hd hm =>
    refine Or.inr ⟨?_, Or.inl rfl, rfl⟩
    rintro ⟨h', p', hd', hm', -⟩
    rw [← (hd.unique hd').1, hm] at hm'
    exact absurd hm' (by simp)
  -- neither handshake branch looks at the state it leaves
  | hello hd hm ht => exact Or.inl ⟨⟨_, _, hd, hm, Or.inl ht⟩, rfl⟩
  | helloAck hd hm ht => exact Or.inl ⟨⟨_, _, hd, hm, Or.inr ht⟩, rfl⟩
  | close hd hm ht =>
    exact Or.inr ⟨not_handshakes hd (by simp [ht]) (by simp [ht]), Or.inl rfl, rfl⟩
  | @ping h p hd hm ht =>
    refine Or.inr ⟨not_handshakes hd (by simp [ht]) (by simp [ht]), ?_, rfl⟩
    unfold Down
    rw [admitted_lifecycle]
    exact hdown
  | notEstablished hd hm ht hs =>
    refine Or.inr ⟨not_handshakes hd ?_ ?_, Or.inl rfl, rfl⟩
    · intro h
      rw [h] at ht
      exact absurd ht (by decide)
    · intro h
      rw [h] at ht
      exact absurd ht (by decide)
  | refused hd hm ht hs ha => exact absurd hs hdown.not_established
  | accepted hd hm ht hs ha => exact absurd hs hdown.not_established

/-- **A `poll` on a connection that is down.** It sends nothing exactly when no timer has run
    out, and it changes nothing but the queue. -/
theorem poll_down (hdown : e.Down) (now : UInt64) :
    ((e.poll now).2.egressDatagrams = [] ↔ e.Quiet (.poll now)) ∧
      (e.poll now).1.state = e.state := by
  rw [poll_eq, if_neg (fun hc => hdown.not_helloSent hc.1),
    if_neg (fun hc => hdown.not_established hc.1)]
  refine ⟨?_, rfl⟩
  unfold resend RetransmissionQueue.collectTimeouts Quiet
  by_cases hrto : e.state.rtt.rtoMs = 0
  · simp [hrto]
  · simp only [List.map_eq_nil_iff, hrto, false_or]
    exact RetransmissionQueue.collect_eq_nil

/-- **One event.** On a connection that is down, an event keeps the session pinned exactly when
    its call is quiet, and then the connection stays down. -/
theorem eventPinned_iff (hdown : e.Down) {c : Call} (hc : c.restarts = false) :
    (EventPinned ⟨e, c, (machine.step e c).2⟩ ↔ e.Quiet c) ∧
      (e.Quiet c → (machine.next e c).Down) := by
  cases c with
  | processDatagram d now =>
    have hpinned : EventPinned ⟨e, .processDatagram d now,
          (machine.step e (.processDatagram d now)).2⟩ ↔
        (e.processDatagram d now).1.state.lifecycle ≠ .kEstablished ∧
          (e.processDatagram d now).2.innerFrames = [] := Iff.rfl
    rcases processDatagram_down hdown d now with ⟨hh, hest⟩ | ⟨hh, hd, hin⟩
    · exact ⟨⟨fun hp => absurd hest hp.1, fun hq => absurd hh hq⟩, fun hq => absurd hh hq⟩
    · exact ⟨⟨fun _ => hh, fun _ => ⟨hd.not_established, hin⟩⟩, fun _ => hd⟩
  | queueReliablePayload p ch now =>
    -- queueing is refused without a change
    have hq : e.queueReliablePayload p ch now = (e, none) := if_pos hdown.not_established
    have hnext : machine.next e (.queueReliablePayload p ch now) = e := by
      show (e.queueReliablePayload p ch now).1 = e
      rw [hq]
    rw [hnext]
    refine ⟨⟨fun _ => trivial, fun _ => ?_⟩, fun _ => hdown⟩
    refine ⟨?_, ?_⟩
    · rw [hnext]
      exact hdown.not_established
    · show (e.queueReliablePayload p ch now).2 = none
      rw [hq]
  | poll now =>
    obtain ⟨hout, hstate⟩ := poll_down hdown now
    have hd : (e.poll now).1.Down := by
      unfold Down
      rw [hstate]
      exact hdown
    refine ⟨⟨fun hp => hout.mp hp.2, fun hq => ⟨hd.not_established, hout.mpr hq⟩⟩, fun _ => hd⟩
  | makeHello | reset => exact absurd hc (by simp [Call.restarts])
  | makeClose now =>
    refine ⟨⟨fun _ => trivial, fun _ => ⟨?_, trivial⟩⟩, fun _ => Or.inr rfl⟩
    show LifecycleState.kClosed ≠ .kEstablished
    decide

/-! ### Whole continuations -/

/-- **When the session stays pinned.** After a call that asked for fallback, over any further
    calls up to the next `reset` or `makeHello`, every event keeps the session on TCP exactly
    when every call is quiet. -/
theorem pinned_iff_quiet (e : RudpEngine) (c : Call)
    (hf : (machine.step e c).2.fallsBack = true) (calls : List Call)
    (hc : ∀ c' ∈ calls, c'.restarts = false) :
    (∀ ev ∈ machine.trace (machine.next e c) calls, EventPinned ev) ↔
      machine.Guarded Quiet (machine.next e c) calls :=
  machine.forall_trace_iff_guarded Down (fun c' => c'.restarts = false) Quiet EventPinned
    (fun _ _ hd hc' => (eventPinned_iff hd hc').1) (fun _ _ hd hc' => (eventPinned_iff hd hc').2)
    (down_of_fallsBack hf) hc

/-- A data packet before the handshake asks for fallback, and a PING after it is quiet. -/
theorem pinned_iff_quiet_ping :
    let c : Call := .processDatagram (encodePacket { packetNumber := 1 } []) 1000
    let calls : List Call := [.processDatagram (encodePacket { type := .kPing } []) 1001]
    (machine.step {} c).2.fallsBack = true ∧
      ((∀ ev ∈ machine.trace (machine.next {} c) calls, EventPinned ev) ↔
        machine.Guarded Quiet (machine.next {} c) calls) :=
  ⟨by decide +kernel, pinned_iff_quiet {} _ (by decide +kernel) _ (by decide)⟩

/-- **The session is not pinned.** A data packet before the handshake asks for fallback, and
    the HELLO that follows it establishes the connection. -/
theorem fallback_not_pinned :
    ¬ ∀ (e : RudpEngine) (c : Call), (machine.step e c).2.fallsBack = true →
      ∀ calls : List Call, (∀ c' ∈ calls, c'.restarts = false) →
        ∀ ev ∈ machine.trace (machine.next e c) calls, EventPinned ev := by
  intro hall
  let data := encodePacket { connectionId := 7, packetNumber := 1, payloadLength := 1 } [42]
  let hello := encodePacket { type := .kHello, connectionId := 7 } []
  let e' := machine.next {} (.processDatagram data 1000)
  have hpinned := hall {} (.processDatagram data 1000) (by decide +kernel)
    [.processDatagram hello 1001] (by decide)
    ⟨e', .processDatagram hello 1001, (machine.step e' (.processDatagram hello 1001)).2⟩
    (List.mem_singleton.mpr rfl)
  exact hpinned.1 (by decide +kernel)

end RudpEngine

end Knights.Rudp
