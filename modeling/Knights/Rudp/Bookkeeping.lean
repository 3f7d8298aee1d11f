import Knights.Rudp.Peer
import Mathlib.Algebra.Order.BigOperators.Group.List
import Mathlib.Algebra.Order.Group.Nat

namespace Knights.Rudp

open Knights.Lib List RetransmissionQueue

/-!
# RUDP — what the retransmission queue counts

The queue holds its entries in the order in which they were pushed and counts their bytes
(`core/src/net/rudp/retransmission_queue.cpp`); the engine admits a payload by these counts
(`rudp_engine.cpp`).

* `queue_bookkeeping` — the counts, the order and the removals over every sequence of calls, and
  the limit on packets in flight;
* `inflight_bytes_iff` — the limit on bytes in flight: the engine compares the payload and counts
  the whole packet, so that the limit holds exactly as long as every payload leaves room for its
  header;
* `inflight_bytes_exceeded` — a payload that does not.
-/

namespace RetransmissionQueue

/-- A call on a queue. -/
inductive Call where
  | push (packetNumber : UInt32) (sentUnixMs : UInt64) (encodedFrame : Datagram)
  | markAcked (ackLargest : UInt32) (ackMask : UInt64)
  | collectTimeouts (now : UInt64) (rtoMs : UInt32) (maxBatch : Nat)

/-- The queue as a machine. -/
def machine : Machine RetransmissionQueue Call (List PendingPacket) where
  step q
    | .push n now f => (q.push n now f, [])
    | .markAcked l m => (q.markAcked l m, [])
    | .collectTimeouts now rtoMs maxBatch => q.collectTimeouts now rtoMs maxBatch

/-- What stays of a pushed packet: its number, the time of the push, its frame and its mark. -/
def Call.pushed : Call → List (UInt32 × UInt64 × Datagram × Bool)
  | .push n now f => if f = [] then [] else [(n, now, f, false)]
  | _ => []

/-- The same of an entry. -/
def identity (e : Entry) : UInt32 × UInt64 × Datagram × Bool :=
  (e.packet.packetNumber, e.packet.firstSentUnixMs, e.packet.encodedFrame, e.acked)

/-- The byte count is that of the entries. -/
def Counted (q : RetransmissionQueue) : Prop := q.inflightBytes = frameBytes q.pending

variable {q : RetransmissionQueue}

/-- Popping the front subtracts what it held. -/
theorem popBytes_frameBytes (es : List Entry) :
    popBytes (frameBytes es) es = frameBytes (es.dropWhile (·.acked)) := by
  induction es with
  | nil => rfl
  | cons e es ih =>
    unfold popBytes
    by_cases he : e.acked = true
    · have hsub : frameBytes (e :: es) - e.packet.encodedFrame.length = frameBytes es := by
        simp [frameBytes]
      have hle : frameBytes (e :: es) ≥ e.packet.encodedFrame.length := by simp [frameBytes]
      simp only [he, if_true, if_pos hle, hsub, ih, dropWhile_cons_of_pos]
    · simp [he]

/-- **Both ways to remove agree.** Whether the front is popped or the rest is counted anew, the
    count is that of the entries that are left. -/
theorem Counted.eraseAcked (h : q.Counted) : q.eraseAcked.Counted := by
  have hpop : popBytes q.inflightBytes q.pending = frameBytes (q.pending.dropWhile (·.acked)) := by
    rw [h, popBytes_frameBytes]
  unfold Counted RetransmissionQueue.eraseAcked
  dsimp only
  split_ifs with hnil hlen
  · exact hpop
  · rw [hpop, filter_eq_self.mpr (length_filter_eq_length_iff.mp hlen)]
  · rfl

/-- Marking changes no bytes. -/
theorem frameBytes_map_markEntry (l : UInt32) (m : UInt64) (es : List Entry) :
    frameBytes (es.map (markEntry l m)) = frameBytes es := by
  unfold frameBytes
  rw [map_map]
  congr 2
  funext e
  dsimp only [Function.comp, markEntry]
  split_ifs <;> rfl

theorem Counted.markAcked (h : q.Counted) (l : UInt32) (m : UInt64) : (q.markAcked l m).Counted :=
  Counted.eraseAcked (h.trans (frameBytes_map_markEntry l m q.pending).symm)

/-- **One call.** The entries are those from before, in their order, without what was acknowledged
    and with what was pushed; the count goes with them. -/
theorem kept_next (hq : q.Settled) (hcount : q.Counted) (c : Call) :
    (machine.next q c).Counted ∧ ((machine.next q c).pending.map identity).Sublist
      (q.pending.map identity ++ c.pushed) := by
  cases c with
  | push n now f =>
    show (q.push n now f).Counted ∧ ((q.push n now f).pending.map identity).Sublist _
    unfold RetransmissionQueue.push Call.pushed
    cases f with
    | nil => exact ⟨hcount, by simp⟩
    | cons b f =>
      refine ⟨?_, by simp [identity]⟩
      rw [Counted, hcount]
      simp [frameBytes]
  | markAcked l m =>
    refine ⟨hcount.markAcked l m, ?_⟩
    show ((q.markAcked l m).pending.map identity).Sublist _
    rw [pending_markAcked hq]
    exact (filter_sublist.map identity).trans (sublist_append_left _ _)
  | collectTimeouts now rtoMs maxBatch =>
    show (q.collectTimeouts now rtoMs maxBatch).1.Counted ∧
      ((q.collectTimeouts now rtoMs maxBatch).1.pending.map identity).Sublist _
    unfold RetransmissionQueue.collectTimeouts Counted frameBytes
    split_ifs
    · exact ⟨hcount, sublist_append_left _ _⟩
    · rw [collect_map fun _ => rfl, collect_map fun _ => rfl]
      exact ⟨hcount, sublist_append_left _ _⟩

/-- **Every sequence of calls.** -/
theorem kept_run (hq : q.Settled) (hcount : q.Counted) (calls : List Call) :
    (machine.run q calls).Settled ∧ (machine.run q calls).Counted ∧
      ((machine.run q calls).pending.map identity).Sublist
        (q.pending.map identity ++ calls.flatMap Call.pushed) := by
  induction calls generalizing q with
  | nil => exact ⟨hq, hcount, by simp⟩
  | cons c calls ih =>
    obtain ⟨hcount', hsub⟩ := kept_next hq hcount c
    -- what was there is unmarked, and so is what is pushed
    have hq' : (machine.next q c).Settled := by
      intro x hx
      rcases mem_append.mp (hsub.subset (mem_map_of_mem hx)) with hmem | hmem
      · obtain ⟨y, hy, heq⟩ := mem_map.mp hmem
        rw [← show y.acked = x.acked from congrArg (·.2.2.2) heq]
        exact hq y hy
      · unfold Call.pushed at hmem
        split at hmem
        · split_ifs at hmem
          · cases hmem
          · exact congrArg (·.2.2.2) (mem_singleton.mp hmem)
        · cases hmem
    obtain ⟨hsettled, hcounted, hrun⟩ := ih hq' hcount'
    refine ⟨hsettled, hcounted, hrun.trans ?_⟩
    rw [flatMap_cons, ← append_assoc]
    exact hsub.append_right _

/-- Without a push, neither packets nor bytes are added. -/
theorem inflight_le (hq : q.Settled) (hcount : q.Counted) {calls : List Call}
    (h : calls.flatMap Call.pushed = []) :
    (machine.run q calls).inflightPackets ≤ q.inflightPackets ∧
      (machine.run q calls).inflightBytes ≤ q.inflightBytes := by
  obtain ⟨-, hcount', hsub⟩ := kept_run hq hcount calls
  rw [h, append_nil] at hsub
  constructor
  · simpa [inflightPackets] using hsub.length_le
  · have hsum := (hsub.map (·.2.2.1.length)).sum_le_sum (by simp)
    rw [map_map, map_map] at hsum
    rw [hcount', hcount]
    exact hsum

end RetransmissionQueue

namespace RudpEngine

variable {e : RudpEngine} {p : List UInt8} {ch : UInt8} {now : UInt64}

/-- What is queued was within both limits. -/
theorem limits_of_queued (h : (e.queueReliablePayload p ch now).2 ≠ none) :
    e.retransmissionQueue.inflightPackets < e.config.maxInflightPackets ∧
      e.retransmissionQueue.inflightBytes + p.length ≤ e.config.maxInflightBytes := by
  unfold queueReliablePayload at h
  split_ifs at h with _ _ _ hpackets hbytes
  any_goals exact absurd rfl h
  exact ⟨not_le.mp hpackets, not_lt.mp hbytes⟩

/-- An engine between calls: in its queue nothing is marked and the bytes are counted, there are no
    more packets than the limit, and at most one header more bytes. -/
structure Bounded (config : RudpConfig) (e : RudpEngine) : Prop where
  settled : e.retransmissionQueue.Settled
  counted : e.retransmissionQueue.Counted
  config_eq : e.config = config
  packets_le : e.retransmissionQueue.inflightPackets ≤ config.maxInflightPackets
  bytes_le : e.retransmissionQueue.inflightBytes ≤ config.maxInflightBytes + kRudpHeaderBytes

/-- The call queues a payload. -/
def Queues (e : RudpEngine) : Call → Prop
  | .queueReliablePayload p ch now => (e.queueReliablePayload p ch now).2 ≠ none
  | _ => False

variable {config : RudpConfig}

theorem Bounded.reset (e : RudpEngine) : e.reset.Bounded e.config where
  settled _ hx := absurd hx not_mem_nil
  counted := rfl
  config_eq := rfl
  packets_le := Nat.zero_le _
  bytes_le := Nat.zero_le _

/-- Only a payload that is queued adds to what is in flight. -/
theorem Bounded.next_of_not_queues (he : e.Bounded config) {c : Call} (hc : ¬ e.Queues c) :
    (machine.next e c).Bounded config ∧ (machine.next e c).retransmissionQueue.inflightBytes
        ≤ e.retransmissionQueue.inflightBytes := by
  by_cases hreset : c = .reset
  · rw [hreset]
    exact ⟨he.config_eq ▸ Bounded.reset e, Nat.zero_le _⟩
  -- every other call makes at most one call on the queue, and no push
  obtain ⟨calls, hpush, heq⟩ : ∃ calls, calls.flatMap RetransmissionQueue.Call.pushed = [] ∧
      (machine.next e c).retransmissionQueue
        = RetransmissionQueue.machine.run e.retransmissionQueue calls := by
    cases c with
    | processDatagram d now =>
      rcases queue_processDatagram with hq | ⟨h, p, -, -, hq⟩
      · exact ⟨[], rfl, hq⟩
      · exact ⟨[.markAcked _ _], rfl, hq⟩
    | queueReliablePayload p ch now =>
      rcases queueReliablePayload_cases with hr | ⟨-, -, -, hr⟩
      · exact ⟨[], rfl, congrArg (·.1.retransmissionQueue) hr⟩
      · exact absurd (show (e.queueReliablePayload p ch now).2 ≠ none by rw [hr]; simp) hc
    | poll now =>
      rcases poll_cases with ⟨reason, hp⟩ | hp
      · exact ⟨[], rfl, congrArg (·.1.retransmissionQueue) hp⟩
      · exact ⟨[.collectTimeouts now e.state.rtt.rtoMs kPollBatch], rfl,
          congrArg (·.1.retransmissionQueue) hp⟩
    | makeHello | makeClose => exact ⟨[], rfl, rfl⟩
    | reset => exact absurd rfl hreset
  obtain ⟨hsettled, hcounted, -⟩ := kept_run he.settled he.counted calls
  obtain ⟨hpackets, hbytes⟩ := inflight_le he.settled he.counted hpush
  rw [← heq] at hsettled hcounted hpackets hbytes
  exact ⟨⟨hsettled, hcounted, config_next.trans he.config_eq, hpackets.trans he.packets_le,
    hbytes.trans he.bytes_le⟩, hbytes⟩

/-- A payload that is queued adds one packet and, besides itself, a header. -/
theorem Bounded.queued (he : e.Bounded config) (h : (e.queueReliablePayload p ch now).2 ≠ none) :
    (e.queueReliablePayload p ch now).1.Bounded config ∧
    (e.queueReliablePayload p ch now).1.retransmissionQueue.inflightBytes
      = e.retransmissionQueue.inflightBytes + (kRudpHeaderBytes + p.length) := by
  obtain ⟨hpackets, hbytes⟩ := limits_of_queued h
  rw [he.config_eq] at hpackets hbytes
  rcases queueReliablePayload_cases with hr | ⟨-, -, -, hr⟩
  · exact absurd (congrArg Prod.snd hr) h
  · rw [hr]
    obtain ⟨hsettled, hcounted, -⟩ := kept_run he.settled he.counted [.push
      e.state.nextPacketNumber now (e.makePacket .kData 0 ch e.state.nextPacketNumber now p)]
    have hlen : (e.queued p ch now).retransmissionQueue.inflightPackets
        = e.retransmissionQueue.inflightPackets + 1 := by
      unfold RetransmissionQueue.inflightPackets
      rw [pending_queued, length_append]
      rfl
    have hadd : (e.queued p ch now).retransmissionQueue.inflightBytes
        = e.retransmissionQueue.inflightBytes + (kRudpHeaderBytes + p.length) := by
      rw [show (e.queued p ch now).retransmissionQueue.Counted from hcounted, pending_queued,
        he.counted]
      simp [RetransmissionQueue.frameBytes, makePacket]
    refine ⟨⟨hsettled, hcounted, he.config_eq, ?_, ?_⟩, hadd⟩
    · rw [hlen]
      exact hpackets
    · rw [hadd]
      omega

/-- **Every call keeps the bounds.** -/
theorem Bounded.next (he : e.Bounded config) (c : Call) : (machine.next e c).Bounded config := by
  by_cases hc : e.Queues c
  · cases c with
    | queueReliablePayload p ch now => exact (he.queued hc).1
    | _ => exact hc.elim
  · exact (he.next_of_not_queues hc).1

theorem bounded_run (e : RudpEngine) (calls : List Call) :
    (machine.run e.reset calls).Bounded e.config :=
  machine.run_invariant _ (fun _ c he => he.next c) (Bounded.reset e) calls

/-- **What the queue counts.** After any calls the count is that of the pending frames, in the
    order they were pushed; an acknowledgement removes exactly what it covers; and an engine never
    has more packets in flight than its limit. -/
theorem queue_bookkeeping : (∀ calls : List RetransmissionQueue.Call,
      let q := RetransmissionQueue.machine.run {} calls
      q.inflightBytes = RetransmissionQueue.frameBytes q.pending ∧
      (q.pending.map RetransmissionQueue.identity).Sublist
        (calls.flatMap RetransmissionQueue.Call.pushed) ∧
      ∀ l m, (q.markAcked l m).Settled ∧ (q.markAcked l m).pending = q.pending.filter
        fun x => !RetransmissionQueue.isAckedByMask x.packet.packetNumber l m) ∧
    ∀ (e : RudpEngine) (calls : List Call),
      (machine.run e.reset calls).retransmissionQueue.inflightPackets
        ≤ e.config.maxInflightPackets := by
  refine ⟨fun calls => ?_, fun e calls => (bounded_run e calls).packets_le⟩
  obtain ⟨hsettled, hcounted, hsub⟩ := kept_run (q := {})
    (fun _ hx => absurd hx not_mem_nil) rfl calls
  exact ⟨hcounted, hsub, fun l m =>
    ⟨hsettled.markAcked l m, pending_markAcked hsettled⟩⟩

/-- What is queued leaves room for its header. -/
def HeaderFits (e : RudpEngine) : Call → Prop
  | .queueReliablePayload p ch now => (e.queueReliablePayload p ch now).2 ≠ none →
      e.retransmissionQueue.inflightBytes + (kRudpHeaderBytes + p.length)
        ≤ e.config.maxInflightBytes
  | _ => True

/-- **The limit on bytes in flight** holds throughout a run exactly if every payload that was
    queued left room for its header, and is never exceeded by more than one header. -/
theorem inflight_bytes_iff (e : RudpEngine) (calls : List Call) :
    ((∀ pre, pre <+: calls → (machine.run e.reset pre).retransmissionQueue.inflightBytes
        ≤ e.config.maxInflightBytes) ↔ machine.Guarded HeaderFits e.reset calls) ∧
    (machine.run e.reset calls).retransmissionQueue.inflightBytes
      ≤ e.config.maxInflightBytes + kRudpHeaderBytes := by
  refine ⟨machine.forall_prefix_iff_guarded (Bounded e.config)
    (fun s => s.retransmissionQueue.inflightBytes ≤ e.config.maxInflightBytes) HeaderFits
    (fun s c hs => hs.next c) ?_ (Bounded.reset e) (Nat.zero_le _) calls,
    (bounded_run e calls).bytes_le⟩
  intro s c hs hle
  by_cases hc : s.Queues c
  · cases c with
    | queueReliablePayload p ch now =>
      show (s.queueReliablePayload p ch now).1.retransmissionQueue.inflightBytes ≤ _ ↔ _
      rw [(hs.queued hc).2, ← hs.config_eq]
      exact ⟨fun h _ => h, fun h => h hc⟩
    | _ => exact hc.elim
  · refine iff_of_true ((hs.next_of_not_queues hc).2.trans hle) ?_
    cases c with
    | queueReliablePayload p ch now => exact fun h => absurd h hc
    | _ => trivial

/-- One byte may be in flight, and one byte is queued: with its header it takes 35. -/
theorem inflight_bytes_exceeded : (machine.run { config := { maxInflightBytes := 1 } }
      [.processDatagram (encodePacket { type := .kHello, connectionId := 7 } []) 1000,
       .queueReliablePayload [1] 0 1001]).retransmissionQueue.inflightBytes = 35 := by
  decide +kernel

end RudpEngine

end Knights.Rudp
