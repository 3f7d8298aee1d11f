import Knights.Rudp.AckWindow
import Knights.Rudp.Packet

namespace Knights.Rudp

open Knights.Lib List UInt32

/-!
# RUDP — the sender's retransmission queue

Packets waiting for their acknowledgement (`core/src/net/rudp/retransmission_queue.cpp`).
`markAcked` removes what an acknowledgement covers, `collectTimeouts` gives the packets whose
retransmission timer ran out, oldest first.

* `isAckedByMask_iff` — the sender's reading of `(ackLargest, ackMask)`: besides the reported
  numbers, everything 64 or more below the largest counts as acknowledged;
* `mem_markAcked` — `markAcked` keeps exactly the entries that are not covered;
* `collect_map`, `collect_due` — collecting keeps every entry and gives due ones, in order;
* `collect_eq_nil` — nothing is collected exactly when every timer still runs.
-/

/-- A packet waiting for its acknowledgement. -/
structure PendingPacket where
  packetNumber : UInt32 := 0
  firstSentUnixMs : UInt64 := 0
  lastSentUnixMs : UInt64 := 0
  retransmitCount : UInt32 := 0
  encodedFrame : Datagram := []
  deriving DecidableEq, Repr

/-- A queue entry. -/
structure Entry where
  packet : PendingPacket
  acked : Bool := false
  deriving DecidableEq, Repr

/-- An entry without its times and count: its number, its frame and its mark. -/
def Entry.body (e : Entry) : UInt32 × Datagram × Bool :=
  (e.packet.packetNumber, e.packet.encodedFrame, e.acked)

/-- The queue: the entries in push order and the bytes they hold. -/
structure RetransmissionQueue where
  pending : List Entry := []
  inflightBytes : Nat := 0
  deriving DecidableEq, Repr

namespace RetransmissionQueue

section

variable (q : RetransmissionQueue)

/-- Number of packets in flight. -/
def inflightPackets : Nat := q.pending.length

/-- Add a packet; an empty frame is not queued. -/
def push (packetNumber : UInt32) (sentUnixMs : UInt64)
    (encodedFrame : Datagram) : RetransmissionQueue :=
  if encodedFrame.isEmpty then q
  else
    let packet : PendingPacket :=
      { packetNumber := packetNumber, firstSentUnixMs := sentUnixMs,
        lastSentUnixMs := sentUnixMs, retransmitCount := 0, encodedFrame := encodedFrame }
    { pending := q.pending ++ [{ packet := packet }],
      inflightBytes := q.inflightBytes + encodedFrame.length }

/-- Does an acknowledgement `(ackLargest, ackMask)` cover a packet number? -/
def isAckedByMask (packetNumber ackLargest : UInt32) (ackMask : UInt64) : Bool :=
  if packetNumber > ackLargest then false
  else if packetNumber = ackLargest then true
  else
    let distance := ackLargest - packetNumber
    if distance ≥ 64 then true
    else decide (ackMask &&& (1 <<< distance.toUInt64) ≠ 0)

/-- Bytes held by a list of entries. -/
def frameBytes (es : List Entry) : Nat := (es.map (·.packet.encodedFrame.length)).sum

/-- Bytes left after popping the acknowledged entries at the front. -/
def popBytes (bytes : Nat) : List Entry → Nat
  | [] => bytes
  | e :: es =>
    let size := e.packet.encodedFrame.length
    if e.acked then popBytes (if bytes ≥ size then bytes - size else 0) es else bytes

/-- Drop the acknowledged entries: first those at the front, one by one, then the rest, after
    which the byte count is taken anew. -/
def eraseAcked : RetransmissionQueue :=
  let rest := q.pending.dropWhile (·.acked)
  let bytes := popBytes q.inflightBytes q.pending
  if rest.isEmpty then { pending := rest, inflightBytes := bytes }
  else
    let kept := rest.filter (fun e => !e.acked)
    if kept.length = rest.length then { pending := kept, inflightBytes := bytes }
    else { pending := kept, inflightBytes := frameBytes kept }

/-- The loop body of `markAcked`. -/
def markEntry (ackLargest : UInt32) (ackMask : UInt64) (e : Entry) : Entry :=
  if !e.acked && isAckedByMask e.packet.packetNumber ackLargest ackMask then
    { e with acked := true }
  else e

/-- Mark what an acknowledgement covers, and drop it. -/
def markAcked (ackLargest : UInt32) (ackMask : UInt64) : RetransmissionQueue :=
  eraseAcked { q with pending := q.pending.map (markEntry ackLargest ackMask) }

/-- An entry whose retransmission timer has run out. -/
def due (now : UInt64) (rtoMs : UInt32) (e : Entry) : Bool :=
  !e.acked && !decide (now - e.packet.lastSentUnixMs < rtoMs.toUInt64)

/-- The packet as it is when it is sent again at `now`. -/
def resent (now : UInt64) (p : PendingPacket) : PendingPacket :=
  { p with lastSentUnixMs := now, retransmitCount := p.retransmitCount + 1 }

/-- The loop of `collectTimeouts`, with `room` places left in the batch: the entries with
    their timers restarted, and the packets to send again. -/
def collect (now : UInt64) (rtoMs : UInt32) : Nat → List Entry → List Entry × List PendingPacket
  | _, [] => ([], [])
  | 0, es => (es, [])
  | room + 1, e :: es =>
    if due now rtoMs e then
      let p := resent now e.packet
      let rest := collect now rtoMs room es
      ({ e with packet := p } :: rest.1, p :: rest.2)
    else
      let rest := collect now rtoMs (room + 1) es
      (e :: rest.1, rest.2)

/-- Up to `maxBatch` packets whose timer has run out, oldest first. -/
def collectTimeouts (now : UInt64) (rtoMs : UInt32) (maxBatch : Nat) :
    RetransmissionQueue × List PendingPacket :=
  if maxBatch = 0 ∨ rtoMs = 0 then (q, [])
  else
    let r := collect now rtoMs maxBatch q.pending
    ({ q with pending := r.1 }, r.2)

end

/-! ### The sender's reading of an acknowledgement -/

variable {q : RetransmissionQueue} {n l rtoMs : UInt32} {m now : UInt64} {es : List Entry}
  {room : Nat}

/-- **What counts as acknowledged.** The largest number, the numbers with their bit set, and
    everything 64 or more below the largest. -/
theorem isAckedByMask_iff : isAckedByMask n l m = true ↔ n.toNat ≤ l.toNat ∧ (n.toNat = l.toNat ∨
      64 ≤ l.toNat - n.toNat ∨ m.toNat.testBit (l.toNat - n.toNat) = true) := by
  unfold isAckedByMask
  by_cases hgt : n > l
  · have hlt : l.toNat < n.toNat := lt_iff_toNat_lt.mp hgt
    rw [if_pos hgt]
    simp only [Bool.false_eq_true, false_iff]
    omega
  · have hle : n.toNat ≤ l.toNat := UInt32.le_iff_toNat_le.mp (UInt32.not_lt.mp hgt)
    have hsub : (l - n).toNat = l.toNat - n.toNat :=
      UInt32.toNat_sub_of_le _ _ (UInt32.not_lt.mp hgt)
    rw [if_neg hgt]
    by_cases heq : n = l
    · simp [heq]
    · have hne : n.toNat ≠ l.toNat := fun h => heq (UInt32.toNat_inj.mp h)
      rw [if_neg heq]
      by_cases hfar : l - n ≥ 64
      · have hfar' : 64 ≤ (l - n).toNat := le_iff_toNat_le.mp hfar
        rw [if_pos hfar]
        simp only [true_iff]
        omega
      · have hnear : l - n < 64 := UInt32.not_le.mp hfar
        have hnear' : (l - n).toNat < 64 := lt_iff_toNat_lt.mp hnear
        rw [if_neg hfar, decide_eq_true_iff, AckWindow.and_bit_ne_zero hnear, hsub]
        constructor
        · exact fun hbit => ⟨hle, Or.inr (Or.inr hbit)⟩
        · rintro ⟨-, h | h | h⟩
          · exact absurd h hne
          · omega
          · exact h

/-! ### Removing acknowledged entries -/

/-- No entry of the queue is marked acknowledged, as is the case between any two calls. -/
def Settled (q : RetransmissionQueue) : Prop := ∀ e ∈ q.pending, e.acked = false

/-- Dropping the acknowledged entries leaves the others, in order. -/
theorem pending_eraseAcked : q.eraseAcked.pending = q.pending.filter (fun e => !e.acked) := by
  have hdrop : ∀ es : List Entry, (es.dropWhile (·.acked)).filter (fun e => !e.acked)
      = es.filter (fun e => !e.acked) := by
    intro es
    induction es with
    | nil => rfl
    | cons e es ih => by_cases he : e.acked <;> simp [he, ih]
  unfold eraseAcked
  simp only []
  split
  · rename_i hnil
    rw [← hdrop, isEmpty_iff.mp hnil]
    rfl
  · split <;> exact hdrop q.pending

/-- **Removal by acknowledgement.** `markAcked` keeps exactly the entries that the
    acknowledgement does not cover. -/
theorem pending_markAcked (hq : q.Settled) : (q.markAcked l m).pending
      = q.pending.filter (fun e => !isAckedByMask e.packet.packetNumber l m) := by
  have hmark : ∀ es : List Entry, (∀ e ∈ es, e.acked = false) →
      (es.map (markEntry l m)).filter (fun e => !e.acked)
        = es.filter (fun e => !isAckedByMask e.packet.packetNumber l m) := by
    intro es
    induction es with
    | nil => intro _; rfl
    | cons e es ih =>
      intro hes
      have he : e.acked = false := hes e (by simp)
      have ih' := ih (fun e' he' => hes e' (by simp [he']))
      rw [map_cons]
      cases hack : isAckedByMask e.packet.packetNumber l m
      · rw [filter_cons_of_pos (by simp [markEntry, he, hack]),
          filter_cons_of_pos (by simp [hack]), ih']
        simp [markEntry, hack]
      · rw [filter_cons_of_neg (by simp [markEntry, he, hack]),
          filter_cons_of_neg (by simp [hack]), ih']
  unfold markAcked
  rw [pending_eraseAcked]
  exact hmark q.pending hq

/-- Membership form of `pending_markAcked`. -/
theorem mem_markAcked (hq : q.Settled) {e : Entry} : e ∈ (q.markAcked l m).pending ↔
      e ∈ q.pending ∧ isAckedByMask e.packet.packetNumber l m = false := by
  rw [pending_markAcked hq, mem_filter, Bool.not_eq_true']

/-- The entries left by `markAcked` are entries it found. -/
theorem Settled.markAcked (hq : q.Settled) (l : UInt32) (m : UInt64) :
    (q.markAcked l m).Settled := fun e he => hq e ((mem_markAcked hq).mp he).1

/-! ### Collecting timeouts -/

/-- Collecting keeps every entry, up to the time and the count of its sendings. -/
theorem collect_map {β : Type} {f : Entry → β}
    (hf : ∀ e : Entry, f { e with packet := resent now e.packet } = f e) :
    (collect now rtoMs room es).1.map f = es.map f := by
  fun_induction collect now rtoMs room es with
  | case1 => rfl
  | case2 => rfl
  | case3 room e es hdue p rest ih =>
    rw [map_cons, map_cons, ih, hf]
  | case4 room e es hdue rest ih => rw [map_cons, map_cons, ih]

/-- The collected packets are, in queue order, due entries sent again. -/
theorem collect_due : ((collect now rtoMs room es).2).Sublist
      ((es.filter (due now rtoMs)).map fun e => resent now e.packet) := by
  fun_induction collect now rtoMs room es with
  | case1 => simp
  | case2 => simp
  | case3 room e es hdue p rest ih =>
    rw [filter_cons_of_pos hdue, map_cons]
    exact ih.cons_cons p
  | case4 room e es hdue rest ih =>
    rw [filter_cons_of_neg hdue]
    exact ih

/-- With room in the batch, nothing is collected exactly when nothing is due. -/
theorem collect_eq_nil :
    (collect now rtoMs (room + 1) es).2 = [] ↔ ∀ e ∈ es, due now rtoMs e = false := by
  induction es with
  | nil => simp [collect]
  | cons e es ih =>
    unfold collect
    cases hdue : due now rtoMs e
    · simp [hdue, ih]
    · simp [hdue]

end RetransmissionQueue

end Knights.Rudp
