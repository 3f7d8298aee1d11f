import Knights.Lib.Machine
import Knights.Lib.Window

namespace Knights.Rudp

open Knights.Lib UInt32

/-!
# RUDP — the receiver's ack window

`AckWindow` keeps the largest packet number seen and a 64-bit mask of the numbers below it
(`core/src/net/rudp/ack_window.cpp`).  The mask is what acknowledgements carry and, at the
same time, the receiver's only memory of duplicates.

`Tracks w S` relates a window to the set `S` of packet numbers accepted so far.  From
`observe_spec` on, nothing unfolds the window any more: it accepts what the width-64 filter of
`Knights.Lib.Window` takes.
-/

/-- What one `observe` call reports. -/
structure AckObservation where
  accepted : Bool := false
  duplicate : Bool := false
  reordered : Bool := false
  estimatedLostPackets : UInt64 := 0
  ackLargest : UInt32 := 0
  ackMask : UInt64 := 0
  deriving DecidableEq, Repr

/-- The window itself. -/
structure AckWindow where
  initialized : Bool := false
  largest : UInt32 := 0
  mask : UInt64 := 0
  deriving DecidableEq, Repr

/-- Observe a packet number: the window after it, and the report. -/
def AckWindow.observe (w : AckWindow) (packetNumber : UInt32) : AckWindow × AckObservation :=
  if !w.initialized then
    ({ initialized := true, largest := packetNumber, mask := 1 },
     { accepted := true, ackLargest := packetNumber, ackMask := 1 })
  else if packetNumber > w.largest then
    -- a new largest number: the mask moves up with it
    let delta := packetNumber - w.largest
    let lost : UInt64 := if delta > 1 then (delta - 1).toUInt64 else 0
    let mask : UInt64 := if delta ≥ 64 then 1 else (w.mask <<< delta.toUInt64) ||| 1
    ({ w with largest := packetNumber, mask := mask },
     { accepted := true, estimatedLostPackets := lost, ackLargest := packetNumber,
       ackMask := mask })
  else
    let distance := w.largest - packetNumber
    -- outside the mask: a late packet and a duplicate look the same
    if distance ≥ 64 then
      (w, { duplicate := true, ackLargest := w.largest, ackMask := w.mask })
    else
      let bit : UInt64 := 1 <<< distance.toUInt64
      if w.mask &&& bit ≠ 0 then
        (w, { duplicate := true, ackLargest := w.largest, ackMask := w.mask })
      else
        let mask := w.mask ||| bit
        ({ w with mask := mask },
         { accepted := true, reordered := true, ackLargest := w.largest, ackMask := mask })

/-- The window after observing a packet number. -/
def AckWindow.after (w : AckWindow) (n : UInt32) : AckWindow := (w.observe n).1

/-- Would the window accept this packet number? -/
def AckWindow.accepts (w : AckWindow) (n : UInt32) : Bool := (w.observe n).2.accepted

/-- The window remembers the set `S` of accepted packet numbers. -/
inductive AckWindow.Tracks : AckWindow → Set ℕ → Prop
  | fresh : Tracks {} ∅
  | window {l : UInt32} {m : UInt64} {S : Set ℕ} (h : Covers 64 S l.toNat m.toNat) :
      Tracks ⟨true, l, m⟩ S

namespace AckWindow

variable {w : AckWindow} {S : Set ℕ} {m : UInt64} {d n : UInt32}

/-! ### Machine words -/

/-- Testing one bit of a 64-bit mask. -/
theorem and_bit_ne_zero (hd : d < 64) :
    m &&& (1 <<< d.toUInt64) ≠ 0 ↔ m.toNat.testBit d.toNat = true := by
  have hd' : d.toNat < 64 := by simpa [lt_iff_toNat_lt] using hd
  have hpow : 2 ^ d.toNat < 2 ^ 64 := Nat.pow_lt_pow_right (by omega) hd'
  rw [Ne, ← UInt64.toNat_inj]
  simp only [UInt64.toNat_and, UInt64.toNat_shiftLeft, toNat_toUInt64,
    UInt64.reduceToNat, Nat.mod_eq_of_lt hd', Nat.one_shiftLeft, Nat.mod_eq_of_lt hpow,
    Nat.and_two_pow]
  cases m.toNat.testBit d.toNat <;> simp

/-- Marking one bit of a 64-bit mask. -/
theorem toNat_or_bit (hd : d < 64) :
    (m ||| (1 <<< d.toUInt64)).toNat = m.toNat ||| 1 <<< d.toNat := by
  have hd' : d.toNat < 64 := by simpa [lt_iff_toNat_lt] using hd
  have hpow : 2 ^ d.toNat < 2 ^ 64 := Nat.pow_lt_pow_right (by omega) hd'
  simp only [UInt64.toNat_or, UInt64.toNat_shiftLeft, toNat_toUInt64,
    UInt64.reduceToNat, Nat.mod_eq_of_lt hd', Nat.one_shiftLeft, Nat.mod_eq_of_lt hpow]

/-- Shifting a 64-bit mask up by less than its width. -/
theorem toNat_shift_or_one (hd : ¬ d ≥ 64) :
    ((m <<< d.toUInt64) ||| 1).toNat = (m.toNat <<< d.toNat) % 2 ^ 64 ||| 1 := by
  have hd' : d.toNat < 64 := by
    simpa [le_iff_toNat_le] using hd
  simp only [UInt64.toNat_or, UInt64.toNat_shiftLeft, toNat_toUInt64,
    UInt64.reduceToNat, Nat.mod_eq_of_lt hd']

/-! ### One observation -/

/-- The report carries the window it leaves behind. -/
theorem observe_reports (w : AckWindow) (n : UInt32) :
    (w.observe n).2.ackLargest = (w.after n).largest ∧
      (w.observe n).2.ackMask = (w.after n).mask := by
  unfold after observe
  split
  · exact ⟨rfl, rfl⟩
  · split
    · exact ⟨rfl, rfl⟩
    · simp only []
      split
      · exact ⟨rfl, rfl⟩
      · split <;> exact ⟨rfl, rfl⟩

/-- **The window is the filter of width 64.** Either it accepts a number that the filter
    takes, and remembers it, or it refuses one that the filter refuses, and stays as it is. -/
theorem observe_spec (h : Tracks w S) (n : UInt32) :
    (w.accepts n = true ∧ Takes 64 S n.toNat ∧ Tracks (w.after n) (insert n.toNat S)) ∨
      (w.accepts n = false ∧ ¬ Takes 64 S n.toNat ∧ w.after n = w) := by
  cases h with
  | fresh =>
    refine Or.inl ⟨rfl, takes_empty _ _, ?_⟩
    rw [← Set.singleton_def]
    exact Tracks.window (Covers.first 64 n.toNat)
  | @window l m S h =>
    rw [takes_iff h]
    unfold accepts after observe
    by_cases hgt : n > l
    · -- above the largest: the mask is shifted, or replaced on a jump of 64 or more
      have hlt : l.toNat < n.toNat := lt_iff_toNat_lt.mp hgt
      have hsub : (n - l).toNat = n.toNat - l.toNat :=
        UInt32.toNat_sub_of_le _ _ (UInt32.le_of_lt hgt)
      rw [if_pos hgt]
      refine Or.inl ⟨rfl, Or.inl hlt, Tracks.window ?_⟩
      by_cases hfar : n - l ≥ 64
      · rw [if_pos hfar]
        have hfar' : 64 ≤ (n - l).toNat := le_iff_toNat_le.mp hfar
        exact h.advance_far hlt (by omega)
      · rw [if_neg hfar, toNat_shift_or_one hfar, hsub]
        exact h.advance hlt
    · have hle : n.toNat ≤ l.toNat := UInt32.le_iff_toNat_le.mp (UInt32.not_lt.mp hgt)
      have hsub : (l - n).toNat = l.toNat - n.toNat :=
        UInt32.toNat_sub_of_le _ _ (UInt32.not_lt.mp hgt)
      rw [if_neg hgt]
      by_cases hfar : l - n ≥ 64
      · -- too far below: reported as a duplicate, whether it was seen or not
        have hfar' : 64 ≤ (l - n).toNat := le_iff_toNat_le.mp hfar
        rw [if_pos hfar]
        exact Or.inr ⟨rfl, by omega, rfl⟩
      · have hnear : l - n < 64 := UInt32.not_le.mp hfar
        have hnear' : (l - n).toNat < 64 := lt_iff_toNat_lt.mp hnear
        rw [if_neg hfar]
        -- inside the mask: the bit tells whether the number was seen
        by_cases hbit : m &&& (1 <<< (l - n).toUInt64) ≠ 0
        · rw [if_pos hbit]
          rw [and_bit_ne_zero hnear, hsub] at hbit
          refine Or.inr ⟨rfl, ?_, rfl⟩
          simp only [hbit, Bool.true_eq_false, and_false, or_false]
          omega
        · rw [if_neg hbit]
          rw [and_bit_ne_zero hnear, hsub, Bool.not_eq_true] at hbit
          refine Or.inl ⟨rfl, Or.inr ⟨hle, by omega, hbit⟩, Tracks.window ?_⟩
          rw [toNat_or_bit hnear, hsub]
          exact h.mark hle

/-- Acceptance is the filter's decision. -/
theorem accepts_iff (h : Tracks w S) (n : UInt32) : w.accepts n = true ↔ Takes 64 S n.toNat := by
  rcases observe_spec h n with ⟨ha, ht, -⟩ | ⟨ha, ht, -⟩ <;> simp [ha, ht]

/-- An accepted number is remembered. -/
theorem tracks_of_accepts (h : Tracks w S) (ha : w.accepts n = true) :
    Tracks (w.after n) (insert n.toNat S) := by
  rcases observe_spec h n with ⟨-, -, ht⟩ | ⟨hr, -, -⟩
  · exact ht
  · rw [hr] at ha
    exact absurd ha (by simp)

/-- A refused number leaves the window alone. -/
theorem after_of_not_accepts (h : Tracks w S) (ha : w.accepts n = false) : w.after n = w := by
  rcases observe_spec h n with ⟨hr, -, -⟩ | ⟨-, -, hw⟩
  · rw [hr] at ha
    exact absurd ha (by simp)
  · exact hw

/-! ### A whole history -/

/-- Back to a window that has seen nothing. -/
def reset (_ : AckWindow) : AckWindow := {}

/-- The window as a machine. -/
def machine : Machine AckWindow UInt32 AckObservation where
  step w n := w.observe n

/-- The other marks of a report: a duplicate is what is not accepted, and what is accepted
    below the largest number came out of order. -/
theorem observe_marks : (w.observe n).2.duplicate = !(w.observe n).2.accepted ∧
      ((w.observe n).2.reordered = true ↔
        w.initialized = true ∧ n ≤ w.largest ∧ (w.observe n).2.accepted = true) := by
  unfold observe
  cases w.initialized
  · simp
  by_cases hgt : n > w.largest
  · simp [hgt]
  · have hle : n ≤ w.largest := UInt32.not_lt.mp hgt
    simp only [Bool.not_true, Bool.false_eq_true, if_false, hgt, hle, true_and]
    split_ifs <;> simp

/-- The numbers observed so far, taken or not, are what the window describes. -/
theorem tracks_run {ns : List UInt32} :
    Tracks (machine.run w.reset ns) {k | ∃ n ∈ ns, n.toNat = k} := by
  induction ns using List.reverseRecOn with
  | nil => simpa [reset] using Tracks.fresh
  | append_singleton ns n ih =>
    have hset : {k | ∃ m ∈ ns ++ [n], m.toNat = k}
        = insert n.toNat {k | ∃ m ∈ ns, m.toNat = k} := by
      ext k
      simp [or_and_right, exists_or, or_comm, eq_comm]
    rw [hset, Machine.run_append]
    generalize machine.run w.reset ns = w' at ih ⊢
    generalize {k | ∃ m ∈ ns, m.toNat = k} = S at ih ⊢
    rcases observe_spec ih n with ⟨-, -, ht⟩ | ⟨-, hn, hw⟩
    · exact ht
    · -- a refused number joins the set and leaves the window as it is
      rw [show machine.run w' [n] = w' from hw]
      cases ih with
      | fresh => exact absurd (takes_empty _ _) hn
      | window h => exact .window (h.refuse hn)

/-- A window that has seen a number has its pattern. -/
theorem Tracks.covers (h : Tracks w S) (hS : S.Nonempty) :
    w.initialized = true ∧ Covers 64 S w.largest.toNat w.mask.toNat := by
  cases h with
  | fresh => exact absurd hS Set.not_nonempty_empty
  | window h => exact ⟨rfl, h⟩

/-- **The meaning of the window.** After any calls the window holds the largest number observed
    and, for each of the 64 numbers from it down, whether that was observed.  A call accepts its
    number if it is new and less than 64 below the largest before, and reports a duplicate
    otherwise; what it accepts below the largest is reordered. -/
theorem observe_meaning (w₀ : AckWindow) (ns : List UInt32) (n : UInt32) :
    let w := machine.run w₀.reset ns
    let w' := machine.run w₀.reset (ns ++ [n])
    let o := (w.observe n).2
    (w'.largest ∈ ns ++ [n] ∧ ∀ m ∈ ns ++ [n], m ≤ w'.largest) ∧
      (∀ d < 64, w'.mask.toNat.testBit d = true ↔ ∃ m ∈ ns ++ [n], m.toNat + d = w'.largest.toNat) ∧
      (o.accepted = true ↔ n ∉ ns ∧ (ns ≠ [] → (w.largest.toNat : ℤ) - 64 < n.toNat)) ∧
      (o.duplicate = true ↔ o.accepted = false) ∧
      (o.reordered = true ↔ o.accepted = true ∧ ns ≠ [] ∧ n < w.largest) := by
  intro w w' o
  have hw : Tracks w {k | ∃ m ∈ ns, m.toNat = k} := tracks_run
  have hw' : Covers 64 {k | ∃ m ∈ ns ++ [n], m.toNat = k} w'.largest.toNat w'.mask.toNat :=
    (tracks_run.covers ⟨n.toNat, n, by simp, rfl⟩).2
  have hinit : ns ≠ [] → w.initialized = true ∧
      Covers 64 {k | ∃ m ∈ ns, m.toNat = k} w.largest.toNat w.mask.toNat := fun hne =>
    hw.covers ⟨(ns.head hne).toNat, ns.head hne, List.head_mem hne, rfl⟩
  have haccepted : o.accepted = true ↔
      n ∉ ns ∧ (ns ≠ [] → (w.largest.toNat : ℤ) - 64 < n.toNat) := by
    rw [show o.accepted = w.accepts n from rfl, accepts_iff hw]
    refine and_congr (not_congr ?_) ⟨fun hall hne => ?_, fun hfar k hk => ?_⟩
    · exact ⟨fun ⟨m, hm, heq⟩ => UInt32.toNat_inj.mp heq ▸ hm, fun hn => ⟨n, hn, rfl⟩⟩
    · have := hall _ (hinit hne).2.top_mem
      omega
    · have hne : ns ≠ [] := List.ne_nil_of_mem hk.choose_spec.1
      have := (hinit hne).2.le_top k hk
      have := hfar hne
      omega
  obtain ⟨hdup, hreo⟩ := observe_marks
  refine ⟨⟨?_, fun m hm => ?_⟩, fun d hd => ?_, haccepted, ?_, ?_⟩
  · obtain ⟨m, hm, heq⟩ := hw'.top_mem
    exact UInt32.toNat_inj.mp heq ▸ hm
  · exact le_iff_toNat_le.mpr (hw'.le_top _ ⟨m, hm, rfl⟩)
  · rw [hw'.bit d hd]
    constructor
    · rintro ⟨hle, m, hm, heq⟩
      exact ⟨m, hm, by omega⟩
    · rintro ⟨m, hm, heq⟩
      exact ⟨by omega, m, hm, by omega⟩
  · rw [show o.duplicate = _ from hdup]
    exact (Bool.not_eq_true' _).to_iff
  · rw [show o.reordered = true ↔ _ from hreo]
    constructor
    · rintro ⟨hi, hle, hacc⟩
      have hne : ns ≠ [] := by
        rintro rfl
        exact absurd hi (by simp [w, reset])
      have hmem : n ∉ ns := (haccepted.mp hacc).1
      refine ⟨hacc, hne, UInt32.lt_of_le_of_ne hle ?_⟩
      rintro rfl
      obtain ⟨m, hm, heq⟩ := (hinit hne).2.top_mem
      exact hmem (UInt32.toNat_inj.mp heq ▸ hm)
    · rintro ⟨hacc, hne, hlt⟩
      exact ⟨(hinit hne).1, UInt32.le_of_lt hlt, hacc⟩

end AckWindow

end Knights.Rudp
