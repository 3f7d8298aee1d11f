import Knights.Lib.Machine
import Knights.Net.Resilience
import Mathlib.Tactic.Linarith
import Mathlib.Tactic.Ring

namespace Knights.Net

open Knights.Lib List Machine

/-!
# Net — what the limiters let through

The limiters of `Knights.Net.Resilience`, driven by any sequence of calls.

* `TokenBucket.granted_le` — in any block of calls a bucket grants its burst and what has flowed
  in meanwhile, at most.
-/

/-! ### The token bucket -/

namespace TokenBucket

/-- The calls, each with its reading of the clock. -/
inductive Call where
  | consume (now : UInt64) (amount : ℚ)
  | available (now : UInt64)
  deriving DecidableEq, Repr

/-- The clock of a call. -/
def Call.now : Call → UInt64
  | .consume now _ | .available now => now

/-- A bucket under calls; it puts out the tokens that a call was granted. -/
def machine : Machine TokenBucket Call ℚ where
  step b
    | .consume now amount =>
      let r := b.consume now amount
      (r.1, if r.2 then max 0 amount else 0)
    | .available now => ((b.available now).1, 0)

/-- The tokens that a block of calls is granted. -/
def granted (b : TokenBucket) (cs : List Call) : ℚ := ((machine.trace b cs).map (·.output)).sum

/-- The largest reading of the clock, `t` among them. -/
def latest (t : ℕ) (cs : List Call) : ℕ := cs.foldl (fun t c => max t c.now.toNat) t

/-- The bucket between its bounds, with the largest reading so far. -/
structure Sound (rate burst : ℚ) (t : ℕ) (b : TokenBucket) : Prop where
  refills : b.refillPerSec = rate
  full : b.burstTokens = burst
  nonneg : 0 ≤ b.tokens
  le_burst : b.tokens ≤ burst
  last : b.lastRefillMs.toNat = t

variable {rate burst : ℚ} {t : ℕ} {b : TokenBucket}

section

variable (h : Sound rate burst t b) (hrate : 0 ≤ rate)
include h hrate

/-- A refill adds at most what has flowed in since the largest reading. -/
theorem Sound.refill (now : UInt64) :
    Sound rate burst (max t now.toNat) (b.refill now) ∧
      (b.refill now).tokens ≤ b.tokens + rate * ((max t now.toNat : ℕ) - t) / 1000 := by
  obtain ⟨rfl, rfl, hnonneg, hle, rfl⟩ := h
  unfold TokenBucket.refill
  split_ifs with hfirst hold
  · -- the first reading sets the clock, and nothing has flowed in
    have hzero : b.lastRefillMs.toNat = 0 := by rw [hfirst]; rfl
    rw [hzero, Nat.zero_max]
    refine ⟨⟨rfl, rfl, hnonneg, hle, rfl⟩, ?_⟩
    rw [Nat.cast_zero, sub_zero]
    exact le_add_of_nonneg_right (div_nonneg (mul_nonneg hrate (Nat.cast_nonneg _)) (by norm_num))
  · rw [max_eq_left (UInt64.le_iff_toNat_le.mp hold), sub_self, mul_zero, zero_div, add_zero]
    exact ⟨⟨rfl, rfl, hnonneg, hle, rfl⟩, le_rfl⟩
  · have hlt : b.lastRefillMs < now := UInt64.not_le.mp hold
    have hnat : b.lastRefillMs.toNat ≤ now.toNat := (UInt64.lt_iff_toNat_lt.mp hlt).le
    have helapsed : ((now - b.lastRefillMs).toNat : ℚ) = now.toNat - b.lastRefillMs.toNat := by
      rw [UInt64.toNat_sub_of_le _ _ (UInt64.le_of_lt hlt), Nat.cast_sub hnat]
    have hflow : 0 ≤ b.refillPerSec * (((now - b.lastRefillMs).toNat : ℚ) / 1000) :=
      mul_nonneg hrate (div_nonneg (Nat.cast_nonneg _) (by norm_num))
    rw [max_eq_right hnat]
    refine ⟨⟨rfl, rfl, le_min (hnonneg.trans hle) (add_nonneg hnonneg hflow), min_le_left _ _,
      rfl⟩, (min_le_right _ _).trans (le_of_eq ?_)⟩
    rw [helapsed, mul_div_assoc]

/-- A call takes out of the refilled bucket what it is granted. -/
theorem Sound.step (c : Call) :
    Sound rate burst (max t c.now.toNat) (machine.next b c) ∧
      (machine.next b c).tokens + (machine.step b c).2 = (b.refill c.now).tokens := by
  obtain ⟨hr, -⟩ := h.refill hrate c.now
  cases c with
  | available now => exact ⟨hr, add_zero _⟩
  | consume now amount =>
    show Sound rate burst _ (b.consume now amount).1 ∧ (b.consume now amount).1.tokens +
      (if (b.consume now amount).2 then max 0 amount else 0) = _
    by_cases hfew : (b.refill now).tokens < max 0 amount
    · rw [show b.consume now amount = (b.refill now, false) from if_pos hfew]
      exact ⟨hr, add_zero _⟩
    · rw [show b.consume now amount = (_, true) from if_neg hfew]
      refine ⟨⟨hr.refills, hr.full, sub_nonneg.mpr (not_lt.mp hfew), ?_, hr.last⟩,
        sub_add_cancel _ _⟩
      exact (sub_le_self _ (le_max_left 0 amount)).trans hr.le_burst

/-- **Potential.** What is left and what was granted come from what there was and what has
    flowed in. -/
theorem Sound.run (cs : List Call) :
    Sound rate burst (latest t cs) (machine.run b cs) ∧ (machine.run b cs).tokens + granted b cs ≤
        b.tokens + rate * (latest t cs - t) / 1000 := by
  induction cs generalizing b t with
  | nil => exact ⟨h, by simp [granted, latest]⟩
  | cons c cs ih =>
    obtain ⟨hstep, hgranted⟩ := h.step hrate c
    obtain ⟨hrun, hrest⟩ := ih hstep
    have hrefill := (h.refill hrate c.now).2
    have hsplit : rate * (latest t (c :: cs) - t) / 1000 =
        rate * ((max t c.now.toNat : ℕ) - t) / 1000 +
          rate * (latest (max t c.now.toNat) cs - (max t c.now.toNat : ℕ)) / 1000 := by
      rw [← add_div, ← mul_add, sub_add_sub_cancel']
      rfl
    refine ⟨hrun, ?_⟩
    rw [hsplit]
    simp only [granted, trace_cons, map_cons, sum_cons, run_cons] at hrest ⊢
    linarith

end

/-- **Rate bound.** After any calls since `configure`, with any readings of the clock, the tokens
    are between 0 and the burst, and the next block of calls is granted at most the burst and what
    flows in from the largest reading up to its first call to the largest up to its last. -/
theorem granted_le (rate burst : ℚ) (hrate : 0 ≤ rate) (hburst : 0 ≤ burst) (pre : List Call)
    (c : Call) (block : List Call) :
    0 ≤ (machine.run (configure rate burst) pre).tokens ∧
      (machine.run (configure rate burst) pre).tokens ≤ burst ∧
      granted (machine.run (configure rate burst) pre) (c :: block) ≤
        burst + rate * (latest 0 (pre ++ c :: block) - latest 0 (pre ++ [c])) / 1000 := by
  have hstart : Sound rate burst 0 (configure rate burst) := by
    constructor <;> simp [configure, hrate, hburst]
  have hpre := (hstart.run hrate pre).1
  refine ⟨hpre.nonneg, hpre.le_burst, ?_⟩
  obtain ⟨hfirst, htaken⟩ := hpre.step hrate c
  obtain ⟨hend, hrest⟩ := hfirst.run hrate block
  have hfull := (hpre.refill hrate c.now).1.le_burst
  have hnonneg := hend.nonneg
  have hlast : latest 0 (pre ++ c :: block) = latest (max (latest 0 pre) c.now.toNat) block := by
    simp [latest]
  have hstart : latest 0 (pre ++ [c]) = max (latest 0 pre) c.now.toNat := by simp [latest]
  rw [hlast, hstart]
  simp only [granted, trace_cons, map_cons, sum_cons] at hrest ⊢
  linarith

/-- A full bucket and half a second's flow. -/
theorem granted_le_tight :
    granted (machine.run (configure 2 3) [.available 5]) [.consume 1000 3, .consume 1500 1] = 4 ∧
      granted (machine.run (configure 2 3) [.available 5]) [.consume 1000 3, .consume 1500 1] ≤
        3 + 2 * (latest 0 [.available 5, .consume 1000 3, .consume 1500 1] -
          latest 0 [.available 5, .consume 1000 3]) / 1000 :=
  ⟨by decide +kernel, (granted_le 2 3 (by decide) (by decide) [.available 5] (.consume 1000 3)
    [.consume 1500 1]).2.2⟩

end TokenBucket

end Knights.Net
