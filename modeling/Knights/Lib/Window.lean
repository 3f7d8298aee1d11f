import Mathlib.Data.Set.Insert
import Mathlib.Data.Nat.Bitwise

namespace Knights.Lib

/-!
# Sliding bit windows over a set of numbers

A duplicate filter has to remember which numbers it has taken.  A filter of width `W` takes a
number that is new and less than `W` below the largest one taken so far (`Takes`), so it can
forget all but the last `W` numbers: their pattern is a bit mask counted down from the
largest.  `Covers W S top mask` says that `top` and `mask` are that pattern for the set `S`.

* `takes_iff` — the decision read off the window is the decision on the set;
* `Covers.first`, `Covers.advance`, `Covers.advance_far`, `Covers.mark` — how the window moves
  when a number is taken;
* `Takes.anti` — a number that is refused stays refused, so no number is taken twice;
* `Covers.reported` / `not_takes_iff` — what a window tells a third party about `S`.
-/

variable {W : ℕ} {S T : Set ℕ} {top mask n m : ℕ}

/-- The filter of width `W` that has taken `S` takes `n`. -/
def Takes (W : ℕ) (S : Set ℕ) (n : ℕ) : Prop :=
  n ∉ S ∧ ∀ m ∈ S, m < n + W

/-- `top` is the largest number of `S`, and bit `d` of `mask` says whether `top - d` is in
    `S`, for the last `W` numbers. -/
structure Covers (W : ℕ) (S : Set ℕ) (top mask : ℕ) : Prop where
  top_mem : top ∈ S
  le_top : ∀ m ∈ S, m ≤ top
  bit : ∀ d < W, mask.testBit d = true ↔ d ≤ top ∧ top - d ∈ S

/-! ### Taking numbers -/

/-- Any filter that has taken nothing takes everything. -/
theorem takes_empty (W n : ℕ) : Takes W ∅ n := by simp [Takes]

/-- **Refused stays refused.** A filter that has taken more takes less. -/
theorem Takes.anti (hST : S ⊆ T) (h : Takes W T n) : Takes W S n :=
  ⟨fun hn => h.1 (hST hn), fun m hm => h.2 m (hST hm)⟩

/-- A number above one already offered is still taken if it was. -/
theorem Takes.insert_of_lt (h : Takes W S n) (hmn : m < n) : Takes W (insert m S) n := by
  constructor
  · simp only [Set.mem_insert_iff, not_or]
    exact ⟨by omega, h.1⟩
  · intro k hk
    rcases Set.mem_insert_iff.mp hk with rfl | hk
    · omega
    · exact h.2 k hk

/-! ### The window decides -/

/-- **The window decides for the set.** Above the largest number everything is taken; below
    it, what is less than `W` away and has its bit unset. -/
theorem takes_iff (h : Covers W S top mask) :
    Takes W S n ↔ top < n ∨ (n ≤ top ∧ top - n < W ∧ mask.testBit (top - n) = false) := by
  constructor
  · rintro ⟨hn, hall⟩
    by_cases hlt : top < n
    · exact Or.inl hlt
    -- the largest number is in the set itself, so it bounds the distance
    · have hd : top - n < W := by have := hall top h.top_mem; omega
      refine Or.inr ⟨by omega, hd, ?_⟩
      rw [← Bool.not_eq_true, h.bit _ hd, show top - (top - n) = n by omega]
      exact fun hbit => hn hbit.2
  · rintro (hlt | ⟨hle, hd, hbit⟩)
    · refine ⟨fun hn => ?_, fun m hm => ?_⟩
      · have := h.le_top n hn; omega
      · have := h.le_top m hm; omega
    · refine ⟨fun hn => ?_, fun m hm => ?_⟩
      · have : mask.testBit (top - n) = true := by
          rw [h.bit _ hd, show top - (top - n) = n by omega]
          exact ⟨by omega, hn⟩
        rw [this] at hbit
        exact absurd hbit (by simp)
      · have := h.le_top m hm; omega

/-- The window of a single number. -/
theorem Covers.first (W n : ℕ) : Covers W {n} n 1 where
  top_mem := rfl
  le_top := fun m hm => le_of_eq hm
  bit := by
    intro d _
    rw [Nat.testBit_one_eq_true_iff_self_eq_zero, Set.mem_singleton_iff]
    omega

variable (h : Covers W S top mask)
include h

/-- A jump of less than `W` shifts the mask up. -/
theorem Covers.advance (hlt : top < n) :
    Covers W (insert n S) n ((mask <<< (n - top)) % 2 ^ W ||| 1) where
  top_mem := Set.mem_insert n S
  le_top := by
    intro m hm
    rcases Set.mem_insert_iff.mp hm with rfl | hm
    · exact le_refl _
    · have := h.le_top m hm; omega
  bit := by
    intro d hd
    simp only [Nat.testBit_or, Nat.testBit_mod_two_pow, Nat.testBit_shiftLeft, hd,
      decide_true, Bool.true_and, Bool.or_eq_true, Bool.and_eq_true, decide_eq_true_eq,
      Nat.testBit_one_eq_true_iff_self_eq_zero, Set.mem_insert_iff]
    -- a bit that was shifted up stands for the same number as before
    by_cases hge : n - top ≤ d
    · rw [h.bit _ (by omega)]
      have he : top - (d - (n - top)) = n - d := by omega
      rw [he]
      constructor
      · rintro (⟨-, hle, hmem⟩ | rfl)
        · exact ⟨by omega, Or.inr hmem⟩
        · omega
      · rintro ⟨hle, hn | hmem⟩
        · omega
        · exact Or.inl ⟨hge, by omega, hmem⟩
    · -- the shifted mask has no bit here, and `S` has nothing above `top`
      constructor
      · rintro (⟨hc, -⟩ | rfl)
        · exact absurd hc hge
        · exact ⟨by omega, Or.inl (by omega)⟩
      · rintro ⟨hle, hn | hmem⟩
        · exact Or.inr (by omega)
        · have := h.le_top _ hmem; omega

/-- A jump of `W` or more leaves only the new number in the window. -/
theorem Covers.advance_far (hlt : top < n) (hfar : W ≤ n - top) : Covers W (insert n S) n 1 := by
  have hadv := h.advance hlt
  have hzero : (mask <<< (n - top)) % 2 ^ W = 0 := by
    apply Nat.eq_of_testBit_eq
    intro i
    simp only [Nat.testBit_mod_two_pow, Nat.testBit_shiftLeft, Nat.zero_testBit,
      Bool.and_eq_false_iff, decide_eq_false_iff_not]
    omega
  rwa [hzero, Nat.zero_or] at hadv

/-- A number below the largest sets its bit. -/
theorem Covers.mark (hle : n ≤ top) : Covers W (insert n S) top (mask ||| 1 <<< (top - n)) where
  top_mem := Set.mem_insert_of_mem n h.top_mem
  le_top := by
    intro m hm
    rcases Set.mem_insert_iff.mp hm with rfl | hm
    · exact hle
    · exact h.le_top m hm
  bit := by
    intro d hd
    rw [Nat.testBit_or, Bool.or_eq_true, h.bit d hd, Nat.one_shiftLeft, Nat.testBit_two_pow,
      decide_eq_true_eq, Set.mem_insert_iff]
    constructor
    · rintro (⟨h1, h2⟩ | rfl)
      · exact ⟨h1, Or.inr h2⟩
      · exact ⟨by omega, Or.inl (by omega)⟩
    · rintro ⟨h1, h2 | h2⟩
      · exact Or.inr (by omega)
      · exact Or.inl ⟨h1, h2⟩

/-- A number that is refused leaves no mark: it is in the set already, or below the window. -/
theorem Covers.refuse (hn : ¬ Takes W S n) : Covers W (insert n S) top mask := by
  by_cases hmem : n ∈ S
  · rwa [Set.insert_eq_of_mem hmem]
  · simp only [Takes, hmem, not_false_eq_true, true_and, not_forall, not_lt] at hn
    obtain ⟨m, hm, hfar⟩ := hn
    have hle := h.le_top m hm
    refine ⟨Set.mem_insert_of_mem n h.top_mem, ?_, fun d hd => ?_⟩
    · simpa using ⟨by omega, h.le_top⟩
    · rw [h.bit d hd, Set.mem_insert_iff]
      exact and_congr_right fun _ => ⟨.inr, fun hor => hor.resolve_left (by omega)⟩

/-! ### What a window reports -/

/-- A number at the top of the window, or with its bit set, is in the set. -/
theorem Covers.reported
    (hn : n = top ∨ (n ≤ top ∧ top - n < W ∧ mask.testBit (top - n) = true)) : n ∈ S := by
  rcases hn with rfl | ⟨hle, hd, hbit⟩
  · exact h.top_mem
  · have hmem := ((h.bit _ hd).mp hbit).2
    rwa [show top - (top - n) = n by omega] at hmem

/-- A window refuses exactly what it reports, with everything `W` or more below the top
    counted as reported. -/
theorem not_takes_iff :
    ¬ Takes W S n ↔ n ≤ top ∧ (n = top ∨ W ≤ top - n ∨ mask.testBit (top - n) = true) := by
  rw [takes_iff h, not_or]
  by_cases hlt : top < n
  · simp [hlt]
  · rcases Nat.eq_or_lt_of_le (Nat.le_of_not_lt hlt) with rfl | hlt'
    · have hbit : 0 < W → mask.testBit 0 = true := fun hW =>
        (h.bit 0 hW).mpr ⟨Nat.zero_le _, by simpa using h.top_mem⟩
      simp only [Nat.lt_irrefl, not_false_eq_true, le_refl, Nat.sub_self, true_and, true_or,
        and_true, iff_true]
      rintro ⟨hW, hb⟩
      rw [hbit hW] at hb
      exact absurd hb (by simp)
    · simp only [hlt, not_false_eq_true, true_and, show n ≤ top by omega,
        show n ≠ top by omega, false_or, not_and, Bool.not_eq_false]
      by_cases hd : top - n < W
      · simp [hd, Nat.not_le.mpr hd]
      · simp [hd, Nat.le_of_not_lt hd]

end Knights.Lib
