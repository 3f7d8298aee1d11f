import Mathlib.Tactic.Common

namespace Knights.Lib

open List

/-!
# Bounded retry loops

A loop makes attempts `0, 1, 2, …` on a state until one is done or the limit is reached.  Every
attempt leaves a state for the next one and has effects that stay, whether it is done or not.

* `stateAt` / `Reached` — the state an attempt finds, and whether it is made at all;
* `mem_run_iff` — the effects of the loop are those of the attempts that were made;
* `countP_run_le_one` — an effect happens at most once if it happens at most once in every
  attempt and never in two of them.
-/

universe u v

/-- What one attempt leaves behind. -/
structure Attempt (σ : Type u) (α : Type v) where
  state : σ
  effects : List α
  done : Bool

namespace Retry

variable {σ : Type u} {α : Type v} (attempt : ℕ → σ → Attempt σ α)

/-- The loop with `n` attempts left, the next one being number `k`. -/
def runFrom : ℕ → ℕ → σ → σ × List α
  | 0, _, s => (s, [])
  | n + 1, k, s =>
    let r := attempt k s
    if r.done then (r.state, r.effects)
    else
      let rest := runFrom n (k + 1) r.state
      (rest.1, r.effects ++ rest.2)

/-- The loop over at most `limit` attempts. -/
def run (limit : ℕ) (s : σ) : σ × List α := runFrom attempt limit 0 s

/-- The state that attempt `k` finds. -/
def stateAt (s : σ) : ℕ → σ
  | 0 => s
  | k + 1 => (attempt k (stateAt s k)).state

/-- Attempt `k` as it is made from `s`. -/
def attemptAt (s : σ) (k : ℕ) : Attempt σ α := attempt k (stateAt attempt s k)

/-- No attempt before `k` is done. -/
def Reached (s : σ) (k : ℕ) : Prop := ∀ j < k, (attemptAt attempt s j).done = false

variable {attempt} {s : σ}

theorem Reached.mono {j k : ℕ} (h : Reached attempt s k) (hjk : j ≤ k) : Reached attempt s j :=
  fun i hi => h i (Nat.lt_of_lt_of_le hi hjk)

theorem Reached.succ {k : ℕ} (h : Reached attempt s k)
    (hdone : (attemptAt attempt s k).done = false) : Reached attempt s (k + 1) := by
  intro j hj
  rcases Nat.lt_succ_iff_lt_or_eq.mp hj with hlt | rfl
  · exact h j hlt
  · exact hdone

/-- The loop, from attempt `k` on. -/
theorem mem_runFrom_iff {n k : ℕ} {f : α} :
    f ∈ (runFrom attempt n k (stateAt attempt s k)).2 ↔ ∃ j, k ≤ j ∧ j < k + n ∧
      (∀ i, k ≤ i → i < j → (attemptAt attempt s i).done = false) ∧
      f ∈ (attemptAt attempt s j).effects := by
  induction n generalizing k with
  | zero =>
    simp only [runFrom, not_mem_nil, false_iff]
    rintro ⟨j, hkj, hj, -⟩
    omega
  | succ n ih =>
    have hstate : (attempt k (stateAt attempt s k)).state = stateAt attempt s (k + 1) := rfl
    unfold runFrom
    simp only [hstate]
    cases hdone : (attempt k (stateAt attempt s k)).done
    · -- not done: this attempt's effects, and those of the rest
      simp only [Bool.false_eq_true, if_false, mem_append, ih]
      constructor
      · rintro (hf | ⟨j, hkj, hj, hfail, hf⟩)
        · exact ⟨k, Nat.le_refl k, by omega, fun i h₁ h₂ => by omega, hf⟩
        · refine ⟨j, by omega, by omega, fun i hki hij => ?_, hf⟩
          rcases Nat.eq_or_lt_of_le hki with rfl | hlt
          · exact hdone
          · exact hfail i hlt hij
      · rintro ⟨j, hkj, hj, hfail, hf⟩
        rcases Nat.eq_or_lt_of_le hkj with rfl | hlt
        · exact Or.inl hf
        · exact Or.inr ⟨j, hlt, by omega, fun i h₁ h₂ => hfail i (by omega) h₂, hf⟩
    · -- done: the loop ends here
      constructor
      · intro hf
        exact ⟨k, Nat.le_refl k, by omega, fun i h₁ h₂ => by omega, hf⟩
      · rintro ⟨j, hkj, hj, hfail, hf⟩
        rcases Nat.eq_or_lt_of_le hkj with rfl | hlt
        · exact hf
        · have hno := hfail k (Nat.le_refl k) hlt
          unfold attemptAt at hno
          rw [hdone] at hno
          exact absurd hno (by simp)

/-- **The effects of the loop** are those of the attempts that are made. -/
theorem mem_run_iff {limit : ℕ} {f : α} :
    f ∈ (run attempt limit s).2 ↔ ∃ k < limit, Reached attempt s k ∧
      f ∈ (attemptAt attempt s k).effects := by
  have hmem := @mem_runFrom_iff _ _ attempt s limit 0 f
  rw [Nat.zero_add] at hmem
  refine hmem.trans ⟨?_, ?_⟩
  · rintro ⟨j, -, hj, hfail, hf⟩
    exact ⟨j, hj, fun i hi => hfail i (Nat.zero_le i) hi, hf⟩
  · rintro ⟨k, hk, hreach, hf⟩
    exact ⟨k, Nat.zero_le k, hk, fun i _ hi => hreach i hi, hf⟩

section AtMostOnce

variable {p : α → Bool} {limit : ℕ} (hone : ∀ k, (attemptAt attempt s k).effects.countP p ≤ 1)
  (hapart : ∀ j k, j < k → k < limit → Reached attempt s k →
    (∃ f ∈ (attemptAt attempt s j).effects, p f = true) →
      ¬ ∃ f ∈ (attemptAt attempt s k).effects, p f = true)
include hone hapart

/-- **Effects that happen at most once**, from attempt `k₀` on. -/
theorem countP_runFrom_le_one {n k₀ : ℕ} (hlimit : k₀ + n ≤ limit)
    (hk₀ : Reached attempt s k₀) :
    (runFrom attempt n k₀ (stateAt attempt s k₀)).2.countP p ≤ 1 := by
  induction n generalizing k₀ with
  | zero => exact Nat.zero_le 1
  | succ n ih =>
    have hstate : (attempt k₀ (stateAt attempt s k₀)).state = stateAt attempt s (k₀ + 1) := rfl
    have heff : (attempt k₀ (stateAt attempt s k₀)).effects
        = (attemptAt attempt s k₀).effects := rfl
    have hle := hone k₀
    unfold runFrom
    simp only [hstate]
    cases hdone : (attempt k₀ (stateAt attempt s k₀)).done
    · simp only [Bool.false_eq_true, if_false, countP_append, heff]
      by_cases hfirst : ∃ f ∈ (attemptAt attempt s k₀).effects, p f = true
      · -- it happens in this attempt, so in none of the rest
        have hzero : (runFrom attempt n (k₀ + 1) (stateAt attempt s (k₀ + 1))).2.countP p = 0 := by
          refine countP_eq_zero.mpr fun f hf hp => ?_
          obtain ⟨k, hlt, hk, hfail, hf⟩ := mem_runFrom_iff.mp hf
          refine hapart k₀ k hlt (by omega) (fun i hi => ?_) hfirst ⟨f, hf, hp⟩
          rcases Nat.lt_or_ge i (k₀ + 1) with hik | hik
          · exact hk₀.succ hdone i hik
          · exact hfail i hik hi
        omega
      · have hzero : (attemptAt attempt s k₀).effects.countP p = 0 :=
          countP_eq_zero.mpr fun f hf hp => hfirst ⟨f, hf, hp⟩
        rw [hzero, Nat.zero_add]
        exact ih (by omega) (hk₀.succ hdone)
    · exact hle

/-- **Effects that happen at most once.** -/
theorem countP_run_le_one : (run attempt limit s).2.countP p ≤ 1 :=
  countP_runFrom_le_one hone hapart (Nat.le_of_eq (Nat.zero_add limit))
    fun j hj => absurd hj (Nat.not_lt_zero j)

end AtMostOnce

end Retry

end Knights.Lib
