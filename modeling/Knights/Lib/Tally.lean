import Mathlib.Algebra.BigOperators.Group.Finset.Piecewise
import Mathlib.Algebra.Order.BigOperators.Group.Finset
import Mathlib.Algebra.Ring.Nat

namespace Knights.Lib

open List

/-!
# Counting by place

Finitely many participants are each at some place.  What a protocol says about them is often a
matter of how many are at each place, and one participant moves at a time.

* `tally_update` — how the counts change when one participant moves;
* `sum_tally_le` — the counts of different places add up to no more than the participants that
  can be there.
-/

section

variable {ι κ : Type*} [Fintype ι] [DecidableEq κ] {f : ι → κ}

/-- How many participants are at a place. -/
def tally (f : ι → κ) (k : κ) : ℕ := (Finset.univ.filter fun i => f i = k).card

theorem tally_eq_sum (f : ι → κ) (k : κ) : tally f k = ∑ i, if f i = k then 1 else 0 :=
  Finset.card_filter ..

/-- **One participant moves.** -/
theorem tally_update [DecidableEq ι] (f : ι → κ) (i : ι) (y k : κ) :
    tally (Function.update f i y) k + (if f i = k then 1 else 0) =
      tally f k + (if y = k then 1 else 0) := by
  have hrest : ∑ j ∈ Finset.univ.erase i, (if Function.update f i y j = k then 1 else 0) =
      ∑ j ∈ Finset.univ.erase i, if f j = k then 1 else 0 := by
    refine Finset.sum_congr rfl fun j hj => ?_
    rw [Function.update_of_ne (Finset.ne_of_mem_erase hj)]
  have hbefore := Finset.add_sum_erase Finset.univ (fun j => if f j = k then 1 else 0)
    (Finset.mem_univ i)
  have hafter := Finset.add_sum_erase Finset.univ
    (fun j => if Function.update f i y j = k then 1 else 0) (Finset.mem_univ i)
  rw [tally_eq_sum, tally_eq_sum, ← hbefore, ← hafter, hrest, Function.update_self]
  omega

theorem tally_eq_zero {k : κ} : tally f k = 0 ↔ ∀ i, f i ≠ k := by
  simp [tally, Finset.filter_eq_empty_iff]

theorem tally_pos {k : κ} : 0 < tally f k ↔ ∃ i, f i = k := by
  rw [Nat.pos_iff_ne_zero, Ne, tally_eq_zero]
  push Not
  rfl

/-- **Different places.** Those who are at some of them are among those who can be there. -/
theorem sum_tally_le [DecidableEq ι] {P : ι → Prop} [DecidablePred P] {l : List κ} (hl : l.Nodup)
    (hP : ∀ i, f i ∈ l → P i) :
    (l.map (tally f)).sum ≤ (Finset.univ.filter P).card := by
  have hsum : (l.map (tally f)).sum = (Finset.univ.filter fun i => f i ∈ l).card := by
    induction l with
    | nil => simp
    | cons k l ih =>
      obtain ⟨hk, hl⟩ := nodup_cons.mp hl
      rw [map_cons, sum_cons, ih hl fun i hi => hP i (mem_cons_of_mem k hi)]
      have hdisj : Disjoint (Finset.univ.filter fun i => f i = k)
          (Finset.univ.filter fun i => f i ∈ l) := by
        refine Finset.disjoint_filter.mpr fun i _ hi hmem => hk ?_
        exact hi ▸ hmem
      rw [tally, ← Finset.card_union_of_disjoint hdisj, ← Finset.filter_or]
      simp only [mem_cons]
  rw [hsum]
  refine Finset.card_le_card fun i hi => ?_
  rw [Finset.mem_filter] at hi ⊢
  exact ⟨hi.1, hP i hi.2⟩

end

end Knights.Lib
