import Mathlib.Data.Finmap

namespace Knights.Lib

open List Finmap

/-!
# Association lists with repeated names

Two ways to read a list of named values in which names may repeat: keep the first value of a
name, or the last.  `List.lookup` finds the first; `lastOf` finds the last.  Reading the list
into a map one entry at a time gives either, depending on whether an entry overwrites
(`insertAll`) or not (`emplaceAll`).
-/

universe u v

variable {K : Type u} {V : Type v} [DecidableEq K]

/-- A finite map with values of one type. -/
abbrev FMap (K : Type u) (V : Type v) := Finmap fun _ : K => V

/-- The last value of a name. -/
def lastOf (k : K) (l : List (K × V)) : Option V :=
  l.foldl (fun acc f => if f.1 = k then some f.2 else acc) none

/-- Read a list into a map; a later entry overwrites. -/
def insertAll (l : List (K × V)) : FMap K V := l.foldl (fun m f => m.insert f.1 f.2) ∅

/-- Add an entry unless its name is taken. -/
def emplace (m : FMap K V) (f : K × V) : FMap K V := if f.1 ∈ m then m else m.insert f.1 f.2

/-- Read a list into a map; a later entry with a name that is taken is dropped. -/
def emplaceAll (l : List (K × V)) : FMap K V := l.foldl emplace ∅

variable {k : K} {f : K × V} {l : List (K × V)}

theorem foldl_lastOf (k : K) (l : List (K × V)) (acc : Option V) :
    l.foldl (fun acc f => if f.1 = k then some f.2 else acc) acc = (lastOf k l).or acc := by
  unfold lastOf
  induction l generalizing acc with
  | nil => rfl
  | cons f l ih =>
    simp only [foldl_cons]
    rw [ih, ih (if f.1 = k then some f.2 else none)]
    cases l.foldl (fun acc f => if f.1 = k then some f.2 else acc) none with
    | some v => rfl
    | none => by_cases hf : f.1 = k <;> simp [hf]

@[simp] theorem lastOf_nil : lastOf k ([] : List (K × V)) = none := rfl

theorem lastOf_cons : lastOf k (f :: l) = (lastOf k l).or (if f.1 = k then some f.2 else none) :=
  foldl_lastOf k l _

/-- A name has a last value exactly when it occurs. -/
theorem lastOf_eq_none_iff : lastOf k l = none ↔ ∀ f ∈ l, f.1 ≠ k := by
  induction l with
  | nil => simp
  | cons f l ih => simp [lastOf_cons, ih, and_comm]

/-- Overwriting keeps the last value. -/
theorem lookup_insertAll : (insertAll l).lookup k = lastOf k l := by
  have hfrom : ∀ (l : List (K × V)) (m : FMap K V),
      (l.foldl (fun m f => m.insert f.1 f.2) m).lookup k = (lastOf k l).or (m.lookup k) := by
    intro l
    induction l with
    | nil => intro m; rfl
    | cons f l ih =>
      intro m
      rw [foldl_cons, ih, lastOf_cons]
      by_cases hf : f.1 = k
      · subst hf
        rw [lookup_insert, if_pos rfl]
        cases lastOf f.1 l <;> rfl
      · rw [lookup_insert_of_ne m (Ne.symm hf), if_neg hf]
        cases lastOf k l <;> rfl
  unfold insertAll
  rw [hfrom, lookup_empty]
  cases lastOf k l <;> rfl

/-- Adding an entry to a map that may have its name. -/
theorem lookup_emplace (m : FMap K V) (f : K × V) (k : K) :
    (emplace m f).lookup k = (m.lookup k).or (if k = f.1 then some f.2 else none) := by
  unfold emplace
  by_cases hmem : f.1 ∈ m
  · rw [if_pos hmem]
    by_cases hk : k = f.1
    · obtain ⟨w, hw⟩ := mem_iff.mp hmem
      rw [hk, hw, Option.some_or]
    · rw [if_neg hk, Option.or_none]
  · rw [if_neg hmem]
    by_cases hk : k = f.1
    · rw [hk, lookup_insert, lookup_eq_none.mpr hmem, if_pos rfl, Option.none_or]
    · rw [lookup_insert_of_ne m hk, if_neg hk, Option.or_none]

/-- Not overwriting keeps the first value. -/
theorem lookup_emplaceAll : (emplaceAll l).lookup k = l.lookup k := by
  have hfrom : ∀ (l : List (K × V)) (m : FMap K V),
      (l.foldl emplace m).lookup k = (m.lookup k).or (l.lookup k) := by
    intro l
    induction l with
    | nil =>
      intro m
      rw [foldl_nil, lookup_nil, Option.or_none]
    | cons f l ih =>
      intro m
      rw [foldl_cons, ih, lookup_emplace, lookup_cons, Option.or_assoc]
      by_cases hk : k = f.1
      · rw [if_pos hk, beq_iff_eq.mpr hk, Option.some_or]
      · rw [if_neg hk, beq_eq_false_iff_ne.mpr hk, Option.none_or]
  unfold emplaceAll
  rw [hfrom, lookup_empty, Option.none_or]

/-- An entry that is inserted adds its name. -/
theorem keys_insert (m : FMap K V) (k : K) (v : V) : (m.insert k v).keys = insert k m.keys := by
  ext k'
  rw [Finmap.mem_keys, Finmap.mem_insert, Finset.mem_insert, Finmap.mem_keys]

end Knights.Lib
