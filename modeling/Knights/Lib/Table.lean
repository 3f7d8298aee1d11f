import Mathlib.Data.List.AList

namespace Knights.Lib

open List

/-!
# Tables

A table is a finite map that can be listed: Mathlib's `AList` with values of one type.  The
lemmas here read a table after an update at an arbitrary key, so that a proof can split on
the key once and let `simp` do the rest.

* `lookup_insert_ite` / `lookup_insert_eq_some` / `lookup_singleton_ite` / `lookup_erase_ite` —
  one entry written or removed;
* `lookup_foldl_insert_of_mem` / `lookup_foldl_insert_of_notMem` — entries written one after
  another;
* `sift` revises every entry and may drop it; `lookup_sift` reads it back.
-/

universe u v

/-- A finite map with values of one type, kept as a list of its entries. -/
abbrev Table (K : Type u) (V : Type v) := AList fun _ : K => V

namespace Table

variable {K : Type u} {V : Type v} {l : List ((_ : K) × V)}

section Update

variable [DecidableEq K]

/-- Lookups after one change, by cases on the key. -/
@[simp] theorem lookup_insert_ite (t : Table K V) (k k' : K) (v : V) :
    (t.insert k v).lookup k' = if k' = k then some v else t.lookup k' := by
  by_cases hk : k' = k
  · subst hk
    rw [if_pos rfl]
    exact AList.lookup_insert t
  · rw [if_neg hk]
    exact AList.lookup_insert_ne hk

theorem lookup_insert_eq_some {t : Table K V} {k k' : K} {v v' : V} :
    (t.insert k v).lookup k' = some v' ↔ k' = k ∧ v = v' ∨ k' ≠ k ∧ t.lookup k' = some v' := by
  rw [lookup_insert_ite]
  split_ifs with hk <;> simp [hk]

@[simp] theorem lookup_singleton_ite (k k' : K) (v : V) :
    (AList.singleton k v : Table K V).lookup k' = if k' = k then some v else none := by
  rw [← AList.insert_empty, lookup_insert_ite, AList.lookup_empty]

@[simp] theorem lookup_erase_ite (t : Table K V) (k k' : K) :
    (t.erase k).lookup k' = if k' = k then none else t.lookup k' := by
  by_cases hk : k' = k
  · subst hk
    rw [if_pos rfl]
    exact AList.lookup_erase k' t
  · rw [if_neg hk]
    exact AList.lookup_erase_ne hk

theorem erase_of_lookup_none {t : Table K V} {k : K} (h : t.lookup k = none) : t.erase k = t :=
  AList.ext (kerase_of_notMem_keys (AList.lookup_eq_none.mp h))

/-- Inserting leaves the other keys alone. -/
theorem lookup_foldl_insert_of_notMem {k : K} (es : List (K × V)) (hk : k ∉ es.map Prod.fst)
    (t : Table K V) : (es.foldl (fun t e => t.insert e.1 e.2) t).lookup k = t.lookup k := by
  induction es generalizing t with
  | nil => rfl
  | cons e es ih =>
    rw [map_cons, mem_cons, not_or] at hk
    rw [foldl_cons, ih hk.2, AList.lookup_insert_ne hk.1]

/-- Of distinct keys, each has its value in the end. -/
theorem lookup_foldl_insert_of_mem {k : K} {v : V} {es : List (K × V)}
    (hes : (es.map Prod.fst).Nodup) (hkv : (k, v) ∈ es) (t : Table K V) :
    (es.foldl (fun t e => t.insert e.1 e.2) t).lookup k = some v := by
  induction es generalizing t with
  | nil => cases hkv
  | cons e es ih =>
    rw [map_cons, nodup_cons] at hes
    rw [foldl_cons]
    obtain rfl | hkv := mem_cons.mp hkv
    · rw [lookup_foldl_insert_of_notMem es hes.1, AList.lookup_insert]
    · exact ih hes.2 hkv _

end Update

/-! ### Revising every entry -/

/-- Revise one entry, or drop it. -/
def siftEntry (f : K → V → Option V) (e : (_ : K) × V) : Option ((_ : K) × V) :=
  (f e.1 e.2).map (Sigma.mk e.1)

theorem key_siftEntry {f : K → V → Option V} {e e' : (_ : K) × V}
    (h : siftEntry f e = some e') : e'.1 = e.1 := by
  obtain ⟨v, -, rfl⟩ := Option.map_eq_some_iff.mp h
  rfl

/-- Sifting brings no keys. -/
theorem keys_sift_subset (f : K → V → Option V) (l : List ((_ : K) × V)) :
    (l.filterMap (siftEntry f)).keys ⊆ l.keys := by
  intro k hk
  obtain ⟨e', he', rfl⟩ := mem_map.mp hk
  obtain ⟨e, he, hs⟩ := mem_filterMap.mp he'
  rw [key_siftEntry hs]
  exact mem_map_of_mem he

theorem nodupKeys_sift (f : K → V → Option V) (h : l.NodupKeys) :
    (l.filterMap (siftEntry f)).NodupKeys := by
  induction l with
  | nil => exact nodupKeys_nil
  | cons e l ih =>
    obtain ⟨hnot, hl⟩ := nodupKeys_cons.mp h
    cases hs : siftEntry f e with
    | none =>
      rw [filterMap_cons_none hs]
      exact ih hl
    | some e' =>
      rw [filterMap_cons_some hs]
      refine nodupKeys_cons.mpr ⟨fun hmem => hnot ?_, ih hl⟩
      rw [← key_siftEntry hs]
      exact keys_sift_subset f l hmem

/-- Revise every entry; an entry for which `f` has no value is dropped. -/
def sift (f : K → V → Option V) (t : Table K V) : Table K V :=
  ⟨t.entries.filterMap (siftEntry f), nodupKeys_sift f t.nodupKeys⟩

/-- A list with a key once is looked up entry by entry. -/
theorem dlookup_sift [DecidableEq K] (f : K → V → Option V) (h : l.NodupKeys) (k : K) :
    (l.filterMap (siftEntry f)).dlookup k = (l.dlookup k).bind (f k) := by
  induction l with
  | nil => rfl
  | cons e l ih =>
    obtain ⟨hnot, hl⟩ := nodupKeys_cons.mp h
    obtain ⟨k', v⟩ := e
    by_cases hk : k = k'
    · subst hk
      rw [dlookup_cons_eq]
      cases hf : f k v with
      | none =>
        rw [filterMap_cons_none (by simp [siftEntry, hf]), Option.bind_some, hf]
        -- the key was only at the head, so nothing below is found
        exact dlookup_eq_none.mpr fun hmem => hnot (keys_sift_subset f l hmem)
      | some v' =>
        rw [filterMap_cons_some (b := ⟨k, v'⟩) (by simp [siftEntry, hf]),
          dlookup_cons_eq, Option.bind_some, hf]
    · rw [dlookup_cons_ne l ⟨k', v⟩ hk, ← ih hl]
      cases hs : siftEntry f (⟨k', v⟩ : (_ : K) × V) with
      | none => rw [filterMap_cons_none hs]
      | some e' =>
        rw [filterMap_cons_some hs]
        refine dlookup_cons_ne _ e' ?_
        rw [key_siftEntry hs]
        exact hk

/-- Sifting, entry by entry. -/
@[simp] theorem lookup_sift [DecidableEq K] (f : K → V → Option V) (t : Table K V) (k : K) :
    (t.sift f).lookup k = (t.lookup k).bind (f k) :=
  dlookup_sift f t.nodupKeys k

end Table

end Knights.Lib
