import Mathlib.Data.List.DropRight

namespace Knights.Lib

open List

/-!
# Lines of keys and values

A list of entries is written one to a line, the key before a mark and the value after it.  The
text can be read back as long as no entry holds a line break and no key holds the mark.

* `kvLine` and `kvText` write an entry and a list of entries, over any alphabet; `kvCut` reads
  a line;
* `kvClean_of_kvCut` — what is read from a line is clean;
* `kvText_injective` — clean entries are determined by their text;
* `Trimmed` — texts without blanks at their ends, which are what trimming leaves alone.
-/

universe u

variable {α : Type u}

/-- One entry: its key, the mark and its value. -/
def kvLine (mark : α) (e : List α × List α) : List α := e.1 ++ mark :: e.2

/-- Entries on lines of their own; `brk` is the line break. -/
def kvText (mark brk : α) (es : List (List α × List α)) : List α :=
  [brk].intercalate (es.map (kvLine mark))

/-- An entry that does not upset the lines: no line break, and no mark in the key. -/
structure KvClean (mark brk : α) (key value : List α) : Prop where
  mark_key : mark ∉ key
  brk_key : brk ∉ key
  brk_value : brk ∉ value

variable {mark brk : α} {line : List α} {e e' : List α × List α} {es es' : List (List α × List α)}

theorem brk_notMem_kvLine (hne : brk ≠ mark) (he : KvClean mark brk e.1 e.2) :
    brk ∉ kvLine mark e := by
  intro hmem
  obtain hmem | hmem := mem_append.mp hmem
  · exact he.brk_key hmem
  · obtain hmem | hmem := mem_cons.mp hmem
    · exact hne hmem
    · exact he.brk_value hmem

/-- No entries and some entries differ, since a line is not empty. -/
theorem kvText_eq_nil_iff : kvText mark brk es = [] ↔ es = [] := by
  constructor
  · intro h
    cases es with
    | nil => rfl
    | cons e es =>
      cases es with
      | nil | cons => simp [kvText, kvLine] at h
  · rintro rfl
    rfl

/-! ### Reading back -/

variable [DecidableEq α]

instance (mark brk : α) (key value : List α) : Decidable (KvClean mark brk key value) :=
  decidable_of_iff (mark ∉ key ∧ brk ∉ key ∧ brk ∉ value)
    ⟨fun ⟨h, h', h''⟩ => ⟨h, h', h''⟩, fun ⟨h, h', h''⟩ => ⟨h, h', h''⟩⟩

/-- Cut a line at its first mark. -/
def kvCut (mark : α) (line : List α) : Option (List α × List α) :=
  match line.dropWhile (· ≠ mark) with
  | [] => none
  | _ :: value => some (line.takeWhile (· ≠ mark), value)

/-- A line is read back. -/
theorem kvCut_kvLine (he : mark ∉ e.1) : kvCut mark (kvLine mark e) = some e := by
  have hkey : ∀ c ∈ e.1, decide (c ≠ mark) = true := by
    intro c hc
    have hne : c ≠ mark := fun hcm => he (hcm ▸ hc)
    exact decide_eq_true hne
  unfold kvCut kvLine
  rw [dropWhile_append_of_pos hkey, takeWhile_append_of_pos hkey]
  simp

/-- A line without a line break is cut into a clean entry. -/
theorem kvClean_of_kvCut (hline : brk ∉ line) (h : kvCut mark line = some e) :
    KvClean mark brk e.1 e.2 := by
  unfold kvCut at h
  cases hdrop : line.dropWhile (· ≠ mark) with
  | nil =>
    rw [hdrop] at h
    cases h
  | cons c value =>
    rw [hdrop] at h
    obtain rfl := Option.some.inj h
    refine ⟨fun hmem => ?_, fun hmem => ?_, fun hmem => ?_⟩
    · have hne := mem_takeWhile_imp hmem
      simp at hne
    · exact hline ((List.takeWhile_prefix _).subset hmem)
    · have hdropped : brk ∈ line.dropWhile (· ≠ mark) := hdrop ▸ mem_cons_of_mem c hmem
      exact hline ((dropWhile_suffix _).subset hdropped)

theorem kvLine_injective (he : mark ∉ e.1) (he' : mark ∉ e'.1)
    (h : kvLine mark e = kvLine mark e') : e = e' := by
  apply Option.some.inj
  rw [← kvCut_kvLine he, ← kvCut_kvLine he', h]

/-- No piece of a text that is split holds what it is split at. -/
theorem notMem_of_mem_splitOn {text piece : List α} (h : piece ∈ text.splitOn brk) :
    brk ∉ piece := by
  rw [splitOn_eq_splitOnP] at h
  induction text generalizing piece with
  | nil =>
    rw [splitOnP_nil, mem_singleton] at h
    simp [h]
  | cons c text ih =>
    rw [splitOnP_cons_eq_if_modifyHead] at h
    split_ifs at h with hc
    · obtain rfl | h := mem_cons.mp h
      · exact not_mem_nil
      · exact ih h
    · obtain ⟨first, rest, hsplit⟩ :=
        exists_cons_of_ne_nil (splitOnP_ne_nil (· == brk) text)
      rw [hsplit, modifyHead_cons] at h
      obtain rfl | h := mem_cons.mp h
      · -- the first piece has got one more character, which is not the break
        have hfirst : brk ∉ first := ih (by simp [hsplit])
        intro hmem
        obtain hmem | hmem := mem_cons.mp hmem
        · simp [hmem] at hc
        · exact hfirst hmem
      · exact ih (by simp [hsplit, h])

/-- The lines of a text with at least one entry. -/
theorem splitOn_kvText (hne : brk ≠ mark) (hes : ∀ e ∈ es, KvClean mark brk e.1 e.2)
    (hnil : es ≠ []) : (kvText mark brk es).splitOn brk = es.map (kvLine mark) := by
  apply splitOn_intercalate
  · intro l hl
    obtain ⟨e, he, rfl⟩ := mem_map.mp hl
    exact brk_notMem_kvLine hne (hes e he)
  · simpa using hnil

/-- **Lines are unambiguous.** Lists of clean entries with one text are the same list. -/
theorem kvText_injective (hne : brk ≠ mark)
    (hes : ∀ e ∈ es, KvClean mark brk e.1 e.2) (hes' : ∀ e ∈ es', KvClean mark brk e.1 e.2)
    (h : kvText mark brk es = kvText mark brk es') : es = es' := by
  by_cases hnil : es = []
  · have h' : kvText mark brk es' = [] := h ▸ kvText_eq_nil_iff.mpr hnil
    rw [hnil, kvText_eq_nil_iff.mp h']
  have hnil' : es' ≠ [] := by
    intro hes'
    exact hnil (kvText_eq_nil_iff.mp (h.trans (kvText_eq_nil_iff.mpr hes')))
  have hlines : es.map (kvLine mark) = es'.map (kvLine mark) := by
    rw [← splitOn_kvText hne hes hnil, ← splitOn_kvText hne hes' hnil', h]
  clear h hnil hnil'
  -- line by line, each entry is the one that its line was made from
  induction es generalizing es' with
  | nil =>
    cases es' with
    | nil => rfl
    | cons e' es' => simp at hlines
  | cons e es ih =>
    cases es' with
    | nil => simp at hlines
    | cons e' es' =>
      obtain ⟨hhead, htail⟩ := List.cons.inj hlines
      have he := hes e mem_cons_self
      have he' := hes' e' mem_cons_self
      rw [kvLine_injective he.mark_key he'.mark_key hhead,
        ih (fun d hd => hes d (mem_cons_of_mem e hd))
          (fun d hd => hes' d (mem_cons_of_mem e' hd)) htail]

/-! ### Trimming -/

section Trim

variable {β : Type u} {p : β → Bool} {l : List β} {ls : List (List β)} {sep : List β}

/-- Neither end of the text is to be trimmed. -/
structure Trimmed (p : β → Bool) (l : List β) : Prop where
  head : ∀ c ∈ l.head?, p c = false
  last : ∀ c ∈ l.getLast?, p c = false

theorem trimmed_of_forall (h : ∀ c ∈ l, p c = false) : Trimmed p l :=
  ⟨fun c hc => h c (mem_of_mem_head? hc), fun c hc => h c (mem_of_mem_getLast? hc)⟩

/-- A text that is trimmed already stays as it is. -/
theorem Trimmed.trim_eq (h : Trimmed p l) : (l.dropWhile p).rdropWhile p = l := by
  have hhead : l.dropWhile p = l := by
    rw [dropWhile_eq_self_iff]
    intro hl
    rw [Bool.not_eq_true]
    apply h.head
    rw [Option.mem_def, List.head?_eq_getElem?, List.getElem?_eq_getElem hl]
  rw [hhead, rdropWhile_eq_self_iff]
  intro hl
  rw [Bool.not_eq_true]
  exact h.last _ (List.getLast?_eq_some_getLast hl)

theorem trimmed_trim (p : β → Bool) (l : List β) : Trimmed p ((l.dropWhile p).rdropWhile p) := by
  constructor
  · intro c hc
    -- what is dropped at the end leaves the first character where it is
    have hfirst : c ∈ (l.dropWhile p).head? := by
      obtain ⟨rest, hrest⟩ := rdropWhile_prefix p (l.dropWhile p)
      rw [← hrest, List.head?_append, Option.mem_def.mp hc]
      rfl
    have hnot := List.head?_dropWhile_not p l
    rw [Option.mem_def.mp hfirst] at hnot
    exact hnot
  · intro c hc
    have hne : (l.dropWhile p).rdropWhile p ≠ [] := by
      intro hnil
      rw [hnil] at hc
      cases hc
    have hlast := rdropWhile_last_not p (l.dropWhile p) hne
    rw [List.getLast?_eq_some_getLast hne, Option.mem_some_iff] at hc
    rwa [hc, Bool.not_eq_true] at hlast

theorem mem_intercalate {c : β} (h : c ∈ sep.intercalate ls) : c ∈ sep ∨ ∃ l ∈ ls, c ∈ l := by
  induction ls with
  | nil => cases h
  | cons l ls ih =>
    by_cases hls : ls = []
    · subst hls
      rw [intercalate_singleton] at h
      exact .inr ⟨l, mem_singleton_self l, h⟩
    · rw [intercalate_cons_of_ne_nil hls, mem_append, mem_append] at h
      obtain (h | h) | h := h
      · exact .inr ⟨l, mem_cons_self, h⟩
      · exact .inl h
      · obtain h | ⟨l', hl', h⟩ := ih h
        · exact .inl h
        · exact .inr ⟨l', mem_cons_of_mem l hl', h⟩

theorem mem_intercalate_of_mem {c : β} (hl : l ∈ ls) (hc : c ∈ l) : c ∈ sep.intercalate ls := by
  induction ls with
  | nil => cases hl
  | cons l' ls ih =>
    by_cases hls : ls = []
    · subst hls
      obtain rfl := mem_singleton.mp hl
      rwa [intercalate_singleton]
    · rw [intercalate_cons_of_ne_nil hls, mem_append]
      obtain rfl | hl := mem_cons.mp hl
      · exact .inl (mem_append_left _ hc)
      · exact .inr (ih hl)

/-- Trimmed pieces give a trimmed text. -/
theorem trimmed_intercalate (hls : ∀ l ∈ ls, Trimmed p l ∧ l ≠ []) :
    Trimmed p (sep.intercalate ls) := by
  induction ls with
  | nil => exact ⟨fun c hc => (nomatch hc), fun c hc => (nomatch hc)⟩
  | cons l ls ih =>
    obtain ⟨hl, hne⟩ := hls l mem_cons_self
    have ih := ih fun l' hl' => hls l' (mem_cons_of_mem l hl')
    cases ls with
    | nil =>
      rw [intercalate_singleton]
      exact hl
    | cons l' ls =>
      obtain ⟨-, hne'⟩ := hls l' (by simp)
      -- the last piece is not empty, so the text ends as it does
      have hrest : sep.intercalate (l' :: ls) ≠ [] := by
        obtain ⟨c, hc⟩ := exists_mem_of_ne_nil l' hne'
        exact ne_nil_of_mem (mem_intercalate_of_mem mem_cons_self hc)
      rw [intercalate_cons_cons]
      constructor
      · intro c hc
        rw [append_assoc, List.head?_append_of_ne_nil _ hne] at hc
        exact hl.head c hc
      · intro c hc
        rw [List.getLast?_append_of_ne_nil _ hrest] at hc
        exact ih.last c hc

end Trim

end Knights.Lib
