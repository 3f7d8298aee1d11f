import Mathlib.Data.List.Infix

namespace Knights.Lib

open List

/-!
# Frames in a stream

A framing cuts a stream into frames whose size is known once their first symbols are there.  Then
a stream is cut into complete frames in at most one way.  The second half is about two streams
that are written into one, chunk by chunk: chunks of the first stream may end anywhere, those of
the second are frames.

* `flatten_inj` — unique decoding;
* `complete_append_iff` — behind complete frames, a stream is complete if the rest is;
* `complete_iff_parse` — completeness is decided by cutting frames off;
* `contiguous_iff` — the merged stream is made of frames of one origin each exactly when no chunk
  of the second stream arrives inside a frame of the first.
-/

universe u

variable {α : Type u}

/-- A framing: the size of the frame at the front of a stream, once it is known. -/
structure Framing (α : Type u) where
  need : List α → Option ℕ
  need_pos : ∀ {l n}, need l = some n → 0 < n
  need_append : ∀ {l n} (r), need l = some n → need (l ++ r) = some n
  need_take : ∀ {l n}, need l = some n → n ≤ l.length → need (l.take n) = some n

namespace Framing

variable (F : Framing α)

/-- A complete frame. -/
def IsFrame (f : List α) : Prop := F.need f = some f.length

instance (f : List α) : Decidable (F.IsFrame f) :=
  inferInstanceAs (Decidable (F.need f = some f.length))

/-- A concatenation of complete frames. -/
def Complete (l : List α) : Prop := ∃ fs : List (List α), (∀ f ∈ fs, F.IsFrame f) ∧ fs.flatten = l

variable {F} {f g l r s : List α} {fs gs : List (List α)}

theorem IsFrame.ne_nil (hf : F.IsFrame f) : f ≠ [] := by
  intro hnil
  have hpos := F.need_pos hf
  rw [hnil] at hpos
  exact absurd hpos (by simp)

/-- The frame at the front of a stream that has one. -/
theorem isFrame_take {n : ℕ} (hneed : F.need l = some n) (hle : n ≤ l.length) :
    F.IsFrame (l.take n) := by
  unfold IsFrame
  rw [F.need_take hneed hle, length_take, Nat.min_eq_left hle]

/-- No frame is the beginning of another. -/
theorem IsFrame.unique (hf : F.IsFrame f) (hg : F.IsFrame g) (h : f ++ r = g ++ s) : f = g := by
  have hlen : f.length = g.length := by
    have hf' := F.need_append r hf
    have hg' := F.need_append s hg
    rw [h, hg'] at hf'
    exact (Option.some.inj hf').symm
  exact (append_inj h hlen).1

theorem complete_nil : F.Complete [] := ⟨[], by simp, rfl⟩

theorem IsFrame.complete (hf : F.IsFrame f) : F.Complete f :=
  ⟨[f], by simpa using hf, by simp⟩

theorem Complete.append (hl : F.Complete l) (hr : F.Complete r) : F.Complete (l ++ r) := by
  obtain ⟨fs, hfs, rfl⟩ := hl
  obtain ⟨gs, hgs, rfl⟩ := hr
  refine ⟨fs ++ gs, ?_, flatten_append⟩
  intro f hf
  rcases mem_append.mp hf with hf | hf
  · exact hfs f hf
  · exact hgs f hf

/-- The frames of a stream begin with those of a complete part at its front. -/
theorem prefix_of_complete (hfs : ∀ f ∈ fs, F.IsFrame f) (hgs : ∀ g ∈ gs, F.IsFrame g)
    (h : fs.flatten ++ r = gs.flatten) : ∃ hs, gs = fs ++ hs ∧ hs.flatten = r := by
  induction fs generalizing gs with
  | nil => exact ⟨gs, rfl, h.symm⟩
  | cons f fs ih =>
    have hf := hfs f mem_cons_self
    cases gs with
    | nil =>
      simp only [flatten_nil, flatten_cons, append_assoc] at h
      exact absurd (append_eq_nil_iff.mp h).1 hf.ne_nil
    | cons g gs =>
      -- both streams start with a frame, and the bytes determine where it ends
      rw [flatten_cons, flatten_cons, append_assoc] at h
      have hfg := hf.unique (hgs g mem_cons_self) h
      subst hfg
      obtain ⟨hs, rfl, hr⟩ := ih (fun f' hf' => hfs f' (mem_cons_of_mem _ hf'))
        (fun g' hg' => hgs g' (mem_cons_of_mem _ hg')) (append_cancel_left h)
      exact ⟨hs, rfl, hr⟩

/-- **The rest of a stream.** -/
theorem complete_append_iff (hl : F.Complete l) : F.Complete (l ++ r) ↔ F.Complete r := by
  constructor
  · rintro ⟨gs, hgs, hflat⟩
    obtain ⟨fs, hfs, rfl⟩ := hl
    obtain ⟨hs, rfl, hr⟩ := prefix_of_complete hfs hgs hflat.symm
    exact ⟨hs, fun f hf => hgs f (mem_append_right _ hf), hr⟩
  · exact hl.append

/-! ### Cutting frames off -/

variable (F) in
/-- Cut off frames while there is fuel; `none` if the stream ends inside a frame. -/
def parse : ℕ → List α → Option (List (List α))
  | _, [] => some []
  | 0, _ :: _ => none
  | fuel + 1, a :: l =>
    match F.need (a :: l) with
    | none => none
    | some n =>
      if (a :: l).length < n then none
      else (parse fuel ((a :: l).drop n)).map fun fs => (a :: l).take n :: fs

/-- A frame at the front is cut off. -/
theorem parse_append (hf : F.IsFrame f) (fuel : ℕ) (l : List α) :
    F.parse (fuel + 1) (f ++ l) = (F.parse fuel l).map fun fs => f :: fs := by
  cases f with
  | nil => exact absurd rfl hf.ne_nil
  | cons a f =>
    have hneed : F.need (a :: (f ++ l)) = some (a :: f).length := F.need_append l hf
    have hlen : ¬ (a :: (f ++ l)).length < (a :: f).length := by simp
    rw [cons_append, parse, hneed]
    simp only [hlen, if_false]
    rw [← cons_append, drop_left, take_left]

/-- A concatenation of frames is cut into them, given as much fuel as it is long. -/
theorem parse_flatten (hfs : ∀ f ∈ fs, F.IsFrame f) {fuel : ℕ} (hfuel : fs.flatten.length ≤ fuel) :
    F.parse fuel fs.flatten = some fs := by
  induction fs generalizing fuel with
  | nil => cases fuel <;> rfl
  | cons f fs ih =>
    have hf := hfs f mem_cons_self
    have hpos : 0 < f.length := length_pos_iff.mpr hf.ne_nil
    rw [flatten_cons, length_append] at hfuel
    obtain ⟨fuel, rfl⟩ : ∃ k, fuel = k + 1 := ⟨fuel - 1, by omega⟩
    rw [flatten_cons, parse_append hf,
      ih (fun f' hf' => hfs f' (mem_cons_of_mem _ hf')) (by omega), Option.map_some]

/-- **Unique decoding.** -/
theorem flatten_inj (hfs : ∀ f ∈ fs, F.IsFrame f) (hgs : ∀ g ∈ gs, F.IsFrame g)
    (h : fs.flatten = gs.flatten) : fs = gs := by
  have hparse := parse_flatten hfs (Nat.le_refl _)
  rw [h, parse_flatten hgs (Nat.le_refl _)] at hparse
  exact (Option.some.inj hparse).symm

/-- What is cut is complete. -/
theorem complete_of_parse {fuel : ℕ} (h : (F.parse fuel l).isSome = true) : F.Complete l := by
  induction fuel generalizing l with
  | zero =>
    cases l with
    | nil => exact complete_nil
    | cons a l => exact absurd h (by simp [parse])
  | succ fuel ih =>
    cases l with
    | nil => exact complete_nil
    | cons a l =>
      rw [parse] at h
      cases hneed : F.need (a :: l) with
      | none =>
        rw [hneed] at h
        exact absurd h (by simp)
      | some n =>
        rw [hneed] at h
        simp only at h
        by_cases hlen : (a :: l).length < n
        · rw [if_pos hlen] at h
          exact absurd h (by simp)
        · rw [if_neg hlen, Option.isSome_map] at h
          have hle : n ≤ (a :: l).length := Nat.le_of_not_lt hlen
          rw [← take_append_drop n (a :: l)]
          exact (isFrame_take hneed hle).complete.append (ih h)

/-- **Completeness is decided** by cutting frames off. -/
theorem complete_iff_parse (l : List α) : F.Complete l ↔ (F.parse l.length l).isSome = true := by
  constructor
  · rintro ⟨fs, hfs, rfl⟩
    rw [parse_flatten hfs (Nat.le_refl _)]
    rfl
  · exact complete_of_parse

instance (l : List α) : Decidable (F.Complete l) :=
  decidable_of_iff _ (complete_iff_parse l).symm

end Framing

/-! ### Two streams written into one -/

/-- Where a chunk comes from. -/
inductive Origin where
  | first
  | second
  deriving DecidableEq, Repr

/-- A piece of one of the streams. -/
abbrev Chunk (α : Type u) := Origin × List α

/-- The merged stream, each symbol with its origin. -/
def tagged (cs : List (Chunk α)) : List (Origin × α) :=
  cs.flatMap fun c => c.2.map fun a => (c.1, a)

/-- The chunks of one stream. -/
def chunksOf (o : Origin) (cs : List (Chunk α)) : List (List α) :=
  (cs.filter fun c => c.1 = o).map fun c => c.2

/-- What was written of one stream. -/
def written (o : Origin) (cs : List (Chunk α)) : List α := (chunksOf o cs).flatten

section Chunks

variable {o : Origin} {bs : List α} {c : Chunk α} {cs ds : List (Chunk α)}

@[simp] theorem tagged_nil : tagged ([] : List (Chunk α)) = [] := rfl

@[simp] theorem tagged_cons : tagged (c :: cs) = c.2.map (fun a => (c.1, a)) ++ tagged cs := rfl

@[simp] theorem tagged_append : tagged (cs ++ ds) = tagged cs ++ tagged ds :=
  flatMap_append

theorem chunksOf_cons :
    chunksOf o (c :: cs) = if c.1 = o then c.2 :: chunksOf o cs else chunksOf o cs := by
  unfold chunksOf
  by_cases hc : c.1 = o <;> simp [hc]

@[simp] theorem written_nil : written o ([] : List (Chunk α)) = [] := rfl

theorem written_cons : written o (c :: cs) = (if c.1 = o then c.2 else []) ++ written o cs := by
  unfold written
  rw [chunksOf_cons]
  by_cases hc : c.1 = o <;> simp [hc]

@[simp] theorem written_append : written o (cs ++ ds) = written o cs ++ written o ds := by
  simp [written, chunksOf]

/-- Chunks of one origin, merged. -/
theorem tagged_map (fs : List (List α)) :
    tagged (fs.map fun f => (o, f)) = fs.flatten.map fun a => (o, a) := by
  induction fs with
  | nil => rfl
  | cons f fs ih => rw [map_cons, tagged_cons, ih, flatten_cons, map_append]

/-- The symbols of one origin. -/
def ofOrigin (o : Origin) (ts : List (Origin × α)) : List α :=
  (ts.filter fun t => t.1 = o).map fun t => t.2

@[simp] theorem ofOrigin_append (ts us : List (Origin × α)) :
    ofOrigin o (ts ++ us) = ofOrigin o ts ++ ofOrigin o us := by
  simp [ofOrigin]

theorem ofOrigin_map (o' : Origin) (bs : List α) :
    ofOrigin o (bs.map fun a => (o', a)) = if o' = o then bs else [] := by
  unfold ofOrigin
  by_cases ho : o' = o <;> simp [ho, filter_map, Function.comp_def]

/-- What was written of a stream is what the merged stream has of it. -/
theorem ofOrigin_tagged : ofOrigin o (tagged cs) = written o cs := by
  induction cs with
  | nil => rfl
  | cons c cs ih => rw [tagged_cons, ofOrigin_append, ofOrigin_map, written_cons, ih]

/-- What one stream writes, alone. -/
theorem written_map (o' : Origin) (fs : List (List α)) :
    written o (fs.map fun f => (o', f)) = if o' = o then fs.flatten else [] := by
  rw [← ofOrigin_tagged, tagged_map, ofOrigin_map]

end Chunks

namespace Framing

variable (F : Framing α)

/-- The merged stream is made of complete frames, each of one origin. -/
def Contiguous (cs : List (Chunk α)) : Prop :=
  ∃ gs : List (Chunk α), (∀ g ∈ gs, F.IsFrame g.2) ∧ tagged gs = tagged cs

/-- No chunk of the second stream arrives inside a frame of the first, of which `before` has been
    written already. -/
def Aligned : List α → List (Chunk α) → Prop
  | _, [] => True
  | before, (.first, bs) :: cs => Aligned (before ++ bs) cs
  | before, (.second, _) :: cs => F.Complete before ∧ Aligned before cs

instance decidableAligned : ∀ before cs, Decidable (F.Aligned before cs)
  | _, [] => isTrue trivial
  | before, (.first, bs) :: cs => decidableAligned (before ++ bs) cs
  | before, (.second, _) :: cs =>
    have := decidableAligned before cs
    inferInstanceAs (Decidable (F.Complete before ∧ F.Aligned before cs))

variable {F} {before rest l : List α} {cs ds gs : List (Chunk α)}

theorem aligned_append : F.Aligned before (cs ++ ds) ↔
    F.Aligned before cs ∧ F.Aligned (before ++ written .first cs) ds := by
  induction cs generalizing before with
  | nil => simp [Aligned]
  | cons c cs ih =>
    obtain ⟨o, bs⟩ := c
    cases o with
    | first =>
      rw [cons_append, Aligned, Aligned, ih, written_cons, if_pos rfl, append_assoc]
    | second =>
      rw [cons_append, Aligned, Aligned, ih, written_cons, if_neg (by simp), nil_append,
        and_assoc]

/-- Chunks of the first stream can go anywhere. -/
theorem aligned_of_first (h : ∀ c ∈ cs, c.1 = Origin.first) : F.Aligned before cs := by
  induction cs generalizing before with
  | nil => trivial
  | cons c cs ih =>
    obtain ⟨o, bs⟩ := c
    obtain rfl : o = .first := h _ mem_cons_self
    exact ih fun c hc => h c (mem_cons_of_mem _ hc)

/-- Chunks of the second stream go where the first one is complete. -/
theorem aligned_second_iff (h : ∀ c ∈ cs, c.1 = Origin.second) :
    F.Aligned before cs ↔ (cs ≠ [] → F.Complete before) := by
  induction cs with
  | nil => simp [Aligned]
  | cons c cs ih =>
    obtain ⟨o, bs⟩ := c
    obtain rfl : o = .second := h _ mem_cons_self
    rw [Aligned, ih fun c hc => h c (mem_cons_of_mem _ hc)]
    constructor
    · exact fun hal _ => hal.1
    · exact fun hal => ⟨hal (by simp), fun _ => hal (by simp)⟩

/-- The frames of one origin in a list of tagged frames. -/
theorem isFrame_chunksOf {o : Origin} (hgs : ∀ g ∈ gs, F.IsFrame g.2) :
    ∀ f ∈ chunksOf o gs, F.IsFrame f := by
  intro f hf
  obtain ⟨g, hg, rfl⟩ := mem_map.mp hf
  exact hgs g (mem_of_mem_filter hg)

/-- Putting the frames together: `pending` is what the first stream has written since its last
    complete frame. -/
theorem contiguous_of_aligned {done pending : List α} (hdone : F.Complete done)
    (hsecond : ∀ c ∈ cs, c.1 = .second → F.IsFrame c.2) (hal : F.Aligned (done ++ pending) cs)
    (hend : F.Complete (done ++ pending ++ written .first cs)) :
    F.Contiguous ((.first, pending) :: cs) := by
  have hframes : ∀ fs : List (List α), (∀ f ∈ fs, F.IsFrame f) →
      ∀ g ∈ fs.map (fun f => (Origin.first, f)), F.IsFrame g.2 := by
    intro fs hfs g hg
    obtain ⟨f, hf, rfl⟩ := mem_map.mp hg
    exact hfs f hf
  induction cs generalizing done pending with
  | nil =>
    rw [written_nil, append_nil, complete_append_iff hdone] at hend
    obtain ⟨fs, hfs, rfl⟩ := hend
    exact ⟨_, hframes fs hfs, by rw [tagged_map, tagged_cons, tagged_nil, append_nil]⟩
  | cons c cs ih =>
    obtain ⟨o, bs⟩ := c
    have hsecond' : ∀ c ∈ cs, c.1 = .second → F.IsFrame c.2 := fun c hc =>
      hsecond c (mem_cons_of_mem _ hc)
    cases o with
    | first =>
      -- the chunk joins what is pending
      rw [written_cons, if_pos rfl, ← append_assoc, append_assoc done] at hend
      rw [Aligned, append_assoc] at hal
      obtain ⟨gs, hgs, htag⟩ := ih hdone hsecond' hal hend
      refine ⟨gs, hgs, ?_⟩
      rw [htag]
      simp only [tagged_cons, map_append, append_assoc]
    | second =>
      -- what is pending is complete, so that its frames come before this one
      obtain ⟨hcomplete, hal⟩ := hal
      obtain ⟨fs, hfs, rfl⟩ := (complete_append_iff hdone).mp hcomplete
      obtain ⟨gs, hgs, htag⟩ := @ih _ [] hcomplete hsecond' (by rwa [append_nil])
        (by rwa [append_nil])
      refine ⟨fs.map (fun f => (Origin.first, f)) ++ (.second, bs) :: gs, ?_, ?_⟩
      · intro g hg
        rcases mem_append.mp hg with hg | hg
        · exact hframes fs hfs g hg
        · rcases mem_cons.mp hg with rfl | hg
          · exact hsecond _ mem_cons_self rfl
          · exact hgs g hg
      · rw [tagged_append, tagged_map, tagged_cons, htag]
        rfl

/-- Before a symbol of the second stream, the first one is complete. -/
theorem complete_ofOrigin (hgs : ∀ g ∈ gs, F.IsFrame g.2) {ts us : List (Origin × α)} {a : α}
    (h : tagged gs = ts ++ (.second, a) :: us) : F.Complete (ofOrigin .first ts) := by
  induction gs generalizing ts with
  | nil => exact absurd h (by simp)
  | cons g gs ih =>
    obtain ⟨o, f⟩ := g
    have hf : F.IsFrame f := hgs _ mem_cons_self
    have ih := fun {ts} => @ih (fun g hg => hgs g (mem_cons_of_mem _ hg)) ts
    rw [tagged_cons] at h
    rcases append_eq_append_iff.mp h with ⟨ts', rfl, hrest⟩ | ⟨cut, hcut, hrest⟩
    · -- the symbol comes after this frame
      rw [ofOrigin_append, ofOrigin_map]
      cases o with
      | first => exact hf.complete.append (ih hrest)
      | second => exact complete_nil.append (ih hrest)
    · cases cut with
      | nil =>
        rw [append_nil] at hcut
        rw [← hcut, ofOrigin_map]
        cases o with
        | first => exact hf.complete
        | second => exact complete_nil
      | cons b cut =>
        -- the symbol belongs to this frame, which then is of the second stream
        obtain ⟨rfl, -⟩ := hrest
        have hmem : (Origin.second, a) ∈ f.map fun a => (o, a) := by
          rw [hcut]
          exact mem_append_right _ mem_cons_self
        obtain ⟨a', -, heq⟩ := mem_map.mp hmem
        obtain rfl : o = .second := congrArg Prod.fst heq
        have hnone := @ofOrigin_map α .first .second f
        rw [hcut, ofOrigin_append, if_neg (by simp)] at hnone
        rw [(append_eq_nil_iff.mp hnone).1]
        exact complete_nil

/-- Alignment from the places where chunks of the second stream arrive. -/
theorem aligned_of_splits (h : ∀ pre f post, cs = pre ++ (.second, f) :: post →
    F.Complete (before ++ written .first pre)) : F.Aligned before cs := by
  induction cs generalizing before with
  | nil => trivial
  | cons c cs ih =>
    obtain ⟨o, bs⟩ := c
    cases o with
    | first =>
      refine ih fun pre f post heq => ?_
      have hsplit := h ((.first, bs) :: pre) f post (by rw [heq]; rfl)
      rwa [written_cons, if_pos rfl, ← append_assoc] at hsplit
    | second =>
      refine ⟨?_, ih fun pre f post heq => ?_⟩
      · have hsplit := h [] bs cs rfl
        rwa [written_nil, append_nil] at hsplit
      · have hsplit := h ((.second, bs) :: pre) f post (by rw [heq]; rfl)
        rwa [written_cons, if_neg (by simp), nil_append] at hsplit

/-- **When frames stay whole.** If the chunks of the second stream are frames, the merged stream is
    made of frames of one origin each exactly when every chunk of the second stream arrives between
    frames of the first, and the first ends with a complete frame. -/
theorem contiguous_iff (hsecond : ∀ c ∈ cs, c.1 = .second → F.IsFrame c.2) :
    F.Contiguous cs ↔ F.Aligned [] cs ∧ F.Complete (written .first cs) := by
  constructor
  · rintro ⟨gs, hgs, htag⟩
    refine ⟨aligned_of_splits fun pre f post heq => ?_, ?_⟩
    -- where a chunk of the second stream starts, a frame ends: its first byte has the other origin
    · have hf : F.IsFrame f := hsecond (.second, f) (by simp [heq]) rfl
      cases f with
      | nil => exact absurd rfl hf.ne_nil
      | cons a f =>
        rw [nil_append, ← ofOrigin_tagged]
        refine @complete_ofOrigin α F gs hgs _ (f.map (fun a => (.second, a)) ++ tagged post) a ?_
        rw [htag, heq, tagged_append, tagged_cons]
        rfl
    · rw [← ofOrigin_tagged, ← htag, ofOrigin_tagged]
      exact ⟨_, isFrame_chunksOf hgs, rfl⟩
  · rintro ⟨hal, hend⟩
    obtain ⟨gs, hgs, htag⟩ := @contiguous_of_aligned α F cs [] [] complete_nil hsecond hal hend
    exact ⟨gs, hgs, htag⟩

/-- The frames of one origin in a merged stream are those that were written. -/
theorem chunksOf_eq {o : Origin} {fs : List (List α)} (hgs : ∀ g ∈ gs, F.IsFrame g.2)
    (htag : tagged gs = tagged cs) (hfs : ∀ f ∈ fs, F.IsFrame f)
    (hflat : fs.flatten = written o cs) : chunksOf o gs = fs := by
  refine flatten_inj (isFrame_chunksOf hgs) hfs ?_
  rw [hflat, ← ofOrigin_tagged, ← htag, ofOrigin_tagged]
  rfl

end Framing

end Knights.Lib
