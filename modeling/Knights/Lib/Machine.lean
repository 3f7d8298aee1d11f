import Mathlib.Data.List.Induction

namespace Knights.Lib

open List

/-!
# Machines that answer calls

A machine takes an input in a state, moves to a new state and gives an output.  Everything
stateful here — an engine driven by calls, two peers and a network between them, a consumer
of a stream — is such a machine, and its properties are about whole runs:

* `run` is the state after a list of inputs, `trace` the events met on the way, each with the
  state it started from;
* `mem_trace` places an event of a trace in the run: some prefix of the inputs led to it;
* `run_invariant` — what one step keeps, a run keeps;
* `outputs` collects what a run puts out, with `outputs_invariant`;
* `Guarded` restricts attention to runs whose steps all meet a condition on the state and the
  input, and `guarded_invariant` is the invariant rule for those;
* `forall_trace_iff_guarded` — where such a condition decides a property of single events, it
  decides it for whole runs, and `forall_prefix_iff_guarded` is the same for the states of a
  run.
-/

universe u v w

/-- A deterministic machine with inputs `ι` and outputs `ο`. -/
structure Machine (σ : Type u) (ι : Type v) (ο : Type w) where
  step : σ → ι → σ × ο

/-- One step of a run: the state it started from, its input and its output. -/
structure Event (σ : Type u) (ι : Type v) (ο : Type w) where
  pre : σ
  input : ι
  output : ο

namespace Machine

variable {σ : Type u} {ι : Type v} {ο : Type w} (M : Machine σ ι ο) {s : σ} {is : List ι}
  {e : Event σ ι ο}

/-- The state after one input. -/
def next (s : σ) (i : ι) : σ := (M.step s i).1

/-- The state after a list of inputs. -/
def run (s : σ) (is : List ι) : σ := is.foldl M.next s

/-- The events of a run, first to last. -/
def trace : σ → List ι → List (Event σ ι ο)
  | _, [] => []
  | s, i :: is => ⟨s, i, (M.step s i).2⟩ :: trace (M.next s i) is

@[simp] theorem run_nil (s : σ) : M.run s [] = s := rfl

@[simp] theorem run_cons (s : σ) (i : ι) (is : List ι) :
    M.run s (i :: is) = M.run (M.next s i) is := rfl

@[simp] theorem trace_nil (s : σ) : M.trace s [] = [] := rfl

@[simp] theorem trace_cons (s : σ) (i : ι) (is : List ι) :
    M.trace s (i :: is) = ⟨s, i, (M.step s i).2⟩ :: M.trace (M.next s i) is := rfl

theorem run_append (s : σ) (is js : List ι) :
    M.run s (is ++ js) = M.run (M.run s is) js := foldl_append

theorem trace_append (s : σ) (is js : List ι) :
    M.trace s (is ++ js) = M.trace s is ++ M.trace (M.run s is) js := by
  induction is generalizing s with
  | nil => rfl
  | cons i is ih => simp [ih]

/-- An event of a trace is one step of the run, taken after some prefix of the inputs. -/
theorem mem_trace :
    e ∈ M.trace s is ↔ ∃ pre post, is = pre ++ e.input :: post ∧ e.pre = M.run s pre ∧
      e.output = (M.step e.pre e.input).2 := by
  induction is generalizing s with
  | nil => simp
  | cons i is ih =>
    rw [trace_cons, mem_cons, ih]
    constructor
    · rintro (rfl | ⟨pre, post, rfl, hpre, hout⟩)
      · exact ⟨[], is, rfl, rfl, rfl⟩
      · exact ⟨i :: pre, post, rfl, hpre, hout⟩
    · rintro ⟨pre, post, his, hpre, hout⟩
      cases pre with
      | nil =>
        left
        obtain ⟨rfl, -⟩ := his
        cases e
        simp_all
      | cons j pre =>
        right
        obtain ⟨rfl, rfl⟩ := his
        exact ⟨pre, post, rfl, hpre, hout⟩

/-- The last event of a run. -/
theorem mem_trace_last (s : σ) (is : List ι) (i : ι) :
    ⟨M.run s is, i, (M.step (M.run s is) i).2⟩ ∈ M.trace s (is ++ [i]) := by
  rw [trace_append]
  exact mem_append_right _ (mem_singleton.mpr rfl)

/-! ### Invariants -/

/-- **Invariant rule.** What every step keeps holds after every run. -/
theorem run_invariant (I : σ → Prop) (hstep : ∀ s i, I s → I (M.next s i)) (h0 : I s)
    (is : List ι) :
    I (M.run s is) := by
  induction is generalizing s with
  | nil => exact h0
  | cons i is ih => exact ih (hstep s i h0)

/-- The steps of a run all meet `G`, a condition on the state before the step and its
    input. -/
def Guarded (G : σ → ι → Prop) : σ → List ι → Prop
  | _, [] => True
  | s, i :: is => G s i ∧ Guarded G (M.next s i) is

instance decidableGuarded (G : σ → ι → Prop) [∀ s i, Decidable (G s i)] :
    ∀ s is, Decidable (M.Guarded G s is)
  | _, [] => isTrue trivial
  | s, i :: is =>
    have := decidableGuarded G (M.next s i) is
    inferInstanceAs (Decidable (G s i ∧ M.Guarded G (M.next s i) is))

@[simp] theorem guarded_nil (G : σ → ι → Prop) (s : σ) : M.Guarded G s [] := trivial

@[simp] theorem guarded_cons (G : σ → ι → Prop) (s : σ) (i : ι) (is : List ι) :
    M.Guarded G s (i :: is) ↔ G s i ∧ M.Guarded G (M.next s i) is := Iff.rfl

theorem guarded_append (G : σ → ι → Prop) (s : σ) (is js : List ι) :
    M.Guarded G s (is ++ js) ↔ M.Guarded G s is ∧ M.Guarded G (M.run s is) js := by
  induction is generalizing s with
  | nil => simp
  | cons i is ih => simp [ih, and_assoc]

/-- A condition on the inputs alone. -/
theorem guarded_of_forall_mem {G : σ → ι → Prop} (h : ∀ i ∈ is, ∀ s, G s i) (s : σ) :
    M.Guarded G s is := by
  induction is generalizing s with
  | nil => trivial
  | cons i is ih =>
    exact ⟨h i mem_cons_self s, ih (fun j hj => h j (mem_cons_of_mem i hj)) _⟩

/-- **Guarded invariant rule.** What every step that meets `G` keeps holds after every run
    whose steps all meet `G`. -/
theorem guarded_invariant (I : σ → Prop) (G : σ → ι → Prop)
    (hstep : ∀ s i, I s → G s i → I (M.next s i)) (h0 : I s) (hG : M.Guarded G s is) :
    I (M.run s is) := by
  induction is generalizing s with
  | nil => exact h0
  | cons i is ih => exact ih (hstep s i h0 hG.1) hG.2

/-- **Invariants with a history.** What every step that meets `G` keeps, between the events so far
    and the state, holds after every run whose steps all meet `G`. -/
theorem guarded_trace_invariant (I : List (Event σ ι ο) → σ → Prop) (G : σ → ι → Prop)
    (hstep : ∀ tr s i, I tr s → G s i → I (tr ++ [⟨s, i, (M.step s i).2⟩]) (M.next s i))
    (h0 : I [] s) (hG : M.Guarded G s is) :
    I (M.trace s is) (M.run s is) := by
  induction is using List.reverseRecOn with
  | nil => exact h0
  | append_singleton is i ih =>
    obtain ⟨his, hi, -⟩ := (M.guarded_append G s is [i]).mp hG
    rw [trace_append, run_append]
    exact hstep _ _ i (ih his) hi

/-- What every step keeps, between the events so far and the state, holds after every run. -/
theorem trace_invariant (I : List (Event σ ι ο) → σ → Prop)
    (hstep : ∀ tr s i, I tr s → I (tr ++ [⟨s, i, (M.step s i).2⟩]) (M.next s i)) (h0 : I [] s)
    (is : List ι) : I (M.trace s is) (M.run s is) :=
  M.guarded_trace_invariant I (fun _ _ => True) (fun tr s i h _ => hstep tr s i h) h0
    (M.guarded_of_forall_mem (fun _ _ _ => trivial) s)

/-! ### Machines that put out lists -/

section Outputs

variable {ε : Type w} (N : Machine σ ι (List ε))

/-- All that a run puts out. -/
def outputs (s : σ) (is : List ι) : List ε := (N.trace s is).flatMap Event.output

@[simp] theorem outputs_nil (s : σ) : N.outputs s [] = [] := rfl

@[simp] theorem outputs_cons (s : σ) (i : ι) (is : List ι) :
    N.outputs s (i :: is) = (N.step s i).2 ++ N.outputs (N.next s i) is := rfl

theorem outputs_append (s : σ) (is js : List ι) :
    N.outputs s (is ++ js) = N.outputs s is ++ N.outputs (N.run s is) js := by
  simp [outputs, trace_append]

/-- **Invariants with outputs.** What every step that meets `G` keeps, between what was put out
    and the state, holds after every run whose steps all meet `G`. -/
theorem guarded_outputs_invariant (I : List ε → σ → Prop) (G : σ → ι → Prop)
    (hstep : ∀ es s i, I es s → G s i → I (es ++ (N.step s i).2) (N.next s i)) (h0 : I [] s)
    (hG : N.Guarded G s is) :
    I (N.outputs s is) (N.run s is) := by
  refine N.guarded_trace_invariant (fun tr => I (tr.flatMap Event.output)) G ?_ h0 hG
  intro tr s i h hi
  rw [flatMap_append, flatMap_singleton]
  exact hstep _ s i h hi

/-- What every step keeps, between what was put out and the state, holds after every run. -/
theorem outputs_invariant (I : List ε → σ → Prop)
    (hstep : ∀ es s i, I es s → I (es ++ (N.step s i).2) (N.next s i)) (h0 : I [] s) (is : List ι) :
    I (N.outputs s is) (N.run s is) :=
  N.guarded_outputs_invariant I (fun _ _ => True) (fun es s i h _ => hstep es s i h) h0
    (N.guarded_of_forall_mem (fun _ _ _ => trivial) s)

end Outputs

/-- **Exact conditions.** If, on the states of an invariant, a property of events amounts to a
    condition on the state and the input, and the condition keeps the invariant, then all
    events of a run have the property exactly when all its steps meet the condition. -/
theorem forall_trace_iff_guarded (I : σ → Prop) (C : ι → Prop) (G : σ → ι → Prop)
    (P : Event σ ι ο → Prop) (hP : ∀ s i, I s → C i → (P ⟨s, i, (M.step s i).2⟩ ↔ G s i))
    (hI : ∀ s i, I s → C i → G s i → I (M.next s i)) (h0 : I s) (hC : ∀ i ∈ is, C i) :
    (∀ e ∈ M.trace s is, P e) ↔ M.Guarded G s is := by
  induction is generalizing s with
  | nil => simp
  | cons i is ih =>
    have hi : C i := hC i mem_cons_self
    rw [trace_cons, forall_mem_cons, guarded_cons, hP s i h0 hi]
    refine and_congr_right fun hG => ?_
    exact ih (hI s i h0 hi hG) fun j hj => hC j (mem_cons_of_mem i hj)

/-- **Exact conditions, state by state.** If on the states of an invariant a property survives
    a step exactly when the step meets a condition, then it holds after every prefix of a run
    exactly when every step of the run meets the condition. -/
theorem forall_prefix_iff_guarded (J I : σ → Prop) (G : σ → ι → Prop)
    (hJ : ∀ s i, J s → J (M.next s i)) (hI : ∀ s i, J s → I s → (I (M.next s i) ↔ G s i)) (h0 : J s)
    (h0' : I s) (is : List ι) :
    (∀ pre, pre <+: is → I (M.run s pre)) ↔ M.Guarded G s is := by
  induction is generalizing s with
  | nil =>
    refine ⟨fun _ => trivial, fun _ pre hpre => ?_⟩
    rw [prefix_nil.mp hpre]
    exact h0'
  | cons i is ih =>
    constructor
    · intro h
      have hi : I (M.next s i) := h [i] ⟨is, rfl⟩
      refine ⟨(hI s i h0 h0').mp hi, (ih (hJ s i h0) hi).mp fun pre hpre => ?_⟩
      exact h (i :: pre) (cons_prefix_cons.mpr ⟨rfl, hpre⟩)
    · rintro ⟨hG, hrest⟩ pre hpre
      have hi : I (M.next s i) := (hI s i h0 h0').mpr hG
      cases pre with
      | nil => exact h0'
      | cons j pre =>
        obtain ⟨hj, hpre⟩ := cons_prefix_cons.mp hpre
        rw [hj, run_cons]
        exact (ih (hJ s i h0) hi).mpr hrest pre hpre

end Machine

end Knights.Lib
