import Mathlib.Data.Set.Basic

namespace Knights.Lib

/-!
# Processes over shared state

A process performs operations one at a time and goes on with their answers.  Several
processes that act on one state interleave at their operations: each operation is atomic,
and between two of them anything the other processes do may happen.

* `Proc` is the type of processes, a monad with `perform` for one operation;
* a `Discipline` says which facts answers tell and which facts operations need, and
  `Proc.Obeys` that a process performs no operation without the facts it needs.  `obeys_bind`
  and `obeys_each` are its rules;
* `Proc.run` executes a process without interruption;
* a pool is a list of tagged processes, and `advance` performs the next operation of one of
  them.  `needed_of_next?` and `allObey_advance` carry `Obeys` along any interleaving.
-/

universe u v w x x' y z

/-- A process over operations `Op` with answers `Ans`, returning a value of `α`. -/
inductive Proc {Op : Type u} (Ans : Op → Type v) (α : Type w) where
  | ret (a : α)
  | act (o : Op) (k : Ans o → Proc Ans α)

namespace Proc

variable {Op : Type u} {Ans : Op → Type v} {α β : Type w} {γ : Type x}

/-- First one process, then another that may use what the first returned. -/
def bind {α β : Type w} : Proc Ans α → (α → Proc Ans β) → Proc Ans β
  | ret a, f => f a
  | act o k, f => act o fun a => (k a).bind f

instance : Monad (Proc Ans) where
  pure := ret
  bind := bind

/-- One operation, returning its answer. -/
def perform (o : Op) : Proc Ans (Ans o) := act o ret

/-- A process for every entry of a list, in order. -/
def each (f : γ → Proc Ans PUnit.{w + 1}) : List γ → Proc Ans PUnit.{w + 1}
  | [] => ret ⟨⟩
  | c :: cs => f c >>= fun _ => each f cs

/-- The process has returned. -/
def isDone : Proc Ans α → Bool
  | ret _ => true
  | act _ _ => false

/-- The process performs `o` at some time, whatever answers it gets. -/
def Inevitable (o : Op) : Proc Ans α → Prop
  | ret _ => False
  | act o' k => o' = o ∨ ∀ a, Inevitable o (k a)

/-- A process that is still to perform an operation has not returned. -/
theorem Inevitable.isDone_eq_false {o : Op} {p : Proc Ans α} (h : p.Inevitable o) :
    p.isDone = false := by
  cases p with
  | ret a => exact h.elim
  | act o' k => rfl

/-! ### What a process knows -/

end Proc

/-- What processes come to know and what they have to know.  `learned` are the facts that the
    answer to an operation tells; `needed` says for each kind of process what has to be known
    before an operation is performed. -/
structure Discipline {Op : Type u} (Ans : Op → Type v) (F : Type x') (τ : Type x) where
  learned : (o : Op) → Ans o → Set F
  needed : τ → Set F → Op → Prop
  needed_mono : ∀ {t : τ} {o : Op} {K L : Set F}, K ⊆ L → needed t K o → needed t L o

namespace Proc

variable {Op : Type u} {Ans : Op → Type v} {α β : Type w} {γ : Type y} {F : Type x'} {τ : Type x}

/-- A process of kind `t` that starts with the facts `K` performs every operation with the
    facts that it needs, and what it knows and returns at the end meets `Q`. -/
def Obeys (R : Discipline Ans F τ) (t : τ) : Set F → Proc Ans α → (Set F → α → Prop) → Prop
  | K, ret a, Q => Q K a
  | K, act o k, Q => R.needed t K o ∧ ∀ a, Obeys R t (K ∪ R.learned o a) (k a) Q

variable {R : Discipline Ans F τ} {t : τ} {K L : Set F} {Q Q' : Set F → α → Prop}

/-- **Sequencing.** A process in two parts is judged part by part. -/
@[simp] theorem obeys_bind (p : Proc Ans α) (f : α → Proc Ans β) {Q : Set F → β → Prop} :
    Obeys R t K (p >>= f) Q ↔ Obeys R t K p fun L a => Obeys R t L (f a) Q := by
  induction p generalizing K with
  | ret a => rfl
  | act o k ih =>
    exact and_congr_right fun _ => forall_congr' fun a => ih a

/-- Who knows more may do the same. -/
theorem Obeys.mono {p : Proc Ans α} (h : Obeys R t K p Q) (hKL : K ⊆ L)
    (hQ : ∀ K' L' a, K' ⊆ L' → Q K' a → Q' L' a) : Obeys R t L p Q' := by
  induction p generalizing K L with
  | ret a => exact hQ K L a hKL h
  | act o k ih =>
    refine ⟨R.needed_mono hKL h.1, fun a => ih a (h.2 a) ?_⟩
    exact Set.union_subset_union_left _ hKL

/-- A process forgets nothing. -/
theorem Obeys.imp {p : Proc Ans α} (h : Obeys R t K p Q)
    (hQ : ∀ L a, K ⊆ L → Q L a → Q' L a) : Obeys R t K p Q' := by
  induction p generalizing K with
  | ret a => exact hQ K a subset_rfl h
  | act o k ih =>
    refine ⟨h.1, fun a => ih a (h.2 a) fun L b hL hb => hQ L b ?_ hb⟩
    exact Set.subset_union_left.trans hL

/-- A list of processes, each with the facts that it needs. -/
theorem obeys_each {f : γ → Proc Ans PUnit.{w + 1}} {cs : List γ}
    (hf : ∀ c ∈ cs, ∀ ⦃L⦄, K ⊆ L → Obeys R t L (f c) fun _ _ => True) :
    Obeys R t K (each f cs) fun _ _ => True := by
  induction cs generalizing K with
  | nil => trivial
  | cons c cs ih =>
    refine (obeys_bind _ _).mpr ((hf c List.mem_cons_self subset_rfl).imp fun L _ hL _ => ?_)
    exact ih fun d hd L' hL' => hf d (List.mem_cons_of_mem c hd) (hL.trans hL')

/-! ### Running without interruption -/

section Run

variable {W : Type y} {ε : Type z} (exec : (o : Op) → ε → W → W × Ans o) (e : ε)

/-- Execute a process to its end; `e` is the environment's contribution to every operation. -/
def run : Proc Ans α → W → W × α
  | ret a, w => (w, a)
  | act o k, w => run (k (exec o e w).2) (exec o e w).1

@[simp] theorem run_pure (a : α) (w : W) : (pure a : Proc Ans α).run exec e w = (w, a) := rfl

@[simp] theorem run_act (o : Op) (k : Ans o → Proc Ans α) (w : W) :
    (act o k).run exec e w = (k (exec o e w).2).run exec e (exec o e w).1 := rfl

@[simp] theorem run_perform (o : Op) (w : W) :
    (perform o : Proc Ans (Ans o)).run exec e w = exec o e w := rfl

@[simp] theorem run_bind (p : Proc Ans α) (f : α → Proc Ans β) (w : W) :
    (p >>= f).run exec e w = (f (p.run exec e w).2).run exec e (p.run exec e w).1 := by
  induction p generalizing w with
  | ret a => rfl
  | act o k ih => exact ih _ _

end Run

end Proc

/-! ### Pools of tasks -/

/-- Processes that are under way, each with a tag that says what it is. -/
abbrev Pool {Op : Type u} (Ans : Op → Type v) (τ : Type x) :=
  List (τ × Proc Ans PUnit.{w + 1})

namespace Pool

open Proc

variable {Op : Type u} {Ans : Op → Type v} {τ : Type x} {F : Type x'}

/-- The operation that task `k` performs next, with the task's tag. -/
def next? (ts : Pool.{u, v, w} Ans τ) (k : ℕ) : Option (τ × Op) :=
  match ts[k]? with
  | some (t, .act o _) => some (t, o)
  | _ => none

/-- Every task acts with the facts that it needs; `K k` is what task `k` knows. -/
def AllObey (R : Discipline Ans F τ) (K : ℕ → Set F) (ts : Pool.{u, v, w} Ans τ) : Prop :=
  ∀ k tp, ts[k]? = some tp → Obeys R tp.1 (K k) tp.2 fun _ _ => True

variable {W : Type y} {ε : Type z} (exec : (o : Op) → ε → W → W × Ans o) (e : ε)

/-- Let task `k` perform its next operation. -/
def advance (k : ℕ) (ts : Pool.{u, v, w} Ans τ) (w : W) : Pool.{u, v, w} Ans τ × W :=
  match ts[k]? with
  | some (t, .act o p) => (ts.set k (t, p (exec o e w).2), (exec o e w).1)
  | _ => (ts, w)

variable {R : Discipline Ans F τ} {K L : ℕ → Set F} {ts : Pool.{u, v, w} Ans τ} {k : ℕ} {t : τ}
  {o : Op}

/-- A task that has an operation to perform. -/
theorem next?_eq_some : ts.next? k = some (t, o) ↔ ∃ p, ts[k]? = some (t, .act o p) := by
  unfold next?
  constructor
  · intro h
    cases htk : ts[k]? with
    | none => rw [htk] at h; cases h
    | some tp =>
      obtain ⟨t', p⟩ := tp
      rw [htk] at h
      cases p with
      | ret a => cases h
      | act o' p => cases h; exact ⟨p, rfl⟩
  · rintro ⟨p, hp⟩
    rw [hp]

theorem advance_of_getElem? {p : Ans o → Proc Ans PUnit.{w + 1}} (h : ts[k]? = some (t, .act o p))
    (w : W) :
    advance exec e k ts w = (ts.set k (t, p (exec o e w).2), (exec o e w).1) := by
  unfold advance
  rw [h]

/-- What advancing a task does: nothing, or its next operation. -/
theorem advance_of_next? (h : ts.next? k = some (t, o)) (w : W) : ∃ p, ts[k]? = some (t, .act o p) ∧
      advance exec e k ts w = (ts.set k (t, p (exec o e w).2), (exec o e w).1) := by
  obtain ⟨p, hp⟩ := next?_eq_some.mp h
  exact ⟨p, hp, advance_of_getElem? exec e hp w⟩

theorem advance_of_next?_none (h : ts.next? k = none) (w : W) :
    advance exec e k ts w = (ts, w) := by
  unfold next? at h
  unfold advance
  cases htk : ts[k]? with
  | none => rfl
  | some tp =>
    obtain ⟨t, p⟩ := tp
    cases p with
    | ret a => rfl
    | act o p => rw [htk] at h; cases h

/-- What holds of every task holds of a new one, too, and of the others as before. -/
theorem forall_concat {P : ℕ → τ × Proc Ans PUnit.{w + 1} → Prop}
    (h : ∀ k tp, ts[k]? = some tp → P k tp) {tp : τ × Proc Ans PUnit.{w + 1}}
    (htp : P ts.length tp) : ∀ k tp', (ts ++ [tp])[k]? = some tp' → P k tp' := by
  intro k tp' hk
  by_cases hlt : k < ts.length
  · rw [List.getElem?_append_left hlt] at hk
    exact h k tp' hk
  · rw [List.getElem?_append_right (not_lt.mp hlt), List.getElem?_singleton] at hk
    split_ifs at hk with hzero
    obtain rfl := Option.some.inj hk
    have hlen : k = ts.length := by omega
    exact hlen ▸ htp

/-- Facts that are not lost do no harm. -/
theorem AllObey.mono (h : AllObey R K ts) (hKL : ∀ k, K k ⊆ L k) : AllObey R L ts :=
  fun k tp htp => (h k tp htp).mono (hKL k) fun _ _ _ _ _ => trivial

/-- A new task that is up to its discipline. -/
theorem AllObey.concat (h : AllObey R K ts) {tp : τ × Proc Ans PUnit.{w + 1}}
    (htp : Obeys R tp.1 (K ts.length) tp.2 fun _ _ => True) : AllObey R K (ts ++ [tp]) :=
  forall_concat h htp

/-- **Interleaving rule.** Tasks that act with the facts that they need go on doing so, as long
    as the facts that answers tell are added to what is known. -/
theorem allObey_advance (h : AllObey R K ts) {w : W} (hKL : ∀ k, K k ⊆ L k)
    (hL : ∀ t o, ts.next? k = some (t, o) → R.learned o (exec o e w).2 ⊆ L k) :
    AllObey R L (advance exec e k ts w).1 := by
  cases hk : ts.next? k with
  | none =>
    rw [advance_of_next?_none exec e hk]
    exact h.mono hKL
  | some nx =>
    obtain ⟨p, hp, hadv⟩ := advance_of_next? exec e (t := nx.1) (o := nx.2) hk w
    rw [hadv]
    obtain ⟨hlt, -⟩ := List.getElem?_eq_some_iff.mp hp
    intro k' tp htp
    by_cases hkk : k = k'
    · subst hkk
      rw [List.getElem?_set_self hlt] at htp
      obtain rfl := Option.some.inj htp
      have hp' := (h k _ hp).2 (exec nx.2 e w).2
      exact hp'.mono (Set.union_subset (hKL k) (hL nx.1 nx.2 hk)) fun _ _ _ _ _ => trivial
    · rw [List.getElem?_set_ne hkk] at htp
      exact h.mono hKL k' tp htp

end Pool

end Knights.Lib
