import Knights.Lib.Process

namespace Knights.Lib

/-!
# Watching processes

A monitor follows the operations of a process and their answers with a state of its own, and
objects to operations that come at the wrong time.

* `Proc.Safe` — whatever answers a process gets, the monitor never objects, and its state and
  what the process returns meet a condition at the end.  `safe_bind` and `safe_each` are its
  rules;
* `Safe.and`, `Safe.exists_result` — what can be read off a process that is safe;
* `Proc.Avoids` — a process that has no operations of a kind, which is safe where those are all
  that matters (`Avoids.safe`);
* `Pool.AllSafe` — every task of a pool is safe from where its monitor is.
-/

universe u v w x y

/-- An observer of processes: which operations it lets pass in a state, and the state it goes on
    with when an operation has been answered. -/
structure Monitor {Op : Type u} (Ans : Op → Type v) (σ : Type x) where
  ok : σ → Op → Prop
  next : σ → (o : Op) → Ans o → σ

namespace Proc

variable {Op : Type u} {Ans : Op → Type v} {α β : Type w} {γ : Type y} {σ : Type x}

/-- The monitor never objects to the process, whatever answers the process gets, and in the end
    `Q` holds of the monitor's state and the result. -/
def Safe (M : Monitor Ans σ) : σ → Proc Ans α → (σ → α → Prop) → Prop
  | s, ret a, Q => Q s a
  | s, act o k, Q => M.ok s o ∧ ∀ a, Safe M (M.next s o a) (k a) Q

variable {M : Monitor Ans σ} {s : σ} {Q Q' : σ → α → Prop} {p : Proc Ans α}
  {f : γ → Proc Ans PUnit.{w + 1}}

@[simp] theorem safe_ret (a : α) : Safe M s (ret a : Proc Ans α) Q ↔ Q s a := Iff.rfl

@[simp] theorem safe_pure (a : α) : Safe M s (pure a : Proc Ans α) Q ↔ Q s a := Iff.rfl

@[simp] theorem safe_perform (o : Op) {Q : σ → Ans o → Prop} :
    Safe M s (perform o : Proc Ans (Ans o)) Q ↔ M.ok s o ∧ ∀ a, Q (M.next s o a) a := Iff.rfl

/-- **Sequencing.** A process in two parts is watched part by part. -/
@[simp] theorem safe_bind (p : Proc Ans α) (f : α → Proc Ans β) {Q : σ → β → Prop} :
    Safe M s (p >>= f) Q ↔ Safe M s p fun s' a => Safe M s' (f a) Q := by
  induction p generalizing s with
  | ret a => rfl
  | act o k ih =>
    exact and_congr_right fun _ => forall_congr' fun a => ih a

theorem Safe.imp (h : Safe M s p Q) (hQ : ∀ s' a, Q s' a → Q' s' a) : Safe M s p Q' := by
  induction p generalizing s with
  | ret a => exact hQ s a h
  | act o k ih => exact ⟨h.1, fun a => ih a (h.2 a)⟩

theorem Safe.and (h : Safe M s p Q) (h' : Safe M s p Q') :
    Safe M s p fun s' a => Q s' a ∧ Q' s' a := by
  induction p generalizing s with
  | ret a => exact ⟨h, h'⟩
  | act o k ih => exact ⟨h.1, fun a => ih a (h.2 a) (h'.2 a)⟩

/-- Where every operation can be answered, a safe process comes to an end that meets its
    condition. -/
theorem Safe.exists_result (hans : ∀ o : Op, Nonempty (Ans o)) (h : Safe M s p Q) :
    ∃ s' a, Q s' a := by
  induction p generalizing s with
  | ret a => exact ⟨s, a, h⟩
  | act o k ih =>
    obtain ⟨a⟩ := hans o
    exact ih a (h.2 a)

/-- A list of processes that each leave the monitor where it was. -/
theorem safe_each {cs : List γ} (hf : ∀ c ∈ cs, Safe M s (f c) fun s' _ => s' = s) :
    Safe M s (each f cs) fun s' _ => s' = s := by
  induction cs with
  | nil => rfl
  | cons c cs ih =>
    refine (safe_bind _ _).mpr ((hf c List.mem_cons_self).imp fun s' _ hs' => ?_)
    subst hs'
    exact ih fun d hd => hf d (List.mem_cons_of_mem c hd)

/-! ### Processes without certain operations -/

/-- Whatever answers it gets, the process performs no operation of `P`. -/
def Avoids (P : Op → Prop) : Proc Ans α → Prop
  | ret _ => True
  | act o k => ¬ P o ∧ ∀ a, Avoids P (k a)

variable {P : Op → Prop}

theorem avoids_perform {o : Op} (h : ¬ P o) : (perform o : Proc Ans (Ans o)).Avoids P :=
  ⟨h, fun _ => trivial⟩

theorem avoids_bind {f : α → Proc Ans β} (hp : p.Avoids P) (hf : ∀ a, (f a).Avoids P) :
    (p >>= f).Avoids P := by
  induction p with
  | ret a => exact hf a
  | act o k ih => exact ⟨hp.1, fun a => ih a (hp.2 a)⟩

theorem avoids_each (hf : ∀ c, (f c).Avoids P) (cs : List γ) : (each f cs).Avoids P := by
  induction cs with
  | nil => trivial
  | cons c cs ih => exact avoids_bind (hf c) fun _ => ih

theorem avoids_of_forall (h : ∀ o, ¬ P o) (p : Proc Ans α) : p.Avoids P := by
  induction p with
  | ret a => trivial
  | act o k ih => exact ⟨h o, ih⟩

/-- **Nothing to object to.** If all operations outside `P` are fine with the monitor in the
    states of `I` and keep to those states, so is a process that avoids `P`. -/
theorem Avoids.safe {I : σ → Prop} (hM : ∀ s o, I s → ¬ P o → M.ok s o ∧ ∀ a, I (M.next s o a))
    (hp : p.Avoids P) (hs : I s) : Safe M s p fun s' _ => I s' := by
  induction p generalizing s with
  | ret a => exact hs
  | act o k ih =>
    obtain ⟨hok, hnext⟩ := hM s o hs hp.1
    exact ⟨hok, fun a => ih a (hp.2 a) (hnext a)⟩

end Proc

/-! ### Pools of tasks -/

namespace Pool

open Proc

variable {Op : Type u} {Ans : Op → Type v} {τ : Type y} {σ : Type x}

/-- Every task is safe from where its monitor is; `S k` is where the monitor of task `k` is,
    and `Q` what holds when a task has come to its end. -/
def AllSafe (M : τ → Monitor Ans σ) (S : ℕ → σ) (Q : τ → σ → Prop)
    (ts : Pool.{u, v, w} Ans τ) : Prop :=
  ∀ k tp, ts[k]? = some tp → Safe (M tp.1) (S k) tp.2 fun s _ => Q tp.1 s

variable {M : τ → Monitor Ans σ} {S S' : ℕ → σ} {Q : τ → σ → Prop} {ts : Pool.{u, v, w} Ans τ}
  {k : ℕ} {t : τ}

theorem AllSafe.congr (h : AllSafe M S Q ts) (hS : ∀ k, S' k = S k) : AllSafe M S' Q ts := by
  intro k tp hk
  rw [hS k]
  exact h k tp hk

/-- A new task. -/
theorem AllSafe.concat (h : AllSafe M S Q ts) {tp : τ × Proc Ans PUnit.{w + 1}}
    (htp : Safe (M tp.1) (S ts.length) tp.2 fun s _ => Q tp.1 s) : AllSafe M S Q (ts ++ [tp]) :=
  forall_concat h htp

/-- **Interleaving rule.** A task that performs its next operation moves its own monitor, which
    does not object, and leaves the others where they are. -/
theorem AllSafe.set (h : AllSafe M S Q ts) {o : Op} {p : Ans o → Proc Ans PUnit.{w + 1}}
    (hk : ts[k]? = some (t, .act o p)) (a : Ans o) (hself : S' k = (M t).next (S k) o a)
    (hother : ∀ k', k' ≠ k → S' k' = S k') :
    AllSafe M S' Q (ts.set k (t, p a)) := by
  obtain ⟨hlt, -⟩ := List.getElem?_eq_some_iff.mp hk
  intro k' tp htp
  by_cases hkk : k = k'
  · subst hkk
    rw [List.getElem?_set_self hlt] at htp
    obtain rfl := Option.some.inj htp
    rw [hself]
    exact (h k _ hk).2 a
  · rw [List.getElem?_set_ne hkk] at htp
    rw [hother k' (Ne.symm hkk)]
    exact h k' tp htp

/-- A task that is done has met its condition. -/
theorem AllSafe.done (h : AllSafe M S Q ts) {p : Proc Ans PUnit.{w + 1}} (hk : ts[k]? = some (t, p))
    (hdone : p.isDone = true) : Q t (S k) := by
  have hsafe := h k _ hk
  cases p with
  | ret a => exact hsafe
  | act o k => cases hdone

end Pool

end Knights.Lib
