import Knights.Lib.Machine

namespace Knights.Lib

open List Machine

/-!
# Non-interference by unwinding

Some inputs of a machine are *high*, and an observer sees something of the events of the others.
The high inputs do not interfere if two runs with the same low inputs look the same to the
observer, wherever high inputs were inserted in either.  It is enough to have a relation between
states that a high input on one side keeps, that a low input on both sides keeps, and that makes
the observations of low inputs equal; each of these may use a condition `G` that all steps of both
runs meet.

* `Unwinding` — such a relation;
* `Unwinding.observed_eq` — two runs with the same low inputs look the same.
-/

universe u v w x

variable {σ : Type u} {ι : Type v} {ο : Type w} {ω : Type x}

/-- A relation that unwinds a machine: what the observer sees of two related states is the same,
    now and later. -/
structure Unwinding (M : Machine σ ι ο) (high : ι → Prop) (G : σ → ι → Prop)
    (obs : Event σ ι ο → Option ω) (R : σ → σ → Prop) : Prop where
  symm : ∀ {s t}, R s t → R t s
  high_silent : ∀ {s i}, high i → obs ⟨s, i, (M.step s i).2⟩ = none
  high_step : ∀ {s t i}, high i → G s i → R s t → R (M.next s i) t
  low_step : ∀ {s t i}, ¬high i → G s i → G t i → R s t → R (M.next s i) (M.next t i)
  low_seen : ∀ {s t i}, ¬high i → G s i → G t i → R s t →
    obs ⟨s, i, (M.step s i).2⟩ = obs ⟨t, i, (M.step t i).2⟩

namespace Unwinding

variable {M : Machine σ ι ο} {high : ι → Prop} {G : σ → ι → Prop}
  {obs : Event σ ι ο → Option ω} {R : σ → σ → Prop} {s t : σ} {is js : List ι}

/-- High inputs alone are not seen, and keep the relation. -/
theorem absorb (U : Unwinding M high G obs R) (hR : R s t) (hjs : ∀ j ∈ js, high j)
    (ht : M.Guarded G t js) : R s (M.run t js) ∧ (M.trace t js).filterMap obs = [] := by
  induction js generalizing t with
  | nil => exact ⟨hR, rfl⟩
  | cons j js ih =>
    obtain ⟨hj, hjs⟩ := forall_mem_cons.mp hjs
    have hstep : R s (M.next t j) := U.symm (U.high_step hj ht.1 (U.symm hR))
    obtain ⟨hrun, hseen⟩ := ih hstep hjs ht.2
    refine ⟨hrun, ?_⟩
    rw [trace_cons, filterMap_cons_none (U.high_silent hj)]
    exact hseen

/-- **Non-interference.** Two runs from related states with the same low inputs look the same. -/
theorem observed_eq [DecidablePred high] (U : Unwinding M high G obs R) (hR : R s t)
    (hlow : is.filter (fun i => ¬high i) = js.filter (fun i => ¬high i))
    (hs : M.Guarded G s is) (ht : M.Guarded G t js) :
    (M.trace s is).filterMap obs = (M.trace t js).filterMap obs := by
  induction is generalizing s t js with
  | nil =>
    have hjs : ∀ j ∈ js, high j := by simpa using filter_eq_nil_iff.mp hlow.symm
    exact (U.absorb hR hjs ht).2.symm
  | cons i is ih =>
    by_cases hi : high i
    · rw [filter_cons_of_neg (by simpa using hi)] at hlow
      rw [trace_cons, filterMap_cons_none (U.high_silent hi)]
      exact ih (U.high_step hi hs.1 hR) hlow hs.2 ht
    · -- The other run takes some high inputs first, and then the same low one.
      rw [filter_cons_of_pos (by simpa using hi)] at hlow
      obtain ⟨hs', rest, rfl, hhigh, -, hrest⟩ := filter_eq_cons_iff.mp hlow.symm
      obtain ⟨htop, hi', hbottom⟩ := (M.guarded_append G t hs' (i :: rest)).mp ht
      obtain ⟨hR', hnone⟩ := U.absorb hR (by simpa using hhigh) htop
      rw [trace_append, filterMap_append, hnone, nil_append, trace_cons,
        trace_cons, filterMap_cons, filterMap_cons, U.low_seen hi hs.1 hi' hR',
        ih (U.low_step hi hs.1 hi' hR') hrest.symm hs.2 hbottom]

end Unwinding

end Knights.Lib
