import Knights.Lib.Machine
import Mathlib.Algebra.BigOperators.Group.List.Basic

namespace Knights.Lib

open List

/-!
# Streams that arrive in pieces

A consumer takes a stream piece by piece.  It is a consumer of the *stream* if it does not matter
where the stream is cut: two pieces, one after the other, do what their concatenation does.

* `feed_flatten` — any list of pieces does what the whole stream does;
* `simulates` — a machine that handles one piece at a time as the consumer does, on the pieces and
  in the states it can meet, computes the consumer's answer for the whole stream, however that
  was cut.
-/

universe u v w x y

/-- A consumer of streams over `α`, with outputs that add up. -/
structure Consumer (σ : Type u) (α : Type v) (ω : Type w) [AddMonoid ω] where
  feed : σ → List α → σ × ω
  feed_nil : ∀ s, feed s [] = (s, 0)
  feed_append : ∀ s l r, feed s (l ++ r) =
    ((feed (feed s l).1 r).1, (feed s l).2 + (feed (feed s l).1 r).2)

namespace Consumer

variable {σ : Type u} {α : Type v} {ω : Type w} [AddMonoid ω] (C : Consumer σ α ω)

/-- Feed pieces one after the other. -/
def feeds : σ → List (List α) → σ × ω
  | s, [] => (s, 0)
  | s, p :: ps => ((feeds (C.feed s p).1 ps).1, (C.feed s p).2 + (feeds (C.feed s p).1 ps).2)

/-- **Pieces do what the stream does.** -/
theorem feed_flatten (s : σ) (ps : List (List α)) : C.feed s ps.flatten = C.feeds s ps := by
  induction ps generalizing s with
  | nil => exact C.feed_nil s
  | cons p ps ih => rw [flatten_cons, C.feed_append, ih, feeds]

variable {τ : Type x} {ο : Type y} (M : Machine τ (List α) ο) (view : τ → σ) (out : ο → ω)
  (I : τ → Prop) (P : List α → Prop)

/-- **Simulation.** A machine whose steps are those of the consumer, seen through `view` and `out`,
    on pieces with the property `P` and in states with the invariant `I`. -/
theorem simulates (hstep : ∀ t p, I t → P p → I (M.next t p) ∧
      C.feed (view t) p = (view (M.next t p), out (M.step t p).2))
    {t : τ} (hI : I t) {ps : List (List α)} (hP : ∀ p ∈ ps, P p) :
    C.feed (view t) ps.flatten =
      (view (M.run t ps), ((M.trace t ps).map fun e => out e.output).sum) := by
  rw [feed_flatten]
  induction ps generalizing t with
  | nil => rfl
  | cons p ps ih =>
    obtain ⟨hI', hfeed⟩ := hstep t p hI (hP p mem_cons_self)
    rw [feeds, hfeed]
    simp only [Machine.run_cons, Machine.trace_cons, map_cons, sum_cons]
    rw [ih hI' fun q hq => hP q (mem_cons_of_mem p hq)]

end Consumer

end Knights.Lib
