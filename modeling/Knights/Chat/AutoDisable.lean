import Knights.Lib.Machine
import Mathlib.Data.Finset.Insert

namespace Knights.Chat

open Lib List

/-!
# Hooks that are switched off

`ChatService::invoke_lua_cold_hook` counts the calls of a hook that failed one after another and
switches the hook off when there are too many, until the scripts are loaded again.

* `LastFailed` — the condition on the history: the last calls that ran scripts all failed;
* `hook_runs_iff` — a call runs scripts exactly when this is not the case.
-/

/-- What the service keeps about its hooks, with the runtime's count of reloads. -/
structure LuaHooks where
  runtimeEpoch : ℕ := 0
  reloadEpoch : ℕ := 0
  /-- The failures of each hook in a row; 0 where the map has no entry. -/
  consecutive : String → ℕ := fun _ => 0
  disabled : Finset String := ∅

/-- What `call_all` reports. -/
structure CallAllResult where
  error : String := ""
  failed : ℕ := 0

/-- Some script failed, or the call as a whole. -/
def CallAllResult.callFailed (r : CallAllResult) : Bool := r.error ≠ "" || r.failed ≠ 0

namespace LuaHooks

/-- The check of the epoch at the start of a call. -/
def refresh (s : LuaHooks) : LuaHooks :=
  if s.runtimeEpoch ≠ s.reloadEpoch then
    { runtimeEpoch := s.runtimeEpoch, reloadEpoch := s.runtimeEpoch }
  else s

/-- The bookkeeping after scripts were run. -/
def record (threshold : ℕ) (s : LuaHooks) (hook : String) (r : CallAllResult) : LuaHooks :=
  let n := if r.callFailed then s.consecutive hook + 1 else 0
  { s with
    consecutive := Function.update s.consecutive hook n
    disabled := if r.callFailed ∧ 0 < threshold ∧ threshold ≤ n then insert hook s.disabled
      else s.disabled }

inductive Input where
  | reload
  /-- A call of a hook, with what its scripts do if they are run. -/
  | call (hook : String) (r : CallAllResult)

/-- Calls and reloads; the output says whether scripts were run.  A call does not look at the epoch
    again after its scripts, so a reload in the middle of a call is one after it. -/
def machine (threshold : ℕ) : Machine LuaHooks Input Bool where
  step s
    | .reload => ({ s with runtimeEpoch := s.runtimeEpoch + 1 }, false)
    | .call hook r =>
      if hook ∈ s.refresh.disabled then (s.refresh, false)
      else (s.refresh.record threshold hook r, true)

abbrev Past := List (Event LuaHooks Input Bool)

/-- The calls of a hook that ran scripts since the last reload, the latest first, each with whether
    it failed. -/
def runs (hook : String) (tr : Past) : List Bool :=
  tr.foldl (fun fs e =>
    match e.input with
    | .reload => []
    | .call hook' r => if hook' = hook ∧ e.output then r.callFailed :: fs else fs) []

/-- The last `k` of some calls all failed. -/
def LastFailed (k : ℕ) (fs : List Bool) : Prop := k ≤ fs.length ∧ ∀ f ∈ fs.take k, f = true
  deriving Decidable

theorem lastFailed_iff {k : ℕ} {fs : List Bool} :
    LastFailed k fs ↔ k ≤ (fs.takeWhile id).length := by
  induction fs generalizing k with
  | nil => simp [LastFailed]
  | cons f fs ih => cases k <;> cases f <;> simp_all [LastFailed]

variable {threshold : ℕ} {hook hook' : String} {r : CallAllResult} {s : LuaHooks} {tr : Past}

theorem runs_call {b : Bool} : runs hook (tr ++ [⟨s, .call hook' r, b⟩]) =
    if hook' = hook ∧ b then r.callFailed :: runs hook tr else runs hook tr := by
  simp [runs]

/-- The books, once the epoch was checked, say what happened. -/
def Books (threshold : ℕ) (tr : Past) (s : LuaHooks) : Prop :=
  ∀ hook, s.consecutive hook = ((runs hook tr).takeWhile id).length ∧
    (hook ∈ s.disabled ↔ LastFailed threshold (runs hook tr))

theorem mem_disabled_record : hook' ∈ (s.record threshold hook r).disabled ↔
    hook' ∈ s.disabled ∨ hook' = hook ∧ r.callFailed = true ∧ 0 < threshold ∧
      threshold ≤ s.consecutive hook + 1 := by
  unfold record
  cases r.callFailed <;> dsimp only <;> split_ifs <;> simp_all [or_comm]

/-- Scripts that were run go into the books. -/
theorem Books.record (hpos : 0 < threshold) (h : Books threshold tr s) (hon : hook ∉ s.disabled)
    {pre : LuaHooks} :
    Books threshold (tr ++ [⟨pre, .call hook r, true⟩]) (s.record threshold hook r) := by
  intro hook'
  obtain ⟨hcount, hoff⟩ := h hook'
  rw [runs_call, mem_disabled_record]
  by_cases heq : hook = hook'
  · subst heq
    rw [lastFailed_iff] at hoff ⊢
    cases hfailed : r.callFailed <;> simp_all [LuaHooks.record, hpos.ne']
  · simp [LuaHooks.record, heq, Ne.symm heq, hoff, hcount]

/-- The books are right after the next check of the epoch. -/
def Faithful (threshold : ℕ) (tr : Past) (s : LuaHooks) : Prop :=
  s.reloadEpoch ≤ s.runtimeEpoch ∧ Books threshold tr s.refresh

theorem refresh_of_eq (h : s.runtimeEpoch = s.reloadEpoch) : s.refresh = s := by
  simp [refresh, h]

theorem epoch_refresh : s.refresh.runtimeEpoch = s.refresh.reloadEpoch := by
  unfold refresh
  split_ifs <;> simp_all

theorem faithful_step (hpos : 0 < threshold) (tr : Past) (s : LuaHooks) (i : Input)
    (h : Faithful threshold tr s) :
    Faithful threshold (tr ++ [⟨s, i, ((machine threshold).step s i).2⟩])
      ((machine threshold).next s i) := by
  cases i with
  | reload =>
    have hnew : s.runtimeEpoch + 1 ≠ s.reloadEpoch := Nat.ne_of_gt (Nat.lt_succ_of_le h.1)
    refine ⟨Nat.le_succ_of_le h.1, fun hook => ?_⟩
    simp [Machine.next, machine, refresh, hnew, runs, LastFailed, hpos.ne']
  | call hook r =>
    by_cases hoff : hook ∈ s.refresh.disabled
    · have hstep : (machine threshold).step s (.call hook r) = (s.refresh, false) := if_pos hoff
      rw [Machine.next, hstep]
      refine ⟨epoch_refresh.ge, fun hook' => ?_⟩
      rw [refresh_of_eq epoch_refresh, runs_call, if_neg (by simp)]
      exact h.2 hook'
    · have hstep : (machine threshold).step s (.call hook r) =
        (s.refresh.record threshold hook r, true) := if_neg hoff
      rw [Machine.next, hstep, Faithful,
        refresh_of_eq (s := s.refresh.record threshold hook r) epoch_refresh]
      exact ⟨epoch_refresh.ge, h.2.record hpos hoff⟩

/-- **Auto-disable.** With any positive threshold and after any calls and reloads, a call of a hook
    runs scripts unless the last `threshold` calls of the same hook that ran scripts since the last
    reload all failed. -/
theorem hook_runs_iff (threshold : ℕ) (hpos : 0 < threshold) (is : List Input) (hook : String)
    (r : CallAllResult) :
    ((machine threshold).step ((machine threshold).run {} is) (.call hook r)).2 = true ↔
      ¬LastFailed threshold (runs hook ((machine threshold).trace {} is)) := by
  have hstart : Faithful threshold [] {} :=
    ⟨le_rfl, fun hook => by simp [refresh, runs, LastFailed, hpos.ne']⟩
  have hinv := (machine threshold).trace_invariant _ (faithful_step hpos) hstart is
  rw [← (hinv.2 hook).2]
  generalize (machine threshold).run {} is = s
  by_cases hdis : hook ∈ s.refresh.disabled <;> simp [machine, hdis]

/-- Two failures in a row switch a hook off, until a reload. -/
theorem hook_runs_iff_two :
    ((machine 2).step ((machine 2).run {}
        [.call "a" ⟨"e", 0⟩, .call "b" ⟨"", 0⟩, .call "a" ⟨"", 1⟩]) (.call "a" ⟨"", 0⟩)).2 = false ∧
      ((machine 2).step ((machine 2).run {} [.call "a" ⟨"e", 0⟩, .call "a" ⟨"", 1⟩, .reload])
        (.call "a" ⟨"", 0⟩)).2 = true :=
  ⟨by decide, (hook_runs_iff 2 (by decide) _ "a" _).mpr (by decide)⟩

end LuaHooks

end Knights.Chat
