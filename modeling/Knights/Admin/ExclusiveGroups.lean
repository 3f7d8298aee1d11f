import Knights.Admin.Deployments

namespace Knights.Admin

open Lib

/-!
# Exclusive groups

Two artifacts of one exclusive group must not be deployed side by side for the same stage and
the same hooks.  The tool looks for such a conflict only when a deployment is submitted; from
then on it has to be the statuses that keep deployments apart.

* `Rivals` — two deployments that must not both stand;
* `exclusive_insert_new` — a submission that passes the check is no rival of anything;
* `exclusive_insert_same` — a deployment that moves on, and does not come back from a failure,
  is a rival of nothing new;
* `exclusive_groups` — no two deployments are ever rivals.
-/

/-! ### Rivals -/

variable {d d' : ExtDeploymentRecord}

namespace ExtDeploymentRecord

/-- Two deployments that must not both stand: neither has failed or was cancelled, they are of
    different artifacts, and the artifacts have the stage, the exclusive group and a hook in
    common. -/
structure Rivals (d d' : ExtDeploymentRecord) : Prop where
  stands : d.status.released = false
  stands' : d'.status.released = false
  artifacts : d.artifactId ≠ d'.artifactId
  stage : d.stage = d'.stage
  group : d.exclusiveGroup = d'.exclusiveGroup
  named : d.exclusiveGroup ≠ ""
  hooks : hookOverlap d.hookScope d'.hookScope = true

theorem Rivals.symm (h : d.Rivals d') : d'.Rivals d where
  stands := h.stands'
  stands' := h.stands
  artifacts := h.artifacts.symm
  stage := h.stage.symm
  group := h.group.symm
  named := h.group ▸ h.named
  hooks := by simpa [hookOverlap, and_comm] using h.hooks

/-- What of a deployment makes it a rival of another, apart from the status. -/
def footprint (d : ExtDeploymentRecord) : String × String × String × List String :=
  (d.artifactId, d.stage, d.exclusiveGroup, d.hookScope)

/-- A deployment that moves on is no rival of more deployments than before. -/
theorem Rivals.of_footprint {e : ExtDeploymentRecord} (h : d'.Rivals e)
    (hsame : d'.footprint = d.footprint)
    (hstands : d'.status.released = false → d.status.released = false) : d.Rivals e := by
  simp only [footprint, Prod.mk.injEq] at hsame
  obtain ⟨hartifact, hstage, hgroup, hhooks⟩ := hsame
  exact {
    stands := hstands h.stands
    stands' := h.stands'
    artifacts := hartifact ▸ h.artifacts
    stage := hstage ▸ h.stage
    group := hgroup ▸ h.group
    named := hgroup ▸ h.named
    hooks := hhooks ▸ h.hooks }

end ExtDeploymentRecord

/-! ### Tables without rivals -/

/-- No two deployments are rivals. -/
def Exclusive (deployments : ExtDeployments) : Prop :=
  ∀ id d id' d', deployments.lookup id = some d → deployments.lookup id' = some d' → ¬ d.Rivals d'

variable {t : ExtDeployments} {artifact : ExtArtifactInventoryItem} {id : String}

/-- An entry may be written that is no rival of what stays. -/
theorem exclusive_insert (ht : Exclusive t)
    (hd : ∀ id' d', id' ≠ id → t.lookup id' = some d' → ¬ d.Rivals d') :
    Exclusive (t.insert id d) := by
  intro a e a' e' he he' hrivals
  obtain ⟨-, rfl⟩ | ⟨ha, he⟩ := Table.lookup_insert_eq_some.mp he <;>
    obtain ⟨-, rfl⟩ | ⟨ha', he'⟩ := Table.lookup_insert_eq_some.mp he'
  · exact hrivals.artifacts rfl
  · exact hd a' e' ha' he' hrivals
  · exact hd a e ha he hrivals.symm
  · exact ht a e a' e' he he' hrivals

theorem exclusive_insert_same (ht : Exclusive t) (hd : t.lookup id = some d)
    (hsame : d'.footprint = d.footprint)
    (hstands : d'.status.released = false → d.status.released = false) :
    Exclusive (t.insert id d') := by
  refine exclusive_insert ht fun id' e _ he hrivals => ?_
  exact ht id d id' e hd he (hrivals.of_footprint hsame hstands)

theorem not_conflictsWith {command : ExtCommandSpec} (h : conflictIssues t command artifact = [])
    (hd : t.lookup id = some d) :
    conflictsWith command artifact id d = false := by
  rw [conflictIssues, List.filterMap_eq_nil_iff] at h
  have hmem : (⟨id, d⟩ : (_ : String) × ExtDeploymentRecord) ∈ t.entries :=
    AList.mem_lookup_iff.mp hd
  simpa using h ⟨id, d⟩ hmem

theorem exclusive_insert_new {sub : Submission} {targetCount : ℕ} (ht : Exclusive t)
    (hconflicts : conflictIssues t sub.command artifact = []) :
    Exclusive (t.insert sub.command.commandId (newDeployment sub artifact targetCount)) := by
  refine exclusive_insert ht fun id d hid hd hrivals => ?_
  have hnone := not_conflictsWith hconflicts hd
  have hall : conflictsWith sub.command artifact id d = true := by
    simp only [conflictsWith, Bool.and_eq_true, decide_eq_true_eq, Bool.not_eq_true']
    exact ⟨⟨⟨⟨⟨hid, hrivals.stands'⟩, hrivals.artifacts.symm⟩, hrivals.stage.symm⟩,
      hrivals.group.symm⟩, hrivals.hooks⟩
  rw [hall] at hnone
  cases hnone

/-! ### Runs -/

namespace Scheduler

variable {cfg : ExtConfig}

theorem footprint_finished {now : ℕ} {targets : List String} {r : Rollout}
    {finished : ExtDeploymentRecord}
    (h : finished ∈ [d.fail now targetEmptyIssue, (finishDeployment now targets r d).1]) :
    finished.footprint = d.footprint := by
  rw [List.mem_cons, List.mem_singleton] at h
  rcases h with rfl | rfl
  · rfl
  · unfold finishDeployment
    cases r.failure with
    | none | some => rfl

theorem exclusive_next {s s' : Scheduler} {i : Input} (htransition : Transition cfg s i s')
    (hrolls : Rolls s) (h : Exclusive s.deployments) : Exclusive s'.deployments := by
  cases htransition with
  | stutter | tick | arrive | refuse | wake | collect | sleep | skip | lose => exact h
  | accept _ _ hconflicts => exact exclusive_insert_new h hconflicts
  | late _ hd => exact exclusive_insert_same h hd rfl nofun
  | begin _ hd hwaiting =>
    refine exclusive_insert_same h hd rfl fun _ => ?_
    revert hwaiting
    cases ExtDeploymentRecord.status _ <;> simp [ExtStatus.waiting, ExtStatus.released]
  | finish hpoller hcurrent hfinished =>
    -- what ends here was in execution, so it has not failed before
    obtain ⟨current', hcurrent', hstatus⟩ := hrolls _ _ _ _ hpoller
    obtain rfl := Option.mem_unique hcurrent hcurrent'
    refine exclusive_insert_same h hcurrent (footprint_finished hfinished) fun _ => ?_
    rw [hstatus]
    rfl

/-- **Exclusive groups.** Whatever is submitted and executed, in whatever order, no two
    deployments of different artifacts that have neither failed nor were cancelled have the stage,
    the exclusive group and a hook in common. -/
theorem exclusive_groups (cfg : ExtConfig) (clock : ℕ) (is : List Input) :
    Exclusive ((machine cfg).run (start ∅ clock) is).deployments := by
  refine ((machine cfg).run_invariant (fun s => Held s ∧ Exclusive s.deployments)
    (fun s i h => ⟨held_next (next_transition cfg s i) h.1,
      exclusive_next (next_transition cfg s i) h.1.rolls h.2⟩) ⟨held_start, ?_⟩ is).2
  intro id d id' d' hd
  cases hd

end Scheduler

end Knights.Admin
