import Knights.Admin.Commands

namespace Knights.Admin

open Lib List
open Chat (toLowerAscii)

/-!
# Deployments of extensions

An administrator submits a deployment; the tool checks it against the artifacts, the servers and
the deployments it already has, and keeps it until it is due.  A loop polls: every pass reads the
clock, lists the deployments that are due and executes them one after the other.  An execution
holds the lock when it begins and again when it ends, but not while it publishes its waves, and
requests read the clock before they take the lock, so the steps of all of these interleave.

* `runExtPrecheck`, `handleExtDeploymentSubmit` — what a request does under the lock;
* `rollWaves` — the waves of an execution;
* `Scheduler.step` — the tool as a machine, with a step for every section under the lock;
* `Transition`, `next_transition` — everything that a step can do;
* `Rolls` — the deployment between the beginning of an execution and its end is in execution.
-/

/-! ### Records -/

/-- The statuses of a deployment. -/
inductive ExtStatus
  | pending
  | precheckPassed
  | executing
  | completed
  | failed
  | cancelled
  deriving DecidableEq, Repr

namespace ExtStatus

/-- A pass of the queue takes the deployment up. -/
def waiting : ExtStatus → Bool
  | .pending | .precheckPassed => true
  | _ => false

/-- The deployment no longer stands in the way of others. -/
def released : ExtStatus → Bool
  | .failed | .cancelled => true
  | _ => false

/-- Nothing more happens to the deployment. -/
def closed : ExtStatus → Bool
  | .completed | .failed | .cancelled => true
  | _ => false

end ExtStatus

/-- What is read of an artifact's manifest, as far as deployments go. -/
structure ExtArtifactInventoryItem where
  artifactId : String
  kind : String := ""
  hookScope : List String := []
  stage : String := ""
  priority : ℕ := 0
  exclusiveGroup : String := ""
  allowedDecisions : List String := []
  issues : List String := []
  deriving DecidableEq, Repr

structure ExtRolloutStrategy where
  type : String := "all_at_once"
  waves : List ℕ := [100]
  rollbackOnFailure : Bool := false
  deriving DecidableEq, Repr

structure ExtCommandSpec where
  commandId : String
  artifactId : String
  selector : InstanceSelector := {}
  selectorSpecified : Bool := false
  runAtUtc : Option ℕ := none
  rollout : ExtRolloutStrategy := {}
  deriving DecidableEq, Repr

structure ExtPrecheckIssue where
  code : String
  message : String
  deriving DecidableEq, Repr

structure ExtPrecheckResult where
  ok : Bool
  targetCount : ℕ
  issues : List ExtPrecheckIssue
  deriving DecidableEq, Repr

@[ext] structure ExtDeploymentRecord where
  commandId : String
  artifactId : String
  actor : String := ""
  status : ExtStatus := .pending
  statusReason : String := ""
  selector : InstanceSelector := {}
  selectorSpecified : Bool := false
  runAtUtc : Option ℕ := none
  rollout : ExtRolloutStrategy := {}
  kind : String := ""
  hookScope : List String := []
  stage : String := ""
  priority : ℕ := 0
  exclusiveGroup : String := ""
  targetCount : ℕ := 0
  appliedTargets : ℕ := 0
  issues : List ExtPrecheckIssue := []
  createdAtMs : ℕ := 0
  updatedAtMs : ℕ := 0
  deriving DecidableEq, Repr

/-- The deployments of the tool, by command id. -/
abbrev ExtDeployments := Table String ExtDeploymentRecord

/-- The settings of the tool, within the bounds that it enforces. -/
structure ExtConfig where
  pollIntervalMs : ℕ := 1000
  maxClockSkewMs : ℕ := 5000
  forceFailWaveIndex : ℕ := 0
  poll_mem : 100 ≤ pollIntervalMs ∧ pollIntervalMs ≤ 60000 := by decide
  skew_le : maxClockSkewMs ≤ 60000 := by decide
  wave_le : forceFailWaveIndex ≤ 32 := by decide

/-! ### Prechecks -/

/-- `is_ext_valid_stage`. -/
def isExtValidStage (stage : String) : Bool :=
  stage ∈ ["pre_validate", "mutate", "authorize", "side_effect", "observe"]

section

variable (inventory : List ExtArtifactInventoryItem) (instances : List InstanceRecord)
  (deployments : ExtDeployments)

/-- `find_ext_inventory_item_locked`; of two artifacts with one id the first is in the index. -/
def findExtInventoryItem (artifactId : String) : Option ExtArtifactInventoryItem :=
  inventory.find? (·.artifactId = artifactId)

/-- `resolve_ext_targets`, with `select_instances`. -/
def resolveExtTargets (selector : InstanceSelector)
    (selectorSpecified : Bool) : List InstanceRecord :=
  if selectorSpecified then instances.filter (matchesSelector · selector) else instances

/-- Some hook is in both scopes. -/
def hookOverlap (hooks hooks' : List String) : Bool := hooks.any (· ∈ hooks')

/-- What is wrong with an artifact on its own. -/
def artifactIssues (artifact : ExtArtifactInventoryItem) : List ExtPrecheckIssue :=
  (if artifact.issues = [] then []
    else [⟨"artifact_manifest_invalid", "artifact manifest has validation issues"⟩]) ++
  (if isExtValidStage artifact.stage then []
    else [⟨"stage_invalid",
      "stage must be one of pre_validate|mutate|authorize|side_effect|observe"⟩]) ++
  (if artifact.hookScope ≠ [] then []
    else [⟨"hook_scope_missing", "artifact hook_scope is required"⟩]) ++
  (if artifact.exclusiveGroup ≠ "" then []
    else [⟨"exclusive_group_missing", "artifact exclusive_group is required"⟩]) ++
  (if artifact.stage = "observe" &&
        artifact.allowedDecisions.any fun raw => toLowerAscii (trimAscii raw) ≠ "pass" then
      [⟨"observe_stage_decision_forbidden", "observe stage artifacts must only allow pass"⟩]
    else [])

/-- A deployment that an artifact, deployed by a command, would stand beside and must not. -/
def conflictsWith (command : ExtCommandSpec) (artifact : ExtArtifactInventoryItem)
    (existingCommandId : String) (deployment : ExtDeploymentRecord) : Bool :=
  existingCommandId ≠ command.commandId && !deployment.status.released &&
    deployment.artifactId ≠ command.artifactId && deployment.stage = artifact.stage &&
    deployment.exclusiveGroup = artifact.exclusiveGroup &&
    hookOverlap artifact.hookScope deployment.hookScope

/-- The deployments that an artifact must not stand beside. -/
def conflictIssues (command : ExtCommandSpec)
    (artifact : ExtArtifactInventoryItem) : List ExtPrecheckIssue :=
  deployments.entries.filterMap fun e =>
    if conflictsWith command artifact e.1 e.2 then
      some ⟨"exclusive_group_conflict",
        "hook_scope/stage/exclusive_group conflict with command_id=" ++ e.1⟩
    else none

/-- `run_ext_precheck_locked`. -/
def runExtPrecheck (command : ExtCommandSpec) : ExtPrecheckResult :=
  match findExtInventoryItem inventory command.artifactId with
  | none =>
    { ok := false
      targetCount := 0
      issues := [⟨"artifact_not_found", "artifact_id not found in inventory"⟩] }
  | some artifact =>
    let targets := resolveExtTargets instances command.selector command.selectorSpecified
    let issues := artifactIssues artifact ++ conflictIssues deployments command artifact ++
      if targets = [] then [⟨"target_empty", "selector does not match any live server instance"⟩]
      else []
    { ok := issues = [], targetCount := targets.length, issues := issues }

/-! ### Submissions -/

/-- What the tool answers to a submission that it does not take. -/
structure ExtError where
  status : String
  code : String
  message : String
  issues : List ExtPrecheckIssue := []
  deriving DecidableEq, Repr

/-- A submission on its way to the lock, with the clock as it was read for it. -/
structure Submission where
  command : ExtCommandSpec
  actor : String
  now : ℕ
  deriving DecidableEq, Repr

/-- The end of `parse_ext_command_request` and the beginning of `handle_ext_deployment_submit`:
    schedules come with a time to run at, deployments run at once. -/
def readSubmission (requireScheduleTime : Bool) (actor : String) (command : ExtCommandSpec)
    (now : ℕ) : Except ExtError Submission :=
  match requireScheduleTime, command.runAtUtc with
  | true, none =>
    .error ⟨"400 Bad Request", "BAD_REQUEST", "run_at_utc is required for schedules", []⟩
  | true, some _ => .ok ⟨command, actor, now⟩
  | false, some _ =>
    .error ⟨"400 Bad Request", "BAD_REQUEST",
      "run_at_utc must be null or omitted for deployments", []⟩
  | false, none => .ok ⟨{ command with runAtUtc := some now }, actor, now⟩

/-- The record of a deployment that was just taken. -/
def newDeployment (sub : Submission) (artifact : ExtArtifactInventoryItem) (targetCount : ℕ) :
    ExtDeploymentRecord :=
  { commandId := sub.command.commandId
    artifactId := sub.command.artifactId
    actor := sanitizeSingleLine sub.actor
    status := .pending
    selector := sub.command.selector
    selectorSpecified := sub.command.selectorSpecified
    runAtUtc := sub.command.runAtUtc
    rollout := sub.command.rollout
    kind := artifact.kind
    hookScope := artifact.hookScope
    stage := artifact.stage
    priority := artifact.priority
    exclusiveGroup := artifact.exclusiveGroup
    targetCount := targetCount
    appliedTargets := 0
    createdAtMs := sub.now
    updatedAtMs := sub.now }

/-- `handle_ext_deployment_submit` once it has the lock: the deployments afterwards, and either
    an error or the number of servers that the deployment is for. -/
def handleExtDeploymentSubmit (sub : Submission) : ExtDeployments × Except ExtError ℕ :=
  if (deployments.lookup sub.command.commandId).isSome then
    (deployments, .error ⟨"409 Conflict", "IDEMPOTENT_REJECTED",
      "command_id already exists and cannot be reused", []⟩)
  else
    let precheck := runExtPrecheck inventory instances deployments sub.command
    if precheck.ok then
      match findExtInventoryItem inventory sub.command.artifactId with
      | none =>
        (deployments, .error ⟨"409 Conflict", "PRECHECK_FAILED",
          "artifact_id not found in inventory", []⟩)
      | some artifact =>
        (deployments.insert sub.command.commandId
          (newDeployment sub artifact precheck.targetCount), .ok precheck.targetCount)
    else
      (deployments, .error ⟨"409 Conflict", "PRECHECK_FAILED",
        "precheck failed; deployment blocked", precheck.issues⟩)

end

/-! ### Executions -/

namespace ExtDeploymentRecord

/-- The time to run at is not ahead. -/
def due (now : ℕ) (d : ExtDeploymentRecord) : Bool :=
  match d.runAtUtc with
  | none => true
  | some runAt => runAt ≤ now

/-- The time to run at is too long ago; the sum is one of 64 bits. -/
def overdue (cfg : ExtConfig) (now : ℕ) (d : ExtDeploymentRecord) : Bool :=
  match d.runAtUtc with
  | none => false
  | some runAt => (runAt + cfg.maxClockSkewMs) % 2 ^ 64 < now

/-- The deployment has failed for a reason that an issue says. -/
def fail (now : ℕ) (issue : ExtPrecheckIssue) (d : ExtDeploymentRecord) : ExtDeploymentRecord :=
  { d with
    status := .failed
    statusReason := issue.code
    updatedAtMs := now
    issues := d.issues ++ [issue] }

/-- The deployment is being executed. -/
def begin (now : ℕ) (d : ExtDeploymentRecord) : ExtDeploymentRecord :=
  { d with status := .executing, updatedAtMs := now }

/-- The deployment has reached its servers. -/
def complete (now : ℕ) (d : ExtDeploymentRecord) : ExtDeploymentRecord :=
  { d with status := .completed, statusReason := "", updatedAtMs := now }

end ExtDeploymentRecord

/-- The first part of `process_ext_deployment_queue`. -/
def dueCommands (now : ℕ) (deployments : ExtDeployments) : List String :=
  (deployments.entries.filter fun e => e.2.status.waiting && e.2.due now).map Sigma.fst

variable {deployments : ExtDeployments} {inventory : List ExtArtifactInventoryItem}

/-- What waits and whose time has come. -/
theorem mem_dueCommands {now : ℕ} {id : String} : id ∈ dueCommands now deployments ↔
      ∃ d, deployments.lookup id = some d ∧ d.status.waiting = true ∧ d.due now = true := by
  simp only [dueCommands, mem_map, mem_filter, Bool.and_eq_true]
  constructor
  · rintro ⟨⟨key, d⟩, ⟨hmem, hdue⟩, rfl⟩
    exact ⟨d, AList.mem_lookup_iff.mpr hmem, hdue⟩
  · rintro ⟨d, hd, hdue⟩
    exact ⟨⟨id, d⟩, ⟨AList.mem_lookup_iff.mp hd, hdue⟩, rfl⟩

/-- The issue of a deployment that is too late. -/
def clockSkewIssue : ExtPrecheckIssue := ⟨"clock_skew", "run_at_utc exceeded max_clock_skew_ms"⟩

/-- The issue of a deployment for no servers. -/
def targetEmptyIssue : ExtPrecheckIssue :=
  ⟨"target_empty", "selector does not match any live server instance"⟩

/-- The command that `publish_ext_wave_command` publishes. -/
def extWave (d : ExtDeploymentRecord) (targetIds : List String) (waveIndex wavePercent : ℕ)
    (rollback : Bool) : ExtWave where
  rollback := rollback
  commandId := d.commandId
  artifactId := d.artifactId
  kind := d.kind
  stage := d.stage
  priority := d.priority
  exclusiveGroup := d.exclusiveGroup
  hookScope := d.hookScope
  rolloutType := d.rollout.type
  waveIndex := waveIndex
  wavePercent := wavePercent
  serverIds := targetIds
  runAtUtc := d.runAtUtc

/-- How far the waves of an execution have come. -/
structure Rollout where
  published : List ExtWave := []
  appliedIds : List String := []
  failure : Option ExtPrecheckIssue := none

/-- The loop of `execute_ext_deployment` over the waves, from the wave with number `index` on;
    `publishes` says which commands can be published. -/
def rollWaves (cfg : ExtConfig) (publishes : ExtWave → Bool) (d : ExtDeploymentRecord)
    (targets : List String) : ℕ → List ℕ → Rollout → Rollout
  | _, [], r => r
  | index, percent :: waves, r =>
    let applied := r.appliedIds.length
    -- a percentage of the servers, rounded up
    let waveTargetEnd := max applied ((targets.length * percent + 99) / 100)
    let boundedEnd := min waveTargetEnd targets.length
    if boundedEnd ≤ applied then rollWaves cfg publishes d targets (index + 1) waves r
    else if 0 < cfg.forceFailWaveIndex ∧ index + 1 = cfg.forceFailWaveIndex then
      { r with failure := some ⟨"wave_forced_failure", "forced failure at wave " ++
          toString (index + 1) ++ " by ADMIN_EXT_FORCE_FAIL_WAVE_INDEX"⟩ }
    else
      let waveTargets := (targets.take boundedEnd).drop applied
      let wave := extWave d waveTargets index percent false
      if publishes wave then
        rollWaves cfg publishes d targets (index + 1) waves { r with
            published := r.published ++ [wave]
            appliedIds := r.appliedIds ++ waveTargets }
      else
        { r with failure := some ⟨"wave_publish_failed",
            "failed to publish deployment wave " ++ toString (index + 1)⟩ }

/-- The ids of the servers that a deployment is for, in order. -/
def sortedTargets (instances : List InstanceRecord) (d : ExtDeploymentRecord) : List String :=
  ((resolveExtTargets instances d.selector d.selectorSpecified).map (·.instanceId)).insertionSort
    (· ≤ ·)

/-- The end of `execute_ext_deployment`: the record afterwards and the command that takes the
    waves back, if there is one. -/
def finishDeployment (now : ℕ) (targets : List String) (r : Rollout) (d : ExtDeploymentRecord) :
    ExtDeploymentRecord × Option ExtWave :=
  let counted :=
    { d with targetCount := targets.length, appliedTargets := r.appliedIds.length }
  match r.failure with
  | none => (counted.complete now, none)
  | some issue =>
    let failed := counted.fail now issue
    (failed, if d.rollout.rollbackOnFailure ∧ r.appliedIds ≠ [] then
      some (extWave failed r.appliedIds 0 100 true) else none)

/-! ### The tool as a machine -/

/-- Where the loop that polls is.  It sleeps since a pass that read the clock at `last`, or it is
    in a pass that read it at `now`: before it lists the deployments that are due, before it
    executes the next of them, or between the beginning of an execution and its end. -/
inductive Poller
  | sleeping (last : ℕ)
  | collecting (now : ℕ)
  | executing (now : ℕ) (due : List String)
  | rolling (now : ℕ) (commandId : String) (deployment : ExtDeploymentRecord) (due : List String)
  deriving DecidableEq, Repr

namespace Poller

/-- The clock as the last pass read it. -/
def started : Poller → ℕ
  | .sleeping last => last
  | .collecting now => now
  | .executing now _ => now
  | .rolling now _ _ _ => now

/-- No pass is under way. -/
def asleep : Poller → Bool
  | .sleeping _ => true
  | _ => false

end Poller

/-- The deployments, the submissions on their way to the lock, the clock and the loop. -/
structure Scheduler where
  deployments : ExtDeployments
  submissions : List Submission := []
  clock : ℕ
  poller : Poller

namespace Scheduler

/-- The tool after a start at a time, with the deployments that it has loaded. -/
def start (deployments : ExtDeployments) (clock : ℕ) : Scheduler where
  deployments := deployments
  clock := clock
  poller := .sleeping clock

/-- What can happen next: time passes, a request arrives, the request at a place in the list gets
    the lock, or the loop goes one step further.  The artifacts and the servers are those that
    are known at the time. -/
inductive Input
  | tick (ms : ℕ)
  | request (requireScheduleTime : Bool) (actor : String) (command : ExtCommandSpec)
  | submit (k : ℕ) (inventory : List ExtArtifactInventoryItem) (instances : List InstanceRecord)
  | poll
  | collect
  | execute
  | roll (instances : List InstanceRecord) (publishes : ExtWave → Bool)

/-- The step is one of the loop. -/
def Input.isPolling : Input → Bool
  | .poll | .collect | .execute | .roll _ _ => true
  | _ => false

/-- What is seen of the tool: its answers and the commands that it publishes. -/
inductive Effect
  | answer (reply : Except ExtError ℕ)
  | publish (wave : ExtWave)

section

variable (cfg : ExtConfig) (s : Scheduler)

/-- `execute_ext_deployment` up to where it lets go of the lock. -/
def beginExecution (now : ℕ) (commandId : String) (due : List String) : Scheduler :=
  match s.deployments.lookup commandId with
  | none => { s with poller := .executing now due }
  | some d =>
    if d.status.waiting then
      if d.overdue cfg now then
        { s with
          deployments := s.deployments.insert commandId (d.fail now clockSkewIssue)
          poller := .executing now due }
      else
        { s with
          deployments := s.deployments.insert commandId (d.begin now)
          poller := .rolling now commandId (d.begin now) due }
    else { s with poller := .executing now due }

/-- `execute_ext_deployment` from there: the waves, and what is recorded of them. -/
def endExecution (now : ℕ) (commandId : String)
    (d : ExtDeploymentRecord) (due : List String) (instances : List InstanceRecord)
    (publishes : ExtWave → Bool) : Scheduler × List Effect :=
  let targets := sortedTargets instances d
  let rollout := rollWaves cfg publishes d targets 0 d.rollout.waves {}
  let waves := rollout.published.map Effect.publish
  match s.deployments.lookup commandId with
  | none => ({ s with poller := .executing now due }, waves)
  | some current =>
    if targets = [] then
      ({ s with
          deployments := s.deployments.insert commandId (current.fail s.clock targetEmptyIssue)
          poller := .executing now due }, [])
    else
      let finished := finishDeployment s.clock targets rollout current
      ({ s with
          deployments := s.deployments.insert commandId finished.1
          poller := .executing now due },
        waves ++ (finished.2.toList.filter publishes).map Effect.publish)

/-- One step of the tool. -/
def step : Input → Scheduler × List Effect
  | .tick ms => ({ s with clock := s.clock + ms }, [])
  | .request requireScheduleTime actor command =>
    match readSubmission requireScheduleTime actor command s.clock with
    | .error e => (s, [.answer (.error e)])
    | .ok sub => ({ s with submissions := s.submissions ++ [sub] }, [])
  | .submit k inventory instances =>
    match s.submissions[k]? with
    | none => (s, [])
    | some sub =>
      let handled := handleExtDeploymentSubmit inventory instances s.deployments sub
      ({ s with deployments := handled.1, submissions := s.submissions.eraseIdx k },
        [.answer handled.2])
  | .poll =>
    match s.poller with
    | .sleeping _ => ({ s with poller := .collecting s.clock }, [])
    | _ => (s, [])
  | .collect =>
    match s.poller with
    | .collecting now => ({ s with poller := .executing now (dueCommands now s.deployments) }, [])
    | _ => (s, [])
  | .execute =>
    match s.poller with
    | .executing now [] => ({ s with poller := .sleeping now }, [])
    | .executing now (commandId :: due) => (s.beginExecution cfg now commandId due, [])
    | _ => (s, [])
  | .roll instances publishes =>
    match s.poller with
    | .rolling now commandId d due => s.endExecution cfg now commandId d due instances publishes
    | _ => (s, [])

/-- The tool. -/
def machine : Machine Scheduler Input (List Effect) := ⟨step cfg⟩

end

/-! ### What a step can do -/

/-- The deployments, the loop and the rest after a step, with what made the step possible. -/
inductive Transition (cfg : ExtConfig) (s : Scheduler) : Input → Scheduler → Prop
  | stutter {i : Input} : Transition cfg s i s
  | tick {ms : ℕ} : Transition cfg s (.tick ms) { s with clock := s.clock + ms }
  | arrive {requireScheduleTime : Bool} {actor : String} {command : ExtCommandSpec}
      {sub : Submission}
      (hread : readSubmission requireScheduleTime actor command s.clock = .ok sub) :
      Transition cfg s (.request requireScheduleTime actor command)
        { s with submissions := s.submissions ++ [sub] }
  | refuse {k : ℕ} {inventory : List ExtArtifactInventoryItem} {instances : List InstanceRecord} :
      Transition cfg s (.submit k inventory instances)
        { s with submissions := s.submissions.eraseIdx k }
  | accept {k : ℕ} {inventory : List ExtArtifactInventoryItem} {instances : List InstanceRecord}
      {sub : Submission} {artifact : ExtArtifactInventoryItem} {targetCount : ℕ}
      (hsub : s.submissions[k]? = some sub)
      (hnew : s.deployments.lookup sub.command.commandId = none)
      (hconflicts : conflictIssues s.deployments sub.command artifact = []) :
      Transition cfg s (.submit k inventory instances) { s with
          deployments := s.deployments.insert sub.command.commandId
            (newDeployment sub artifact targetCount)
          submissions := s.submissions.eraseIdx k }
  | wake {last : ℕ} (hpoller : s.poller = .sleeping last) :
      Transition cfg s .poll { s with poller := .collecting s.clock }
  | collect {now : ℕ} (hpoller : s.poller = .collecting now) : Transition cfg s .collect
        { s with poller := .executing now (dueCommands now s.deployments) }
  | sleep {now : ℕ} (hpoller : s.poller = .executing now []) :
      Transition cfg s .execute { s with poller := .sleeping now }
  | skip {now : ℕ} {commandId : String} {due : List String}
      (hpoller : s.poller = .executing now (commandId :: due))
      (hskip : ∀ d, s.deployments.lookup commandId = some d → d.status.waiting = false) :
      Transition cfg s .execute { s with poller := .executing now due }
  | late {now : ℕ} {commandId : String} {due : List String} {d : ExtDeploymentRecord}
      (hpoller : s.poller = .executing now (commandId :: due))
      (hd : s.deployments.lookup commandId = some d) (hwaiting : d.status.waiting = true)
      (hlate : d.overdue cfg now = true) :
      Transition cfg s .execute { s with
          deployments := s.deployments.insert commandId (d.fail now clockSkewIssue)
          poller := .executing now due }
  | begin {now : ℕ} {commandId : String} {due : List String} {d : ExtDeploymentRecord}
      (hpoller : s.poller = .executing now (commandId :: due))
      (hd : s.deployments.lookup commandId = some d) (hwaiting : d.status.waiting = true)
      (hlate : d.overdue cfg now = false) :
      Transition cfg s .execute { s with
          deployments := s.deployments.insert commandId (d.begin now)
          poller := .rolling now commandId (d.begin now) due }
  | lose {now : ℕ} {commandId : String} {d : ExtDeploymentRecord} {due : List String}
      {instances : List InstanceRecord} {publishes : ExtWave → Bool}
      (hpoller : s.poller = .rolling now commandId d due)
      (hgone : s.deployments.lookup commandId = none) :
      Transition cfg s (.roll instances publishes) { s with poller := .executing now due }
  | finish {now : ℕ} {commandId : String} {d current finished : ExtDeploymentRecord}
      {due : List String} {instances : List InstanceRecord} {publishes : ExtWave → Bool}
      (hpoller : s.poller = .rolling now commandId d due)
      (hcurrent : s.deployments.lookup commandId = some current)
      (hfinished : finished ∈ [current.fail s.clock targetEmptyIssue,
        (finishDeployment s.clock (sortedTargets instances d)
          (rollWaves cfg publishes d (sortedTargets instances d) 0 d.rollout.waves {})
            current).1]) :
      Transition cfg s (.roll instances publishes) { s with
          deployments := s.deployments.insert commandId finished
          poller := .executing now due }

variable {cfg : ExtConfig} {instances : List InstanceRecord} {s : Scheduler}

/-- A command that passes conflicts with none. -/
theorem conflictIssues_of_ok {command : ExtCommandSpec} {artifact : ExtArtifactInventoryItem}
    (hartifact : findExtInventoryItem inventory command.artifactId = some artifact)
    (hok : (runExtPrecheck inventory instances deployments command).ok = true) :
    conflictIssues deployments command artifact = [] := by
  unfold runExtPrecheck at hok
  rw [hartifact] at hok
  simp only [append_eq_nil_iff, decide_eq_true_eq] at hok
  exact hok.1.2

/-- A submission is accepted or refused, or there is none. -/
theorem submit_transition {k : ℕ} : Transition cfg s (.submit k inventory instances)
      (s.step cfg (.submit k inventory instances)).1 := by
  simp only [step]
  cases hsub : s.submissions[k]? with
  | none => exact .stutter
  | some sub =>
    simp only [handleExtDeploymentSubmit]
    split_ifs with hknown hok
    · exact .refuse
    · cases hartifact : findExtInventoryItem inventory sub.command.artifactId with
      | none => exact .refuse
      | some artifact =>
        have hnew : s.deployments.lookup sub.command.commandId = none := by simpa using hknown
        exact .accept hsub hnew (conflictIssues_of_ok hartifact hok)
    · exact .refuse

theorem execute_transition : Transition cfg s .execute (s.step cfg .execute).1 := by
  simp only [step]
  split
  · next hpoller => exact .sleep hpoller
  · next now commandId due hpoller =>
    simp only [beginExecution]
    cases hd : s.deployments.lookup commandId with
    | none => exact .skip hpoller fun d h => nomatch hd.symm.trans h
    | some d =>
      dsimp only
      split_ifs with hwaiting hlate
      · exact .late hpoller hd hwaiting hlate
      · exact .begin hpoller hd hwaiting (by simpa using hlate)
      · refine .skip hpoller fun d' h => ?_
        obtain rfl := Option.mem_unique hd h
        simpa using hwaiting
  · exact .stutter

theorem roll_transition (publishes : ExtWave → Bool) :
    Transition cfg s (.roll instances publishes) (s.step cfg (.roll instances publishes)).1 := by
  simp only [step]
  split
  · next now commandId d due hpoller =>
    simp only [endExecution]
    cases hcurrent : s.deployments.lookup commandId with
    | none => exact .lose hpoller hcurrent
    | some current =>
      split_ifs with hempty
      · exact .finish hpoller hcurrent (by simp)
      · exact .finish hpoller hcurrent (by simp)
  · exact .stutter

/-- **Inversion.** Every step of the tool is a transition. -/
theorem next_transition (cfg : ExtConfig) (s : Scheduler) (i : Input) :
    Transition cfg s i ((machine cfg).next s i) := by
  show Transition cfg s i (s.step cfg i).1
  cases i with
  | tick ms => exact .tick
  | request requireScheduleTime actor command =>
    simp only [step]
    split
    · exact .stutter
    · next sub hread => exact .arrive hread
  | submit k inventory instances => exact submit_transition
  | poll =>
    simp only [step]
    split
    · next last hpoller => exact .wake hpoller
    · exact .stutter
  | collect =>
    simp only [step]
    split
    · next now hpoller => exact .collect hpoller
    · exact .stutter
  | execute => exact execute_transition
  | roll instances publishes => exact roll_transition publishes

/-- A finished execution has closed its deployment. -/
theorem closed_of_finished {now : ℕ} {targets : List String} {r : Rollout}
    {d finished : ExtDeploymentRecord}
    (h : finished ∈ [d.fail now targetEmptyIssue, (finishDeployment now targets r d).1]) :
    finished.status = .completed ∨ finished.status = .failed := by
  rw [mem_cons, mem_singleton] at h
  rcases h with rfl | rfl
  · exact .inr rfl
  · unfold finishDeployment
    cases r.failure with
    | none => exact .inl rfl
    | some issue => exact .inr rfl

/-! ### Executions under way -/

/-- The deployment whose waves are being published is in execution. -/
def Rolls (s : Scheduler) : Prop :=
  ∀ now commandId d due, s.poller = .rolling now commandId d due →
    ∃ current, s.deployments.lookup commandId = some current ∧ current.status = .executing

/-- Its record is still the one that the loop took when it began. -/
def Held (s : Scheduler) : Prop :=
  ∀ now commandId d due, s.poller = .rolling now commandId d due →
    s.deployments.lookup commandId = some d ∧ d.status = .executing

theorem Held.rolls (h : Held s) : Rolls s := fun now commandId d due hpoller =>
  ⟨d, h now commandId d due hpoller⟩

theorem held_start {clock : ℕ} : Held (start deployments clock) := by
  intro now commandId d due h
  cases h

/-- The store still has the loop's record. -/
theorem held_next {s' : Scheduler} {i : Input} (htransition : Transition cfg s i s')
    (h : Held s) : Held s' := by
  intro now commandId d due hpoller
  cases htransition with
  | stutter | tick | arrive | refuse => exact h now commandId d due hpoller
  | accept hsub hnew hconflicts =>
    obtain ⟨hd, hstatus⟩ := h now commandId d due hpoller
    -- the new deployment has an id of its own
    refine ⟨?_, hstatus⟩
    rw [AList.lookup_insert_ne, hd]
    rintro rfl
    rw [hnew] at hd
    cases hd
  | wake | collect | sleep | skip | late | lose | finish => cases hpoller
  | begin _ hd hwaiting hlate =>
    cases hpoller
    exact ⟨AList.lookup_insert _, rfl⟩

end Scheduler

end Knights.Admin
