import Knights.Lib.Json
import Knights.Admin.Deployments
import Knights.Admin.Transport

namespace Knights.Admin

open Lib List Table
open Chat (toLowerAscii)

/-!
# The store of the deployments

The deployments are kept in a file, so that they survive a restart.  A save writes a temporary
file, moves the store to a backup and the temporary file to the place of the store, one call of
the file system after the other; a load reads the store and nothing else.

* `readDeployment_deploymentJson`, `load_storeJson` — what is saved is loaded again, for records
  in the form in which the tool keeps them (`Storable`);
* `Saving.step` — a save, call by call; a crash leaves what the calls so far have done;
* `path_after` — where the store is after any number of calls;
* `crash_recovers_iff` — a load after a crash gives the old or the new deployments, if and only
  if the crash was not between the two moves or there were no deployments to lose.
-/

/-! ### Records as structured values -/

/-- `ext_status_text`, on what is stored. -/
def ExtStatus.text : ExtStatus → String
  | .pending => "pending"
  | .precheckPassed => "precheck_passed"
  | .executing => "executing"
  | .completed => "completed"
  | .failed => "failed"
  | .cancelled => "cancelled"

/-- `ext_status_text`, on what is loaded: any other text is a failure. -/
def extStatusText (status : String) : ExtStatus :=
  if status = "pending" then .pending
  else if status = "precheck_passed" then .precheckPassed
  else if status = "executing" then .executing
  else if status = "completed" then .completed
  else if status = "failed" then .failed
  else if status = "cancelled" then .cancelled
  else .failed

@[simp] theorem extStatusText_text (status : ExtStatus) : extStatusText status.text = status := by
  cases status <;> rfl

/-- A list of texts. -/
def textsJson (values : List String) : Json := .arr (values.map .str)

def issueJson (issue : ExtPrecheckIssue) : Json :=
  .obj [("code", .str issue.code), ("message", .str issue.message)]

def selectorJson (s : InstanceSelector) : Json :=
  .obj [("all", .bool s.all), ("server_ids", textsJson s.serverIds),
    ("roles", textsJson s.roles), ("game_modes", textsJson s.gameModes),
    ("regions", textsJson s.regions), ("shards", textsJson s.shards), ("tags", textsJson s.tags)]

def waveJson (percent : ℕ) : Json := .num percent

def rolloutJson (r : ExtRolloutStrategy) : Json :=
  .obj [("type", .str r.type), ("waves", .arr (r.waves.map waveJson)),
    ("rollback_on_failure", .bool r.rollbackOnFailure)]

def runAtJson : Option ℕ → Json
  | none => .null
  | some runAt => .num runAt

/-- One item of what `save_ext_deployments_locked` writes. -/
def deploymentJson (d : ExtDeploymentRecord) : Json :=
  .obj [("command_id", .str d.commandId), ("artifact_id", .str d.artifactId),
    ("actor", .str d.actor), ("status", .str d.status.text),
    ("status_reason", .str d.statusReason), ("selector_specified", .bool d.selectorSpecified),
    ("selector", selectorJson d.selector),
    ("run_at_utc", runAtJson d.runAtUtc),
    ("rollout_strategy", rolloutJson d.rollout), ("kind", .str d.kind),
    ("hook_scope", textsJson d.hookScope), ("stage", .str d.stage), ("priority", .num d.priority),
    ("exclusive_group", .str d.exclusiveGroup), ("target_count", .num d.targetCount),
    ("applied_targets", .num d.appliedTargets), ("issues", .arr (d.issues.map issueJson)),
    ("created_at_ms", .num d.createdAtMs), ("updated_at_ms", .num d.updatedAtMs)]

/-- What `save_ext_deployments_locked` writes, in the order of the command ids. -/
def storeJson (savedAtMs : ℕ) (deployments : ExtDeployments) : Json :=
  .obj [("version", .num 1), ("saved_at_ms", .num savedAtMs),
    ("deployments", .arr ((deployments.keys.insertionSort (· ≤ ·)).filterMap fun key =>
      (deployments.lookup key).map deploymentJson))]

/-! ### Reading them -/

/-- A text without the blanks around it, unless there is nothing left. -/
def readListText (item : Json) : Option String := (item.text.map trimAscii).filter (· ≠ "")

/-- `parse_json_string_list`. -/
def parseJsonStringList (node : Json) : List String := (node.items.getD []).filterMap readListText

/-- A field with a list of texts, empty without the field. -/
def readTexts (key : String) (item : Json) : List String :=
  ((item.member key).map parseJsonStringList).getD []

/-- A field with a text, without the blanks around it, empty without the field. -/
def readTrimmed (key : String) (item : Json) : String :=
  ((item.get Json.text key).map trimAscii).getD ""

/-- A field with a number, zero without the field. -/
def readCount (key : String) (item : Json) : ℕ := (item.get Json.unsigned key).getD 0

def readSelector (selector : Json) : InstanceSelector where
  all := (selector.get Json.flag "all").getD false
  serverIds := readTexts "server_ids" selector
  roles := readTexts "roles" selector
  gameModes := readTexts "game_modes" selector
  regions := readTexts "regions" selector
  shards := readTexts "shards" selector
  tags := readTexts "tags" selector

/-- A rollout with no waves gets those of its type. -/
def withWaves (r : ExtRolloutStrategy) : ExtRolloutStrategy :=
  if r.waves = [] then
    { r with waves := if r.type = "canary_wave" then [5, 25, 100] else [100] }
  else r

/-- The percentage of a wave, of 32 bits. -/
def readWave (wave : Json) : Option ℕ := wave.unsigned.map (· % 2 ^ 32)

def readRollout (rollout : Json) : ExtRolloutStrategy where
  type := ((rollout.get Json.text "type").map (toLowerAscii ∘ trimAscii)).getD "all_at_once"
  waves := ((rollout.get Json.items "waves").map (List.filterMap readWave)).getD [100]
  rollbackOnFailure := (rollout.get Json.flag "rollback_on_failure").getD false

/-- An issue that says something. -/
def readIssue (item : Json) : Option ExtPrecheckIssue :=
  item.record.bind fun issue =>
    let code := (issue.get Json.text "code").getD ""
    let message := (issue.get Json.text "message").getD ""
    if code ≠ "" ∨ message ≠ "" then some ⟨code, message⟩ else none

/-- One item of what `load_ext_deployments_store` reads. -/
def readDeployment (item : Json) : Option ExtDeploymentRecord :=
  (item.get Json.text "command_id").bind fun given =>
    if trimAscii given = "" then none
    else some {
      commandId := trimAscii given
      artifactId := readTrimmed "artifact_id" item
      actor := readTrimmed "actor" item
      status := ((item.get Json.text "status").map extStatusText).getD .pending
      statusReason := readTrimmed "status_reason" item
      selector := ((item.get Json.record "selector").map readSelector).getD {}
      selectorSpecified := (item.get Json.flag "selector_specified").getD false
      runAtUtc := item.get Json.unsigned "run_at_utc"
      rollout := withWaves (((item.get Json.record "rollout_strategy").map readRollout).getD {})
      kind := readTrimmed "kind" item
      hookScope := readTexts "hook_scope" item
      stage := readTrimmed "stage" item
      priority := readCount "priority" item % 2 ^ 32
      exclusiveGroup := readTrimmed "exclusive_group" item
      targetCount := readCount "target_count" item
      appliedTargets := readCount "applied_targets" item
      issues := ((item.get Json.items "issues").getD []).filterMap readIssue
      createdAtMs := readCount "created_at_ms" item
      updatedAtMs := readCount "updated_at_ms" item }

/-- The deployments of a parsed store; the last of several records with one id counts. -/
def readStore (root : Json) : ExtDeployments :=
  (((root.get Json.items "deployments").getD []).filterMap readDeployment).foldl
    (fun t d => t.insert d.commandId d) ∅

section Load

variable {Text : Type} (codec : Json.Codec Text)

/-- `load_ext_deployments_store`, on the file at the place of the store. -/
def loadExtDeployments (file : Option Text) : ExtDeployments :=
  match file.bind codec.parse with
  | none => ∅
  | some root => readStore root

end Load

/-! ### What is saved is loaded again -/

/-- A text that is read back as it was written. -/
def Neat (text : String) : Prop := trimAscii text = text

instance : DecidablePred Neat := fun text => inferInstanceAs (Decidable (trimAscii text = text))

/-- A list of texts that is read back as it was written. -/
def NeatList (values : List String) : Prop := ∀ value ∈ values, Neat value ∧ value ≠ ""

instance : DecidablePred NeatList := fun values =>
  inferInstanceAs (Decidable (∀ value ∈ values, Neat value ∧ value ≠ ""))

/-- A record in the form in which the tool keeps records: texts have no blanks around them,
    numbers are of their sizes, and no part is left out that a reader would fill in. -/
structure ExtDeploymentRecord.Storable (d : ExtDeploymentRecord) : Prop where
  commandId : Neat d.commandId ∧ d.commandId ≠ ""
  texts : Neat d.artifactId ∧ Neat d.actor ∧ Neat d.statusReason ∧ Neat d.kind ∧ Neat d.stage ∧
    Neat d.exclusiveGroup
  selector : NeatList d.selector.serverIds ∧ NeatList d.selector.roles ∧
    NeatList d.selector.gameModes ∧ NeatList d.selector.regions ∧ NeatList d.selector.shards ∧
    NeatList d.selector.tags
  runAt : ∀ runAt ∈ d.runAtUtc, runAt < 2 ^ 64
  rolloutType : toLowerAscii (trimAscii d.rollout.type) = d.rollout.type
  waves : d.rollout.waves ≠ [] ∧ ∀ wave ∈ d.rollout.waves, wave < 2 ^ 32
  hookScope : NeatList d.hookScope
  priority : d.priority < 2 ^ 32
  counts : d.targetCount < 2 ^ 64 ∧ d.appliedTargets < 2 ^ 64 ∧ d.createdAtMs < 2 ^ 64 ∧
    d.updatedAtMs < 2 ^ 64
  issues : ∀ issue ∈ d.issues, issue.code ≠ "" ∨ issue.message ≠ ""

/-- Deployments that can be stored, each under its own id. -/
def StorableAll (deployments : ExtDeployments) : Prop :=
  ∀ id d, deployments.lookup id = some d → d.commandId = id ∧ d.Storable

/-- Lists of neat texts survive. -/
theorem parseJsonStringList_textsJson {values : List String} (h : NeatList values) :
    parseJsonStringList (textsJson values) = values := by
  refine Json.filterMap_map_of_forall readListText .str fun value hvalue => ?_
  obtain ⟨hneat, hne⟩ := h value hvalue
  simp [readListText, show trimAscii value = value from hneat, hne]

variable {d : ExtDeploymentRecord}

/-- Selectors survive. -/
theorem readSelector_selectorJson (h : d.Storable) :
    readSelector (selectorJson d.selector) = d.selector := by
  obtain ⟨hids, hroles, hmodes, hregions, hshards, htags⟩ := h.selector
  simp [readSelector, selectorJson, readTexts, Json.get,
    parseJsonStringList_textsJson hids, parseJsonStringList_textsJson hroles,
    parseJsonStringList_textsJson hmodes, parseJsonStringList_textsJson hregions,
    parseJsonStringList_textsJson hshards, parseJsonStringList_textsJson htags]

/-- Waves survive if they fit 32 bits. -/
theorem readWaves_waveJson {waves : List ℕ} (h : ∀ wave ∈ waves, wave < 2 ^ 32) :
    (waves.map waveJson).filterMap readWave = waves := by
  refine Json.filterMap_map_of_forall readWave waveJson fun wave hwave => ?_
  have hlt := h wave hwave
  rw [readWave, waveJson, Json.unsigned_num (by omega), Option.map_some, Nat.mod_eq_of_lt hlt]

/-- Rollout strategies survive. -/
theorem readRollout_rolloutJson (h : d.Storable) :
    withWaves (readRollout (rolloutJson d.rollout)) = d.rollout := by
  have hread : readRollout (rolloutJson d.rollout) = d.rollout := by
    simp [readRollout, rolloutJson, Json.get, readWaves_waveJson h.waves.2, h.rolloutType]
  rw [hread, withWaves, if_neg h.waves.1]

/-- Issues survive if they say something. -/
theorem readIssues_issueJson {issues : List ExtPrecheckIssue}
    (h : ∀ issue ∈ issues, issue.code ≠ "" ∨ issue.message ≠ "") :
    (issues.map issueJson).filterMap readIssue = issues := by
  refine Json.filterMap_map_of_forall readIssue issueJson fun issue hissue => ?_
  have hsays := h issue hissue
  simp [readIssue, issueJson, Json.get, hsays]

theorem unsigned_runAtJson {runAt : Option ℕ} (h : ∀ t ∈ runAt, t < 2 ^ 64) :
    (runAtJson runAt).unsigned = runAt := by
  cases runAt with
  | none => rfl
  | some t => exact Json.unsigned_num (h t rfl)

/-- **Records survive.** Every field is found where it was written. -/
theorem readDeployment_deploymentJson (h : d.Storable) :
    readDeployment (deploymentJson d) = some d := by
  obtain ⟨hartifact, hactor, hreason, hkind, hstage, hgroup⟩ := h.texts
  obtain ⟨htargets, happlied, hcreated, hupdated⟩ := h.counts
  have hcount : ∀ {n : ℕ}, n < 2 ^ 64 → (Json.num n).unsigned.getD 0 = n := by
    intro n hn
    rw [Json.unsigned_num hn, Option.getD_some]
  have hpriority : (Json.num d.priority).unsigned.getD 0 % 2 ^ 32 = d.priority := by
    have := h.priority
    rw [hcount (by omega), Nat.mod_eq_of_lt this]
  have hid : trimAscii d.commandId ≠ "" := h.commandId.1.symm ▸ h.commandId.2
  refine (if_neg hid).trans (congrArg some ?_)
  exact ExtDeploymentRecord.ext h.commandId.1 hartifact hactor (extStatusText_text _) hreason
    (readSelector_selectorJson h) rfl (unsigned_runAtJson h.runAt) (readRollout_rolloutJson h) hkind
    (parseJsonStringList_textsJson h.hookScope) hstage hpriority hgroup (hcount htargets)
    (hcount happlied) (readIssues_issueJson h.issues) (hcount hcreated) (hcount hupdated)

/-! ### Whole stores -/

/-- The same deployments under the same ids. -/
def SameMap (t t' : ExtDeployments) : Prop := ∀ id, t.lookup id = t'.lookup id

variable {t : ExtDeployments} {calls : List Bool}

theorem SameMap.symm {t' : ExtDeployments} (h : SameMap t t') : SameMap t' t :=
  fun id => (h id).symm

/-- The records that are read of a store, in the order of the store. -/
theorem filterMap_readDeployment (h : StorableAll t) (keys : List String) :
    (keys.filterMap fun key => (t.lookup key).map deploymentJson).filterMap readDeployment =
      keys.filterMap t.lookup := by
  rw [filterMap_filterMap]
  refine filterMap_congr fun key _ => ?_
  cases hd : t.lookup key with
  | none => rfl
  | some d => exact readDeployment_deploymentJson (h key d hd).2

theorem map_commandId_filterMap (h : StorableAll t) (keys : List String) :
    (keys.filterMap t.lookup).map (·.commandId) = keys.filter fun key => (t.lookup key).isSome := by
  induction keys with
  | nil => rfl
  | cons key keys ih =>
    cases hd : t.lookup key with
    | none => simp [hd, ih]
    | some d => simp [hd, ih, (h key d hd).1]

/-- **Stores survive.** The deployments are read back as they were written. -/
theorem readStore_storeJson (h : StorableAll t) (savedAtMs : ℕ) :
    SameMap (readStore (storeJson savedAtMs t)) t := by
  have hread : readStore (storeJson savedAtMs t) =
      (((t.keys.insertionSort (· ≤ ·)).filterMap t.lookup).map fun d => (d.commandId, d)).foldl
        (fun t e => t.insert e.1 e.2) ∅ := by
    rw [foldl_map, ← filterMap_readDeployment h]
    rfl
  have hkeys : ((((t.keys.insertionSort (· ≤ ·)).filterMap t.lookup).map fun d =>
      (d.commandId, d)).map Prod.fst) =
        (t.keys.insertionSort (· ≤ ·)).filter fun key => (t.lookup key).isSome := by
    rw [map_map, ← map_commandId_filterMap h]
    rfl
  intro id
  rw [hread]
  cases hd : t.lookup id with
  | none =>
    rw [lookup_foldl_insert_of_notMem _ _ ∅, AList.lookup_empty]
    rw [hkeys, mem_filter, hd]
    simp
  | some d =>
    apply lookup_foldl_insert_of_mem
    · rw [hkeys]
      exact ((perm_insertionSort _ _).nodup_iff.mpr t.nodupKeys).filter _
    · have hkey : id ∈ t.keys := AList.mem_keys.mp (AList.lookup_isSome.mp (by rw [hd]; rfl))
      refine mem_map.mpr ⟨d, mem_filterMap.mpr ⟨id, ?_, hd⟩, ?_⟩
      · exact (perm_insertionSort _ _).mem_iff.mpr hkey
      · rw [(h id d hd).1]

/-! ### A save, call by call -/

/-- The files that a save touches: the store, the temporary file and the backup. -/
structure Disk (Text : Type) where
  path : Option Text
  tmp : Option Text := none
  bak : Option Text := none

/-- The call of `save_ext_deployments_locked` that comes next. -/
inductive SavePoint
  | opening
  | writing
  | removingBackup
  | backingUp
  | replacing
  | restoring
  | clearing
  | stopped (ok : Bool)
  deriving DecidableEq, Repr

/-- A save under way. -/
structure Saving (Text : Type) where
  disk : Disk Text
  point : SavePoint := .opening

section Save

variable {Text : Type} (codec : Json.Codec Text) {file : Option Text}

/-- The next call of a save of a text, which succeeds or fails.  A write that fails goes
    unnoticed, and so does a failure to remove or to make the backup. -/
def Saving.step (text : Text) (s : Saving Text) (succeeds : Bool) : Saving Text :=
  match s.point with
  | .opening =>
    if succeeds then ⟨{ s.disk with tmp := some codec.blank }, .writing⟩
    else ⟨s.disk, .stopped false⟩
  | .writing =>
    ⟨{ s.disk with tmp := if succeeds then some text else s.disk.tmp },
      if s.disk.path.isSome then .removingBackup else .replacing⟩
  | .removingBackup =>
    ⟨{ s.disk with bak := if succeeds then none else s.disk.bak }, .backingUp⟩
  | .backingUp =>
    if succeeds then ⟨{ s.disk with path := none, bak := s.disk.path }, .replacing⟩
    else ⟨s.disk, .replacing⟩
  | .replacing =>
    if succeeds then ⟨{ s.disk with path := s.disk.tmp, tmp := none }, .clearing⟩
    else ⟨s.disk, if s.disk.bak.isSome then .restoring else .stopped false⟩
  | .restoring =>
    if succeeds then ⟨{ s.disk with path := s.disk.bak, bak := none }, .stopped false⟩
    else ⟨s.disk, .stopped false⟩
  | .clearing => ⟨{ s.disk with bak := if succeeds then none else s.disk.bak }, .stopped true⟩
  | .stopped ok => ⟨s.disk, .stopped ok⟩

/-- A save of a text.  A list of inputs says which calls succeeded until the crash. -/
def Saving.machine (text : Text) : Machine (Saving Text) Bool Unit :=
  ⟨fun s succeeds => (s.step codec text succeeds, ())⟩

/-- The calls of a save so far. -/
abbrev Calls (Text : Type) := List (Event (Saving Text) Bool Unit)

/-- The store was moved to the backup. -/
def MovedAway (calls : Calls Text) : Prop :=
  ∃ e ∈ calls, e.pre.point = .backingUp ∧ e.input = true

/-- A file was moved to the place of the store. -/
def MovedIn (calls : Calls Text) : Prop :=
  ∃ e ∈ calls, (e.pre.point = .replacing ∨ e.pre.point = .restoring) ∧ e.input = true

/-- The store was moved to the backup and nothing to its place. -/
def BetweenMoves (calls : Calls Text) : Prop := MovedAway calls ∧ ¬ MovedIn calls

/-- The text is written, and a replacement that fails is not undone with the backup of some other
    save. -/
def Faithful (file : Option Text) (s : Saving Text) (succeeds : Bool) : Prop :=
  (s.point = .writing → succeeds = true) ∧
    (s.point = .replacing → succeeds = false → s.disk.bak = none ∨ s.disk.bak = file)

theorem movedAway_append (calls : Calls Text) (s : Saving Text) (succeeds : Bool) (u : Unit) :
    MovedAway (calls ++ [⟨s, succeeds, u⟩]) ↔
      MovedAway calls ∨ s.point = .backingUp ∧ succeeds = true := by
  simp [MovedAway, or_and_right, exists_or]

theorem movedIn_append (calls : Calls Text) (s : Saving Text) (succeeds : Bool) (u : Unit) :
    MovedIn (calls ++ [⟨s, succeeds, u⟩]) ↔
      MovedIn calls ∨ (s.point = .replacing ∨ s.point = .restoring) ∧ succeeds = true := by
  simp [MovedIn, or_and_right, exists_or]

/-- The store is where it was, or it is in the backup and missing in its place. -/
def Kept (file : Option Text) (calls : Calls Text) (path : Option Text) : Prop :=
  ¬ MovedAway calls ∧ path = file ∨ MovedAway calls ∧ path = none ∧ file.isSome = true

/-- Where the files are at a point of a save. -/
def Stage (text : Text) (file : Option Text) (calls : Calls Text) (s : Saving Text) : Prop :=
  match s.point with
  | .opening | .writing => ¬ MovedIn calls ∧ ¬ MovedAway calls ∧ s.disk.path = file
  | .removingBackup | .backingUp =>
    ¬ MovedIn calls ∧ ¬ MovedAway calls ∧ s.disk.path = file ∧ file.isSome = true ∧
      s.disk.tmp = some text
  | .replacing =>
    ¬ MovedIn calls ∧ Kept file calls s.disk.path ∧ s.disk.tmp = some text ∧
      (MovedAway calls → s.disk.bak = file)
  | .restoring => ¬ MovedIn calls ∧ Kept file calls s.disk.path ∧ s.disk.bak = file
  | .clearing => MovedIn calls ∧ s.disk.path = some text
  | .stopped _ =>
    ¬ MovedIn calls ∧ Kept file calls s.disk.path ∨
      MovedIn calls ∧ (s.disk.path = file ∨ s.disk.path = some text)

/-- **One call.** The files are where the next point has them. -/
theorem stage_step {text : Text} {calls : Calls Text} {s : Saving Text} {succeeds : Bool}
    (h : Stage text file calls s) (hsound : Faithful file s succeeds) :
    Stage text file (calls ++ [⟨s, succeeds, ()⟩]) (s.step codec text succeeds) := by
  obtain ⟨disk, point⟩ := s
  cases point with
  | opening | backingUp | restoring =>
    cases succeeds <;> simp_all [Stage, Saving.step, Kept, movedAway_append, movedIn_append]
  | writing =>
    have hwritten : succeeds = true := hsound.1 rfl
    -- whether there is a store decides which call comes next
    cases hpath : disk.path.isSome <;>
      simp_all [Stage, Saving.step, Kept, movedAway_append, movedIn_append]
  | removingBackup => simp_all [Stage, Saving.step, movedAway_append, movedIn_append]
  | replacing =>
    obtain ⟨hin, hkept, htmp, -⟩ := h
    cases succeeds with
    | true => simp_all [Stage, Saving.step, movedIn_append]
    | false =>
      -- the backup, if there is one, is what was moved away
      have hbak := hsound.2 rfl rfl
      cases hsome : disk.bak with
      | none => simp_all [Stage, Saving.step, Kept, movedAway_append, movedIn_append]
      | some backup =>
        have hfile : file = some backup := by
          rw [← hbak.resolve_left (by simp [hsome]), hsome]
        simp_all [Stage, Saving.step, Kept, movedAway_append, movedIn_append]
  | clearing => simp_all [Stage, Saving.step, movedIn_append]
  | stopped ok => simp_all [Stage, Saving.step, Kept, movedAway_append, movedIn_append]

/-- **Where the store is.** After any number of calls the store is the one from before or the new
    one, unless the last of the moves so far was to the backup; then it is missing. -/
theorem path_after {text : Text} {disk : Disk Text}
    (hsound : (Saving.machine codec text).Guarded (Faithful disk.path) ⟨disk, .opening⟩ calls) :
    let path := ((Saving.machine codec text).run ⟨disk, .opening⟩ calls).disk.path
    (BetweenMoves ((Saving.machine codec text).trace ⟨disk, .opening⟩ calls) →
      path = none ∧ disk.path.isSome = true) ∧
    (¬ BetweenMoves ((Saving.machine codec text).trace ⟨disk, .opening⟩ calls) →
      path = disk.path ∨ path = some text) := by
  have hstage := (Saving.machine codec text).guarded_trace_invariant
    (Stage text disk.path) (Faithful disk.path)
    (fun tr s succeeds h hs => stage_step codec h hs) (s := ⟨disk, .opening⟩)
    (by simp [Stage, MovedIn, MovedAway]) hsound
  revert hstage
  generalize (Saving.machine codec text).run ⟨disk, .opening⟩ calls = s
  obtain ⟨disk', point⟩ := s
  intro hstage
  cases point <;> simp only [Stage, Kept, BetweenMoves] at hstage ⊢ <;> tauto

/-- The file of a store that holds these deployments. -/
def Holds (deployments : ExtDeployments) (file : Option Text) : Prop :=
  file = none ∧ SameMap deployments ∅ ∨
    ∃ savedAtMs, file = some (codec.dump (storeJson savedAtMs deployments))

theorem load_dump (h : StorableAll t) (savedAtMs : ℕ) :
    SameMap (loadExtDeployments codec (some (codec.dump (storeJson savedAtMs t)))) t := by
  rw [loadExtDeployments, Option.bind_some, codec.parse_dump]
  exact readStore_storeJson h savedAtMs

/-- What a file holds is loaded. -/
theorem load_of_holds (h : StorableAll t) (hfile : Holds codec t file) :
    SameMap (loadExtDeployments codec file) t := by
  rcases hfile with ⟨rfl, hempty⟩ | ⟨savedAtMs, rfl⟩
  · exact hempty.symm
  · exact load_dump codec h savedAtMs

/-- **Crashes.** Old deployments are in the store and new ones are being saved when the tool
    crashes.  Then a load gives exactly the old or exactly the new deployments, if and only if the
    crash is not between the move of the store to the backup and the move of the new file to its
    place, or there are no deployments to lose. -/
theorem crash_recovers_iff {old new : ExtDeployments} (hold : StorableAll old)
    (hnew : StorableAll new) {disk : Disk Text} (hdisk : Holds codec old disk.path)
    (savedAtMs : ℕ) {calls : List Bool}
    (hsound : (Saving.machine codec (codec.dump (storeJson savedAtMs new))).Guarded
      (Faithful disk.path) ⟨disk, .opening⟩ calls) :
    let save := Saving.machine codec (codec.dump (storeJson savedAtMs new))
    let loaded := loadExtDeployments codec (save.run ⟨disk, .opening⟩ calls).disk.path
    (SameMap loaded old ∨ SameMap loaded new) ↔
      ¬ BetweenMoves (save.trace ⟨disk, .opening⟩ calls) ∨ SameMap old ∅ ∨ SameMap new ∅ := by
  intro save loaded
  obtain ⟨hmissing, hpresent⟩ := path_after codec hsound
  by_cases hbetween : BetweenMoves (save.trace ⟨disk, .opening⟩ calls)
  · have hloaded : loaded = ∅ := by
      show loadExtDeployments codec (save.run ⟨disk, .opening⟩ calls).disk.path = ∅
      rw [(hmissing hbetween).1]
      rfl
    simp only [hloaded, hbetween, not_true_eq_false, false_or]
    exact or_congr ⟨SameMap.symm, SameMap.symm⟩ ⟨SameMap.symm, SameMap.symm⟩
  · refine iff_of_true ?_ (.inl hbetween)
    show SameMap (loadExtDeployments codec (save.run ⟨disk, .opening⟩ calls).disk.path) old ∨
      SameMap (loadExtDeployments codec (save.run ⟨disk, .opening⟩ calls).disk.path) new
    rcases hpresent hbetween with hpath | hpath <;> rw [hpath]
    · exact .inl (load_of_holds codec hold hdisk)
    · exact .inr (load_dump codec hnew savedAtMs)

end Save

/-- A store with one deployment, in some status. -/
def oneDeployment (status : ExtStatus) : ExtDeployments :=
  AList.singleton "c" { commandId := "c", artifactId := "a", status := status }

theorem storableAll_oneDeployment {status : ExtStatus} : StorableAll (oneDeployment status) := by
  intro id d hd
  rw [oneDeployment, lookup_singleton_ite] at hd
  split_ifs at hd with hid
  obtain rfl := Option.some.inj hd
  refine ⟨hid.symm, ?_⟩
  exact {
    commandId := by dsimp only; decide
    texts := by dsimp only; decide
    selector := by dsimp only; decide
    runAt := by simp
    rolloutType := by dsimp only; decide
    waves := by dsimp only; decide
    hookScope := by dsimp only; decide
    priority := by dsimp only; decide
    counts := by dsimp only; decide
    issues := by simp }

/-- The files before a deployment is marked as executing. -/
def pendingDisk : Disk (Option Json) where
  path := some (some (storeJson 0 (oneDeployment .pending)))

/-- A save that marks the deployment as executing. -/
def executingSave : Machine (Saving (Option Json)) Bool Unit :=
  Saving.machine .values (Json.Codec.values.dump (storeJson 1 (oneDeployment .executing)))

theorem faithful_of_succeeds {Text : Type} (codec : Json.Codec Text) (text : Text)
    (file : Option Text) (s : Saving Text) (h : ∀ call ∈ calls, call = true) :
    (Saving.machine codec text).Guarded (Faithful file) s calls := by
  induction calls generalizing s with
  | nil => trivial
  | cons call calls ih =>
    have hcall : call = true := h call (by simp)
    subst hcall
    refine ⟨⟨fun _ => rfl, nofun⟩, ih _ fun c hc => h c (by simp [hc])⟩

/-- A crash right after the new file was moved to the place of the store. -/
theorem crash_recovers_iff_replaced :
    let calls := [true, true, true, true, true]
    let loaded :=
      loadExtDeployments .values (executingSave.run ⟨pendingDisk, .opening⟩ calls).disk.path
    SameMap loaded (oneDeployment .pending) ∨ SameMap loaded (oneDeployment .executing) := by
  refine (crash_recovers_iff .values storableAll_oneDeployment
    storableAll_oneDeployment (.inr ⟨0, rfl⟩) 1
    (faithful_of_succeeds _ _ _ _ (by decide))).mpr (.inl fun hbetween => hbetween.2 ?_)
  exact ⟨_, mem_of_getElem? (i := 4) rfl, .inl rfl, rfl⟩

/-- A crash between the two moves: all calls so far have succeeded, and the deployments are
    neither the old nor the new ones. -/
theorem crash_loses_deployments :
    let calls := [true, true, true, true]
    let loaded :=
      loadExtDeployments .values (executingSave.run ⟨pendingDisk, .opening⟩ calls).disk.path
    StorableAll (oneDeployment .pending) ∧ StorableAll (oneDeployment .executing) ∧
      Holds .values (oneDeployment .pending) pendingDisk.path ∧
      ¬ SameMap loaded (oneDeployment .pending) ∧ ¬ SameMap loaded (oneDeployment .executing) := by
  refine ⟨storableAll_oneDeployment, storableAll_oneDeployment,
    .inr ⟨0, rfl⟩, fun h => ?_, fun h => ?_⟩
  · have hlookup := h "c"
    cases hlookup
  · have hlookup := h "c"
    cases hlookup

end Knights.Admin
