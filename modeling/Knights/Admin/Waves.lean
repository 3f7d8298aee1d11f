import Mathlib.Algebra.Group.Int.Defs
import Knights.Lib.Json
import Knights.Admin.Deployments

namespace Knights.Admin

open Lib List
open Chat (toLowerAscii)

/-!
# The waves of a rollout

A deployment reaches its servers wave by wave.  Each wave has a percentage of the servers, rounded
up, and goes to those of them that no earlier wave has gone to; on small deployments several waves
can come out at the same place, and then only the first of them is published.

* `parseRolloutStrategy` — the strategies that a request can ask for; the last wave is always for
  all of the servers (`full_of_parse`);
* `Rollout.Covers` — the waves so far are slices of the servers, one after the other;
* `waves_cover` — the waves cut the servers into slices; if all are published, each server gets
  one, and if one fails, the servers of those before it are the ones that it is taken back from.
-/

/-! ### Strategies -/

/-- One percentage.  Numbers beyond 64 bits are read as fractions; the others are cut to 32. -/
def parseWave : Json → Except String ℕ
  | .num n =>
    if n < -2 ^ 63 ∨ 2 ^ 64 ≤ n then .error "rollout_strategy.waves must be numeric"
    else if n < 0 ∨ n.toNat % 2 ^ 32 = 0 ∨ 100 < n.toNat % 2 ^ 32 then
      .error "rollout_strategy.waves must contain values 1..100"
    else .ok (n.toNat % 2 ^ 32)
  | _ => .error "rollout_strategy.waves must be numeric"

/-- The checks of the percentages as a whole; without any, there are three. -/
def checkWaves (given : List ℕ) : Except String (List ℕ) :=
  let waves := if given = [] then [5, 25, 100] else given
  if ¬waves.IsChain (· ≤ ·) then .error "rollout_strategy.waves must be ascending"
  else if ¬waves.IsChain (· ≠ ·) then
    .error "rollout_strategy.waves must be strictly increasing"
  else if waves.getLast? ≠ some 100 then .error "rollout_strategy.waves last value must be 100"
  else .ok waves

/-- The percentages of a strategy of a type; what is not a list of them counts as none. -/
def parseWaves (type : String) (strategy : Json) : Except String (List ℕ) :=
  if type = "all_at_once" then .ok [100]
  else if type ≠ "canary_wave" then
    .error "rollout_strategy.type must be all_at_once or canary_wave"
  else (((strategy.get Json.items "waves").getD []).mapM parseWave).bind checkWaves

/-- The type of a strategy. -/
def parseType : Option Json → Except String String
  | none => .ok "all_at_once"
  | some (.str type) => .ok (toLowerAscii (trimAscii type))
  | some _ => .error "rollout_strategy.type must be a string"

/-- Whether a strategy is to take back what it has done. -/
def parseRollback : Option Json → Except String Bool
  | none => .ok false
  | some (.bool rollback) => .ok rollback
  | some _ => .error "rollout_strategy.rollback_on_failure must be a boolean"

/-- `parse_rollout_strategy_json`. -/
def parseRolloutStrategy (root : Json) : Except String ExtRolloutStrategy :=
  match root.member "rollout_strategy" with
  | none | some .null => .ok {}
  | some (.obj fields) => do
    let type ← parseType (fields.lookup "type")
    let rollbackOnFailure ← parseRollback (fields.lookup "rollback_on_failure")
    let waves ← parseWaves type (.obj fields)
    return ⟨type, waves, rollbackOnFailure⟩
  | some _ => .error "rollout_strategy must be an object"

theorem full_of_parseWaves {type : String} {strategy : Json} {waves : List ℕ}
    (h : parseWaves type strategy = .ok waves) : 100 ∈ waves := by
  unfold parseWaves at h
  split_ifs at h
  · cases h
    simp
  · obtain ⟨given, -, h⟩ := ok_of_bind h
    simp only [checkWaves] at h
    split_ifs at h
    all_goals
      cases h
      exact mem_of_getLast? (not_not.mp ‹_›)

theorem full_of_parse {root : Json} {rollout : ExtRolloutStrategy}
    (h : parseRolloutStrategy root = .ok rollout) : 100 ∈ rollout.waves := by
  unfold parseRolloutStrategy at h
  split at h
  · cases h
    simp
  · cases h
    simp
  · obtain ⟨type, -, h⟩ := ok_of_bind h
    obtain ⟨rollback, -, h⟩ := ok_of_bind h
    obtain ⟨waves, hwaves, h⟩ := ok_of_bind h
    cases h
    exact full_of_parseWaves hwaves
  · cases h

/-! ### Slices -/

/-- The waves so far deploy, are slices of the servers, one after the other, and stop where the
    ids that are written down stop. -/
structure Rollout.Covers (targets : List String) (r : Rollout) : Prop where
  slices : (r.published.map (·.serverIds)).flatten = r.appliedIds
  covered : r.appliedIds <+: targets
  deploys : ∀ wave ∈ r.published, wave.rollback = false

variable {cfg : ExtConfig} {publishes : ExtWave → Bool} {d : ExtDeploymentRecord}
  {targets : List String} {r : Rollout}

theorem covers_start : Rollout.Covers targets {} := ⟨rfl, List.nil_prefix, by simp⟩

/-- The ids after a wave that ends at a place. -/
theorem Rollout.Covers.append (h : r.Covers targets) {stop : ℕ}
    (hstop : r.appliedIds.length ≤ stop) :
    r.appliedIds ++ (targets.take stop).drop r.appliedIds.length = targets.take stop := by
  have hbegin : (targets.take stop).take r.appliedIds.length = r.appliedIds := by
    rw [take_take, min_eq_left hstop]
    exact (prefix_iff_eq_take.mp h.covered).symm
  nth_rewrite 1 [← hbegin]
  exact take_append_drop _ _

/-- One more wave. -/
theorem Rollout.Covers.publish (h : r.Covers targets) {stop : ℕ}
    (hstop : r.appliedIds.length ≤ stop) (index percent : ℕ) :
    Rollout.Covers targets { r with
      published := r.published ++
        [extWave d ((targets.take stop).drop r.appliedIds.length) index percent false]
      appliedIds := r.appliedIds ++ (targets.take stop).drop r.appliedIds.length } where
  slices := by simp [h.slices, extWave]
  covered := by
    rw [h.append hstop]
    exact take_prefix _ _
  deploys := by
    simp only [mem_append, mem_singleton]
    rintro wave (hwave | rfl)
    · exact h.deploys wave hwave
    · rfl

theorem Rollout.Covers.rollWaves (index : ℕ) (waves : List ℕ) (h : r.Covers targets) :
    (Admin.rollWaves cfg publishes d targets index waves r).Covers targets := by
  induction waves generalizing index r with
  | nil => exact h
  | cons percent waves ih =>
    simp only [Admin.rollWaves]
    split_ifs with hempty
    · exact ih _ h
    · exact ⟨h.slices, h.covered, h.deploys⟩
    · exact ih _ (h.publish (by omega) index percent)
    · exact ⟨h.slices, h.covered, h.deploys⟩

/-- If nothing fails and one wave is for all of the servers, nothing is left out. -/
theorem appliedIds_of_not_failed (index : ℕ) {waves : List ℕ} (h : r.Covers targets)
    (hfull : 100 ∈ waves ∨ r.appliedIds = targets)
    (hok : (rollWaves cfg publishes d targets index waves r).failure = none) :
    (rollWaves cfg publishes d targets index waves r).appliedIds = targets := by
  induction waves generalizing index r with
  | nil => exact hfull.resolve_left not_mem_nil
  | cons percent waves ih =>
    have hle := h.covered.length_le
    simp only [rollWaves] at hok ⊢
    split_ifs at hok ⊢ with hempty hforced hpublished
    · refine ih _ h ?_ hok
      rcases hfull with hfull | hfull
      · rcases mem_cons.mp hfull with rfl | hfull
        -- the wave for all is left out only if all have been reached
        · exact .inr (h.covered.eq_of_length (by omega))
        · exact .inl hfull
      · exact .inr hfull
    · have hstop : r.appliedIds.length ≤ min (max r.appliedIds.length
        ((targets.length * percent + 99) / 100)) targets.length := by omega
      refine ih _ (h.publish hstop index percent) ?_ hok
      rcases hfull with hfull | hfull
      · rcases mem_cons.mp hfull with rfl | hfull
        · exact .inr ((h.append hstop).trans (take_of_length_le (by omega)))
        · exact .inl hfull
      · rw [hfull] at hempty
        omega

/-- Nothing fails if every command can be published and none is made to fail. -/
theorem failure_of_publishes (hforce : cfg.forceFailWaveIndex = 0)
    (hpublishes : ∀ wave, publishes wave = true) (index : ℕ) (waves : List ℕ) :
    (rollWaves cfg publishes d targets index waves r).failure = r.failure := by
  induction waves generalizing index r with
  | nil => rfl
  | cons percent waves ih =>
    simp only [rollWaves, hforce, hpublishes]
    split_ifs with hempty hforced
    · exact ih _
    · exact absurd hforced.1 (lt_irrefl 0)
    · exact ih _

namespace Scheduler

/-- The command that an effect publishes. -/
def Effect.wave? : Effect → Option ExtWave
  | .publish wave => some wave
  | .answer _ => none

/-- The waves among the effects, or the commands that take waves back. -/
def commands (rollback : Bool) (es : List Effect) : List ExtWave :=
  (es.filterMap Effect.wave?).filter (·.rollback == rollback)

/-- The servers that the waves go to, in order. -/
def reached (es : List Effect) : List String := ((commands false es).map (·.serverIds)).flatten

/-- Waves and commands that take them back can be told apart. -/
theorem commands_publish {waves back : List ExtWave}
    (hwaves : ∀ wave ∈ waves, wave.rollback = false) (hback : ∀ wave ∈ back, wave.rollback = true) :
    commands false ((waves ++ back).map Effect.publish) = waves ∧
      commands true ((waves ++ back).map Effect.publish) = back := by
  have hall : ((waves ++ back).map Effect.publish).filterMap Effect.wave? = waves ++ back := by
    rw [filterMap_map]
    exact filterMap_some
  unfold commands
  rw [hall, filter_append, filter_append, filter_eq_self.mpr, filter_eq_nil_iff.mpr,
    filter_eq_nil_iff.mpr, filter_eq_self.mpr, append_nil, nil_append]
  · exact ⟨rfl, rfl⟩
  all_goals
    intro wave hwave
    simp [hwaves, hback, hwave]

/-- **Waves.** In any run, the commands of an execution whose strategy was accepted are waves, cut
    from the servers in order, and then at most one that takes them back.  If every command can be
    published, and none is made to fail, each server is reached once and nothing is taken back.
    If a wave is not published, so that some servers are not reached, and there is something to
    take back, it is taken back from exactly the servers that were reached. -/
theorem waves_cover (cfg : ExtConfig) (deployments : ExtDeployments) (clock : ℕ) (is : List Input)
    {s : Scheduler} (hs : (machine cfg).run (start deployments clock) is = s)
    {now : ℕ} {commandId : String} {d : ExtDeploymentRecord} {due : List String}
    (hpoller : s.poller = .rolling now commandId d due)
    (root : Json) (hparse : parseRolloutStrategy root = .ok d.rollout)
    (instances : List InstanceRecord) (publishes : ExtWave → Bool) {es : List Effect}
    (hroll : (step cfg s (.roll instances publishes)).2 = es) :
    es = (commands false es ++ commands true es).map Effect.publish ∧
      reached es <+: sortedTargets instances d ∧
      (cfg.forceFailWaveIndex = 0 → (∀ wave, publishes wave = true) →
        reached es = sortedTargets instances d ∧ commands true es = []) ∧
      (∀ wave ∈ commands true es, wave.serverIds = reached es) ∧
      (commands true es).length ≤ 1 ∧
      (reached es ≠ sortedTargets instances d → d.rollout.rollbackOnFailure = true →
        reached es ≠ [] → (∀ wave, wave.rollback = true → publishes wave = true) →
        commands true es ≠ []) := by
  have hheld : Held s := hs ▸ (machine cfg).run_invariant Held
    (fun s i => held_next (next_transition cfg s i)) held_start is
  obtain ⟨hd, -⟩ := hheld now commandId d due hpoller
  obtain ⟨r, hr, hcovers, hsome, hall⟩ : ∃ r,
      rollWaves cfg publishes d (sortedTargets instances d) 0 d.rollout.waves {} = r ∧
      r.Covers (sortedTargets instances d) ∧
      (r.failure = none → r.appliedIds = sortedTargets instances d) ∧
      (cfg.forceFailWaveIndex = 0 → (∀ wave, publishes wave = true) → r.failure = none) :=
    ⟨_, rfl, covers_start.rollWaves 0 _,
      appliedIds_of_not_failed 0 covers_start (.inl (full_of_parse hparse)),
      fun hforce hpublishes => failure_of_publishes hforce hpublishes 0 _⟩
  simp only [step, hpoller, endExecution, hd, hr] at hroll
  split_ifs at hroll with hempty
  · cases hroll
    simp [reached, commands, hempty]
  obtain ⟨back, hback⟩ : ∃ back, (finishDeployment s.clock (sortedTargets instances d) r d).2
    = back := ⟨_, rfl⟩
  -- the command that takes the waves back, if there is one
  have htakes : ∀ wave ∈ back, wave.rollback = true ∧ wave.serverIds = r.appliedIds := by
    rintro wave hwave
    rw [← hback] at hwave
    unfold finishDeployment at hwave
    split at hwave
    · cases hwave
    · simp only [Option.mem_def, Option.ite_none_right_eq_some] at hwave
      obtain ⟨-, hwave⟩ := hwave
      cases hwave
      exact ⟨rfl, rfl⟩
  rw [hback, ← map_append] at hroll
  subst hroll
  have hbacks : ∀ wave ∈ back.toList.filter publishes, wave.rollback = true :=
    fun wave hwave => (htakes wave (Option.mem_toList.mp (mem_of_mem_filter hwave))).1
  obtain ⟨hwaves, htaken⟩ := commands_publish hcovers.deploys hbacks
  rw [reached, hwaves, htaken, hcovers.slices]
  refine ⟨rfl, hcovers.covered, fun hforce hpublishes => ?_, fun wave hwave => ?_, ?_, ?_⟩
  · have hfailure := hall hforce hpublishes
    refine ⟨hsome hfailure, ?_⟩
    rw [← hback]
    simp [finishDeployment, hfailure]
  · exact (htakes wave (Option.mem_toList.mp (mem_of_mem_filter hwave))).2
  · exact (length_filter_le _ _).trans (by cases back <;> simp)
  · intro hleft hrollback hne hpublishes
    rw [← hback]
    unfold finishDeployment
    split
    · exact absurd (hsome ‹_›) hleft
    · simpa [hrollback, hne] using hpublishes _ rfl

/-- A deployment in three waves. -/
def canary : ExtDeploymentRecord where
  commandId := "c"
  artifactId := "e"
  rollout := ⟨"canary_wave", [5, 25, 100], true⟩

/-- On three servers, the second wave comes out where the first has stopped; the third fails, and
    the first is taken back. -/
theorem waves_cover_canary :
    let es := (step {} ((machine {}).run (start (AList.singleton "c" canary) 0)
      [.poll, .collect, .execute]) (.roll (["b", "c", "a"].map ({ instanceId := · }))
        fun wave => wave.rollback || wave.waveIndex ≠ 2)).2
    reached es = ["a"] ∧ commands true es ≠ [] ∧
      ∀ wave ∈ commands true es, wave.serverIds = reached es := by
  obtain ⟨-, -, -, hback, -, hsent⟩ :=
    waves_cover {} (AList.singleton "c" canary) 0 [.poll, .collect, .execute] rfl rfl
      (.obj [("rollout_strategy", .obj [("type", .str " Canary_Wave"),
        ("rollback_on_failure", .bool true)])]) rfl
      (["b", "c", "a"].map ({ instanceId := · }))
      (fun wave => wave.rollback || wave.waveIndex ≠ 2) rfl
  exact ⟨by decide +kernel, hsent (by decide +kernel) rfl (by decide +kernel)
    fun wave hwave => by simp [hwave], hback⟩

end Scheduler

end Knights.Admin
