import Knights.Admin.Deployments

namespace Knights.Admin

open Lib List Table

/-!
# Deployments and the clock

A deployment that is executed too long after the time it was to run at fails, with a reason that
blames the clock.  Whether the tool itself can be what makes it late depends on how far apart two
passes of the loop are, on how long a submission takes between the clock and the lock, and on how
much lateness is allowed.

* `Punctual` — the loop wakes in time and submissions do not take long;
* `OnTime` — how late a waiting deployment can be, by where the loop is;
* `never_clock_skew` — no deployment fails because of the clock, if the time between two passes
  and the time a submission takes are together within what is allowed;
* `clock_skew_fails` — with less allowed than a polling interval, one does.
-/

/-! ### Reasons -/

/-- What the waves of a rollout can fail for. -/
def waveCodes : List String := ["wave_forced_failure", "wave_publish_failed"]

theorem code_rollWaves (cfg : ExtConfig) (publishes : ExtWave → Bool) (d : ExtDeploymentRecord)
    (targets : List String) (index : ℕ) (waves : List ℕ) {r : Rollout}
    (hr : ∀ issue ∈ r.failure, issue.code ∈ waveCodes) :
    ∀ issue ∈ (rollWaves cfg publishes d targets index waves r).failure,
      issue.code ∈ waveCodes := by
  induction waves generalizing index r with
  | nil => exact hr
  | cons percent waves ih =>
    simp only [rollWaves]
    split_ifs
    · exact ih _ hr
    · simp [waveCodes]
    · exact ih _ hr
    · simp [waveCodes]

namespace Scheduler

/-- The deployment has not failed because of the clock. -/
def Unblamed (d : ExtDeploymentRecord) : Prop := d.statusReason ≠ "clock_skew"

theorem unblamed_finished {cfg : ExtConfig} {now : ℕ} {instances : List InstanceRecord}
    {publishes : ExtWave → Bool} {d current finished : ExtDeploymentRecord}
    (h : finished ∈ [current.fail now targetEmptyIssue,
      (finishDeployment now (sortedTargets instances d)
        (rollWaves cfg publishes d (sortedTargets instances d) 0 d.rollout.waves {})
          current).1]) : Unblamed finished := by
  rw [mem_cons, mem_singleton] at h
  rcases h with rfl | rfl
  · show "target_empty" ≠ "clock_skew"
    decide
  · have hcodes := code_rollWaves cfg publishes d (sortedTargets instances d) 0 d.rollout.waves
      (r := {}) (by simp)
    unfold finishDeployment
    cases hfailure : (rollWaves cfg publishes d (sortedTargets instances d) 0 d.rollout.waves
        {}).failure with
    | none =>
      show "" ≠ "clock_skew"
      decide
    | some issue =>
      have hcode := hcodes issue hfailure
      rw [waveCodes, mem_cons, mem_singleton] at hcode
      show issue.code ≠ "clock_skew"
      rcases hcode with hcode | hcode <;> rw [hcode] <;> decide

/-! ### Time -/

end Scheduler

namespace Poller

/-- The deployments that the pass has still to execute. -/
def due : Poller → List String
  | .executing _ due => due
  | .rolling _ _ _ due => due
  | _ => []

/-- The pass has still to list the deployments, or has a deployment on its list. -/
def ahead (id : String) : Poller → Bool
  | .collecting _ => true
  | poller => id ∈ poller.due

end Poller

namespace Scheduler

/-- The loop wakes within a polling interval of its last pass, the clock does not run out, what is
    scheduled is scheduled for now or later, and no submission takes longer than `delay` from the
    clock to the lock. -/
def Punctual (cfg : ExtConfig) (delay : ℕ) (s : Scheduler) : Input → Prop
  | .tick ms => s.clock + ms ≤ s.poller.started + cfg.pollIntervalMs ∧
      s.clock + ms + cfg.maxClockSkewMs < 2 ^ 64
  | .request _ _ command => ∀ runAt ∈ command.runAtUtc, s.clock ≤ runAt
  | .submit k _ _ => ∀ sub ∈ s.submissions[k]?, s.clock ≤ sub.now + delay
  | _ => True

/-- The last pass started no later than this after the time that a deployment is to run at; a
    pass that has the deployment ahead may be later by the time between two passes, and has it
    on its list only when its time has come. -/
structure OnTime (cfg : ExtConfig) (delay : ℕ) (poller : Poller) (id : String) (runAt : ℕ) :
    Prop where
  bound : poller.started ≤ runAt + delay + if poller.ahead id then cfg.pollIntervalMs else 0
  listed : id ∈ poller.due → runAt ≤ poller.started

/-- What holds of the clock, the loop, the submissions and the deployments in a punctual run. -/
structure Timely (cfg : ExtConfig) (delay : ℕ) (s : Scheduler) : Prop where
  clock : s.clock + cfg.maxClockSkewMs < 2 ^ 64
  started : s.poller.started ≤ s.clock
  wakes : s.clock ≤ s.poller.started + cfg.pollIntervalMs
  submissions : ∀ sub ∈ s.submissions, ∃ runAt, sub.command.runAtUtc = some runAt ∧ sub.now ≤ runAt
  known : ∀ id ∈ s.poller.due, (s.deployments.lookup id).isSome = true
  unblamed : ∀ id d, s.deployments.lookup id = some d → Unblamed d
  onTime : ∀ id d, s.deployments.lookup id = some d → d.status.waiting = true →
    ∃ runAt, d.runAtUtc = some runAt ∧ OnTime cfg delay s.poller id runAt

variable {cfg : ExtConfig} {delay runAt now : ℕ} {s : Scheduler} {id : String}
  {d : ExtDeploymentRecord} {sub : Submission}

theorem OnTime.mono {p p' : Poller} (h : OnTime cfg delay p id runAt)
    (hstarted : p'.started = p.started) (hahead : p.ahead id = true → p'.ahead id = true)
    (hdue : id ∈ p'.due → id ∈ p.due) : OnTime cfg delay p' id runAt where
  bound := by
    have hbound := h.bound
    rw [hstarted]
    by_cases hp : p.ahead id = true
    · rw [if_pos hp] at hbound
      rw [if_pos (hahead hp)]
      exact hbound
    · rw [if_neg hp] at hbound
      omega
  listed hmem := by
    rw [hstarted]
    exact h.listed (hdue hmem)

/-- A pass goes on within its list, and passes over nothing that waits. -/
theorem Timely.goOn (h : Timely cfg delay s) {p : Poller} (hstarted : p.started = s.poller.started)
    (hdue : ∀ id ∈ p.due, id ∈ s.poller.due)
    (hahead : ∀ id d, s.deployments.lookup id = some d → d.status.waiting = true →
      s.poller.ahead id = true → p.ahead id = true) :
    Timely cfg delay { s with poller := p } where
  clock := h.clock
  started := le_of_eq_of_le hstarted h.started
  wakes := by
    rw [hstarted]
    exact h.wakes
  submissions := h.submissions
  known id hmem := h.known id (hdue id hmem)
  unblamed := h.unblamed
  onTime id d hd hwaiting := by
    obtain ⟨runAt, hrunAt, htime⟩ := h.onTime id d hd hwaiting
    exact ⟨runAt, hrunAt, htime.mono hstarted (hahead id d hd hwaiting) (hdue id)⟩

/-- A record that is not to blame may be written, if it is on time or does not wait. -/
theorem Timely.insert (h : Timely cfg delay s) (hd : Unblamed d)
    (htime : d.status.waiting = true → ∃ runAt, d.runAtUtc = some runAt ∧
      OnTime cfg delay s.poller id runAt) :
    Timely cfg delay { s with deployments := s.deployments.insert id d } where
  clock := h.clock
  started := h.started
  wakes := h.wakes
  submissions := h.submissions
  known id' hid' := by
    rw [lookup_insert_ite]
    split_ifs
    · rfl
    · exact h.known id' hid'
  unblamed id' d' hd' := by
    obtain ⟨-, rfl⟩ | ⟨-, hd'⟩ := lookup_insert_eq_some.mp hd'
    · exact hd
    · exact h.unblamed id' d' hd'
  onTime id' d' hd' := by
    obtain ⟨rfl, rfl⟩ | ⟨-, hd'⟩ := lookup_insert_eq_some.mp hd'
    · exact htime
    · exact h.onTime id' d' hd'

theorem runAt_of_readSubmission {requireScheduleTime : Bool} {actor : String}
    {command : ExtCommandSpec} (h : readSubmission requireScheduleTime actor command now = .ok sub)
    (hlater : ∀ runAt ∈ command.runAtUtc, now ≤ runAt) :
    ∃ runAt, sub.command.runAtUtc = some runAt ∧ sub.now ≤ runAt := by
  unfold readSubmission at h
  split at h
  · cases h
  · next runAt hrunAt =>
    obtain rfl := Except.ok.inj h
    exact ⟨runAt, hrunAt, hlater runAt hrunAt⟩
  · cases h
  · obtain rfl := Except.ok.inj h
    exact ⟨now, rfl, le_refl now⟩

/-- A deployment on the list of a pass is not too late for it. -/
theorem not_overdue (h : Timely cfg delay s)
    (hcfg : cfg.pollIntervalMs + delay ≤ cfg.maxClockSkewMs) (hd : s.deployments.lookup id = some d)
    (hwaiting : d.status.waiting = true) (hmem : id ∈ s.poller.due) :
    d.overdue cfg s.poller.started = false := by
  obtain ⟨runAt, hrunAt, htime⟩ := h.onTime id d hd hwaiting
  have hlisted : runAt ≤ s.poller.started := htime.listed hmem
  have hstarted := h.started
  have hclock := h.clock
  -- the sum of 64 bits is the sum
  have hsum : (runAt + cfg.maxClockSkewMs) % 2 ^ 64 = runAt + cfg.maxClockSkewMs :=
    Nat.mod_eq_of_lt (by omega)
  have hbound : s.poller.started ≤ runAt + delay + cfg.pollIntervalMs := by
    have hbound := htime.bound
    split_ifs at hbound <;> omega
  unfold ExtDeploymentRecord.overdue
  rw [hrunAt]
  simp only [decide_eq_false_iff_not, hsum]
  omega

/-- A submission that did not take long is on time for whatever the loop does. -/
theorem Timely.accept (h : Timely cfg delay s) (hmem : sub ∈ s.submissions)
    (hnew : s.deployments.lookup sub.command.commandId = none) (hdelay : s.clock ≤ sub.now + delay)
    (artifact : ExtArtifactInventoryItem) (targetCount : ℕ) : Timely cfg delay { s with
      deployments := s.deployments.insert sub.command.commandId
        (newDeployment sub artifact targetCount) } := by
  obtain ⟨runAt, hrunAt, hlater⟩ := h.submissions sub hmem
  have hstarted := h.started
  refine h.insert (show "" ≠ "clock_skew" by decide) fun _ => ?_
  refine ⟨runAt, hrunAt, by omega, fun hdue => ?_⟩
  -- what is on the list of a pass was there before
  have hknown := h.known _ hdue
  rw [hnew] at hknown
  cases hknown

/-- A pass that starts in time has everything ahead that the one before left. -/
theorem Timely.wake (h : Timely cfg delay s) {last : ℕ} (hpoller : s.poller = .sleeping last) :
    Timely cfg delay { s with poller := .collecting s.clock } where
  clock := h.clock
  started := le_refl _
  wakes := Nat.le_add_right _ _
  submissions := h.submissions
  known id hid := nomatch hid
  unblamed := h.unblamed
  onTime id d hd hwaiting := by
    obtain ⟨runAt, hrunAt, htime⟩ := h.onTime id d hd hwaiting
    have hwakes := h.wakes
    have hbound := htime.bound
    rw [hpoller] at hwakes hbound
    refine ⟨runAt, hrunAt, ?_, fun hid => nomatch hid⟩
    simp only [Poller.started, Poller.ahead, Poller.due, not_mem_nil, decide_false,
      Bool.false_eq_true, if_false, if_true] at hwakes hbound ⊢
    omega

/-- The list of a pass has everything whose time has come. -/
theorem Timely.collect (h : Timely cfg delay s) (hpoller : s.poller = .collecting now) :
    Timely cfg delay { s with poller := .executing now (dueCommands now s.deployments) } where
  clock := h.clock
  started := by have := h.started; rwa [hpoller] at this
  wakes := by have := h.wakes; rwa [hpoller] at this
  submissions := h.submissions
  known id hid := by
    obtain ⟨d, hd, -⟩ := mem_dueCommands.mp hid
    exact Option.isSome_iff_exists.mpr ⟨d, hd⟩
  unblamed := h.unblamed
  onTime id d hd hwaiting := by
    obtain ⟨runAt, hrunAt, htime⟩ := h.onTime id d hd hwaiting
    have hbound := htime.bound
    rw [hpoller] at hbound
    have hdue : id ∈ dueCommands now s.deployments ↔ runAt ≤ now := by
      rw [mem_dueCommands]
      simp [hd, hwaiting, ExtDeploymentRecord.due, hrunAt]
    refine ⟨runAt, hrunAt, ?_, hdue.mp⟩
    simp only [Poller.started, Poller.ahead, Poller.due, hdue, decide_eq_true_eq, if_true]
      at hbound ⊢
    split_ifs <;> omega

theorem timely_next {s' : Scheduler} {i : Input} (htransition : Transition cfg s i s')
    (hcfg : cfg.pollIntervalMs + delay ≤ cfg.maxClockSkewMs) (h : Timely cfg delay s)
    (hpunctual : Punctual cfg delay s i) : Timely cfg delay s' := by
  -- what the loop does depends on where it is
  obtain ⟨deployments, submissions, clock, poller⟩ := s
  cases htransition with
  | stutter => exact h
  | @tick ms =>
    have hstarted := h.started
    exact { h with
      clock := hpunctual.2
      started := by dsimp only at hstarted ⊢; omega
      wakes := hpunctual.1 }
  | arrive hread =>
    refine { h with submissions := fun sub hsub => ?_ }
    rcases mem_append.mp hsub with hsub | hsub
    · exact h.submissions sub hsub
    · obtain rfl := mem_singleton.mp hsub
      exact runAt_of_readSubmission hread hpunctual
  | refuse =>
    refine { h with submissions := fun sub hsub => ?_ }
    exact h.submissions sub (mem_of_mem_eraseIdx hsub)
  | accept hsub hnew =>
    have haccept := h.accept (mem_of_getElem? hsub) hnew (hpunctual _ hsub)
    exact { haccept _ _ with
      submissions := fun sub hsub => h.submissions sub (mem_of_mem_eraseIdx hsub) }
  | wake hpoller => exact h.wake hpoller
  | collect hpoller => exact h.collect hpoller
  | sleep hpoller =>
    subst hpoller
    exact h.goOn rfl (fun _ hid => nomatch hid) fun _ _ _ _ hahead => hahead
  | skip hpoller hskip =>
    subst hpoller
    refine h.goOn rfl (fun _ => mem_cons_of_mem _) fun id d hd hwaiting hahead => ?_
    simp only [Poller.ahead, Poller.due, mem_cons, decide_eq_true_eq] at hahead ⊢
    refine decide_eq_true (hahead.resolve_left ?_)
    rintro rfl
    rw [hskip d hd] at hwaiting
    cases hwaiting
  | late hpoller hd hwaiting hlate =>
    have hnot := not_overdue h hcfg hd hwaiting (by rw [hpoller]; exact mem_cons_self)
    rw [hpoller] at hnot
    exact nomatch hlate.symm.trans hnot
  | @begin now id _ d hpoller hd hwaiting hlate =>
    subst hpoller
    refine (h.insert (d := d.begin now) (h.unblamed id d hd) fun h => nomatch h).goOn rfl
      (fun _ => mem_cons_of_mem _) fun id' d' hd' hwaiting' hahead => ?_
    simp only [Poller.ahead, Poller.due, mem_cons, decide_eq_true_eq] at hahead ⊢
    refine decide_eq_true (hahead.resolve_left ?_)
    -- what is being executed does not wait
    rintro rfl
    obtain ⟨-, rfl⟩ | ⟨hne, -⟩ := lookup_insert_eq_some.mp hd'
    · cases hwaiting'
    · exact hne rfl
  | lose hpoller =>
    subst hpoller
    exact h.goOn rfl (fun _ hid => hid) fun _ _ _ _ hahead => hahead
  | finish hpoller hcurrent hfinished =>
    subst hpoller
    refine (h.insert (unblamed_finished hfinished) fun hwaiting => ?_).goOn rfl
      (fun _ hid => hid) fun _ _ _ _ hahead => hahead
    rcases closed_of_finished hfinished with hends | hends <;> rw [hends] at hwaiting <;>
      cases hwaiting

/-- **The clock.** In every punctual run from a start with no deployments, no deployment fails
    because of the clock, if what is allowed covers the polling interval and the time that a
    submission takes from the clock to the lock. -/
theorem never_clock_skew (cfg : ExtConfig) (delay : ℕ)
    (hcfg : cfg.pollIntervalMs + delay ≤ cfg.maxClockSkewMs) {clock : ℕ}
    (hclock : clock + cfg.maxClockSkewMs < 2 ^ 64) {is : List Input}
    (hpunctual : (machine cfg).Guarded (Punctual cfg delay) (start ∅ clock) is) {id : String}
    {d : ExtDeploymentRecord}
    (hd : ((machine cfg).run (start ∅ clock) is).deployments.lookup id = some d) :
    ¬ (d.status = .failed ∧ d.statusReason = "clock_skew") := by
  have htimely := (machine cfg).guarded_invariant (Timely cfg delay) (Punctual cfg delay)
    (fun s i => timely_next (next_transition cfg s i) hcfg) (s := start ∅ clock) {
      clock := hclock
      started := le_refl _
      wakes := Nat.le_add_right _ _
      submissions := fun sub hsub => nomatch hsub
      known := fun id hid => nomatch hid
      unblamed := fun id d hd => nomatch hd
      onTime := fun id d hd => nomatch hd } hpunctual
  exact fun hfailed => htimely.unblamed id d hd hfailed.2

/-- A deployment submitted one millisecond after a pass, with the next pass a polling interval
    after the last. -/
def submittedAfterPass : List Input :=
  [.tick 1, .request false "" { commandId := "c", artifactId := "a" },
    .submit 0 [{ artifactId := "a", hookScope := ["h"], stage := "mutate", exclusiveGroup := "g" }]
      [{ instanceId := "s" }],
    .tick 999, .poll, .collect, .execute, .roll [{ instanceId := "s" }] fun _ => true]

/-- No lateness is allowed. -/
def strictConfig : ExtConfig := { maxClockSkewMs := 0 }

theorem punctual_submittedAfterPass (hpoll : cfg.pollIntervalMs = 1000) :
    (machine cfg).Guarded (Punctual cfg 0) (start ∅ 0) submittedAfterPass := by
  have hskew := cfg.skew_le
  refine ⟨⟨?_, ?_⟩, ?_, ?_, ⟨?_, ?_⟩, trivial, trivial, trivial, trivial, trivial⟩
  · show 0 + 1 ≤ 0 + cfg.pollIntervalMs
    omega
  · show 0 + 1 + cfg.maxClockSkewMs < 2 ^ 64
    omega
  · exact fun runAt hrunAt => nomatch hrunAt
  · intro sub hsub
    obtain rfl := Option.some.inj hsub
    exact le_refl _
  · show 0 + 1 + 999 ≤ 0 + cfg.pollIntervalMs
    omega
  · show 0 + 1 + 999 + cfg.maxClockSkewMs < 2 ^ 64
    omega

theorem never_clock_skew_submittedAfterPass :
    ∃ d, ((machine {}).run (start ∅ 0) submittedAfterPass).deployments.lookup "c" = some d ∧
      ¬ (d.status = .failed ∧ d.statusReason = "clock_skew") := by
  have hsome : (((machine {}).run (start ∅ 0) submittedAfterPass).deployments.lookup "c").isSome =
      true := by decide +kernel
  obtain ⟨d, hd⟩ := Option.isSome_iff_exists.mp hsome
  exact ⟨d, hd, never_clock_skew {} 0 (by decide) (by decide) (punctual_submittedAfterPass rfl) hd⟩

/-- With no lateness allowed the same deployment fails because of the clock, although the loop
    wakes in time. -/
theorem clock_skew_fails :
    (machine strictConfig).Guarded (Punctual strictConfig 0) (start ∅ 0) submittedAfterPass ∧
      (((machine strictConfig).run (start ∅ 0) submittedAfterPass).deployments.lookup "c").map
        (fun d => (d.status, d.statusReason)) = some (.failed, "clock_skew") :=
  ⟨punctual_submittedAfterPass rfl, by decide +kernel⟩

end Scheduler

end Knights.Admin
