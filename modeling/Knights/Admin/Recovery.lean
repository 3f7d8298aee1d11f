import Knights.Admin.DeploymentStore

namespace Knights.Admin

open Lib Table

/-!
# Deployments after a restart

After a restart the tool has the deployments of its store, in the statuses that they had when the
store was last written.  Those that were waiting are taken up by the first pass for which they are
due, and the pass does not end before they have completed or failed.  Those that were being
executed are not taken up by anything.

* `pass_ends` — a pass can always be brought to its end;
* `Passing`, `passing_next` — what a pass that was to take up a deployment still has to do;
* `stuck_next` — a deployment in execution that no pass is executing stays as it is;
* `restart_recovers_iff` — every deployment of the store is brought to an end, if and only if none
  of them was being executed.
-/

namespace Scheduler

variable {cfg : ExtConfig} {d : ExtDeploymentRecord} {deployments : ExtDeployments} {id : String}
  {s s' : Scheduler} {due : List String} {now : ℕ} {i : Input} {status : ExtStatus}

/-! ### Passes end -/

/-- The state after some steps of the loop. -/
def PollsTo (cfg : ExtConfig) (s s' : Scheduler) : Prop :=
  ∃ steps : List Input, (∀ i ∈ steps, i.isPolling = true) ∧ (machine cfg).run s steps = s'

theorem PollsTo.refl (s : Scheduler) : PollsTo cfg s s := ⟨[], by simp, rfl⟩

theorem PollsTo.cons {s' : Scheduler} (hi : i.isPolling = true)
    (h : PollsTo cfg ((machine cfg).next s i) s') : PollsTo cfg s s' := by
  obtain ⟨steps, hsteps, hrun⟩ := h
  exact ⟨i :: steps, by simpa [hi] using hsteps, hrun⟩

/-- A deployment is rolled out, or the loop goes on. -/
theorem poller_beginExecution : (s.beginExecution cfg now id due).poller = .executing now due ∨
      ∃ d, (s.beginExecution cfg now id due).poller = .rolling now id d due := by
  unfold beginExecution
  cases s.deployments.lookup id with
  | none => exact .inl rfl
  | some d =>
    dsimp only
    split_ifs
    · exact .inl rfl
    · exact .inr ⟨_, rfl⟩
    · exact .inl rfl

/-- The loop goes on after a rollout. -/
theorem poller_endExecution (s : Scheduler) (now : ℕ) (id : String) (d : ExtDeploymentRecord)
    (due : List String) (instances : List InstanceRecord) (publishes : ExtWave → Bool) :
    (s.endExecution cfg now id d due instances publishes).1.poller = .executing now due := by
  unfold endExecution
  cases s.deployments.lookup id with
  | none => rfl
  | some current =>
    dsimp only
    split_ifs <;> rfl

/-- The end of an execution brings the loop to the next one. -/
theorem pollsTo_of_rolling (hpoller : s.poller = .rolling now id d due)
    (hnext : ∀ s' : Scheduler, s'.poller = .executing now due →
      ∃ s'', s''.poller.asleep = true ∧ PollsTo cfg s' s'') :
    ∃ s', s'.poller.asleep = true ∧ PollsTo cfg s s' := by
  have hroll : ((machine cfg).next s (.roll [] fun _ => true)).poller = .executing now due := by
    show (s.step cfg (.roll [] fun _ => true)).1.poller = _
    simp only [step, hpoller]
    exact poller_endExecution s now id d due [] _
  obtain ⟨s', hs', hpolls⟩ := hnext _ hroll
  exact ⟨s', hs', hpolls.cons rfl⟩

/-- The loop gets through what is due. -/
theorem pollsTo_of_executing (hpoller : s.poller = .executing now due) :
    ∃ s', s'.poller.asleep = true ∧ PollsTo cfg s s' := by
  induction due generalizing s with
  | nil =>
    refine ⟨(machine cfg).next s .execute, ?_, .cons rfl (.refl _)⟩
    show (s.step cfg .execute).1.poller.asleep = true
    simp only [step, hpoller]
    rfl
  | cons id due ih =>
    have hnext : (machine cfg).next s .execute = s.beginExecution cfg now id due := by
      show (s.step cfg .execute).1 = _
      simp only [step, hpoller]
    -- the first one is done with at once, or rolled out
    rcases poller_beginExecution with hdone | ⟨d, hrolling⟩
    · obtain ⟨s', hs', hpolls⟩ := ih hdone
      exact ⟨s', hs', .cons rfl (hnext ▸ hpolls)⟩
    · obtain ⟨s', hs', hpolls⟩ := pollsTo_of_rolling hrolling fun _ => ih
      exact ⟨s', hs', .cons rfl (hnext ▸ hpolls)⟩

/-- **Passes end.** From any state some steps of the loop bring it back to sleep. -/
theorem pass_ends (cfg : ExtConfig) (s : Scheduler) :
    ∃ s', s'.poller.asleep = true ∧ PollsTo cfg s s' := by
  cases hpoller : s.poller with
  | sleeping last => exact ⟨s, by rw [hpoller]; rfl, .refl s⟩
  | collecting now =>
    have hnext : ((machine cfg).next s .collect).poller =
        .executing now (dueCommands now s.deployments) := by
      show (s.step cfg .collect).1.poller = _
      simp only [step, hpoller]
    obtain ⟨s', hs', hpolls⟩ := pollsTo_of_executing hnext
    exact ⟨s', hs', hpolls.cons rfl⟩
  | executing now due => exact pollsTo_of_executing hpoller
  | rolling now id d due => exact pollsTo_of_rolling hpoller fun _ => pollsTo_of_executing

/-! ### What a pass still has to do -/

/-- The deployment is closed. -/
def Closed (id : String) (s : Scheduler) : Prop :=
  ∃ d, s.deployments.lookup id = some d ∧ d.status.closed = true

/-- A pass that was to take up a deployment has it ahead, or is executing it, or has closed it. -/
def Passing (id : String) (s : Scheduler) : Prop :=
  ∃ d, s.deployments.lookup id = some d ∧ (d.status.closed = true ∨
    match s.poller with
    | .sleeping _ => False
    | .collecting now => d.status.waiting = true ∧ d.due now = true
    | .executing _ due => d.status.waiting = true ∧ id ∈ due
    | .rolling _ id' _ due => id' = id ∨ d.status.waiting = true ∧ id ∈ due)

theorem closed_of_ends (h : status = .completed ∨ status = .failed) : status.closed = true := by
  rcases h with rfl | rfl <;> rfl

/-- No step drops it from the pass. -/
theorem passing_next (htransition : Transition cfg s i s') (h : Passing id s) : Passing id s' := by
  obtain ⟨d, hd, hpass⟩ := h
  cases htransition with
  | stutter | tick | arrive | refuse => exact ⟨d, hd, hpass⟩
  | accept hsub hnew =>
    -- the new deployment has an id of its own
    refine ⟨d, ?_, hpass⟩
    rw [AList.lookup_insert_ne, hd]
    rintro rfl
    rw [hnew] at hd
    cases hd
  | wake hpoller =>
    rw [hpoller] at hpass
    exact ⟨d, hd, .inl (hpass.resolve_right not_false)⟩
  | collect hpoller =>
    rw [hpoller] at hpass
    refine ⟨d, hd, hpass.imp_right fun ⟨hwaiting, hdue⟩ => ?_⟩
    exact ⟨hwaiting, mem_dueCommands.mpr ⟨d, hd, hwaiting, hdue⟩⟩
  | sleep hpoller =>
    rw [hpoller] at hpass
    exact ⟨d, hd, .inl (hpass.resolve_right fun ⟨_, hmem⟩ => nomatch hmem)⟩
  | skip hpoller hskip =>
    rw [hpoller] at hpass
    refine ⟨d, hd, hpass.imp_right fun ⟨hwaiting, hmem⟩ => ⟨hwaiting, ?_⟩⟩
    -- what was skipped was not waiting
    obtain rfl | hmem := List.mem_cons.mp hmem
    · rw [hskip d hd] at hwaiting
      cases hwaiting
    · exact hmem
  | @late now id' due d' hpoller hd' hwaiting' hlate =>
    rw [hpoller] at hpass
    by_cases hid : id = id'
    · subst hid
      exact ⟨_, AList.lookup_insert _, .inl rfl⟩
    · refine ⟨d, (AList.lookup_insert_ne hid).trans hd, hpass.imp_right ?_⟩
      exact fun ⟨hwaiting, hmem⟩ => ⟨hwaiting, (List.mem_cons.mp hmem).resolve_left hid⟩
  | @begin now id' due d' hpoller hd' hwaiting' hlate =>
    rw [hpoller] at hpass
    by_cases hid : id = id'
    · subst hid
      exact ⟨_, AList.lookup_insert _, .inr (.inl rfl)⟩
    · refine ⟨d, (AList.lookup_insert_ne hid).trans hd, hpass.imp_right ?_⟩
      exact fun ⟨hwaiting, hmem⟩ => .inr ⟨hwaiting, (List.mem_cons.mp hmem).resolve_left hid⟩
  | lose hpoller hgone =>
    rw [hpoller] at hpass
    refine ⟨d, hd, hpass.imp_right ?_⟩
    rintro (rfl | hahead)
    · rw [hgone] at hd
      cases hd
    · exact hahead
  | @finish now id' _ current finished due _ _ hpoller hcurrent hfinished =>
    rw [hpoller] at hpass
    by_cases hid : id = id'
    · subst hid
      exact ⟨_, AList.lookup_insert _, .inl (closed_of_ends (closed_of_finished hfinished))⟩
    · refine ⟨d, (AList.lookup_insert_ne hid).trans hd, hpass.imp_right ?_⟩
      exact fun hahead => hahead.resolve_left fun h => hid h.symm

/-- A pass that is over has closed it. -/
theorem closed_of_passing (h : Passing id s) (hasleep : s.poller.asleep = true) : Closed id s := by
  obtain ⟨d, hd, hpass⟩ := h
  refine ⟨d, hd, hpass.resolve_right ?_⟩
  cases hpoller : s.poller with
  | sleeping last => exact not_false
  | collecting | executing | rolling =>
    rw [hpoller] at hasleep
    cases hasleep

/-! ### Deployments in execution -/

/-- Only the deployment that the loop is executing is in execution. -/
def NoneLeft (s : Scheduler) : Prop :=
  ∀ id d, s.deployments.lookup id = some d → d.status = .executing →
    ∃ now d' due, s.poller = .rolling now id d' due

/-- Steps leave none behind. -/
theorem noneLeft_next (htransition : Transition cfg s i s') (h : NoneLeft s) : NoneLeft s' := by
  intro id d hd hexecuting
  cases htransition with
  | stutter | tick | arrive | refuse => exact h id d hd hexecuting
  | accept =>
    obtain ⟨-, rfl⟩ | ⟨-, hd⟩ := lookup_insert_eq_some.mp hd
    · cases hexecuting
    · exact h id d hd hexecuting
  | wake hpoller | collect hpoller | sleep hpoller | skip hpoller =>
    rw [NoneLeft, hpoller] at h
    obtain ⟨-, -, -, ⟨⟩⟩ := h id d hd hexecuting
  | late hpoller =>
    rw [NoneLeft, hpoller] at h
    obtain ⟨-, rfl⟩ | ⟨-, hd⟩ := lookup_insert_eq_some.mp hd
    · cases hexecuting
    · obtain ⟨-, -, -, ⟨⟩⟩ := h id d hd hexecuting
  | begin hpoller =>
    rw [NoneLeft, hpoller] at h
    obtain ⟨rfl, -⟩ | ⟨-, hd⟩ := lookup_insert_eq_some.mp hd
    · exact ⟨_, _, _, rfl⟩
    · obtain ⟨-, -, -, ⟨⟩⟩ := h id d hd hexecuting
  | lose hpoller hgone =>
    rw [NoneLeft, hpoller] at h
    obtain ⟨_, _, _, hrolling⟩ := h id d hd hexecuting
    cases hrolling
    exact nomatch hgone.symm.trans hd
  | finish hpoller hcurrent hfinished =>
    rw [NoneLeft, hpoller] at h
    obtain ⟨-, rfl⟩ | ⟨hid, hd⟩ := lookup_insert_eq_some.mp hd
    · rcases closed_of_finished hfinished with hends | hends <;>
        exact nomatch hends.symm.trans hexecuting
    · obtain ⟨_, _, _, hrolling⟩ := h id d hd hexecuting
      cases hrolling
      exact absurd rfl hid

/-- A deployment in execution that the loop is not executing. -/
def Stuck (id : String) (d : ExtDeploymentRecord) (s : Scheduler) : Prop :=
  s.deployments.lookup id = some d ∧ ∀ now d' due, s.poller ≠ .rolling now id d' due

/-- The loop never takes it up. -/
theorem stuck_next (htransition : Transition cfg s i s') (hexecuting : d.status = .executing)
    (h : Stuck id d s) : Stuck id d s' := by
  obtain ⟨hd, hrolling⟩ := h
  have hnot : ¬ d.status.waiting = true := by
    rw [hexecuting]
    decide
  cases htransition with
  | stutter | tick | arrive | refuse => exact ⟨hd, hrolling⟩
  | accept hsub hnew =>
    refine ⟨?_, hrolling⟩
    rw [AList.lookup_insert_ne, hd]
    rintro rfl
    rw [hnew] at hd
    cases hd
  | wake | collect | sleep | skip | lose => exact ⟨hd, fun _ _ _ h => nomatch h⟩
  | late _ hd' hwaiting =>
    refine ⟨?_, fun _ _ _ h => nomatch h⟩
    rw [AList.lookup_insert_ne, hd]
    rintro rfl
    obtain rfl := Option.mem_unique hd hd'
    exact hnot hwaiting
  | @begin _ id' _ _ _ hd' hwaiting =>
    -- only what waits is executed
    have hne : id ≠ id' := by
      rintro rfl
      obtain rfl := Option.mem_unique hd hd'
      exact hnot hwaiting
    refine ⟨(AList.lookup_insert_ne hne).trans hd, ?_⟩
    rintro _ _ _ h
    cases h
    exact hne rfl
  | finish hpoller =>
    refine ⟨?_, fun _ _ _ h => nomatch h⟩
    rw [AList.lookup_insert_ne, hd]
    rintro rfl
    exact hrolling _ _ _ hpoller

/-! ### Restarts -/

/-- Every deployment that is neither completed nor failed nor cancelled is, by the end of a pass
    that starts when its time has come. -/
def Recovers (cfg : ExtConfig) (s : Scheduler) : Prop :=
  ∀ before id d, ((machine cfg).run s before).poller.asleep = true →
    ((machine cfg).run s before).deployments.lookup id = some d → d.status.closed = false →
    d.due ((machine cfg).run s before).clock = true →
    ∀ pass, ((machine cfg).run s (before ++ .poll :: pass)).poller.asleep = true →
      Closed id ((machine cfg).run s (before ++ .poll :: pass))

theorem waiting_of_open (hopen : status.closed = false) (hnot : status ≠ .executing) :
    status.waiting = true := by
  cases status <;> simp_all [ExtStatus.closed, ExtStatus.waiting]

/-- With none left in execution, passes close what is due. -/
theorem recovers_of_none (h : ∀ id d, deployments.lookup id = some d → d.status ≠ .executing)
    (clock : ℕ) : Recovers cfg (start deployments clock) := by
  intro before id d hasleep hd hopen hdue pass hend
  have hleft : NoneLeft ((machine cfg).run (start deployments clock) before) :=
    (machine cfg).run_invariant NoneLeft (fun s i => noneLeft_next (next_transition cfg s i))
      (fun id d hd hexecuting => absurd hexecuting (h id d hd)) before
  revert hasleep hd hdue hend hleft
  rw [(machine cfg).run_append, (machine cfg).run_cons]
  generalize (machine cfg).run (start deployments clock) before = s
  intro hasleep hd hdue hend hleft
  refine closed_of_passing ?_ hend
  refine (machine cfg).run_invariant (Passing id)
    (fun s i => passing_next (next_transition cfg s i)) ?_ pass
  -- the pass starts with the deployment waiting and due
  cases hpoller : s.poller with
  | sleeping last =>
    have hwaiting : d.status.waiting = true := by
      refine waiting_of_open hopen fun hexecuting => ?_
      obtain ⟨now, d', due, hrolling⟩ := hleft id d hd hexecuting
      rw [hpoller] at hrolling
      cases hrolling
    have hnext : (machine cfg).next s .poll = { s with poller := .collecting s.clock } := by
      show (s.step cfg .poll).1 = _
      simp only [step, hpoller]
    rw [hnext]
    exact ⟨d, hd, .inr ⟨hwaiting, hdue⟩⟩
  | collecting | executing | rolling =>
    rw [hpoller] at hasleep
    cases hasleep

theorem due_of_le (h : ∀ runAt ∈ d.runAtUtc, runAt ≤ now) : d.due now = true := by
  unfold ExtDeploymentRecord.due
  cases hrun : d.runAtUtc with
  | none => rfl
  | some runAt => simpa using h runAt hrun

/-- The converse: what is stuck is never closed. -/
theorem none_of_recovers {clock : ℕ} (h : Recovers cfg (start deployments clock))
    (hd : deployments.lookup id = some d) : d.status ≠ .executing := by
  intro hexecuting
  -- wait until the deployment is due, and let a whole pass go by
  have hdue : d.due (clock + d.runAtUtc.getD 0) = true := by
    refine due_of_le fun runAt hrun => ?_
    rw [Option.mem_def.mp hrun, Option.getD_some]
    omega
  obtain ⟨s', hasleep, steps, -, hrun⟩ := pass_ends cfg
    ((machine cfg).run (start deployments clock) [.tick (d.runAtUtc.getD 0), .poll])
  have hopen : d.status.closed = false := by rw [hexecuting]; rfl
  obtain ⟨d', hd', hclosed⟩ := h [.tick (d.runAtUtc.getD 0)] id d rfl hd hopen hdue steps
    (by rw [← hrun] at hasleep; exact hasleep)
  have hstuck : Stuck id d ((machine cfg).run (start deployments clock)
      ([.tick (d.runAtUtc.getD 0)] ++ .poll :: steps)) :=
    (machine cfg).run_invariant (Stuck id d)
      (fun s i => stuck_next (next_transition cfg s i) hexecuting) ⟨hd, fun _ _ _ h => by cases h⟩ _
  obtain rfl := Option.mem_unique hstuck.1 hd'
  rw [hopen] at hclosed
  cases hclosed

/-- **Restart.** Whatever the store holds, every pass after the restart can be brought to its end.
    By then every deployment that was due when the pass started has completed, failed or been
    cancelled, for every such pass, if and only if no deployment of the store was in execution. -/
theorem restart_recovers_iff {Text : Type} (cfg : ExtConfig) (codec : Json.Codec Text)
    (file : Option Text) (clock : ℕ) :
    (∀ is, ∃ s', s'.poller.asleep = true ∧
      PollsTo cfg ((machine cfg).run (start (loadExtDeployments codec file) clock) is) s') ∧
    (Recovers cfg (start (loadExtDeployments codec file) clock) ↔
      ∀ id d, (loadExtDeployments codec file).lookup id = some d → d.status ≠ .executing) :=
  ⟨fun _ => pass_ends cfg _, fun h _ _ hd => none_of_recovers h hd,
    fun h => recovers_of_none h clock⟩

/-- A deployment that was being executed when the tool went down stays in execution in every run
    after the restart, and a pass that starts when its time has come does not close it. -/
theorem restart_leaves_executing :
    let s := start (loadExtDeployments .values
      (some (some (storeJson 0 (oneDeployment .executing))))) 0
    (∀ is, ((machine {}).run s is).deployments.lookup "c" =
      some { commandId := "c", artifactId := "a", status := .executing }) ∧ ¬ Recovers {} s := by
  intro s
  have hstays : ∀ is, ((machine {}).run s is).deployments.lookup "c" =
      some { commandId := "c", artifactId := "a", status := .executing } := fun is =>
    ((machine {}).run_invariant (Stuck "c" _) (fun s i => stuck_next (next_transition {} s i) rfl)
      ⟨rfl, fun _ _ _ h => by cases h⟩ is).1
  refine ⟨hstays, fun h => ?_⟩
  obtain ⟨d, hd, hclosed⟩ := h [] "c" { commandId := "c", artifactId := "a", status := .executing }
    rfl rfl rfl rfl [.collect, .execute] rfl
  rw [hstays, Option.some.injEq] at hd
  rw [← hd] at hclosed
  cases hclosed

end Scheduler

end Knights.Admin
