import Knights.Storage.DbWorkerPool

namespace Knights.Storage

open Knights.Lib Knights.Concurrent List Machine BoundedQueue

/-!
# Storage — what becomes of a submitted job

`DbWorkerPool` has three flags, `running_`, `stopping_` and `shutdown_` of the queue, and `start`
resets only the first two.

* `Accounted` — a job that was queued is processed, in the hands of a worker or in the queue, and
  no two calls of `submit` have the same job;
* `submitted_processed` — as long as calls of `start` and `stop` do not overlap each other, a job
  whose `submit` returned before the queue was shut down is processed exactly once by the time
  that a later `stop` returns, every other one never, and a `stop` can always return;
* `dropped_after_restart` — after `stop` and `start` a submitted job is lost.
-/

namespace Pool

variable {ι τ : Type} [DecidableEq ι] {s : Pool ι τ} {t : ι} {es : List (PoolEvent τ)}
  {w : Worker τ} {hardware i : ℕ} {job : Job τ} {q : BoundedQueue (Job τ)}

/-! ### Where the jobs are -/

section Events

/-- The jobs that were queued. -/
def queuedIn (es : List (PoolEvent τ)) : List (Job τ) :=
  es.filterMap fun
    | .queued job => some job
    | _ => none

/-- The jobs whose `submit` returned. -/
def returnedIn (es : List (PoolEvent τ)) : List (Job τ) :=
  es.filterMap fun
    | .returned job => some job
    | _ => none

/-- The jobs that were passed to `process_job`. -/
def processedIn (es : List (PoolEvent τ)) : List (Job τ) :=
  es.filterMap fun
    | .processed job => some job
    | _ => none

@[simp] theorem queuedIn_append (es es' : List (PoolEvent τ)) :
    queuedIn (es ++ es') = queuedIn es ++ queuedIn es' := filterMap_append

@[simp] theorem returnedIn_append (es es' : List (PoolEvent τ)) :
    returnedIn (es ++ es') = returnedIn es ++ returnedIn es' := filterMap_append

@[simp] theorem processedIn_append (es es' : List (PoolEvent τ)) :
    processedIn (es ++ es') = processedIn es ++ processedIn es' := filterMap_append

end Events

/-- A queued job is processed, in the hands of a worker or in the queue, and the jobs that callers
    have are others than those whose `submit` returned. -/
structure Accounted (es : List (PoolEvent τ)) (s : Pool ι τ) : Prop where
  flow : (processedIn es ++ (s.workers.filterMap Worker.inHand ++ s.queue.items)).Perm (queuedIn es)
  fresh : ∀ t job, (s.client t).holds = some job → job.ticket < s.submitted ∧
    ∀ job' ∈ returnedIn es, job'.ticket ≠ job.ticket
  apart : ∀ t t' job job', (s.client t).holds = some job → (s.client t').holds = some job' →
    job.ticket = job'.ticket → t = t'
  below : ∀ job ∈ returnedIn es, job.ticket < s.submitted
  nodup : ((returnedIn es).map Job.ticket).Nodup

/-- The job of a caller after a step of one of them. -/
theorem holds_setClient {c : Client τ}
    (hc : ∀ job, c.holds = some job → (s.client t).holds = some job) (t' : ι) (job : Job τ)
    (h : ((s.setClient t c).client t').holds = some job) : (s.client t').holds = some job := by
  rw [client_setClient] at h
  split at h
  case isTrue heq => exact heq ▸ hc job h
  case isFalse => exact h

/-- One worker changes what it has in hand. -/
theorem inHand_set {l : List (Worker τ)} (hw : l[i]? = some w) (w' : Worker τ) :
    (w.inHand.toList ++ (l.set i w').filterMap Worker.inHand).Perm
      (w'.inHand.toList ++ l.filterMap Worker.inHand) := by
  obtain ⟨hlt, hget⟩ := List.getElem?_eq_some_iff.mp hw
  have hl : l = l.take i ++ w :: l.drop (i + 1) := by
    rw [← hget, getElem_cons_drop, take_append_drop]
  have hset : l.set i w' = l.take i ++ w' :: l.drop (i + 1) := by
    rw [set_eq_take_append_cons_drop, if_pos hlt]
  have hsplit : ∀ v : Worker τ, ((l.take i ++ v :: l.drop (i + 1)).filterMap Worker.inHand).Perm
      (v.inHand.toList ++ ((l.take i).filterMap Worker.inHand ++
        (l.drop (i + 1)).filterMap Worker.inHand)) := by
    intro v
    rw [filterMap_append, filterMap_cons]
    cases v.inHand with
    | none => exact List.Perm.refl _
    | some job => exact perm_middle
  have hnew := hsplit w'
  have hold := hsplit w
  rw [← hset] at hnew
  rw [← hl] at hold
  exact ((hnew.append_left _).trans (perm_append_comm_assoc _ _ _)).trans (hold.append_left _).symm

namespace Accounted

variable {es es' : List (PoolEvent τ)} {s' : Pool ι τ}

variable (h : Accounted es s)
include h

omit [DecidableEq ι] in
/-- A step in which no `submit` returns. -/
theorem unreturned (hr : returnedIn es' = [])
    (hflow : (processedIn (es ++ es') ++ (s'.workers.filterMap Worker.inHand ++
      s'.queue.items)).Perm (queuedIn (es ++ es')))
    (hholds : ∀ t job, (s'.client t).holds = some job → (s.client t).holds = some job)
    (hsubmitted : s'.submitted = s.submitted) : Accounted (es ++ es') s' := by
  have hreturned : returnedIn (es ++ es') = returnedIn es := by
    rw [returnedIn_append, hr, append_nil]
  refine ⟨hflow, fun t job hjob => ?_, fun t t' job job' hj hj' => ?_, ?_, ?_⟩
  · rw [hreturned, hsubmitted]
    exact h.fresh t job (hholds t job hjob)
  · exact h.apart t t' job job' (hholds t job hj) (hholds t' job' hj')
  · rw [hreturned, hsubmitted]
    exact h.below
  · rw [hreturned]
    exact h.nodup

omit [DecidableEq ι] in
/-- A step that moves no job. -/
theorem frame (hnone : es' = [] ∨ es' = [.stopReturned] ∨
      ∃ job, es' = [.threw job])
    (hitems : s'.queue.items = s.queue.items)
    (hhand : s'.workers.filterMap Worker.inHand = s.workers.filterMap Worker.inHand)
    (hholds : ∀ t job, (s'.client t).holds = some job → (s.client t).holds = some job)
    (hsubmitted : s'.submitted = s.submitted) : Accounted (es ++ es') s' := by
  have hes : queuedIn es' = [] ∧ returnedIn es' = [] ∧ processedIn es' = [] := by
    rcases hnone with rfl | rfl | ⟨job, rfl⟩ <;> exact ⟨rfl, rfl, rfl⟩
  obtain ⟨hq, hr, hp⟩ := hes
  refine h.unreturned hr ?_ hholds hsubmitted
  rw [queuedIn_append, processedIn_append, hq, hp, hitems, hhand, append_nil, append_nil]
  exact h.flow

/-- A `submit` returns, with its job in the queue or not. -/
theorem giveBack (hjob : (s.client t).holds = some job)
    (hr : returnedIn es' = [job]) (hp : processedIn es' = [])
    (hitems : q.items = s.queue.items ++ queuedIn es') :
    Accounted (es ++ es') { s.setClient t .idle with queue := q } := by
  have hreturned : returnedIn (es ++ es') = returnedIn es ++ [job] := by
    rw [returnedIn_append, hr]
  obtain ⟨hlt, hnew⟩ := h.fresh t job hjob
  have hidle : ∀ t' job', ((s.setClient t .idle).client t').holds = some job' →
      t' ≠ t ∧ (s.client t').holds = some job' := by
    intro t' job' hjob'
    rw [client_setClient] at hjob'
    split at hjob'
    case isTrue => cases hjob'
    case isFalse hne => exact ⟨hne, hjob'⟩
  refine ⟨?_, fun t' job' hjob' => ?_, fun t₁ t₂ j₁ j₂ h₁ h₂ => ?_, ?_, ?_⟩
  · rw [queuedIn_append, processedIn_append, hp, append_nil]
    rw [hitems, ← append_assoc, ← append_assoc, append_assoc (processedIn es)]
    exact h.flow.append_right (queuedIn es')
  · obtain ⟨hne, hold⟩ := hidle t' job' hjob'
    obtain ⟨hlt', hnew'⟩ := h.fresh t' job' hold
    refine ⟨hlt', fun j hj => ?_⟩
    rw [hreturned, mem_append, mem_singleton] at hj
    rcases hj with hj | rfl
    · exact hnew' j hj
    · exact fun heq => hne (h.apart t' t job' j hold hjob heq.symm)
  · exact h.apart t₁ t₂ j₁ j₂ (hidle t₁ j₁ h₁).2 (hidle t₂ j₂ h₂).2
  · intro j hj
    rw [hreturned, mem_append, mem_singleton] at hj
    rcases hj with hj | rfl
    · exact h.below j hj
    · exact hlt
  · rw [hreturned, map_append, nodup_append]
    refine ⟨h.nodup, by simp, fun k hk k' hk' => ?_⟩
    obtain ⟨j, hj, rfl⟩ := mem_map.mp hk
    rw [map_singleton, mem_singleton] at hk'
    rw [hk']
    exact hnew j hj

/-- A call begins. -/
theorem begin (c : PoolCall τ) : Accounted (es ++ []) (s.begin t c) := by
  cases c with
  | start | stop => exact h.frame (.inl rfl) rfl rfl (holds_setClient nofun) rfl
  | submit task autoCommit =>
    cases task with
    | none => exact h.frame (.inl rfl) rfl rfl (fun _ _ => id) rfl
    | some task =>
      rw [append_nil]
      -- The new ticket is larger than all others.
      have hcases : ∀ t' job, ((s.begin t (.submit (some task) autoCommit)).client t').holds =
          some job → t' = t ∧ job.ticket = s.submitted ∨ (s.client t').holds = some job := by
        intro t' job hjob
        rw [show (s.begin t (.submit (some task) autoCommit)).client t' =
          (s.setClient t (.submitCheck ⟨s.submitted, task, autoCommit⟩)).client t' from rfl,
          client_setClient] at hjob
        split at hjob
        case isTrue heq => exact .inl ⟨heq, by rw [← Option.some.inj hjob]⟩
        case isFalse => exact .inr hjob
      refine ⟨h.flow, fun t' job hjob => ?_, fun t₁ t₂ j₁ j₂ h₁ h₂ heq => ?_, fun job hjob => ?_,
        h.nodup⟩
      · show job.ticket < s.submitted + 1 ∧ _
        rcases hcases t' job hjob with ⟨-, hnew⟩ | hold
        · refine ⟨by omega, fun job' hjob' heq => ?_⟩
          have hlt := h.below job' hjob'
          omega
        · obtain ⟨hlt, hother⟩ := h.fresh t' job hold
          exact ⟨by omega, hother⟩
      · rcases hcases t₁ j₁ h₁ with ⟨rfl, hnew⟩ | hold₁
        · rcases hcases t₂ j₂ h₂ with ⟨rfl, -⟩ | hold₂
          · rfl
          · have hlt := (h.fresh t₂ j₂ hold₂).1
            omega
        · rcases hcases t₂ j₂ h₂ with ⟨rfl, hnew⟩ | hold₂
          · have hlt := (h.fresh t₁ j₁ hold₁).1
            omega
          · exact h.apart t₁ t₂ j₁ j₂ hold₁ hold₂ heq
      · have hlt := h.below job hjob
        exact Nat.lt_succ_of_lt hlt

/-- The next step of a caller. -/
theorem clientStep (hardware : ℕ) :
    Accounted (es ++ (s.clientStep hardware t).2) (s.clientStep hardware t).1 := by
  have hsame : Accounted (es ++ []) s := h.frame (.inl rfl) rfl rfl (fun _ _ => id) rfl
  unfold Pool.clientStep
  split
  case h_1 => exact hsame
  case h_5 =>
    refine h.frame (.inl rfl) rfl ?_ (holds_setClient nofun) rfl
    rw [filterMap_append]
    exact append_nil _
  case h_6 job hc =>
    split
    · exact h.frame (.inl rfl) rfl rfl (holds_setClient (by rw [hc]; exact fun _ => id)) rfl
    · exact h.frame (.inr (.inr ⟨job, rfl⟩)) rfl rfl (holds_setClient nofun) rfl
  case h_7 job hc =>
    have hjob : (s.client t).holds = some job := by rw [hc]; rfl
    split
    case h_1 => exact hsame
    case h_2 => exact h.giveBack hjob rfl rfl (append_nil _).symm
    case h_3 q hpush =>
      obtain ⟨rfl, -⟩ := push_pushed hpush
      exact h.giveBack hjob rfl rfl rfl
  case h_8 =>
    split
    · exact h.frame (.inl rfl) rfl rfl (holds_setClient nofun) rfl
    · exact h.frame (.inr (.inl rfl)) rfl rfl (holds_setClient nofun) rfl
  case h_11 =>
    split
    · exact h.frame (.inr (.inl rfl)) rfl rfl (holds_setClient nofun) rfl
    · split
      · exact h.frame (.inl rfl) rfl rfl (holds_setClient nofun) rfl
      · exact hsame
  case h_2 => split <;> exact h.frame (.inl rfl) rfl rfl (holds_setClient nofun) rfl
  all_goals exact h.frame (.inl rfl) rfl rfl (holds_setClient nofun) rfl

omit [DecidableEq ι] in
/-- A worker takes a job from the queue, or has done with the one it had. -/
theorem work (hw : s.workers[i]? = some w) (w' : Worker τ)
    (q : BoundedQueue (Job τ)) (hq : queuedIn es' = []) (hr : returnedIn es' = [])
    (hflow : (processedIn es' ++ (w'.inHand.toList ++ q.items)).Perm
      (w.inHand.toList ++ s.queue.items)) :
    Accounted (es ++ es') { s.setWorker i w' with queue := q } := by
  classical
  refine h.unreturned hr ?_ (fun _ _ => id) rfl
  have hset := inHand_set hw w'
  have hall := h.flow
  show (processedIn (es ++ es') ++ ((s.workers.set i w').filterMap Worker.inHand ++ q.items)).Perm _
  rw [queuedIn_append, hq, append_nil, processedIn_append]
  rw [perm_iff_count] at hset hall hflow ⊢
  intro job
  have hset := hset job
  have hall := hall job
  have hflow := hflow job
  simp only [count_append] at hset hall hflow ⊢
  omega

omit [DecidableEq ι] in
/-- The next step of a worker. -/
theorem workerStep (i : ℕ) : Accounted (es ++ (s.workerStep i).2) (s.workerStep i).1 := by
  have hsame : Accounted (es ++ []) s := h.frame (.inl rfl) rfl rfl (fun _ _ => id) rfl
  unfold Pool.workerStep
  split
  case h_1 hw =>
    split
    case h_1 => exact hsame
    case h_2 => exact h.work hw .checking s.queue rfl rfl (.refl _)
    case h_3 q job hpop =>
      refine h.work hw (.processing job) q rfl rfl ?_
      rw [(pop_popped hpop).1]
      exact .refl _
  case h_2 hw =>
    refine h.work hw _ s.queue rfl rfl ?_
    split <;> exact .refl _
  case h_3 job hw => exact h.work hw .popping s.queue rfl rfl (.refl _)
  case h_4 => exact hsame
  case h_5 => exact hsame

/-- One step. -/
theorem step (i : PoolInput ι τ) (hardware : ℕ) :
    Accounted (es ++ (s.step hardware i).2) (s.step hardware i).1 := by
  cases i with
  | call t c =>
    unfold Pool.step
    dsimp only
    split
    · exact h.begin c
    · exact h.frame (.inl rfl) rfl rfl (fun _ _ => id) rfl
  | client t => exact h.clientStep hardware
  | worker i => exact h.workerStep i

end Accounted

/-- The accounts of a run. -/
theorem accounted_run (hardware queueCapacity : ℕ) (is : List (PoolInput ι τ)) :
    Accounted ((machine hardware).outputs (create queueCapacity) is)
      ((machine hardware).run (create queueCapacity) is) :=
  (machine hardware).outputs_invariant Accounted (fun _ _ i h => h.step i hardware)
    ⟨.refl _, nofun, nofun, nofun, .nil⟩ is

/-- **No job is lost or duplicated**, however the calls overlap. -/
theorem jobs_conserved (hardware queueCapacity : ℕ) (is : List (PoolInput ι τ)) :
    let s := (machine hardware).run (create queueCapacity) is
    let es := (machine hardware).outputs (create queueCapacity) is
    (processedIn es ++ (s.workers.filterMap Worker.inHand ++ s.queue.items)).Perm (queuedIn es) :=
  (accounted_run hardware queueCapacity is).flow

/-- The invariant of a run in which `start` and `stop` do not overlap. -/
theorem inv_run {queueCapacity : ℕ} {is : List (PoolInput ι τ)}
    (h : (machine hardware).Guarded Serial (create queueCapacity) is) :
    ((machine hardware).run (create queueCapacity) is).Inv := by
  refine (machine hardware).guarded_invariant Inv Serial (fun s i hs hi => hs.step hi hardware) ?_ h
  exact ⟨nofun, fun _ => trivial, nofun, fun _ => .inr ⟨nofun, rfl, .inr fun _ => rfl⟩, nofun,
    nofun, nofun⟩

/-! ### What a return means -/

/-- What a step puts out, and when. -/
inductive Emits (s : Pool ι τ) : List (PoolEvent τ) → Prop where
  | silent : Emits s []
  | threw (job : Job τ) : Emits s [.threw job]
  | refused (job : Job τ) (shut : s.queue.stopped = true) : Emits s [.returned job]
  | queued (job : Job τ) (shut : s.queue.stopped = false) : Emits s [.queued job, .returned job]
  | processed (job : Job τ) : Emits s [.processed job]
  | notRunning (t : ι) (client : s.client t = .stopExchange) (running : s.running = false) :
    Emits s [.stopReturned]
  | joined (t : ι) (k : ℕ) (client : s.client t = .stopJoin k) (all : s.vector[k]? = none) :
    Emits s [.stopReturned]

theorem emits_step (s : Pool ι τ) (i : PoolInput ι τ) (hardware : ℕ) :
    Emits s (s.step hardware i).2 := by
  cases i with
  | call t c =>
    unfold step
    dsimp only
    split <;> exact .silent
  | client t =>
    show Emits s (s.clientStep hardware t).2
    unfold clientStep
    split
    case h_2 => split <;> exact .silent
    case h_6 job _ =>
      split
      · exact .silent
      · exact .threw job
    case h_7 job _ =>
      split
      case h_1 => exact .silent
      case h_2 hpush => exact .refused job (push_refused hpush)
      case h_3 hpush => exact .queued job (push_pushed hpush).2
    case h_8 hc =>
      split
      case isTrue => exact .silent
      case isFalse hr => exact .notRunning t hc (by simpa using hr)
    case h_11 k hc =>
      split
      case h_1 hall => exact .joined t k hc hall
      case h_2 => split <;> exact .silent
    all_goals exact .silent
  | worker i =>
    show Emits s (s.workerStep i).2
    unfold workerStep
    split
    case h_1 => split <;> exact .silent
    case h_3 job _ => exact .processed job
    all_goals exact .silent

omit [DecidableEq ι] in
/-- What is queued in a step is returned in it. -/
theorem Emits.queued_sublist (h : Emits s es) : (queuedIn es).Sublist (returnedIn es) := by
  cases h with
  | queued job _ => exact .refl _
  | _ => exact nil_sublist _

omit [DecidableEq ι] in
/-- A `submit` that returns has its job queued exactly if the queue was open. -/
theorem Emits.queuedIn_of_returned (h : Emits s es) (hjob : .returned job ∈ es) :
    queuedIn es = if s.queue.stopped then [] else [job] := by
  cases h with
  | refused job' shut =>
    rw [if_pos shut]
    rfl
  | queued job' shut =>
    have heq : job = job' := by simpa using hjob
    rw [shut, heq]
    rfl
  | _ => simp at hjob

omit [DecidableEq ι] in
/-- When a `stop` returns, all is done. -/
theorem Emits.done (h : Emits s es) (hstop : .stopReturned ∈ es) (hinv : s.Inv) : s.Done := by
  cases h with
  | notRunning t client running =>
    obtain ⟨-, hflags⟩ := hinv.before_exchange client rfl rfl rfl
    exact (hflags.resolve_left (by simp [running])).2
  | joined t k client all => exact hinv.done_of_joined client all
  | _ => simp at hstop

/-- What is queued in a run is returned in it. -/
theorem queued_returned (s : Pool ι τ) (is : List (PoolInput ι τ)) (hardware : ℕ) :
    (queuedIn ((machine hardware).outputs s is)).Sublist
      (returnedIn ((machine hardware).outputs s is)) := by
  induction is generalizing s with
  | nil => exact nil_sublist _
  | cons i is ih =>
    rw [outputs_cons, queuedIn_append, returnedIn_append]
    exact (emits_step s i hardware).queued_sublist.append (ih _)

section Return

variable [DecidableEq τ] {hardware queueCapacity : ℕ}

omit [DecidableEq ι] in
/-- A job is returned at most once, so it is queued at most once. -/
theorem Accounted.count_le (h : Accounted es s) (hsub : (queuedIn es).Sublist (returnedIn es))
    (job : Job τ) :
    (processedIn es).count job ≤ 1 := by
  have hnodup : (returnedIn es).Nodup := h.nodup.of_map _
  calc (processedIn es).count job
      ≤ (processedIn es ++ (s.workers.filterMap Worker.inHand ++ s.queue.items)).count job := by
        rw [count_append]
        exact Nat.le_add_right _ _
    _ = (queuedIn es).count job := h.flow.count_eq job
    _ ≤ (returnedIn es).count job := hsub.count_le job
    _ ≤ 1 := nodup_iff_count_le_one.mp hnodup job

/-- What has been queued by the end is what was queued at the return. -/
theorem count_queued {pre mid : List (PoolInput ι τ)} {i : PoolInput ι τ} (hjob : .returned job ∈
      (((machine hardware).run (create queueCapacity) pre).step hardware i).2) :
    (queuedIn ((machine hardware).outputs (create queueCapacity) (pre ++ i :: mid))).count job =
      if ((machine hardware).run (create queueCapacity) pre).queue.stopped then 0 else 1 := by
  have hacc := (accounted_run hardware queueCapacity (pre ++ i :: mid)).nodup
  have hpre := queued_returned (create queueCapacity) pre hardware
  rw [outputs_append, outputs_cons] at hacc ⊢
  generalize hs : (machine hardware).run (create queueCapacity) pre = s at hjob hacc ⊢
  have hpost := queued_returned ((machine hardware).next s i) mid hardware
  have hstep := (emits_step s i hardware).queuedIn_of_returned hjob
  -- The job is returned here, so it is not returned before or after.
  have hhere : 0 < (returnedIn ((machine hardware).step s i).2).count job := by
    refine count_pos_iff.mpr (mem_filterMap.mpr ⟨_, hjob, rfl⟩)
  have honce := nodup_iff_count_le_one.mp (hacc.of_map _) job
  have hbefore := hpre.count_le job
  have hafter := hpost.count_le job
  simp only [returnedIn_append, queuedIn_append, count_append] at honce ⊢
  have hqueued : (queuedIn ((machine hardware).step s i).2).count job =
      if s.queue.stopped then 0 else 1 := by
    rw [show (machine hardware).step s i = s.step hardware i from rfl, hstep]
    split <;> simp
  omega

end Return

/-! ### A `stop` returns -/

/-- What the workers leave alone: the flags, the callers, the vector, and workers that have
    ended. -/
structure Waits (s s' : Pool ι τ) : Prop where
  running : s'.running = s.running
  stopping : s'.stopping = s.stopping
  stopped : s'.queue.stopped = s.queue.stopped
  vector : s'.vector = s.vector
  client : s'.client = s.client
  length : s'.workers.length = s.workers.length
  ended : ∀ i : ℕ, s.workers[i]? = some .finished → s'.workers[i]? = some .finished

omit [DecidableEq ι] in
theorem Waits.trans {s₁ s₂ s₃ : Pool ι τ} (h : s₁.Waits s₂) (h' : s₂.Waits s₃) : s₁.Waits s₃ where
  running := h'.running.trans h.running
  stopping := h'.stopping.trans h.stopping
  stopped := h'.stopped.trans h.stopped
  vector := h'.vector.trans h.vector
  client := h'.client.trans h.client
  length := h'.length.trans h.length
  ended i hi := h'.ended i (h.ended i hi)

omit [DecidableEq ι] in
theorem Waits.refl (s : Pool ι τ) : s.Waits s :=
  ⟨rfl, rfl, rfl, rfl, rfl, rfl, fun _ => id⟩

omit [DecidableEq ι] in
/-- A worker that has not ended moves. -/
theorem waits_set (hw : s.workers[i]? = some w) (hgoing : w ≠ .finished) (w' : Worker τ)
    (hq : q.stopped = s.queue.stopped) :
    s.Waits { s.setWorker i w' with queue := q } :=
  ⟨rfl, rfl, hq, rfl, rfl, length_set, finished_set hw hgoing⟩

/-- How many steps a worker has ahead of it, with so many jobs in the queue. -/
def Worker.ahead (jobs : ℕ) : Worker τ → ℕ
  | .finished => 0
  | .checking => 1
  | .popping => 3 * jobs + 2
  | .processing _ => 3 * jobs + 3

omit [DecidableEq ι] in
/-- Once the queue is shut and `stopping_` is set, each step takes a worker closer to its end. -/
theorem worker_advances (hw : s.workers[i]? = some w) (hgoing : w ≠ .finished)
    (hstopped : s.queue.stopped = true) (hstopping : s.stopping = true) :
    ∃ w', (s.workerStep i).1.workers[i]? = some w' ∧ s.Waits (s.workerStep i).1 ∧
      Worker.ahead (s.workerStep i).1.queue.items.length w' <
        Worker.ahead s.queue.items.length w := by
  obtain ⟨hlt, -⟩ := List.getElem?_eq_some_iff.mp hw
  have hset : ∀ w', (s.workers.set i w')[i]? = some w' := fun w' => List.getElem?_set_self hlt
  unfold workerStep
  rw [hw]
  cases w with
  | finished => exact absurd rfl hgoing
  | checking =>
    refine ⟨.finished, ?_, waits_set hw hgoing _ rfl, ?_⟩
    · rw [hstopping]
      exact hset _
    · simp [Worker.ahead]
  | processing job =>
    exact ⟨.popping, hset _, waits_set hw hgoing _ rfl, Nat.lt_succ_self _⟩
  | popping =>
    cases hitems : s.queue.items with
    | nil =>
      have hpop : s.queue.pop = some (s.queue, none) := by
        rw [BoundedQueue.pop, hitems]
        exact if_pos hstopped
      rw [hpop]
      refine ⟨.checking, hset _, waits_set hw hgoing _ rfl, ?_⟩
      simp [Worker.ahead]
    | cons job rest =>
      have hpop : s.queue.pop = some ({ s.queue with items := rest }, some job) := by
        rw [BoundedQueue.pop, hitems]
      rw [hpop]
      refine ⟨.processing job, hset _, waits_set hw hgoing _ rfl, ?_⟩
      simp [Worker.ahead]
      omega

/-- So it ends. -/
theorem worker_ends (hardware : ℕ) (hw : s.workers[i]? = some w) (hstopped : s.queue.stopped = true)
    (hstopping : s.stopping = true) :
    ∃ n, ((machine hardware).run s (List.replicate n (.worker i))).workers[i]? =
      some .finished ∧ s.Waits ((machine hardware).run s (List.replicate n (.worker i))) := by
  induction hn : Worker.ahead s.queue.items.length w using Nat.strongRecOn generalizing s w with
  | ind m ih =>
    by_cases hend : w = .finished
    · exact ⟨0, hend ▸ hw, .refl s⟩
    · obtain ⟨w', hw', hwaits, hlt⟩ := worker_advances hw hend hstopped hstopping
      obtain ⟨n, hfinished, hrest⟩ := ih _ (hn ▸ hlt) hw' (hwaits.stopped.trans hstopped)
        (hwaits.stopping.trans hstopping) rfl
      exact ⟨n + 1, hfinished, hwaits.trans hrest⟩

/-- A run of one caller and the workers, at the end of which its `stop` returns. -/
def StopReturns (hardware : ℕ) (t : ι) (s : Pool ι τ) : Prop :=
  ∃ js : List (PoolInput ι τ), (∀ j ∈ js, j = .client t ∨ ∃ i, j = .worker i) ∧
    .stopReturned ∈ (machine hardware).outputs s js

/-- It is enough that it returns later. -/
theorem StopReturns.of_run (js : List (PoolInput ι τ))
    (hjs : ∀ j ∈ js, j = .client t ∨ ∃ i, j = .worker i)
    (h : StopReturns hardware t ((machine hardware).run s js)) : StopReturns hardware t s := by
  obtain ⟨js', hjs', hreturns⟩ := h
  refine ⟨js ++ js', fun j hj => ?_, ?_⟩
  · rcases mem_append.mp hj with hj | hj
    · exact hjs j hj
    · exact hjs' j hj
  · rw [outputs_append]
    exact mem_append_right _ hreturns

/-- It returns in the next step of the caller. -/
theorem StopReturns.now (h : .stopReturned ∈ (s.clientStep hardware t).2) :
    StopReturns hardware t s :=
  ⟨[.client t], by simp, mem_append_left _ h⟩

/-- One step of the caller. -/
theorem StopReturns.of_step (h : StopReturns hardware t (s.clientStep hardware t).1) :
    StopReturns hardware t s :=
  of_run [.client t] (by simp) h

/-- The join loop ends. -/
theorem stopReturns_join (hardware : ℕ) {k : ℕ} (hc : s.client t = .stopJoin k)
    (hstopped : s.queue.stopped = true) (hstopping : s.stopping = true)
    (hvalid : ∀ i ∈ s.vector, i < s.workers.length) : StopReturns hardware t s := by
  induction hn : s.vector.length - k generalizing s k with
  | zero =>
    have hall : s.vector[k]? = none := List.getElem?_eq_none_iff.mpr (by omega)
    refine .now ?_
    rw [clientStep, hc]
    dsimp only
    rw [hall]
    exact mem_singleton_self _
  | succ n ih =>
    have hlt : k < s.vector.length := by omega
    have hi : s.vector[k]? = some s.vector[k] := List.getElem?_eq_getElem hlt
    have hworker := List.getElem?_eq_getElem (hvalid _ (getElem_mem hlt))
    obtain ⟨m, hend, hwaits⟩ := worker_ends hardware hworker hstopped hstopping
    refine .of_run (List.replicate m (.worker s.vector[k]))
      (fun j hj => .inr ⟨_, eq_of_mem_replicate hj⟩) ?_
    -- The worker has ended, and the caller goes on to the next one.
    generalize (machine hardware).run s (List.replicate m (.worker s.vector[k])) = s' at *
    refine .of_step ?_
    have hstep : (s'.clientStep hardware t).1 = s'.setClient t (.stopJoin (k + 1)) := by
      rw [clientStep, hwaits.client, hc]
      dsimp only
      rw [hwaits.vector, hi]
      dsimp only
      rw [hend]
    rw [hstep]
    refine ih (k := k + 1) ?_ (hwaits.stopped.trans hstopped)
      (hwaits.stopping.trans hstopping) ?_ ?_
    · rw [client_setClient, if_pos rfl]
    · intro i hi
      show i < s'.workers.length
      rw [hwaits.length]
      exact hvalid i (hwaits.vector ▸ hi)
    · show s'.vector.length - (k + 1) = n
      rw [hwaits.vector]
      omega

/-- A `stop` that has begun can return. -/
theorem stopReturns_of_inv (h : s.Inv) (hardware : ℕ)
    (hstop : s.client t = .stopExchange ∨ (s.client t).lowers = true) :
    StopReturns hardware t s := by
  have hjoin : ∀ (s : Pool ι τ) k, s.Inv → s.client t = .stopJoin k → StopReturns hardware t s := by
    intro s k h hc
    have hallow := h.clients t
    rw [hc] at hallow
    obtain ⟨-, -, hstopping, hstopped, -⟩ := hallow
    exact stopReturns_join hardware hc hstopped hstopping h.valid
  have hqueue : ∀ s : Pool ι τ, s.Inv → s.client t = .stopQueue → StopReturns hardware t s := by
    intro s h hc
    refine .of_step (hjoin _ 0 (h.clientStep hardware) ?_)
    rw [clientStep, hc]
    exact client_setClient.trans (if_pos rfl)
  have hstore : ∀ s : Pool ι τ, s.Inv → s.client t = .stopStore → StopReturns hardware t s := by
    intro s h hc
    refine .of_step (hqueue _ (h.clientStep hardware) ?_)
    rw [clientStep, hc]
    exact client_setClient.trans (if_pos rfl)
  cases hc : s.client t with
  | stopJoin k => exact hjoin s k h hc
  | stopQueue => exact hqueue s h hc
  | stopStore => exact hstore s h hc
  | stopExchange =>
    cases hr : s.running with
    | true =>
      refine .of_step (hstore _ (h.clientStep hardware) ?_)
      rw [clientStep, hc]
      rw [if_pos hr]
      exact client_setClient.trans (if_pos rfl)
    | false =>
      refine .now ?_
      rw [clientStep, hc]
      simp [hr]
  | _ => simp [hc, Client.lowers] at hstop

/-- **A submitted job is processed exactly once**, as long as calls of `start` and `stop` do not
    overlap each other and the queue has not been shut down: no job is processed twice; by the
    time that a `stop` returns, a job whose `submit` had returned has been processed exactly if
    the queue was open then; and a `stop` that has begun can always return. -/
theorem submitted_processed [DecidableEq τ] {hardware queueCapacity : ℕ} {is : List (PoolInput ι τ)}
    (hserial : (machine hardware).Guarded Serial (create queueCapacity) is) :
    (∀ job, (processedIn ((machine hardware).outputs (create queueCapacity) is)).count job ≤ 1) ∧
    (∀ pre i mid j post job, is = pre ++ i :: mid ++ j :: post →
      .returned job ∈ (((machine hardware).run (create queueCapacity) pre).step hardware i).2 →
      .stopReturned ∈
        (((machine hardware).run (create queueCapacity) (pre ++ i :: mid)).step hardware j).2 →
      (processedIn ((machine hardware).outputs (create queueCapacity) (pre ++ i :: mid))).count
        job = if ((machine hardware).run (create queueCapacity) pre).queue.stopped then 0
          else 1) ∧
    ∀ t, (((machine hardware).run (create queueCapacity) is).client t = .stopExchange ∨
        (((machine hardware).run (create queueCapacity) is).client t).lowers = true) →
      StopReturns hardware t ((machine hardware).run (create queueCapacity) is) := by
  refine ⟨fun job => ?_, ?_, fun t hstop => stopReturns_of_inv (inv_run hserial) hardware hstop⟩
  · exact (accounted_run hardware queueCapacity is).count_le (queued_returned _ is hardware) job
  · rintro pre i mid j post job rfl hreturned hstop
    have hbefore := ((machine hardware).guarded_append Serial _ (pre ++ i :: mid) _).mp hserial
    have hdone := (emits_step _ j hardware).done hstop (inv_run hbefore.1)
    -- Nothing is left in the queue or in the hands of a worker.
    have hflow := (accounted_run hardware queueCapacity (pre ++ i :: mid)).flow
    have hhands : ((machine hardware).run (create queueCapacity)
        (pre ++ i :: mid)).workers.filterMap Worker.inHand = [] := by
      refine filterMap_eq_nil_iff.mpr fun w hw => ?_
      rw [hdone.workers w hw]
      rfl
    rw [hhands, hdone.items, append_nil, append_nil] at hflow
    rw [hflow.count_eq job]
    exact count_queued hreturned

/-- The pool is started and a job is submitted, up to the push. -/
def opening : List (PoolInput Unit Unit) :=
  [.call () (.start 1), .client (), .client (), .client (), .client (),
    .call () (.submit (some ()) true), .client ()]

/-- The job is processed and the pool is stopped, up to the last step of `stop`. -/
def closing : List (PoolInput Unit Unit) :=
  [.worker 0, .worker 0, .call () .stop, .client (), .client (), .client (), .worker 0, .worker 0,
    .client ()]

/-- A job that is submitted to a pool that was never stopped is processed. -/
theorem submitted_processed_once :
    (machine 1).Guarded Serial (create 4) (opening ++ .client () :: closing ++ .client () :: []) ∧
    (processedIn ((machine 1).outputs (create 4) (opening ++ .client () :: closing))).count
      ⟨0, (), true⟩ = 1 := by
  have hserial : (machine 1).Guarded Serial (create 4)
      (opening ++ .client () :: closing ++ .client () :: []) := by decide +kernel
  exact ⟨hserial, (submitted_processed hserial).2.1 opening (.client ()) closing (.client ()) []
    ⟨0, (), true⟩ rfl (by decide +kernel) (by decide +kernel)⟩

/-- `start`, `stop`, `start`, and then a `submit` and a `stop`, all by one thread. -/
def restart : List (PoolInput Unit Unit) :=
  [.call () (.start 1), .client (), .client (), .client (), .client (), .call () .stop,
    .client (), .client (), .client (), .worker 0, .worker 0, .client (), .client (),
    .call () (.start 1), .client (), .client (), .client (), .client (),
    .call () (.submit (some ()) true), .client (), .client (),
    .call () .stop, .client (), .client (), .client (), .worker 1, .worker 1, .client (),
    .client ()]

/-- The second `start` leaves the queue shut: the `submit` returns, and the job is gone when the
    next `stop` has returned. -/
theorem dropped_after_restart : (machine 1).outputs (create 4) restart =
      [.stopReturned, .returned ⟨0, (), true⟩, .stopReturned] := by
  decide +kernel

end Pool

end Knights.Storage
