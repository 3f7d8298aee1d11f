import Knights.Concurrent.BoundedQueue

namespace Knights.Storage

open Knights.Lib Knights.Concurrent List BoundedQueue

/-!
# Storage — the pool of database workers

`DbWorkerPool` (`core/src/storage/db_worker_pool.cpp`) has a queue of jobs and threads that take
them out.  Any number of threads call `start`, `submit` and `stop`, and every access to a flag, to
the queue or to the vector of threads is a step of its own.  A thread that would wait in `push`,
in `pop_blocking` or in `join` does not move; it may look again at any time, so that nothing is
assumed about wakeups.

* `Serial` — calls of `start` and `stop` do not overlap each other;
* `Inv` — then the flags, the vector and the workers fit together, and when a `stop` has joined all
  threads, nothing is left (`Inv.done_of_joined`).
-/

/-- A job; the ticket tells the calls of `submit` apart. -/
structure Job (τ : Type) where
  ticket : ℕ
  task : τ
  autoCommit : Bool
  deriving DecidableEq, Repr

/-- A worker thread, in `worker_loop`. -/
inductive Worker (τ : Type) where
  /-- At `pop_blocking`. -/
  | popping
  /-- There was no job; it looks at `stopping_`. -/
  | checking
  /-- At `process_job`. -/
  | processing (job : Job τ)
  | finished
  deriving DecidableEq, Repr

/-- A thread that calls the pool, by the step that is ahead of it. -/
inductive Client (τ : Type) where
  | idle
  /-- `running_.exchange(true)` -/
  | startExchange (workerCount : ℕ)
  /-- `stopping_.store(false)` -/
  | startStore (workerCount : ℕ)
  /-- So many threads to create. -/
  | startSpawn (left : ℕ)
  /-- `running_` is looked at. -/
  | submitCheck (job : Job τ)
  /-- `queue_.push` -/
  | submitPush (job : Job τ)
  /-- `running_.exchange(false)` -/
  | stopExchange
  /-- `stopping_.store(true)` -/
  | stopStore
  /-- `queue_.stop` -/
  | stopQueue
  /-- The `k`-th thread is joined. -/
  | stopJoin (k : ℕ)
  deriving DecidableEq, Repr

/-- The calls. -/
inductive PoolCall (τ : Type) where
  | start (workerCount : ℕ)
  /-- The task may be empty. -/
  | submit (task : Option τ) (autoCommit : Bool)
  | stop
  deriving DecidableEq, Repr

/-- The pool, its workers and its callers. -/
structure Pool (ι τ : Type) where
  running : Bool := false
  stopping : Bool := false
  queue : BoundedQueue (Job τ)
  /-- All threads ever created. -/
  workers : List (Worker τ) := []
  /-- `workers_`, by their place among all threads. -/
  vector : List ℕ := []
  client : ι → Client τ := fun _ => .idle
  submitted : ℕ := 0

/-- The steps. -/
inductive PoolInput (ι τ : Type) where
  | call (t : ι) (c : PoolCall τ)
  | client (t : ι)
  | worker (i : ℕ)
  deriving DecidableEq, Repr

/-- What is to be seen of a run. -/
inductive PoolEvent (τ : Type) where
  | queued (job : Job τ)
  | returned (job : Job τ)
  /-- `submit` threw, as the pool was not running. -/
  | threw (job : Job τ)
  | processed (job : Job τ)
  | stopReturned
  deriving DecidableEq, Repr

/-- The number of threads to create; `hardware` is `hardware_concurrency`. -/
def normalizeWorkerCount (hardware count : ℕ) : ℕ :=
  let count := if count = 0 then hardware else count
  if count = 0 then 1 else count

theorem normalizeWorkerCount_pos {hardware count : ℕ} :
    0 < normalizeWorkerCount hardware count := by
  unfold normalizeWorkerCount
  dsimp only
  split_ifs <;> omega

namespace Pool

variable {ι τ : Type} [DecidableEq ι]

/-- A pool that has not been started. -/
def create (queueCapacity : ℕ) : Pool ι τ where
  queue := { capacity := queueCapacity }

variable (hardware : ℕ) (s : Pool ι τ)

def setClient (t : ι) (c : Client τ) : Pool ι τ :=
  { s with client := Function.update s.client t c }

def setWorker (i : ℕ) (w : Worker τ) : Pool ι τ :=
  { s with workers := s.workers.set i w }

/-- A call begins. -/
def begin (t : ι) : PoolCall τ → Pool ι τ
  | .start n => s.setClient t (.startExchange n)
  | .submit none _ => s
  | .submit (some task) autoCommit =>
    { s.setClient t (.submitCheck ⟨s.submitted, task, autoCommit⟩) with
      submitted := s.submitted + 1 }
  | .stop => s.setClient t .stopExchange

/-- The next step of a caller. -/
def clientStep (t : ι) : Pool ι τ × List (PoolEvent τ) :=
  match s.client t with
  | .idle => (s, [])
  | .startExchange n =>
    if s.running then (s.setClient t .idle, [])
    else
      ({ s.setClient t (.startStore (normalizeWorkerCount hardware n)) with running := true }, [])
  | .startStore n => ({ s.setClient t (.startSpawn n) with stopping := false }, [])
  | .startSpawn 0 => (s.setClient t .idle, [])
  | .startSpawn (left + 1) =>
    ({ s.setClient t (.startSpawn left) with
      workers := s.workers ++ [.popping], vector := s.vector ++ [s.workers.length] }, [])
  | .submitCheck job =>
    if s.running then (s.setClient t (.submitPush job), [])
    else (s.setClient t .idle, [.threw job])
  | .submitPush job =>
    match s.queue.push job with
    | none => (s, [])
    | some (_, false) => (s.setClient t .idle, [.returned job])
    | some (q, true) => ({ s.setClient t .idle with queue := q }, [.queued job, .returned job])
  | .stopExchange =>
    if s.running then ({ s.setClient t .stopStore with running := false }, [])
    else (s.setClient t .idle, [.stopReturned])
  | .stopStore => ({ s.setClient t .stopQueue with stopping := true }, [])
  | .stopQueue =>
    ({ s.setClient t (.stopJoin 0) with queue := { s.queue with stopped := true } }, [])
  | .stopJoin k =>
    match s.vector[k]? with
    | none => ({ s.setClient t .idle with vector := [] }, [.stopReturned])
    | some i =>
      match s.workers[i]? with
      | some .finished => (s.setClient t (.stopJoin (k + 1)), [])
      | _ => (s, [])

/-- The next step of a worker.  What `process_job` throws is caught. -/
def workerStep (i : ℕ) : Pool ι τ × List (PoolEvent τ) :=
  match s.workers[i]? with
  | some .popping =>
    match s.queue.pop with
    | none => (s, [])
    | some (_, none) => (s.setWorker i .checking, [])
    | some (q, some job) => ({ s.setWorker i (.processing job) with queue := q }, [])
  | some .checking => (s.setWorker i (if s.stopping then .finished else .popping), [])
  | some (.processing job) => (s.setWorker i .popping, [.processed job])
  | some .finished | none => (s, [])

def step (hardware : ℕ) (s : Pool ι τ) : PoolInput ι τ → Pool ι τ × List (PoolEvent τ)
  | .call t c =>
    match s.client t with
    | .idle => (s.begin t c, [])
    | _ => (s, [])
  | .client t => s.clientStep hardware t
  | .worker i => s.workerStep i

/-- The pool as a machine. -/
def machine (hardware : ℕ) : Machine (Pool ι τ) (PoolInput ι τ) (List (PoolEvent τ)) where
  step := step hardware

end Pool

namespace Client

variable {τ : Type}

/-- In `start` or `stop`. -/
def controls : Client τ → Bool
  | .startExchange _ | .startStore _ | .startSpawn _ => true
  | .stopExchange | .stopStore | .stopQueue | .stopJoin _ => true
  | .idle | .submitCheck _ | .submitPush _ => false

/-- In `start`, after it has set `running_`. -/
def raises : Client τ → Bool
  | .startStore _ | .startSpawn _ => true
  | _ => false

/-- In `stop`, after it has reset `running_`. -/
def lowers : Client τ → Bool
  | .stopStore | .stopQueue | .stopJoin _ => true
  | _ => false

/-- The job that a call of `submit` still has. -/
def holds : Client τ → Option (Job τ)
  | .submitCheck job | .submitPush job => some job
  | _ => none

def pushes : Client τ → Bool
  | .submitPush _ => true
  | _ => false

theorem controls_of_raises {c : Client τ} (h : c.raises = true) : c.controls = true := by
  cases c <;> simp_all [raises, controls]

theorem controls_of_lowers {c : Client τ} (h : c.lowers = true) : c.controls = true := by
  cases c <;> simp_all [lowers, controls]

end Client

namespace Worker

variable {τ : Type}

/-- It found the queue shut down and empty. -/
def sawEnd : Worker τ → Bool
  | .checking | .finished => true
  | .popping | .processing _ => false

/-- The job that a worker has taken and not processed. -/
def inHand : Worker τ → Option (Job τ)
  | .processing job => some job
  | _ => none

end Worker

namespace Pool

variable {ι τ : Type} [DecidableEq ι]

/-- A call of `start` or `stop` begins when no other is going on. -/
def Serial (s : Pool ι τ) : PoolInput ι τ → Prop
  | .call _ (.start _) | .call _ .stop => ∀ t, (s.client t).controls = false
  | _ => True

instance [Fintype ι] (s : Pool ι τ) : (i : PoolInput ι τ) → Decidable (s.Serial i)
  | .call _ (.start _) | .call _ .stop =>
    inferInstanceAs (Decidable (∀ t, (s.client t).controls = false))
  | .call _ (.submit _ _) | .client _ | .worker _ => isTrue trivial

/-! ### The flags, the workers and the vector -/

/-- What is true of the pool when a caller is about to take a step. -/
def Allows (s : Pool ι τ) : Client τ → Prop
  | .startStore n => s.running = true ∧ 0 < n
  | .startSpawn left => s.running = true ∧ (0 < left ∨ s.vector ≠ [])
  | .stopStore => s.running = false ∧ s.vector ≠ []
  | .stopQueue => s.running = false ∧ s.vector ≠ [] ∧ s.stopping = true
  | .stopJoin k => s.running = false ∧ s.vector ≠ [] ∧ s.stopping = true ∧
    s.queue.stopped = true ∧ ∀ i ∈ s.vector.take k, s.workers[i]? = some .finished
  | _ => True

/-- All is done: no worker is left, no job, and no caller that could queue one. -/
structure Done (s : Pool ι τ) : Prop where
  workers : ∀ w ∈ s.workers, w = .finished
  items : s.queue.items = []
  shut : s.queue.stopped = true ∨ ∀ t, (s.client t).pushes = false

/-- The invariant, as long as calls of `start` and `stop` do not overlap. -/
structure Inv (s : Pool ι τ) : Prop where
  single : ∀ t t', (s.client t).controls = true → (s.client t').controls = true → t = t'
  clients : ∀ t, s.Allows (s.client t)
  raised : s.running = true → (∃ t, (s.client t).raises = true) ∨ s.vector ≠ []
  lowered : s.running = false → (∃ t, (s.client t).lowers = true) ∨ s.Done
  /-- A worker that has not ended is still to be joined. -/
  unjoined : ∀ i w, s.workers[i]? = some w → w ≠ .finished → i ∈ s.vector
  valid : ∀ i ∈ s.vector, i < s.workers.length
  /-- Once a worker saw the end, there is no more. -/
  drained : ∀ w ∈ s.workers, w.sawEnd = true → s.queue.items = [] ∧ s.queue.stopped = true

variable {s s' : Pool ι τ} {t : ι} {c : Client τ}

theorem client_setClient {t' : ι} :
    (s.setClient t c).client t' = if t' = t then c else s.client t' :=
  Function.update_apply ..

omit [DecidableEq ι] in
/-- A caller outside of `start` and `stop` does not matter to them. -/
theorem allows_of_not_controls (h : c.controls = false) : s.Allows c := by
  cases c <;> simp_all [Client.controls, Allows]

omit [DecidableEq ι] in
/-- What `Allows` says depends on the flags, the vector and the workers that have ended. -/
theorem Allows.congr (h : s.Allows c) (hrunning : s'.running = s.running)
    (hstopping : s'.stopping = s.stopping) (hstopped : s'.queue.stopped = s.queue.stopped)
    (hvector : s'.vector = s.vector)
    (hworkers : ∀ i : ℕ, s.workers[i]? = some .finished → s'.workers[i]? = some .finished) :
    s'.Allows c := by
  cases c with
  | stopJoin k =>
    obtain ⟨hr, hv, hs, hq, hj⟩ := h
    refine ⟨hrunning.trans hr, hvector ▸ hv, hstopping.trans hs, hstopped.trans hq, ?_⟩
    rw [hvector]
    exact fun i hi => hworkers i (hj i hi)
  | _ => simp_all [Allows]

omit [DecidableEq ι] in
/-- A worker that has ended stays so when another one moves. -/
theorem finished_set {i : ℕ} {w w' : Worker τ} (hw : s.workers[i]? = some w)
    (hgoing : w ≠ .finished) (j : ℕ) (hj : s.workers[j]? = some .finished) :
    (s.setWorker i w').workers[j]? = some .finished := by
  show (s.workers.set i w')[j]? = some .finished
  rw [List.getElem?_set_ne]
  · exact hj
  · rintro rfl
    rw [hw] at hj
    exact hgoing (Option.some.inj hj)

/-- A caller that is about to queue nothing does not matter to `Done`. -/
theorem Done.setClient (h : s.Done) (hc : c.pushes = false) : (s.setClient t c).Done := by
  refine ⟨h.workers, h.items, h.shut.imp id fun hnone t' => ?_⟩
  rw [client_setClient]
  split
  · exact hc
  · exact hnone t'

namespace Inv

/-- A caller moves outside of `start` and `stop`. -/
theorem plain (h : s.Inv) (hold : (s.client t).controls = false) (hnew : c.controls = false)
    (hpush : c.pushes = true → s.running = true) :
    (s.setClient t c).Inv := by
  have hcases : ∀ t', ((s.setClient t c).client t').controls = true →
      t' ≠ t ∧ (s.setClient t c).client t' = s.client t' := by
    intro t' ht'
    rw [client_setClient] at ht' ⊢
    split at ht'
    case isTrue => simp [hnew] at ht'
    case isFalse hne => exact ⟨hne, if_neg hne⟩
  have hkeep : ∀ t', (s.client t').controls = true → (s.setClient t c).client t' = s.client t' := by
    intro t' ht'
    rw [client_setClient, if_neg]
    rintro rfl
    simp [hold] at ht'
  refine ⟨fun t₁ t₂ h₁ h₂ => ?_, fun t' => ?_, fun hr => ?_, fun hr => ?_, h.unjoined, h.valid,
    h.drained⟩
  · rw [(hcases t₁ h₁).2] at h₁
    rw [(hcases t₂ h₂).2] at h₂
    exact h.single t₁ t₂ h₁ h₂
  · rw [client_setClient]
    split
    · exact allows_of_not_controls hnew
    · exact (h.clients t').congr rfl rfl rfl rfl fun _ => id
  · rcases h.raised hr with ⟨t', ht'⟩ | hvector
    · exact .inl ⟨t', by rwa [hkeep t' (Client.controls_of_raises ht')]⟩
    · exact .inr hvector
  · rcases h.lowered hr with ⟨t', ht'⟩ | hdone
    · exact .inl ⟨t', by rwa [hkeep t' (Client.controls_of_lowers ht')]⟩
    · refine .inr ⟨hdone.workers, hdone.items, hdone.shut.imp id fun hnone t' => ?_⟩
      rw [client_setClient]
      split
      · by_contra hc
        have hrun := hpush (by simpa using hc)
        have hoff : s.running = false := hr
        simp [hoff] at hrun
      · exact hnone t'

omit [DecidableEq ι] in
/-- A job is queued by a caller that was about to. -/
theorem append (h : s.Inv) (job : Job τ) (hpush : (s.client t).pushes = true)
    (hopen : s.queue.stopped = false) : Inv { s with queue := s.queue.append job } := by
  refine ⟨h.single, fun t' => ?_, h.raised, fun hr => ?_, h.unjoined, h.valid, fun w hw hend => ?_⟩
  · exact (h.clients t').congr rfl rfl rfl rfl fun _ => id
  · refine (h.lowered hr).imp id fun hdone => ?_
    -- There was no such caller.
    rcases hdone.shut with hshut | hnone
    · simp [hopen] at hshut
    · simp [hnone t] at hpush
  · have hshut := (h.drained w hw hend).2
    simp [hopen] at hshut

omit [DecidableEq ι] in
/-- A worker moves. -/
theorem work (h : s.Inv) {i : ℕ} {w w' : Worker τ} {q : BoundedQueue (Job τ)}
    (hw : s.workers[i]? = some w) (hgoing : w ≠ .finished)
    (hstopped : q.stopped = s.queue.stopped) (hitems : s.queue.items = [] → q.items = [])
    (hend : w'.sawEnd = true → s.queue.items = [] ∧ s.queue.stopped = true) :
    Inv { s.setWorker i w' with queue := q } := by
  refine ⟨h.single, fun t' => ?_, h.raised, fun hr => ?_, fun j v hj hv => ?_, fun j hj => ?_,
    fun v hv hv' => ?_⟩
  · exact (h.clients t').congr rfl rfl hstopped rfl (finished_set hw hgoing)
  · refine (h.lowered hr).imp id fun hdone => ?_
    exact absurd (hdone.workers w (mem_of_getElem? hw)) hgoing
  · by_cases heq : i = j
    · exact heq ▸ h.unjoined i w hw hgoing
    · rw [show ({ s.setWorker i w' with queue := q } : Pool ι τ).workers = s.workers.set i w'
        from rfl, List.getElem?_set_ne heq] at hj
      exact h.unjoined j v hj hv
  · show j < (s.workers.set i w').length
    rw [length_set]
    exact h.valid j hj
  · have hall : s.queue.items = [] ∧ s.queue.stopped = true := by
      rcases mem_or_eq_of_mem_set hv with hold | rfl
      · exact h.drained v hold hv'
      · exact hend hv'
    exact ⟨hitems hall.1, hstopped.trans hall.2⟩

/-- The one caller in `start` or `stop` moves. -/
theorem control (hothers : ∀ t', t' ≠ t → (s.client t').controls = false)
    (hclient : s'.client = Function.update s.client t c) (hallows : s'.Allows c)
    (hrunning : s'.running = true ∧ (c.raises = true ∨ s'.vector ≠ []) ∨
      s'.running = false ∧ (c.lowers = true ∨ s'.Done))
    (hunjoined : ∀ (i : ℕ) w, s'.workers[i]? = some w → w ≠ .finished → i ∈ s'.vector)
    (hvalid : ∀ i ∈ s'.vector, i < s'.workers.length)
    (hdrained : ∀ w ∈ s'.workers, w.sawEnd = true →
      s'.queue.items = [] ∧ s'.queue.stopped = true) : s'.Inv := by
  have hself : s'.client t = c := by rw [hclient, Function.update_self]
  have hother : ∀ t', t' ≠ t → (s'.client t').controls = false := by
    intro t' ht'
    rw [hclient, Function.update_of_ne ht']
    exact hothers t' ht'
  have honly : ∀ t', (s'.client t').controls = true → t' = t := by
    intro t' ht'
    by_contra hne
    simp [hother t' hne] at ht'
  refine ⟨fun t₁ t₂ h₁ h₂ => (honly t₁ h₁).trans (honly t₂ h₂).symm, fun t' => ?_,
    fun hr => ?_, fun hr => ?_, hunjoined, hvalid, hdrained⟩
  · by_cases heq : t' = t
    · rw [heq, hself]
      exact hallows
    · exact allows_of_not_controls (hother t' heq)
  · exact (hrunning.resolve_right (by simp [hr])).2.imp (fun h => ⟨t, hself ▸ h⟩) id
  · exact (hrunning.resolve_left (by simp [hr])).2.imp (fun h => ⟨t, hself ▸ h⟩) id

variable (h : s.Inv)
include h

omit [DecidableEq ι] in
/-- While `t` is in `start` or `stop`, the others are not. -/
theorem others (hcontrols : (s.client t).controls = true) (t' : ι) (hne : t' ≠ t) :
    (s.client t').controls = false := by
  by_contra hc
  exact hne (h.single t' t (by simpa using hc) hcontrols)

omit [DecidableEq ι] in
/-- While nobody has changed `running_` without having ended the call, it says what it should. -/
theorem flags (hquiet : ∀ t, (s.client t).controls = true →
      (s.client t).raises = false ∧ (s.client t).lowers = false) :
    s.running = true ∧ s.vector ≠ [] ∨ s.running = false ∧ s.Done := by
  cases hr : s.running with
  | true =>
    refine .inl ⟨rfl, (h.raised hr).resolve_left ?_⟩
    rintro ⟨t, ht⟩
    simp [hquiet t (Client.controls_of_raises ht)] at ht
  | false =>
    refine .inr ⟨rfl, (h.lowered hr).resolve_left ?_⟩
    rintro ⟨t, ht⟩
    simp [hquiet t (Client.controls_of_lowers ht)] at ht

omit [DecidableEq ι] in
/-- So it does before the exchange of the one caller in `start` or `stop`. -/
theorem before_exchange (hc : s.client t = c) (hcontrols : c.controls = true)
    (hraises : c.raises = false) (hlowers : c.lowers = false) :
    (∀ t', t' ≠ t → (s.client t').controls = false) ∧
      (s.running = true ∧ s.vector ≠ [] ∨ s.running = false ∧ s.Done) := by
  subst hc
  refine ⟨h.others hcontrols, h.flags fun t' ht' => ?_⟩
  obtain rfl := h.single t' t ht' hcontrols
  exact ⟨hraises, hlowers⟩

/-- A call of `start` or `stop` begins. -/
theorem enter (hserial : ∀ t, (s.client t).controls = false) (hpush : c.pushes = false)
    (hallows : (s.setClient t c).Allows c) :
    (s.setClient t c).Inv := by
  have hflags := h.flags fun t' ht' => absurd ht' (by simp [hserial t'])
  exact control (fun t' _ => hserial t') rfl hallows
    (hflags.imp (.imp_right .inr) (.imp_right fun hdone => .inr (hdone.setClient hpush)))
    h.unjoined h.valid h.drained

/-- `start`: the exchange. -/
theorem startExchange {n : ℕ} (hc : s.client t = .startExchange n) (hardware : ℕ) :
    (s.clientStep hardware t).1.Inv := by
  obtain ⟨hothers, hflags⟩ := h.before_exchange hc rfl rfl rfl
  rw [clientStep, hc]
  dsimp only
  split
  case isTrue hrunning =>
    have hvector := (hflags.resolve_right (by simp [hrunning])).2
    exact control hothers rfl trivial (.inl ⟨hrunning, .inr hvector⟩)
      h.unjoined h.valid h.drained
  case isFalse =>
    exact control hothers rfl ⟨rfl, normalizeWorkerCount_pos⟩
      (.inl ⟨rfl, .inl rfl⟩) h.unjoined h.valid h.drained

/-- `start`: a thread is created, or all of them have been. -/
theorem startSpawn {left : ℕ} (hc : s.client t = .startSpawn left) (hardware : ℕ) :
    (s.clientStep hardware t).1.Inv := by
  have hothers := h.others (t := t) (by rw [hc]; rfl)
  have hallow := h.clients t
  rw [hc] at hallow
  obtain ⟨hr, hleft⟩ := hallow
  rw [clientStep, hc]
  cases left with
  | zero =>
    exact control hothers rfl trivial (.inl ⟨hr, .inr (hleft.resolve_left (lt_irrefl 0))⟩)
      h.unjoined h.valid h.drained
  | succ left =>
    refine control hothers rfl ⟨hr, .inr (by simp)⟩ (.inl ⟨hr, .inl rfl⟩)
      (fun i w hw hgoing => ?_) (fun i hi => ?_) fun w hw hend => ?_
    · rw [mem_append, mem_singleton]
      have hlt := (List.getElem?_eq_some_iff.mp hw).1
      rw [length_append, length_singleton] at hlt
      by_cases hold : i < s.workers.length
      · left
        refine h.unjoined i w ?_ hgoing
        rwa [List.getElem?_append_left hold] at hw
      · right
        omega
    · rw [length_append, length_singleton]
      rcases mem_append.mp hi with hold | hnew
      · have hlt := h.valid i hold
        omega
      · rw [mem_singleton.mp hnew]
        omega
    · rcases mem_append.mp hw with hold | hnew
      · exact h.drained w hold hend
      · rw [mem_singleton.mp hnew] at hend
        cases hend

/-- `stop`: the exchange. -/
theorem stopExchange (hc : s.client t = .stopExchange) (hardware : ℕ) :
    (s.clientStep hardware t).1.Inv := by
  obtain ⟨hothers, hflags⟩ := h.before_exchange hc rfl rfl rfl
  rw [clientStep, hc]
  dsimp only
  split
  case isTrue hrunning =>
    have hvector := (hflags.resolve_right (by simp [hrunning])).2
    exact control hothers rfl ⟨rfl, hvector⟩ (.inr ⟨rfl, .inl rfl⟩)
      h.unjoined h.valid h.drained
  case isFalse hrunning =>
    obtain ⟨hr, hdone⟩ := hflags.resolve_left (by simp [hrunning])
    exact control hothers rfl trivial (.inr ⟨hr, .inr (hdone.setClient rfl)⟩)
      h.unjoined h.valid h.drained

omit [DecidableEq ι] in
/-- When all threads of the vector have ended, all is done. -/
theorem done_of_joined {k : ℕ} (hc : s.client t = .stopJoin k)
    (hall : s.vector[k]? = none) : s.Done := by
  have hallow := h.clients t
  rw [hc] at hallow
  obtain ⟨-, hvector, -, hstopped, hjoined⟩ := hallow
  rw [take_of_length_le (List.getElem?_eq_none_iff.mp hall)] at hjoined
  refine ⟨fun w hw => ?_, ?_, .inl hstopped⟩
  · by_contra hgoing
    obtain ⟨i, hi⟩ := mem_iff_getElem?.mp hw
    have hend := hjoined i (h.unjoined i w hi hgoing)
    rw [hi] at hend
    exact hgoing (Option.some.inj hend)
  · -- The vector is not empty, and what is in it has seen the end of the queue.
    obtain ⟨i, hi⟩ := exists_mem_of_ne_nil _ hvector
    exact (h.drained .finished (mem_of_getElem? (hjoined i hi)) rfl).1

/-- `stop`: a thread is joined, or all of them have been. -/
theorem stopJoin {k : ℕ} (hc : s.client t = .stopJoin k) (hardware : ℕ) :
    (s.clientStep hardware t).1.Inv := by
  have hothers := h.others (t := t) (by rw [hc]; rfl)
  have hallow := h.clients t
  rw [hc] at hallow
  obtain ⟨hr, hvector, hstopping, hstopped, hjoined⟩ := hallow
  rw [clientStep, hc]
  dsimp only
  split
  case h_1 hall =>
    have hdone := (h.done_of_joined hc hall).setClient (t := t) (c := .idle) rfl
    refine control hothers rfl trivial
      (.inr ⟨hr, .inr ⟨hdone.workers, hdone.items, hdone.shut⟩⟩) (fun i w hw hgoing => ?_) nofun
      h.drained
    exact absurd (hdone.workers w (mem_of_getElem? hw)) hgoing
  case h_2 i hi =>
    split
    case h_1 hend =>
      refine control hothers rfl ⟨hr, hvector, hstopping, hstopped, fun j hj => ?_⟩
        (.inr ⟨hr, .inl rfl⟩) h.unjoined h.valid h.drained
      rw [show (s.setClient t (.stopJoin (k + 1))).vector = s.vector from rfl,
        take_add_one, hi] at hj
      rcases mem_append.mp hj with hold | hnew
      · exact hjoined j hold
      · rw [mem_singleton.mp hnew]
        exact hend
    case h_2 => exact h

/-- The next step of a caller. -/
theorem clientStep (hardware : ℕ) : (s.clientStep hardware t).1.Inv := by
  have hallow := h.clients t
  cases hc : s.client t with
  | idle =>
    rw [Pool.clientStep, hc]
    exact h
  | startExchange n => exact h.startExchange hc hardware
  | startStore n =>
    rw [hc] at hallow
    obtain ⟨hr, hn⟩ := hallow
    rw [Pool.clientStep, hc]
    exact control (h.others (by rw [hc]; rfl)) rfl ⟨hr, .inl hn⟩ (.inl ⟨hr, .inl rfl⟩)
      h.unjoined h.valid h.drained
  | startSpawn left => exact h.startSpawn hc hardware
  | submitCheck job =>
    rw [Pool.clientStep, hc]
    dsimp only
    split
    case isTrue hrunning => exact h.plain (by rw [hc]; rfl) rfl fun _ => hrunning
    case isFalse => exact h.plain (by rw [hc]; rfl) rfl nofun
  | submitPush job =>
    have hidle : (s.setClient t .idle).Inv := h.plain (by rw [hc]; rfl) rfl nofun
    rw [Pool.clientStep, hc]
    dsimp only
    split
    case h_1 => exact h
    case h_2 => exact hidle
    case h_3 q hpush =>
      obtain ⟨rfl, hopen⟩ := push_pushed hpush
      have happend := h.append job (t := t) (by rw [hc]; rfl) hopen
      exact happend.plain (t := t) (c := .idle) (by rw [hc]; rfl) rfl nofun
  | stopExchange => exact h.stopExchange hc hardware
  | stopStore =>
    rw [hc] at hallow
    obtain ⟨hr, hvector⟩ := hallow
    rw [Pool.clientStep, hc]
    exact control (h.others (by rw [hc]; rfl)) rfl ⟨hr, hvector, rfl⟩
      (.inr ⟨hr, .inl rfl⟩) h.unjoined h.valid h.drained
  | stopQueue =>
    rw [hc] at hallow
    obtain ⟨hr, hvector, hstopping⟩ := hallow
    rw [Pool.clientStep, hc]
    exact control (h.others (by rw [hc]; rfl)) rfl ⟨hr, hvector, hstopping, rfl, by simp⟩
      (.inr ⟨hr, .inl rfl⟩) h.unjoined h.valid fun w hw hend => ⟨(h.drained w hw hend).1, rfl⟩
  | stopJoin k => exact h.stopJoin hc hardware

omit [DecidableEq ι] in
/-- The next step of a worker. -/
theorem workerStep (i : ℕ) : (s.workerStep i).1.Inv := by
  unfold Pool.workerStep
  split
  case h_1 hw =>
    split
    case h_1 => exact h
    case h_2 hpop =>
      exact h.work (q := s.queue) hw nofun rfl id fun _ => pop_refused hpop
    case h_3 q job hpop =>
      obtain ⟨hitems, hq⟩ := pop_popped hpop
      refine h.work hw nofun (by rw [hq]) (fun hnone => ?_) nofun
      simp [hitems] at hnone
  case h_2 hw =>
    have hend := h.drained .checking (mem_of_getElem? hw) rfl
    exact h.work (q := s.queue) hw nofun rfl id fun _ => hend
  case h_3 job hw => exact h.work (q := s.queue) hw nofun rfl id nofun
  case h_4 => exact h
  case h_5 => exact h

/-- One step, if `start` and `stop` do not overlap. -/
theorem step {i : PoolInput ι τ} (hserial : s.Serial i) (hardware : ℕ) :
    (s.step hardware i).1.Inv := by
  cases i with
  | call t c =>
    unfold Pool.step
    dsimp only
    split
    case h_1 hidle =>
      cases c with
      | start | stop => exact h.enter hserial rfl trivial
      | submit task autoCommit =>
        cases task with
        | none => exact h
        | some task =>
          have hcalled : (s.setClient t (.submitCheck ⟨s.submitted, task, autoCommit⟩)).Inv :=
            h.plain (by rw [hidle]; rfl) rfl nofun
          exact ⟨hcalled.single, fun t' => (hcalled.clients t').congr rfl rfl rfl rfl fun _ => id,
            hcalled.raised, fun hr => (hcalled.lowered hr).imp id
              fun hdone => ⟨hdone.workers, hdone.items, hdone.shut⟩,
            hcalled.unjoined, hcalled.valid, hcalled.drained⟩
    case h_2 => exact h
  | client t => exact h.clientStep hardware
  | worker i => exact h.workerStep i

end Inv

end Pool

end Knights.Storage
