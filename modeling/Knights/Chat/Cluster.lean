import Knights.Lib.Machine
import Knights.Chat.Handlers
import Knights.Chat.Effects

namespace Knights.Chat

open Lib

/-!
# Chat services and their stores

A chat service has a state, sessions that come and go, and jobs under way.  Jobs interleave at
their operations.  Several services share Redis and the database, and keys of Redis expire.

* `Instance` is a service, `Instance.step` what it does on an input;
* `Instance.Moves` lists everything a step can do, and `moves_step` says so;
* `cluster` is the machine of any number of services on one pair of stores.  It puts out the
  operation that a step performed, with its answer, so that the trace of a run tells what was
  done in which order.
-/

/-- What has become of a session object. -/
inductive Phase
  | connected
  /-- The connection is closed; jobs may still hold the session. -/
  | closing
  | gone
  deriving DecidableEq, Repr

/-- The shared stores. -/
structure Stores where
  redis : Redis := {}
  db : Db := .blank

/-- A chat service. -/
structure Instance where
  st : State := {}
  sessions : Table Session Phase := ∅
  tasks : Pool.{0, 0, 0} Op.Ans Job := []
  sent : List (Session × Message) := []

/-- What happens to a service. -/
inductive Input
  | accept (s : Session)
  /-- A job is queued for the workers. -/
  | submit (j : Job)
  /-- The connection ends, and the job that cleans up is queued; `fresh` is for that job. -/
  | disconnect (s : Session) (fresh : String)
  /-- A worker performs the next operation of task `k`. -/
  | advance (k : ℕ) (fate : Fate)
  /-- The last reference to the session goes. -/
  | destroy (s : Session)

/-- The job that cleans up after a session. -/
def Job.isClose : Job → Bool
  | .close _ _ => true
  | _ => false

namespace Instance

variable (cfg : Config) (x : Instance) (y : Stores)

/-- The session object exists. -/
def live (s : Session) : Bool :=
  match x.sessions.lookup s with
  | some .connected => true
  | some .closing => true
  | _ => false

/-- A new session gets a new id, and an address that no living session has. -/
def mayAccept (s : Session) : Bool :=
  x.sessions.keys.all fun t => t.id ≠ s.id && (!x.live t || t.addr ≠ s.addr)

/-- Jobs come from connected sessions, from other services or from administrators.  The job of
    a close comes from the disconnect. -/
def maySubmit (j : Job) : Bool :=
  !j.isClose &&
    match j.session with
    | none => true
    | some s => x.sessions.lookup s = some .connected

/-- No job of the session is under way. -/
def idle (s : Session) : Bool := x.tasks.all fun t => t.1.session ≠ some s || t.2.isDone

/-- What the operations of the service act on. -/
def world : World := ⟨x.st, x.live, x.sent, y.redis, y.db⟩

/-- Queue a job. -/
def enqueue (j : Job) : Instance := { x with tasks := x.tasks ++ [(j, j.handler cfg)] }

/-- Set what has become of a session. -/
def setPhase (s : Session) (p : Phase) : Instance :=
  { x with sessions := x.sessions.insert s p }

/-- The service after the world has changed under one of its tasks. -/
def after (tasks : Pool.{0, 0, 0} Op.Ans Job) (w : World) : Instance × Stores :=
  ({ x with st := w.st, tasks := tasks, sent := w.sent }, ⟨w.redis, w.db⟩)

/-- The operation an input makes the service perform. -/
def performs : Input → Option (Job × Op)
  | .advance k _ => x.tasks.next? k
  | _ => none

/-- The input can happen. -/
def allows : Input → Bool
  | .accept s => x.mayAccept s
  | .submit j => x.maySubmit j
  | .disconnect s _ => x.sessions.lookup s = some .connected
  | .advance k _ => (x.tasks.next? k).isSome
  | .destroy s => x.sessions.lookup s = some .closing && x.idle s

/-- One step of a service.  What cannot happen changes nothing. -/
def step (inp : Input) : Instance × Stores :=
  if x.allows inp then
    match inp with
    | .accept s => (x.setPhase s .connected, y)
    | .submit j => (x.enqueue cfg j, y)
    | .disconnect s fresh => ((x.setPhase s .closing).enqueue cfg (.close s fresh), y)
    | .advance k fate =>
      let r := Pool.advance (Op.exec cfg) fate k x.tasks (x.world y)
      x.after r.1 r.2
    | .destroy s => (x.setPhase s .gone, y)
  else (x, y)

/-- Everything a step can do. -/
inductive Moves : Input → Instance → Stores → Prop
  | idle (inp : Input) (h : x.allows inp = false) : Moves inp x y
  | accept (s : Session) (h : x.mayAccept s = true) : Moves (.accept s) (x.setPhase s .connected) y
  | submit (j : Job) (h : x.maySubmit j = true) : Moves (.submit j) (x.enqueue cfg j) y
  | disconnect (s : Session) (fresh : String) (h : x.sessions.lookup s = some .connected) :
    Moves (.disconnect s fresh) ((x.setPhase s .closing).enqueue cfg (.close s fresh)) y
  | perform (k : ℕ) (fate : Fate) (j : Job) (o : Op) (p : o.Ans → Handler Unit)
      (h : x.tasks[k]? = some (j, .act o p)) :
    Moves (.advance k fate) (x.after (x.tasks.set k (j, p (o.exec cfg fate (x.world y)).2))
        (o.exec cfg fate (x.world y)).1).1
      (x.after (x.tasks.set k (j, p (o.exec cfg fate (x.world y)).2))
        (o.exec cfg fate (x.world y)).1).2
  | destroy (s : Session) (h : x.sessions.lookup s = some .closing) (hidle : x.idle s = true) :
    Moves (.destroy s) (x.setPhase s .gone) y

/-- **Inversion.** A step does one of the things listed. -/
theorem moves_step (inp : Input) : x.Moves cfg y inp (x.step cfg y inp).1 (x.step cfg y inp).2 := by
  unfold step
  split_ifs with hallows
  · cases inp with
    | accept s => exact .accept s hallows
    | submit j => exact .submit j hallows
    | disconnect s fresh => exact .disconnect s fresh (of_decide_eq_true hallows)
    | advance k fate =>
      obtain ⟨nx, hnext⟩ := Option.isSome_iff_exists.mp hallows
      obtain ⟨p, hp, hadv⟩ :=
        Pool.advance_of_next? (Op.exec cfg) fate (t := nx.1) (o := nx.2) hnext (x.world y)
      dsimp only
      rw [hadv]
      exact .perform k fate nx.1 nx.2 p hp
    | destroy s =>
      obtain ⟨hphase, hidle⟩ := Bool.and_eq_true_iff.mp hallows
      exact .destroy s (of_decide_eq_true hphase) hidle
  · exact .idle inp (Bool.eq_false_iff.mpr hallows)

end Instance

/-! ### Several services -/

/-- Services on one pair of stores. -/
structure Cluster where
  insts : List Instance
  stores : Stores

/-- An operation that service `inst` performed in one of its tasks, and its answer. -/
structure Action where
  inst : ℕ
  task : ℕ
  job : Job
  op : Op
  ans : op.Ans

/-- What a service does on an input, seen from outside. -/
def Instance.action (cfg : Config) (i : ℕ) (x : Instance) (y : Stores) : Input → Option Action
  | .advance k fate =>
    (x.tasks.next? k).map fun jo => ⟨i, k, jo.1, jo.2, (jo.2.exec cfg fate (x.world y)).2⟩
  | _ => none

namespace Cluster

/-- What happens in a cluster: something to one of the services, or a key of Redis expires. -/
inductive Input
  | inst (i : ℕ) (inp : Chat.Input)
  | expirePassword (room : String)
  | expireMessage (id : ℕ)

/-- The keys of Redis after one has expired. -/
def expire (c : Cluster) (r : Redis) : Cluster := { c with stores := { c.stores with redis := r } }

/-- One step of a cluster; `cfg i` is the configuration of service `i`. -/
def step (cfg : ℕ → Config) (c : Cluster) : Input → Cluster × Option Action
  | .inst i inp =>
    match c.insts[i]? with
    | none => (c, none)
    | some x =>
      (⟨c.insts.set i (x.step (cfg i) c.stores inp).1, (x.step (cfg i) c.stores inp).2⟩,
        x.action (cfg i) i c.stores inp)
  | .expirePassword room =>
    (c.expire { c.stores.redis with password := c.stores.redis.password.erase room }, none)
  | .expireMessage id =>
    (c.expire { c.stores.redis with message := c.stores.redis.message.erase id }, none)

/-- Services that have just started. -/
def fresh (n : ℕ) (stores : Stores) : Cluster := ⟨List.replicate n {}, stores⟩

end Cluster

/-- The machine of services that share their stores. -/
def cluster (cfg : ℕ → Config) : Machine Cluster Cluster.Input (Option Action) := ⟨Cluster.step cfg⟩

/-- What happens in a run. -/
abbrev ClusterEvent := Event Cluster Cluster.Input (Option Action)

namespace Cluster

variable {cfg : ℕ → Config} {c : Cluster} {I : ℕ → Instance → Prop} {i : ℕ}
  {G : Instance → Chat.Input → Prop} {x : Instance} {inp : Input}

theorem step_inst (hx : c.insts[i]? = some x) (inp : Chat.Input) :
    (cluster cfg).step c (.inst i inp) =
      (⟨c.insts.set i (x.step (cfg i) c.stores inp).1, (x.step (cfg i) c.stores inp).2⟩,
        x.action (cfg i) i c.stores inp) := by
  show c.step cfg (.inst i inp) = _
  simp only [step, hx]

theorem step_inst_none (hx : c.insts[i]? = none) (inp : Chat.Input) :
    (cluster cfg).step c (.inst i inp) = (c, none) := by
  show c.step cfg (.inst i inp) = _
  simp only [step, hx]

theorem next_inst (hx : c.insts[i]? = some x) (inp : Chat.Input) :
    (cluster cfg).next c (.inst i inp) =
      ⟨c.insts.set i (x.step (cfg i) c.stores inp).1, (x.step (cfg i) c.stores inp).2⟩ :=
  congrArg Prod.fst (step_inst hx inp)

theorem next_inst_none (hx : c.insts[i]? = none) (inp : Chat.Input) :
    (cluster cfg).next c (.inst i inp) = c := congrArg Prod.fst (step_inst_none hx inp)

/-- No service comes or goes. -/
theorem length_next : ((cluster cfg).next c inp).insts.length = c.insts.length := by
  cases inp with
  | inst i inp =>
    cases hx : c.insts[i]? with
    | none => rw [next_inst_none hx]
    | some x =>
      rw [next_inst hx]
      exact List.length_set
  | expirePassword | expireMessage => rfl

/-- A condition on the service that an input is for, and on that input. -/
def Each (G : Instance → Chat.Input → Prop) (c : Cluster) : Input → Prop
  | .inst i inp => ∀ x, c.insts[i]? = some x → G x inp
  | _ => True

instance decidableEach (G : Instance → Chat.Input → Prop) [∀ x inp, Decidable (G x inp)]
    (c : Cluster) : ∀ inp, Decidable (c.Each G inp)
  | .inst i inp => inferInstanceAs (Decidable (∀ x ∈ c.insts[i]?, G x inp))
  | .expirePassword _ => isTrue trivial
  | .expireMessage _ => isTrue trivial

/-- What holds for every service, which may differ from one to another. -/
def All (I : ℕ → Instance → Prop) (c : Cluster) : Prop := ∀ i x, c.insts[i]? = some x → I i x

theorem next_inst_self (hx : c.insts[i]? = some x) (inp : Chat.Input) :
    ((cluster cfg).next c (.inst i inp)).insts[i]? = some (x.step (cfg i) c.stores inp).1 := by
  rw [next_inst hx]
  exact List.getElem?_set_self (List.getElem?_eq_some_iff.mp hx).1

/-- **Inversion.** A service after a step is as before, or the step was one of its own. -/
theorem inst_next {z : Instance} (hz : ((cluster cfg).next c inp).insts[i]? = some z) :
    ∃ x, c.insts[i]? = some x ∧
      (z = x ∨ ∃ inp', inp = .inst i inp' ∧ z = (x.step (cfg i) c.stores inp').1) := by
  cases inp with
  | inst i' inp =>
    cases hx : c.insts[i']? with
    | none =>
      rw [next_inst_none hx] at hz
      exact ⟨z, hz, .inl rfl⟩
    | some x =>
      by_cases hi : i' = i
      · subst hi
        rw [next_inst_self hx] at hz
        exact ⟨x, hx, .inr ⟨inp, rfl, (Option.some.inj hz).symm⟩⟩
      · rw [next_inst hx, List.getElem?_set_ne hi] at hz
        exact ⟨z, hz, .inl rfl⟩
  | expirePassword | expireMessage => exact ⟨z, hz, .inl rfl⟩

/-- What steps of a service keep, steps of a cluster keep for all of its services. -/
theorem all_next (hstep : ∀ i x y inp, I i x → I i (x.step (cfg i) y inp).1) (h : c.All I)
    (inp : Input) : ((cluster cfg).next c inp).All I := by
  intro i z hz
  obtain ⟨x, hx, rfl | ⟨inp, rfl, rfl⟩⟩ := inst_next hz
  · exact h i z hx
  · exact hstep i x c.stores inp (h i x hx)

theorem all_run (hstep : ∀ i x y inp, I i x → I i (x.step (cfg i) y inp).1) (h : c.All I)
    (is : List Input) : ((cluster cfg).run c is).All I :=
  (cluster cfg).run_invariant (All I) (fun _ inp hc => all_next hstep hc inp) h is

/-- What steps of a service keep under a condition, runs of a cluster keep under it. -/
theorem all_guarded_run (hstep : ∀ i x y inp, I i x → G x inp → I i (x.step (cfg i) y inp).1)
    (h : c.All I) {is : List Input} (hG : (cluster cfg).Guarded (Each G) c is) :
    ((cluster cfg).run c is).All I := by
  refine (cluster cfg).guarded_invariant (All I) (Each G) (fun c inp hc hG i z hz => ?_) h hG
  obtain ⟨x, hx, rfl | ⟨inp, rfl, rfl⟩⟩ := inst_next hz
  · exact hc i z hx
  · exact hstep i x c.stores inp (hc i x hx) (hG x hx)

/-- **Exact conditions for services.** If on sound services a property survives a step exactly
    when the step meets a condition, then it holds after every prefix of a run exactly when
    every step of the run meets the condition. -/
theorem forall_prefix_iff_guarded {J : ℕ → Instance → Prop}
    (hJ : ∀ i x y inp, J i x → J i (x.step (cfg i) y inp).1)
    (hI : ∀ i x y inp, J i x → I i x → (I i (x.step (cfg i) y inp).1 ↔ G x inp)) (h0 : c.All J)
    (h0' : c.All I) (is : List Input) :
    (∀ pre, pre <+: is → ((cluster cfg).run c pre).All I) ↔
      (cluster cfg).Guarded (Each G) c is := by
  refine (cluster cfg).forall_prefix_iff_guarded (All J) (All I) (Each G)
    (fun c inp hc => all_next hJ hc inp) (fun c inp hc hc' => ?_) h0 h0' is
  constructor
  · intro h
    cases inp with
    | inst i inp =>
      intro x hx
      exact (hI i x c.stores inp (hc i x hx) (hc' i x hx)).mp (h i _ (next_inst_self hx inp))
    | expirePassword | expireMessage => trivial
  · intro h i z hz
    obtain ⟨x, hx, rfl | ⟨inp, rfl, rfl⟩⟩ := inst_next hz
    · exact hc' i z hx
    · exact (hI i x c.stores inp (hc i x hx) (hc' i x hx)).mpr (h x hx)

theorem all_fresh (h : ∀ i, I i {}) (n : ℕ) (stores : Stores) : (fresh n stores).All I := by
  intro i x hx
  have hmem : x ∈ List.replicate n ({} : Instance) := List.mem_of_getElem? hx
  rw [List.eq_of_mem_replicate hmem]
  exact h i

end Cluster

/-- A configuration to run examples with: hashes, `lower` and encodings that are easy to
    follow. -/
def Config.sample : Config where
  sha256Hex := fun text => text
  legacyHash := fun text => "legacy:" ++ text
  lower := toLowerAscii
  encodeBroadcast := fun b => b.text
  encodeWhisper := fun n => n.text

/-- Two sessions to run examples with. -/
def Session.one : Session := ⟨1, 10⟩

@[inherit_doc Session.one] def Session.two : Session := ⟨2, 20⟩

/-- The services of the examples. -/
abbrev samples : Machine Cluster Cluster.Input (Option Action) := cluster fun _ => .sample

/-- Service `i` performs the next `n` operations of its task `k`, and the stores do not fail. -/
def work (i k n : ℕ) : List Cluster.Input := List.replicate n (.inst i (.advance k .done))

/-- A job is submitted and becomes task `k`, which performs `n` operations. -/
def serve (i k n : ℕ) (j : Job) : List Cluster.Input := .inst i (.submit j) :: work i k n

/-- A session is accepted and logs in. -/
def logIn (i k : ℕ) (s : Session) (user : String) : List Cluster.Input :=
  .inst i (.accept s) :: serve i k 30 (.login s { user := user })

end Knights.Chat
