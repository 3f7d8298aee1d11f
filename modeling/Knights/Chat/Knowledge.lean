import Knights.Chat.Cluster
import Knights.Chat.Discipline

namespace Knights.Chat

open Lib List Instance Db

/-!
# What services know

A job acts on what it has learned (`obeys_handler`).  This module carries that along the steps
of services: if the facts that answers tell are added to what is known, then jobs always act on
what is known.  What is known can be the facts that are true of the database, since the rows of
the database are never taken away again, or the facts that were learned in the run so far.

* `needed_of_action`, `obey_next` — the discipline along the steps of a cluster;
* `Db.Grows` — what commands to the database keep;
* `Fact.Holds` — the facts that can be read off the database, and `holds_of_learned` — what a
  command to the database tells is one of them.
-/

/-! ### Where facts come from -/

/-- Which answers tell which facts. -/
inductive Tells : (o : Op) → o.Ans → Fact → Prop
  | roomId (room : String) (id : RoomId) : Tells (.lock (.roomId room)) (some id) (.roomRow room id)
  | joined (s : Session) (req : State.JoinRequest) (joined : State.Joined) (h : String)
      (hh : joined.newHash = some h) :
    Tells (.lock (.join s req)) (.ok joined) (.hash req.password h)
  | mayList (s : Session) (room viewer : String) :
    Tells (.lock (.roomUsersCheck s room)) (true, viewer) (.mayList s room)
  | located (s : Session) (room : Option String) :
    Tells (.lock (.currentRoom s)) room (.located s room)
  | cleared (user ip hwidHash : String) (now : ℕ) :
    Tells (.lock (.banCheck user ip hwidHash now)) "" (.cleared user ip hwidHash now)
  | passed (s : Session) (now : ℕ) (sender : String) :
    Tells (.lock (.moderate s now)) (.passes sender) (.passed s sender now)
  | audience (room : String) (sender : Option String) (ts : List Session) :
    Tells (.lock (.roomTargets room sender)) ts (.audience room sender ts)
  | named (s : Session) (name : String) (guest : Bool) :
    Tells (.lock (.whisperSender s)) (name, guest) (.named s name)
  | hearers (s : Session) (sender target : String) (found : State.WhisperTargets) :
    Tells (.lock (.whisperTargets s sender target)) found
      (.hearers (some s) sender target found.targets)
  | remoteHearers (n : WhisperNotice) (ts : List Session) :
    Tells (.lock (.remoteWhisperTargets n)) ts (.hearers none n.sender n.recipient ts)
  | password (room : String) (value : Option String) :
    Tells (.redis (.getPassword room)) value (.password room value)
  | recent (rid : RoomId) (count : ℕ) (ids : List ℕ) (id : ℕ) (hid : id ∈ ids) :
    Tells (.redis (.lrangeRecent rid count)) (some ids) (.listed rid id)
  | cached (ids : List ℕ) (ms : List (Option SnapshotMessage)) (m : SnapshotMessage)
      (hm : some m ∈ ms) : Tells (.redis (.mgetMessages ids)) (some ms) (.cached ids m)
  | cachedOne (id : ℕ) (m : SnapshotMessage) :
    Tells (.redis (.getMessage id)) (some m) (.cached [id] m)
  | foundUser (name : String) (row : UserRow) :
    Tells (.db (.findUser name)) (some (some row)) (.userRow name row.id)
  | createdUser (name : String) (uid : UserId) (committed : Bool) :
    Tells (.db (.createGuest name)) (some (uid, committed)) (.userRow name uid)
  | foundRoom (room : String) (row : RoomRow) :
    Tells (.db (.findRoom room)) (some (some row)) (.roomRow room row.id)
  | createdRoom (room : String) (rid : RoomId) :
    Tells (.db (.createRoom room)) (some rid) (.roomRow room rid)
  | stored (rid : RoomId) (room : String) (uid : Option UserId) (content : String) (id : ℕ)
      (committed : Bool) :
    Tells (.db (.createMessage rid room uid content)) (some (id, committed)) (.listed rid id)
  | storedText (rid : RoomId) (room : String) (uid : Option UserId) (content : String) (id : ℕ)
      (committed : Bool) :
    Tells (.db (.createMessage rid room uid content)) (some (id, committed)) (.text id content)
  | fetched (rid : RoomId) (sinceId limit : ℕ) (rows : List Db.Stored) (m : Db.Stored)
      (hm : m ∈ rows) :
    Tells (.db (.fetchRecent rid sinceId limit)) (some rows) (.listed rid m.row.id)
  | fetchedText (rid : RoomId) (sinceId limit : ℕ) (rows : List Db.Stored) (m : Db.Stored)
      (hm : m ∈ rows) :
    Tells (.db (.fetchRecent rid sinceId limit)) (some rows) (.text m.row.id m.row.content)

/-- **Inversion.** A fact that is learned was told by an answer. -/
theorem tells_of_learned {o : Op} {a : o.Ans} {f : Fact} (h : f ∈ learned o a) : Tells o a f := by
  -- one case per answer that tells something, in the order of `learned`
  unfold learned at h
  split at h
  · cases h
    exact .roomId ..
  · obtain ⟨hash, hhash, rfl⟩ := h
    exact .joined _ _ _ hash hhash
  · cases h
    exact .mayList ..
  · cases h
    exact .located ..
  · obtain ⟨rfl, rfl⟩ := h
    exact .cleared ..
  · cases h
    exact .passed ..
  · cases h
    exact .audience ..
  · cases h
    exact .named ..
  · cases h
    exact .hearers ..
  · cases h
    exact .remoteHearers ..
  · cases h
    exact .password ..
  · obtain ⟨id, hid, rfl⟩ := h
    exact .recent _ _ _ id hid
  · obtain ⟨m, hm, rfl⟩ := h
    exact .cached _ _ m hm
  · cases h
    exact .cachedOne ..
  · cases h
    exact .foundUser ..
  · cases h
    exact .createdUser ..
  · cases h
    exact .foundRoom ..
  · cases h
    exact .createdRoom ..
  · obtain rfl | rfl := h
    · exact .stored ..
    · exact .storedText ..
  · obtain ⟨m, hm, rfl | rfl⟩ := h
    · exact .fetched _ _ _ _ m hm
    · exact .fetchedText _ _ _ _ m hm
  · cases h

/-! ### The discipline along steps -/

namespace Instance

variable {cfg : Config} {x : Instance} {y : Stores} {K K' : ℕ → Set Fact} {i : ℕ} {inp : Input}
  {act : Action}

/-- An action is the next operation of a task. -/
theorem action_eq_some (h : x.action cfg i y inp = some act) : ∃ fate,
    inp = .advance act.task fate ∧ x.tasks.next? act.task = some (act.job, act.op) ∧
    act.inst = i ∧ act.ans = (act.op.exec cfg fate (x.world y)).2 := by
  cases inp with
  | advance k fate =>
    obtain ⟨jo, hjo, rfl⟩ := Option.map_eq_some_iff.mp h
    exact ⟨fate, rfl, hjo, rfl, rfl⟩
  | accept | submit | disconnect | destroy => cases h

theorem performs_of_action (h : x.action cfg i y inp = some act) :
    x.performs inp = some (act.job, act.op) := by
  obtain ⟨fate, rfl, hnext, -⟩ := action_eq_some h
  exact hnext

theorem exists_action {j : Job} {o : Op} (h : x.performs inp = some (j, o)) :
    ∃ k ans, x.action cfg i y inp = some ⟨i, k, j, o, ans⟩ := by
  cases inp with
  | advance k fate =>
    refine ⟨k, (o.exec cfg fate (x.world y)).2, ?_⟩
    change x.tasks.next? k = some (j, o) at h
    show (x.tasks.next? k).map _ = _
    rw [h]
    rfl
  | accept | submit | disconnect | destroy => cases h

/-- What an action does, and what it is answered. -/
theorem exec_of_action (h : x.action cfg i y inp = some act) : ∃ fate p,
    x.tasks[act.task]? = some (act.job, .act act.op p) ∧
    act.ans = (act.op.exec cfg fate (x.world y)).2 ∧
    x.step cfg y inp = x.after (x.tasks.set act.task (act.job, p act.ans))
      (act.op.exec cfg fate (x.world y)).1 ∧ inp = .advance act.task fate := by
  obtain ⟨fate, rfl, hnext, -, hans⟩ := action_eq_some h
  obtain ⟨p, hp, hadv⟩ := Pool.advance_of_next? (Op.exec cfg) fate hnext (x.world y)
  refine ⟨fate, p, hp, hans, ?_, rfl⟩
  have hallows : x.allows (.advance act.task fate) = true := by
    show (x.tasks.next? act.task).isSome = true
    rw [hnext]
    rfl
  unfold step
  rw [if_pos hallows]
  dsimp only
  rw [hadv, hans]

/-- A step without an action leaves the tables and the stores alone. -/
theorem step_of_no_action (h : x.action cfg i y inp = none) :
    (x.step cfg y inp).1.st = x.st ∧ (x.step cfg y inp).2 = y := by
  unfold step
  split_ifs with hallows
  · cases inp with
    | advance k fate =>
      change (x.tasks.next? k).map _ = none at h
      rw [Option.map_eq_none_iff] at h
      change (x.tasks.next? k).isSome = true at hallows
      rw [h] at hallows
      cases hallows
    | accept | submit | disconnect | destroy => exact ⟨rfl, rfl⟩
  · exact ⟨rfl, rfl⟩

/-- A job performs an operation with the facts that it needs. -/
theorem needed_of_action (hK : Pool.AllObey (discipline cfg) K x.tasks)
    (h : x.action cfg i y inp = some act) : Needs cfg act.job (K act.task) act.op := by
  obtain ⟨-, p, hp, -⟩ := exec_of_action h
  exact (hK _ _ hp).1

/-- Jobs go on acting with the facts that they need, as long as what they learn is added. -/
theorem obey_step (hK : Pool.AllObey (discipline cfg) K x.tasks) (hKK' : ∀ k, K k ⊆ K' k)
    (hlearn : ∀ act, x.action cfg i y inp = some act → learned act.op act.ans ⊆ K' act.task) :
    Pool.AllObey (discipline cfg) K' (x.step cfg y inp).1.tasks := by
  have henqueue : ∀ j : Job, Pool.AllObey (discipline cfg) K' (x.enqueue cfg j).tasks :=
    fun j => (hK.mono hKK').concat obeys_handler
  unfold step
  split_ifs
  · cases inp with
    | accept | destroy => exact hK.mono hKK'
    | submit j => exact henqueue j
    | disconnect s fresh => exact henqueue (.close s fresh)
    | advance k fate =>
      refine Pool.allObey_advance (Op.exec cfg) fate hK hKK' fun j o hnext => ?_
      refine hlearn ⟨i, k, j, o, _⟩ ?_
      show (x.tasks.next? k).map _ = _
      rw [hnext]
      rfl
  · exact hK.mono hKK'

end Instance

namespace Cluster

variable {cfg : ℕ → Config} {c : Cluster} {K K' : ℕ → ℕ → Set Fact} {inp : Input} {act : Action}

/-- The jobs of every service act on what they know; `K i k` is what task `k` of service `i`
    knows. -/
def Informed (cfg : ℕ → Config) (K : ℕ → ℕ → Set Fact) (c : Cluster) : Prop :=
  c.All fun i x => Pool.AllObey (discipline (cfg i)) (K i) x.tasks

/-- An action of a cluster is an action of one of its services. -/
theorem action_of_step (h : ((cluster cfg).step c inp).2 = some act) :
    ∃ x inp', inp = .inst act.inst inp' ∧ c.insts[act.inst]? = some x ∧
      x.action (cfg act.inst) act.inst c.stores inp' = some act := by
  cases inp with
  | inst i inp =>
    cases hx : c.insts[i]? with
    | none =>
      rw [step_inst_none hx] at h
      cases h
    | some x =>
      rw [step_inst hx] at h
      obtain ⟨fate, rfl, -, hi, -⟩ := action_eq_some h
      exact ⟨x, .advance act.task fate, by rw [hi], hi ▸ hx, hi ▸ h⟩
  | expirePassword | expireMessage => cases h

theorem exec_of_step (h : ((cluster cfg).step c inp).2 = some act) : ∃ x fate,
    c.insts[act.inst]? = some x ∧
    act.ans = (act.op.exec (cfg act.inst) fate (x.world c.stores)).2 ∧
    ((cluster cfg).next c inp).stores =
      ⟨(act.op.exec (cfg act.inst) fate (x.world c.stores)).1.redis,
        (act.op.exec (cfg act.inst) fate (x.world c.stores)).1.db⟩ := by
  obtain ⟨x, inp', rfl, hx, hact⟩ := action_of_step h
  obtain ⟨fate, p, -, hans, hstep, -⟩ := exec_of_action hact
  refine ⟨x, fate, hx, hans, ?_⟩
  rw [next_inst hx, hstep]
  rfl

/-- A step without an action leaves the stores alone, or a key expires. -/
theorem stores_of_no_action (h : ((cluster cfg).step c inp).2 = none) :
    ((cluster cfg).next c inp).stores = c.stores ∨ (∃ room, inp = .expirePassword room) ∨
      ∃ id, inp = .expireMessage id := by
  cases inp with
  | inst i inp =>
    cases hx : c.insts[i]? with
    | none => exact .inl (by rw [next_inst_none hx])
    | some x =>
      rw [step_inst hx] at h
      rw [next_inst hx]
      exact .inl (step_of_no_action h).2
  | expirePassword room => exact .inr (.inl ⟨room, rfl⟩)
  | expireMessage id => exact .inr (.inr ⟨id, rfl⟩)

theorem needed_of_step (hK : c.Informed cfg K) (h : ((cluster cfg).step c inp).2 = some act) :
    Needs (cfg act.inst) act.job (K act.inst act.task) act.op := by
  obtain ⟨x, inp', -, hx, hact⟩ := action_of_step h
  exact needed_of_action (hK act.inst x hx) hact

/-- **Inversion.** The tables of a service after a step are as before, or what a section that it
    runs makes of them. -/
theorem st_next {i : ℕ} {z : Instance} (hz : ((cluster cfg).next c inp).insts[i]? = some z) :
    ∃ x, c.insts[i]? = some x ∧ (z.st = x.st ∨ ∃ inp' j cr, inp = .inst i inp' ∧
      x.performs inp' = some (j, .lock cr) ∧ z.st = (cr.exec (cfg i) x.live x.st).1) := by
  obtain ⟨x, hx, rfl | ⟨inp', rfl, rfl⟩⟩ := inst_next hz
  · exact ⟨z, hx, .inl rfl⟩
  refine ⟨x, hx, ?_⟩
  cases hact : x.action (cfg i) i c.stores inp' with
  | none => exact .inl (step_of_no_action hact).1
  | some act =>
    obtain ⟨fate, p, -, -, hstep, -⟩ := exec_of_action hact
    have hperforms := performs_of_action hact
    rw [hstep]
    obtain ⟨i', k, j, o, a⟩ := act
    cases o with
    | lock cr => exact .inr ⟨inp', j, cr, rfl, hperforms, rfl⟩
    | redis | db | send | stop => exact .inl rfl

/-- A section that a service runs is one that its job knows enough for. -/
theorem needed_of_section (hK : c.Informed cfg K) {i : ℕ} {x : Instance}
    (hx : c.insts[i]? = some x) {inp : Chat.Input} {j : Job} {cr : Critical}
    (hperforms : x.performs inp = some (j, .lock cr)) :
    ∃ k, Needs (cfg i) j (K i k) (.lock cr) := by
  obtain ⟨k, ans, hact⟩ : ∃ k ans,
      x.action (cfg i) i c.stores inp = some ⟨i, k, j, .lock cr, ans⟩ :=
    exists_action hperforms
  exact ⟨k, needed_of_action (hK i x hx) hact⟩

/-- **Informed steps.** -/
theorem informed_next (hK : c.Informed cfg K) (hKK' : ∀ i k, K i k ⊆ K' i k)
    (hlearn : ∀ act, ((cluster cfg).step c inp).2 = some act →
      learned act.op act.ans ⊆ K' act.inst act.task) :
    ((cluster cfg).next c inp).Informed cfg K' := by
  intro i z hz
  obtain ⟨x, hx, rfl | ⟨inp, rfl, rfl⟩⟩ := inst_next hz
  · exact (hK i z hx).mono (hKK' i)
  · refine obey_step (i := i) (hK i x hx) (hKK' i) fun act hact => ?_
    obtain ⟨fate, -, -, rfl, -⟩ := action_eq_some hact
    refine hlearn act ?_
    rw [step_inst hx]
    exact hact

theorem informed_fresh (K : ℕ → ℕ → Set Fact) (n : ℕ) (stores : Stores) :
    (fresh n stores).Informed cfg K :=
  all_fresh (fun _ _ _ h => nomatch h) n stores

/-- What task `k` of service `i` has learned in a run. -/
def learnedIn (tr : List ClusterEvent) (i k : ℕ) : Set Fact :=
  {f | ∃ e ∈ tr, ∃ act ∈ e.output, act.inst = i ∧ act.task = k ∧ f ∈ learned act.op act.ans}

/-- **Informed runs.** Every job acts on what it has learned. -/
theorem informed_run (cfg : ℕ → Config) (n : ℕ) (stores : Stores) (is : List Input) :
    ((cluster cfg).run (fresh n stores) is).Informed cfg
      (learnedIn ((cluster cfg).trace (fresh n stores) is)) := by
  refine (cluster cfg).trace_invariant (fun tr c => c.Informed cfg (learnedIn tr)) ?_
    (informed_fresh _ n stores) is
  intro tr c inp hK
  refine informed_next hK (fun i k => ?_) fun act hact f hf => ?_
  · rintro f ⟨e, he, hf⟩
    exact ⟨e, mem_append_left _ he, hf⟩
  · exact ⟨_, mem_append_right _ (mem_singleton.mpr rfl), act, hact, rfl, rfl, hf⟩

/-- An event of a run is an action of a service as it was then. -/
theorem exec_of_mem_trace {is : List Input} {e : ClusterEvent}
    (he : e ∈ (cluster cfg).trace c is) (hact : e.output = some act) : ∃ x fate,
    e.pre.insts[act.inst]? = some x ∧
      act.ans = (act.op.exec (cfg act.inst) fate (x.world e.pre.stores)).2 := by
  obtain ⟨pre, post, -, -, hout⟩ := (cluster cfg).mem_trace.mp he
  obtain ⟨x, fate, hx, hans, -⟩ := exec_of_step (hout.symm.trans hact)
  exact ⟨x, fate, hx, hans⟩

end Cluster

/-! ### The database along steps -/

namespace Db

variable {lower : String → String} {d d' d'' : Db}

/-- Rows are added but not taken away, and no row gets another id or name. -/
structure Grows (d d' : Db) : Prop where
  users : ∀ u ∈ d.users, u ∈ d'.users
  rooms : ∀ r ∈ d.rooms, ∃ r' ∈ d'.rooms, r'.id = r.id ∧ r'.name = r.name
  messages : ∀ m ∈ d.messages, m ∈ d'.messages

theorem Grows.refl (d : Db) : Grows d d :=
  ⟨fun _ h => h, fun r h => ⟨r, h, rfl, rfl⟩, fun _ h => h⟩

theorem Grows.trans (h : Grows d d') (h' : Grows d' d'') : Grows d d'' where
  users u hu := h'.users u (h.users u hu)
  rooms r hr := by
    obtain ⟨r₁, hr₁, hid₁, hname₁⟩ := h.rooms r hr
    obtain ⟨r₂, hr₂, hid₂, hname₂⟩ := h'.rooms r₁ hr₁
    exact ⟨r₂, hr₂, hid₂.trans hid₁, hname₂.trans hname₁⟩
  messages m hm := h'.messages m (h.messages m hm)

theorem setLastSeen_eq (d : Db) (uid : UserId) (rid : RoomId) (id : ℕ) :
    ∃ seen, d.setLastSeen uid rid id = { d with lastSeen := seen } := by
  unfold setLastSeen
  cases d.lastSeen.lookup (uid, rid) with
  | none => exact ⟨d.lastSeen, rfl⟩
  | some _ => exact ⟨_, rfl⟩

theorem upsertJoin_eq (d : Db) (uid : UserId) (rid : RoomId) :
    ∃ seen, d.upsertJoin uid rid = { d with lastSeen := seen } := by
  unfold upsertJoin
  split_ifs
  · exact setLastSeen_eq { d with lastSeen := _ } uid rid _
  · exact ⟨_, rfl⟩

theorem grows_apply {committed : Bool} {c : Cmd} : Grows d (d.apply committed c) := by
  cases c with
  | createGuest name =>
    exact ⟨fun _ h => mem_append_left _ h, fun r h => ⟨r, h, rfl, rfl⟩, fun _ h => h⟩
  | createRoom name =>
    exact ⟨fun _ h => h, fun r h => ⟨r, mem_append_left _ h, rfl, rfl⟩, fun _ h => h⟩
  | closeRoom rid =>
    refine ⟨fun _ h => h, fun r h => ⟨RoomRow.closed rid r, ?_, id_closed rid r,
      name_closed⟩, fun _ h => h⟩
    exact mem_map_of_mem h
  | createMessage rid roomName uid content =>
    exact ⟨fun _ h => h, fun r h => ⟨r, h, rfl, rfl⟩, fun _ h => mem_append_left _ h⟩
  | upsertJoin uid rid =>
    obtain ⟨seen, hseen⟩ := upsertJoin_eq d uid rid
    exact (congrArg (Grows d) hseen).mpr ⟨fun _ h => h, fun r h => ⟨r, h, rfl, rfl⟩, fun _ h => h⟩
  | updateLastSeen uid rid id =>
    obtain ⟨seen, hseen⟩ := setLastSeen_eq d uid rid id
    exact (congrArg (Grows d) hseen).mpr ⟨fun _ h => h, fun r h => ⟨r, h, rfl, rfl⟩, fun _ h => h⟩
  | findUser | updateLastLogin | findRoom | fetchRecent | lastId | getLastSeen => exact .refl d

/-- **Inversion.** The tables after a command are as before, or what the command makes of them;
    its rows are committed unless the transaction was aborted. -/
theorem exec_cases (lower : String → String) (c : Cmd) (fate : Fate) (d : Db) :
    (exec lower c fate d).1 = d ∨ ∃ committed, (exec lower c fate d).1 = d.apply committed c ∧
      (committed = false → fate = .aborted) := by
  unfold exec
  split_ifs
  · exact .inl rfl
  · cases fate with
    | done | unanswered => exact .inr ⟨true, rfl, by simp⟩
    | lost => exact .inl rfl
    | aborted => exact .inr ⟨false, rfl, fun _ => rfl⟩
  · cases fate with
    | done | unanswered => exact .inr ⟨true, rfl, by simp⟩
    | lost | aborted => exact .inl rfl

theorem grows_exec (lower : String → String) (c : Cmd) (fate : Fate) (d : Db) :
    Grows d (exec lower c fate d).1 := by
  obtain hsame | ⟨committed, hdb, -⟩ := exec_cases lower c fate d
  · rw [hsame]
    exact .refl d
  · rw [hdb]
    exact grows_apply

/-- A command that answers was carried out, with or without a commit, and reads what was there
    before. -/
theorem exec_eq_some {c : Cmd} {fate : Fate} {res : c.Res}
    (h : (exec lower c fate d).2 = some res) : ∃ stored told,
    (exec lower c fate d).1 = d.apply stored c ∧ res = d.answer lower told c := by
  unfold exec at h ⊢
  split_ifs at h ⊢
  · cases fate with
    | done => exact ⟨true, true, rfl, (Option.some.inj h).symm⟩
    | lost => cases h
    | unanswered => exact ⟨true, false, rfl, (Option.some.inj h).symm⟩
    | aborted => exact ⟨false, false, rfl, (Option.some.inj h).symm⟩
  · cases fate with
    | done => exact ⟨true, true, rfl, (Option.some.inj h).symm⟩
    | lost | unanswered | aborted => cases h

theorem activeRoom_eq_some {name : String} {row : RoomRow}
    (h : d.activeRoom lower name = some row) :
    row ∈ d.rooms ∧ lower row.name = lower name ∧ row.isActive = true := by
  have hrow : lower row.name = lower name ∧ row.isActive = true :=
    of_decide_eq_true (List.find?_some h :)
  exact ⟨mem_of_find?_eq_some h, hrow⟩

/-- What is fetched are messages of the room. -/
theorem mem_fetchRecent {committed : Bool} {rid : RoomId} {sinceId limit : ℕ} {m : Stored}
    (h : m ∈ d.answer lower committed (.fetchRecent rid sinceId limit)) :
    m.row ∈ d.messages ∧ m.row.roomId = rid := by
  obtain ⟨row, hrow, rfl⟩ := mem_map.mp h
  have hmem := mem_of_mem_filter (mem_of_mem_take hrow)
  obtain ⟨hmem, hroom⟩ := mem_filter.mp hmem
  exact ⟨hmem, (of_decide_eq_true hroom).2⟩

end Db

/-- The fact can be read off what has been written to the database, with or without a commit.
    Facts about something else count as true. -/
def Fact.Holds (lower : String → String) (d : Db) : Fact → Prop
  | .userRow name uid => ∃ u ∈ d.users, u.id = uid ∧ lower u.name = lower name
  | .roomRow room rid => ∃ r ∈ d.rooms, r.id = rid ∧ lower r.name = lower room
  | .listed rid id => ∃ m ∈ d.messages, m.id = id ∧ m.roomId = rid
  | .text id content => ∃ m ∈ d.messages, m.id = id ∧ m.content = content
  | .cached ids m => m.id ∈ ids ∧ ∃ row ∈ d.messages, row.id = m.id ∧ row.content = m.text
  | _ => True

variable {lower : String → String}

/-- What is true of the database stays true. -/
theorem Fact.Holds.mono {d d' : Db} (hd : d.Grows d') {f : Fact} (h : f.Holds lower d) :
    f.Holds lower d' := by
  cases f with
  | userRow name uid =>
    obtain ⟨u, hu, hid, hname⟩ := h
    exact ⟨u, hd.users u hu, hid, hname⟩
  | roomRow room rid =>
    obtain ⟨r, hr, hid, hname⟩ := h
    obtain ⟨r', hr', hid', hname'⟩ := hd.rooms r hr
    exact ⟨r', hr', hid'.trans hid, hname' ▸ hname⟩
  | listed rid id =>
    obtain ⟨m, hm, hid, hroom⟩ := h
    exact ⟨m, hd.messages m hm, hid, hroom⟩
  | text id content =>
    obtain ⟨m, hm, hid, hcontent⟩ := h
    exact ⟨m, hd.messages m hm, hid, hcontent⟩
  | cached ids m =>
    obtain ⟨hmem, row, hrow, hid, hcontent⟩ := h
    exact ⟨hmem, row, hd.messages row hrow, hid, hcontent⟩
  | password | hash | mayList | located | cleared | passed | audience | named | hearers => trivial

/-- **What a command to the database tells is true.** -/
theorem holds_of_learned_db {c : Db.Cmd} {fate : Fate} {d : Db} {f : Fact}
    (h : f ∈ learned (.db c) (Db.exec lower c fate d).2) :
    f.Holds lower (Db.exec lower c fate d).1 := by
  have htells := tells_of_learned h
  generalize hans : (Db.exec lower c fate d).2 = ans at htells
  cases htells <;> obtain ⟨stored, told, hdb, hres⟩ := exec_eq_some hans <;> rw [hdb]
  case foundUser name row =>
    have hfind : d.users.find? (fun u => u.committed ∧ lower u.name = lower name) = some row :=
      hres.symm
    have hrow : row.committed = true ∧ lower row.name = lower name :=
      of_decide_eq_true (List.find?_some hfind :)
    exact ⟨row, mem_of_find?_eq_some hfind, rfl, hrow.2⟩
  case createdUser name uid committed =>
    obtain rfl : uid = d.nextUser := congrArg Prod.fst hres
    exact ⟨⟨d.nextUser, name, stored⟩, mem_append_right _ (mem_singleton.mpr rfl), rfl, rfl⟩
  case foundRoom room row =>
    obtain ⟨hmem, hname, -⟩ := activeRoom_eq_some hres.symm
    exact ⟨row, hmem, rfl, hname⟩
  case createdRoom room rid =>
    subst hres
    exact ⟨⟨d.nextRoom, room, true⟩, mem_append_right _ (mem_singleton.mpr rfl), rfl, rfl⟩
  case stored id _ | storedText id _ =>
    obtain rfl : id = d.lastMessage + 1 := congrArg Prod.fst hres
    exact ⟨_, mem_append_right _ (mem_singleton.mpr rfl), rfl, rfl⟩
  case fetched rid sinceId limit rows m hm =>
    subst hres
    obtain ⟨hmem, hroom⟩ := mem_fetchRecent hm
    exact ⟨m.row, hmem, rfl, hroom⟩
  case fetchedText rid sinceId limit rows m hm =>
    subst hres
    exact ⟨m.row, (mem_fetchRecent hm).1, rfl, rfl⟩

/-- A step leaves the database alone, or carries out a command. -/
theorem Cluster.db_next {cfg : ℕ → Config} {c : Cluster} {inp : Cluster.Input} :
    ((cluster cfg).next c inp).stores.db = c.stores.db ∨ ∃ lower cmd fate,
      ((cluster cfg).next c inp).stores.db = (Db.exec lower cmd fate c.stores.db).1 := by
  cases hact : ((cluster cfg).step c inp).2 with
  | none =>
    obtain hsame | ⟨room, rfl⟩ | ⟨id, rfl⟩ := stores_of_no_action hact
    · exact .inl (congrArg Stores.db hsame)
    · exact .inl rfl
    · exact .inl rfl
  | some act =>
    obtain ⟨x, fate, -, -, hstores⟩ := exec_of_step hact
    rw [hstores]
    obtain ⟨i, k, j, o, a⟩ := act
    cases o with
    | db cmd => exact .inr ⟨(cfg i).lower, cmd, fate, rfl⟩
    | lock | redis | send | stop => exact .inl rfl

/-- Rows are added but not taken away along the steps of a cluster. -/
theorem Cluster.grows_next (cfg : ℕ → Config) (c : Cluster) (inp : Cluster.Input) :
    c.stores.db.Grows ((cluster cfg).next c inp).stores.db := by
  obtain hdb | ⟨lower, cmd, fate, hdb⟩ := db_next
  · rw [hdb]
    exact .refl _
  · rw [hdb]
    exact grows_exec lower cmd fate c.stores.db

end Knights.Chat
