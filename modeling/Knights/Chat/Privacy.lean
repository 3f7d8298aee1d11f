import Knights.Chat.Membership
import Knights.Chat.Knowledge

namespace Knights.Chat

open Lib List Instance

/-!
# Who sees the members of a locked room

A list of members goes out in two ways: `send_room_users` checks in a section whether the viewer
may see it, and a refresh shows the viewer the room it was found in.  In both cases the list is
sent later, when other jobs have been at work, and the check knows only the passwords that the
service itself has.

* `exists_check`, `exists_location` — what went before a list that is sent, in any run;
* `member_of_check`, `member_of_location` — what that says about the viewer at that time;
* `locked_room_privacy` — lists of locked rooms go to members only, if the check knew of the lock
  and the viewer has not left when the list is sent.
-/

/-! ### Lists and checks -/

/-- A list of the users of a room, and to whom it is shown. -/
structure Listing where
  viewer : Session
  room : String
  users : List String
  deriving DecidableEq, Repr

/-- The list that an action sends: that of `send_room_users`, or that in the snapshot of a
    refresh. -/
def Action.lists? (act : Action) : Option Listing :=
  match act.op with
  | .send t (.roomUsers room users) => some ⟨t, room, users⟩
  | .send t (.snapshot snap) =>
    if act.job.isRefresh then some ⟨t, snap.currentRoom, snap.users⟩ else none
  | _ => none

/-- The check of `send_room_users`: for whom, and of which room. -/
def Action.checks? (act : Action) : Option (Session × String) :=
  match act.op with
  | .lock (.roomUsersCheck s room) => some (s, room)
  | _ => none

/-- The room in which a refresh finds a session, if any; it shows the lobby if there is none. -/
def Action.finds? : Action → Option (Session × Option String)
  | ⟨_, _, _, .lock (.currentRoom s), found⟩ => some (s, found)
  | _ => none

namespace Cluster

variable {cfg : ℕ → Config} {c : Cluster} {i k n : ℕ} {t : Session} {room : String} {j : Job}

/-- The room has a password, with one of the services or in Redis. -/
def Locked (c : Cluster) (room : String) : Prop :=
  (∃ x ∈ c.insts, x.st.roomPasswords.lookup room ≠ none) ∨
    c.stores.redis.password.lookup room ≠ none

/-- Service `i` has a password for the room. -/
def LockedAt (c : Cluster) (i : ℕ) (room : String) : Prop :=
  ∃ x ∈ c.insts[i]?, x.st.roomPasswords.lookup room ≠ none

/-- The session is a member of the room, on service `i`. -/
def Member (c : Cluster) (i : ℕ) (t : Session) (room : String) : Prop :=
  ∃ x ∈ c.insts[i]?, t ∈ membersOf x.st.rooms room

instance (c : Cluster) (room : String) : Decidable (c.Locked room) :=
  inferInstanceAs (Decidable (_ ∨ _))

instance (c : Cluster) (i : ℕ) (room : String) : Decidable (c.LockedAt i room) :=
  inferInstanceAs (Decidable (∃ x ∈ c.insts[i]?, x.st.roomPasswords.lookup room ≠ none))

instance (c : Cluster) (i : ℕ) (t : Session) (room : String) : Decidable (c.Member i t room) :=
  inferInstanceAs (Decidable (∃ x ∈ c.insts[i]?, t ∈ membersOf x.st.rooms room))

end Cluster

/-! ### The check -/

theorem State.exists_of_seek {live : Session → Bool} {addr : ℕ} {set : RoomSet}
    (h : (seek live addr set).2 = true) : ∃ p ∈ set, live p = true ∧ p.addr = addr := by
  induction set with
  | nil => cases h
  | cons q rest ih =>
    unfold seek at h
    split_ifs at h with hlive haddr
    · exact ⟨q, mem_cons_self, hlive, haddr⟩
    · obtain ⟨p, hp, hfound⟩ := ih h
      exact ⟨p, mem_cons_of_mem _ hp, hfound⟩
    · obtain ⟨p, hp, hfound⟩ := ih h
      exact ⟨p, mem_cons_of_mem _ hp, hfound⟩

/-- A check that is passed found no password, or the viewer among the members. -/
theorem State.passed_roomUsersCheck {live : Session → Bool} {st : State} {s : Session}
    {room : String} (h : (st.roomUsersCheck live s room).2.1 = true) :
    st.roomPasswords.lookup room = none ∨
      ∃ p ∈ membersOf st.rooms room, live p = true ∧ p.addr = s.addr := by
  unfold roomUsersCheck at h
  cases hset : st.rooms.lookup room with
  | none =>
    rw [hset] at h
    left
    simpa using h
  | some set =>
    rw [hset] at h
    obtain hopen | hseek := Bool.or_eq_true_iff.mp h
    · left
      simpa using hopen
    · right
      rw [membersOf_of_lookup hset]
      exact exists_of_seek hseek

namespace Cluster

variable {cfg : ℕ → Config} {n i k : ℕ} {stores : Stores} {is : List Input} {inp : Input}
  {t : Session} {room : String} {j : Job}

/-- A section of a run is run by a sound service, with what its job needs, while the session of the
    job is alive. -/
theorem section_of_event {e : ClusterEvent} {cr : Critical} {ans : cr.Ans}
    (he : e ∈ (cluster cfg).trace (fresh n stores) is)
    (hout : e.output = some ⟨i, k, j, .lock cr, ans⟩) : ∃ x, e.pre.insts[i]? = some x ∧
    x.Sound (cfg i) ∧ Needs (cfg i) j Set.univ (.lock cr) ∧
    (∀ t, j.session = some t → x.live t = true) ∧ ans = (cr.exec (cfg i) x.live x.st).2 := by
  obtain ⟨pre, post, -, hpre, hstep⟩ := (cluster cfg).mem_trace.mp he
  have hsound := sound_run cfg n stores pre
  rw [← hpre] at hsound
  obtain ⟨x, inp, -, hx, hact⟩ := action_of_step (hstep.symm.trans hout)
  have hxs := hsound i x hx
  obtain ⟨fate, q, htask, hans, -⟩ := exec_of_action hact
  exact ⟨x, hx, hxs, needs_of_task hxs htask, hxs.held _ (mem_of_getElem? htask) rfl, hans⟩

/-- A viewer who passes the check is a member, or the service has no password for the room. -/
theorem member_of_check {e : ClusterEvent}
    (he : e ∈ (cluster cfg).trace (fresh n stores) is) {viewer : String}
    (hout : e.output = some ⟨i, k, j, .lock (.roomUsersCheck t room), (true, viewer)⟩) :
    ¬ e.pre.LockedAt i room ∨ e.pre.Member i t room := by
  obtain ⟨x, hx, hxs, hjob, hheld, hans⟩ := section_of_event he hout
  have hcheck : (x.st.roomUsersCheck x.live t room).2.1 = true := congrArg Prod.fst hans.symm
  obtain hopen | ⟨p, hp, hlive, haddr⟩ := State.passed_roomUsersCheck hcheck
  · left
    rintro ⟨z, hz, hlocked⟩
    obtain rfl : x = z := Option.mem_unique hx hz
    exact hlocked hopen
  · right
    -- the job keeps the viewer alive, so the address is the viewer's
    obtain rfl := hxs.addr_inj p t hlive (hheld t hjob) haddr
    exact ⟨x, hx, hp⟩

/-- A viewer whom a refresh finds in a room is a member of it, if logins are orderly. -/
theorem member_of_location
    (horderly : (cluster cfg).Guarded (Each OrderlyLogins) (fresh n stores) is)
    {e : ClusterEvent} (he : e ∈ (cluster cfg).trace (fresh n stores) is)
    (hout : e.output = some ⟨i, k, j, .lock (.currentRoom t), some room⟩) :
    e.pre.Member i t room := by
  obtain ⟨x, hx, -, hjob, hheld, hans⟩ := section_of_event he hout
  obtain ⟨pre, post, his, hpre, -⟩ := (cluster cfg).mem_trace.mp he
  have hconsistent : x.Consistent := by
    rw [his] at horderly
    rw [hpre] at hx
    exact consistent_of_guarded (((cluster cfg).guarded_append _ _ _ _).mp horderly).1 i x hx
  have hcur : x.st.curRoom.lookup t.addr = some room := hans.symm
  exact ⟨x, hx, (hconsistent t (hheld t hjob) room).mpr hcur⟩

/-- **Before a list.** Whoever is sent the users of a room has passed the check in the same job. -/
theorem exists_check {users : List String}
    (h : ((cluster cfg).step ((cluster cfg).run (fresh n stores) is) inp).2 =
      some ⟨i, k, j, .send t (.roomUsers room users), ()⟩) :
    ∃ e ∈ (cluster cfg).trace (fresh n stores) is, ∃ j' viewer,
      e.output = some ⟨i, k, j', .lock (.roomUsersCheck t room), (true, viewer)⟩ := by
  have hneed := needed_of_step (informed_run cfg n stores is) h
  obtain ⟨e, he, ⟨i', k', j', o, a⟩, hact, rfl, rfl, hf⟩ := hneed
  cases tells_of_learned hf with
  | mayList s room viewer => exact ⟨e, he, j', viewer, hact⟩

/-- **Before a refresh.** Whoever is sent the snapshot of a refresh was found in its room in the
    same job. -/
theorem exists_location {snap : Snapshot} (hj : j.isRefresh = true)
    (h : ((cluster cfg).step ((cluster cfg).run (fresh n stores) is) inp).2 =
      some ⟨i, k, j, .send t (.snapshot snap), ()⟩) :
    ∃ e ∈ (cluster cfg).trace (fresh n stores) is, ∃ j' found,
      e.output = some ⟨i, k, j', .lock (.currentRoom t), found⟩ ∧
      snap.currentRoom = found.getD "lobby" := by
  have hneed := needed_of_step (informed_run cfg n stores is) h
  obtain ⟨found, ⟨e, he, ⟨i', k', j', o, a⟩, hact, rfl, rfl, hf⟩, hroom⟩ := hneed.2 hj
  cases tells_of_learned hf with
  | located s _ => exact ⟨e, he, j', _, hact, hroom⟩

/-! ### Whole runs -/

/-- What a list of a room that has a password relies on: at the check for it, in `c'`, the
    password was known, or a refresh has found its viewer in a room; and a viewer who was a member
    then has not left in between. -/
structure Trusted (c' c : Cluster) (act' act : Action) (l : Listing) : Prop where
  checked : act'.checks? = some (l.viewer, l.room) → c'.LockedAt act.inst l.room ∧
    (c'.Member act.inst l.viewer l.room → c.Member act.inst l.viewer l.room)
  found : ∀ f ∈ act'.finds?, f.1 = l.viewer → act.job.isRefresh = true → f.2 ≠ none ∧
    (c'.Member act.inst l.viewer l.room → c.Member act.inst l.viewer l.room)

instance (c' c : Cluster) (act' act : Action) (l : Listing) : Decidable (Trusted c' c act' act l) :=
  decidable_of_iff (_ ∧ _) ⟨fun h => ⟨h.1, h.2⟩, fun h => ⟨h.checked, h.found⟩⟩

/-- The second event sends no list of a room that has a password, or one that can trust what
    the first did in the same job. -/
def Calm (e' e : ClusterEvent) : Prop :=
  ∀ act ∈ e.output, ∀ l ∈ act.lists?, ∀ act' ∈ e'.output, act'.inst = act.inst →
    act'.task = act.task → e.pre.Locked l.room → Trusted e'.pre e.pre act' act l

instance (e' e : ClusterEvent) : Decidable (Calm e' e) :=
  inferInstanceAs (Decidable (∀ act ∈ e.output, ∀ l ∈ act.lists?, ∀ act' ∈ e'.output,
    act'.inst = act.inst → act'.task = act.task → e.pre.Locked l.room →
      Trusted e'.pre e.pre act' act l))

/-- A list goes to a member, or is of a room without a password. -/
def Discreet (c : Cluster) (act : Action) : Prop :=
  ∀ l ∈ act.lists?, c.Locked l.room → c.Member act.inst l.viewer l.room

/-- **Locked rooms are private.** In a run of any number of services, in which checks know of the
    passwords of the rooms whose lists they let pass, refreshes find their viewers in rooms, and
    viewers do not leave between the check and the list, no member list of a room that has a
    password anywhere is sent to a session that is not a member.  For the lists of refreshes,
    logins have to be orderly: else a viewer is found in a room without being a member of it. -/
theorem locked_room_privacy (cfg : ℕ → Config) (n : ℕ) (stores : Stores) (is : List Input)
    (hcalm : ((cluster cfg).trace (fresh n stores) is).Pairwise Calm) :
    ∀ e ∈ (cluster cfg).trace (fresh n stores) is, ∀ act ∈ e.output,
      (act.job.isRefresh = true →
        (cluster cfg).Guarded (Each OrderlyLogins) (fresh n stores) is) →
      e.pre.Discreet act := by
  intro e he act hact horderly l hl hlocked
  obtain ⟨pre, post, his, hpre, hout⟩ := (cluster cfg).mem_trace.mp he
  obtain ⟨e₀, inp, out⟩ := e
  dsimp only at his hpre hout hact hlocked
  subst hpre hout
  rw [his, Machine.trace_append, Machine.trace_cons] at hcalm
  rw [his, (cluster cfg).guarded_append] at horderly
  have hearlier : ∀ e' ∈ (cluster cfg).trace (fresh n stores) pre,
      Calm e' ⟨(cluster cfg).run (fresh n stores) pre, inp, _⟩ :=
    fun e' he' => (pairwise_append.mp hcalm).2.2 e' he' _ mem_cons_self
  obtain ⟨i, k, j, o, a⟩ := act
  cases o with
  | send t m =>
    cases m
    case roomUsers room users =>
      obtain rfl : Listing.mk t room users = l := Option.some.inj hl
      obtain ⟨e', he', j', viewer, hcheck⟩ := exists_check hact
      have htrust := hearlier e' he' _ hact _ rfl _ hcheck rfl rfl hlocked
      obtain ⟨hknown, hstays⟩ := htrust.checked rfl
      exact (member_of_check he' hcheck).elim (absurd hknown) hstays
    case snapshot snap =>
      by_cases hj : j.isRefresh = true
      · have hsnap : some (Listing.mk t snap.currentRoom snap.users) = some l := by
          rw [← show Action.lists? ⟨i, k, j, .send t (.snapshot snap), a⟩ = some l from hl]
          exact (if_pos hj).symm
        obtain rfl := Option.some.inj hsnap
        obtain ⟨e', he', j', found, hfind, hroom⟩ := exists_location hj hact
        have htrust := hearlier e' he' _ hact _ hl _ hfind rfl rfl hlocked
        obtain ⟨hfound, hstays⟩ := htrust.found (t, found) rfl rfl hj
        obtain ⟨room, rfl⟩ := Option.ne_none_iff_exists'.mp hfound
        obtain rfl : snap.currentRoom = room := hroom
        exact hstays (member_of_location (horderly hj).1 he' hfind)
      · have hnone : Action.lists? ⟨i, k, j, .send t (.snapshot snap), a⟩ = none := if_neg hj
        rw [hnone] at hl
        cases hl
    all_goals cases hl
  | lock | redis | db | stop => cases hl

end Cluster

/-- A session logs in and makes a room with a password. -/
def lockedRoom : List Cluster.Input :=
  logIn 0 0 .one "alice" ++ serve 0 1 50 (.join .one "x" "pw" "" none)

/-- It asks who is there, and for a refresh. -/
def memberAsks : List Cluster.Input :=
  lockedRoom ++ serve 0 2 10 (.roomUsers .one "x") ++ serve 0 3 30 (.refresh .one)

/-- Both lists go out, and to a member. -/
theorem locked_room_privacy_memberAsks :
    ((samples.trace (.fresh 1 {}) memberAsks).filterMap fun e =>
      e.output.bind (·.lists?)) = [⟨.one, "x", ["alice"]⟩, ⟨.one, "x", ["alice"]⟩] ∧
    ∀ e ∈ samples.trace (.fresh 1 {}) memberAsks, ∀ act ∈ e.output, e.pre.Discreet act := by
  refine ⟨by decide +kernel, fun e he act hact => ?_⟩
  exact Cluster.locked_room_privacy (fun _ => .sample) 1 {} memberAsks (by decide +kernel) e he
    act hact fun _ => by decide +kernel

/-- A session on another service asks who is there. -/
def outsiderAsks : List Cluster.Input :=
  lockedRoom ++ logIn 1 0 .two "bob" ++ serve 1 1 10 (.roomUsers .two "x")

/-- The password is in Redis, and the list goes to somebody who is a member nowhere. -/
theorem outsider_sees_members :
    ∃ e ∈ samples.trace (.fresh 2 {}) outsiderAsks, ∃ act ∈ e.output,
      act.lists? = some ⟨.two, "x", ["alice"]⟩ ∧
      e.pre.stores.redis.password.lookup "x" = some "sha256:pw" ∧
      ∀ x ∈ e.pre.insts, .two ∉ membersOf x.st.rooms "x" := by
  decide +kernel

end Knights.Chat
