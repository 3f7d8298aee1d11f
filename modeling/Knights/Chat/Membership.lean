import Knights.Chat.Soundness

namespace Knights.Chat

open Lib Table Cluster RoomSet

/-!
# Rooms and the rooms that sessions are in

Two tables say where a session is: `rooms` lists the members of a room, `curRoom` the room of a
session.  `Placed` says that they agree on a session and `Consistent` that they do so on all
sessions that are alive.

A login puts its session into the lobby without taking it out of the room that it is in.  So
`consistent_iff_guarded` has a condition: the tables agree after every prefix of a run exactly
when every login takes effect in the lobby or outside of rooms, and no session gets an address
that the tables still know (`OrderlyLogins`).
-/

namespace State

variable {cfg : Config} {live : Session → Bool} {st st' : State} {s p : Session}
  {r room name : String}

/-- The tables agree on where a session is. -/
def Placed (st : State) (p : Session) : Prop :=
  ∀ r, p ∈ membersOf st.rooms r ↔ st.curRoom.lookup p.addr = some r

section

variable (h : Placed st p)
include h

theorem Placed.of_tidied (hp : live p = true) (ht : Tidied live st st') : Placed st' p := by
  intro r
  rw [ht.rooms.mem_iff hp, ht.curRoom]
  exact h r

/-- Only tables about something else changed. -/
theorem Placed.of_eq (hrooms : st'.rooms = st.rooms)
    (hcur : st'.curRoom = st.curRoom) : Placed st' p := by
  unfold Placed
  rw [hrooms, hcur]
  exact h

theorem Placed.cachePassword (req : JoinRequest) : Placed (st.cachePassword req) p :=
  h.of_eq same_cachePassword.2.1 (curRoom_of_people same_cachePassword.1)

/-- A login of another session, or from the lobby, or from no room. -/
theorem placed_loginCommit_iff {l : Login} (haddr : p.addr = s.addr → p = s) :
    Placed (st.loginCommit s l) p ↔
      (p = s → ∀ room, st.curRoom.lookup s.addr = some room → room = "lobby") := by
  have hcur : (st.loginCommit s l).curRoom.lookup p.addr =
      if p.addr = s.addr then some "lobby" else st.curRoom.lookup p.addr :=
    lookup_insert_ite ..
  have hmem : ∀ r, p ∈ membersOf (st.loginCommit s l).rooms r ↔
      p ∈ membersOf st.rooms r ∨ r = "lobby" ∧ p = s := fun r => mem_enter
  unfold Placed
  simp only [hmem, hcur, h _]
  by_cases hps : p = s
  · subst hps
    constructor
    · intro hplaced _ room hroom
      have := (hplaced room).mp (.inl hroom)
      rw [if_pos rfl] at this
      exact (Option.some.inj this).symm
    · intro hlobby r
      rw [if_pos rfl]
      constructor
      · rintro (hr | ⟨hr, -⟩)
        · rw [hlobby rfl r hr]
        · rw [hr]
      · intro hr
        exact .inr ⟨(Option.some.inj hr).symm, rfl⟩
  · have hne : p.addr ≠ s.addr := fun ha => hps (haddr ha)
    refine ⟨fun _ hps' => absurd hps' hps, fun _ r => ?_⟩
    rw [if_neg hne]
    simp [hps]

/-- A kick moves the sessions of its target that are in the room, and no others. -/
theorem placed_kick {target : String} {set : RoomSet}
    (hlive : ∀ q, live q = true → q.addr = p.addr → q = p) :
    Placed ((st.moveKicked live set target room).afterKick live target room) p := by
  intro r
  rw [mem_afterKick, mem_moveKicked, curRoom_of_people people_afterKick, curRoom_moveKicked, h r]
  by_cases hk : p ∈ st.kickTargets live set room
  · have hcur : st.curRoom.lookup p.addr = some room := (mem_kickTargets.mp hk).2.2
    rw [if_pos ⟨p, hk, rfl⟩, hcur]
    constructor
    · rintro (⟨hr, hleft⟩ | ⟨hr, -⟩)
      · exact absurd hk (hleft (Option.some.inj hr).symm)
      · rw [hr]
    · intro hr
      exact .inr ⟨(Option.some.inj hr).symm, hk⟩
  · have hno : ¬ ∃ q ∈ st.kickTargets live set room, q.addr = p.addr := by
      rintro ⟨q, hq, ha⟩
      have hqlive : live q = true := (mem_kickTargets.mp hq).2.1
      exact hk (hlive q hqlive ha ▸ hq)
    rw [if_neg hno]
    simp [hk]

variable (hp : live p = true) (haddr : p.addr = s.addr → p = s)
include hp haddr

/-- A join moves its session from one room to another. -/
theorem placed_completeJoin {req : JoinRequest} {hash : Option String} :
    Placed (st.completeJoin live s req hash).1 p := by
  intro r
  rw [mem_completeJoin, curRoom_completeJoin, lookup_insert_ite, h r]
  by_cases hps : p = s
  · subst hps
    rw [if_pos rfl]
    constructor
    · rintro ⟨-, ⟨hr, -⟩ | ⟨hr, hleft⟩⟩
      · rw [hr]
      · by_cases hreq : r = req.room
        · rw [hreq]
        · exact absurd rfl (hleft hr hreq).1
    · intro hr
      exact ⟨fun _ => hp, .inl ⟨(Option.some.inj hr).symm, rfl⟩⟩
  · have hne : p.addr ≠ s.addr := fun ha => hps (haddr ha)
    rw [if_neg hne]
    simp [hps, hp]

/-- A leave moves its session into the lobby. -/
theorem placed_leaveRoom
    (hroom : st.curRoom.lookup s.addr = some room) :
    Placed ((st.vacate live s room name).enter s "lobby") p := by
  have hvac : (st.vacate live s room name).curRoom = st.curRoom := curRoom_of_people people_vacate
  have hcur : ((st.vacate live s room name).enter s "lobby").curRoom.lookup p.addr =
      if p.addr = s.addr then some "lobby" else st.curRoom.lookup p.addr := by
    rw [← hvac]
    exact lookup_insert_ite ..
  intro r
  rw [mem_enter, mem_vacate, hcur, h r]
  by_cases hps : p = s
  · subst hps
    rw [if_pos rfl]
    constructor
    · rintro (⟨hr, hleft⟩ | ⟨hr, -⟩)
      · rw [hroom] at hr
        exact absurd rfl (hleft (Option.some.inj hr).symm).1
      · rw [hr]
    · intro hr
      exact .inr ⟨(Option.some.inj hr).symm, rfl⟩
  · have hne : p.addr ≠ s.addr := fun ha => hps (haddr ha)
    rw [if_neg hne]
    simp [hps, hp]

/-- A close takes its session out of its room. -/
theorem placed_closeSession : Placed (st.closeSession live s).1 p := by
  have hcur : (st.closeSession live s).1.curRoom.lookup p.addr =
      if p.addr = s.addr then none else st.curRoom.lookup p.addr := by
    rw [curRoom_closeSession]
    exact lookup_erase_ite ..
  intro r
  rw [mem_rooms_closeSession, hcur, h r]
  by_cases hps : p = s
  · subst hps
    rw [if_pos rfl]
    constructor
    · rintro ⟨hr, hleft⟩
      exact absurd rfl (hleft hr).1
    · intro hr
      cases hr
  · have hne : p.addr ≠ s.addr := fun ha => hps (haddr ha)
    rw [if_neg hne]
    simp [hps, hp]

end

/-- A removal moves the members of the room, and no others. -/
theorem placed_removeRoom (h : ∀ q, live q = true → Placed st q) (hp : live p = true)
    (hlive : ∀ q, live q = true → q.addr = p.addr → q = p) (hroom : room ≠ "lobby") :
    Placed ((st.enterLobby ((membersOf st.rooms room).prune live)).eraseRoom room) p := by
  have hcur : ((st.enterLobby ((membersOf st.rooms room).prune live)).eraseRoom
      room).curRoom.lookup p.addr =
        if ∃ q ∈ (membersOf st.rooms room).prune live, q.addr = p.addr then some "lobby"
        else st.curRoom.lookup p.addr := curRoom_enterLobby
  intro r
  rw [mem_eraseRoom, mem_enterLobby, hcur, h p hp r]
  by_cases hm : p ∈ membersOf st.rooms room
  · have hmoved : p ∈ (membersOf st.rooms room).prune live := mem_prune.mpr ⟨hp, hm⟩
    have hin : st.curRoom.lookup p.addr = some room := (h p hp room).mp hm
    rw [if_pos ⟨p, hmoved, rfl⟩, hin]
    constructor
    · rintro ⟨hr, hstay | ⟨hlobby, -⟩⟩
      · exact absurd (Option.some.inj hstay).symm hr
      · rw [hlobby]
    · intro hr
      have hr : r = "lobby" := (Option.some.inj hr).symm
      exact ⟨hr ▸ hroom.symm, .inr ⟨hr, hmoved⟩⟩
  · have hnot : p ∉ (membersOf st.rooms room).prune live :=
      fun hmem => hm (mem_prune.mp hmem).2
    have hno : ¬ ∃ q ∈ (membersOf st.rooms room).prune live, q.addr = p.addr := by
      rintro ⟨q, hq, ha⟩
      exact hnot (hlive q (mem_prune.mp hq).1 ha ▸ hq)
    rw [if_neg hno]
    constructor
    · rintro ⟨-, hin | ⟨-, hmoved⟩⟩
      · exact hin
      · exact absurd hmoved hnot
    · intro hin
      refine ⟨fun hr => hm ?_, .inl hin⟩
      exact (h p hp room).mpr (hr ▸ hin)

/-- Every section but a login keeps sessions placed; a login does exactly when it takes effect
    in the lobby or outside of rooms. -/
theorem placed_exec {c : Critical} (hplaced : ∀ q, live q = true → Placed st q)
    (hinj : ∀ q q', live q = true → live q' = true → q.addr = q'.addr → q = q')
    (hactor : ∀ s, c.actor = some s → live s = true)
    (hlobby : ∀ s room, c = .removeRoom s room → room ≠ "lobby")
    (hp : live p = true) (hc : ∀ s l, c ≠ .loginCommit s l) :
    Placed (c.exec cfg live st).1 p := by
  have h := hplaced p hp
  have hout := outcome_exec cfg live st c
  generalize (c.exec cfg live st).1 = st' at hout ⊢
  cases hout with
  | tidied _ ht => exact h.of_tidied hp ht
  | sessionUuid | register | setUserUuid | forgotten | idCached | invited => exact h
  | loginCommit s l => exact absurd rfl (hc s l)
  | notJoined s req => exact h.cachePassword req
  | joined s req hash _ _ _ =>
    exact placed_completeJoin (h.cachePassword req) hp (hinj p s hp (hactor s rfl))
  | left s room denied cur _ hcur => exact placed_leaveRoom h hp (hinj p s hp (hactor s rfl)) hcur
  | closed s => exact placed_closeSession h hp (hinj p s hp (hactor s rfl))
  | kicked s target room set _ _ => exact placed_kick h fun q hq => hinj q p hq hp
  | removed s room _ =>
    exact placed_removeRoom hplaced hp (fun q hq => hinj q p hq hp) (hlobby s room rfl)

end State

namespace Instance

variable {cfg : Config} {x : Instance} {y : Stores}

/-- The tables agree on where the sessions are that are alive. -/
def Consistent (x : Instance) : Prop := ∀ p, x.live p = true → x.st.Placed p

/-- Logins take effect in the lobby or outside of rooms, and a new session gets an address
    that has no entry any more. -/
def OrderlyLogins (x : Instance) (inp : Input) : Prop :=
  x.OnStep (fun s => x.st.curRoom.lookup s.addr = none)
    (fun o => ∀ s l, o = .lock (.loginCommit s l) →
      ∀ room, x.st.curRoom.lookup s.addr = some room → room = "lobby")
    (fun _ => True) inp

instance (x : Instance) (inp : Input) : Decidable (x.OrderlyLogins inp) :=
  inferInstanceAs (Decidable (x.OnStep _ _ _ inp))

/-- A session that was just accepted is in no room. -/
theorem placed_of_mayAccept (hx : x.Sound cfg) {s : Session} (h : x.mayAccept s = true) :
    x.st.Placed s ↔ x.st.curRoom.lookup s.addr = none := by
  have hnot : ∀ r, s ∉ membersOf x.st.rooms r :=
    fun r hs => not_known_of_mayAccept h (hx.known_rooms r s hs)
  simp only [State.Placed, hnot, false_iff]
  exact Option.eq_none_iff_forall_ne_some.symm

/-- An operation keeps a consistent service consistent, unless it is a disorderly login. -/
theorem consistent_perform_iff (hx : x.Sound cfg) (h : x.Consistent) {k : ℕ} {fate : Fate}
    {j : Job} {o : Op} {p : o.Ans → Handler Unit} (ht : x.tasks[k]? = some (j, .act o p)) :
    (∀ q, x.live q = true → (o.exec cfg fate (x.world y)).1.st.Placed q) ↔
      ∀ s l, o = .lock (.loginCommit s l) →
        ∀ room, x.st.curRoom.lookup s.addr = some room → room = "lobby" := by
  by_cases hlogin : ∃ s l, o = .lock (.loginCommit s l)
  · obtain ⟨s, l, rfl⟩ := hlogin
    have hs : x.live s = true := live_of_actor hx ht rfl
    have hiff : ∀ q, x.live q = true → ((x.st.loginCommit s l).Placed q ↔
        (q = s → ∀ room, x.st.curRoom.lookup s.addr = some room → room = "lobby")) :=
      fun q hq => State.placed_loginCommit_iff (h q hq) (hx.addr_inj q s hq hs)
    constructor
    · rintro hcons s' l' ⟨⟩
      exact (hiff s hs).mp (hcons s hs) rfl
    · intro horder q hq
      exact (hiff q hq).mpr fun _ => horder s l rfl
  · refine ⟨fun _ s l ho => absurd ⟨s, l, ho⟩ hlogin, fun _ q hq => ?_⟩
    refine st_exec (P := fun st => st.Placed q) (h q hq) ?_
    rintro c rfl
    refine State.placed_exec h hx.addr_inj (fun s hs => live_of_actor hx ht hs) ?_ hq ?_
    · rintro s room rfl
      exact (needs_of_task hx ht).2
    · rintro s l rfl
      exact hlogin ⟨s, l, rfl⟩

/-- **One step.** Of a consistent service, a step makes another one exactly when it is
    orderly. -/
theorem consistent_step_iff (hx : x.Sound cfg) (h : x.Consistent) (inp : Input) :
    (x.step cfg y inp).1.Consistent ↔ x.OrderlyLogins inp := by
  refine holds_step_iff (P := fun st live => ∀ q, live q = true → st.Placed q) inp h ?_ ?_ ?_
  · intro s hacc
    rw [← placed_of_mayAccept hx hacc]
    exact forall_live_connected.trans ⟨And.left, fun hs => ⟨hs, h⟩⟩
  · exact fun k fate j o p ht => consistent_perform_iff hx h ht
  · exact fun s _ _ => ⟨fun _ => trivial, fun _ q hq => h q (live_gone_iff.mp hq).2⟩

end Instance

open Instance in
/-- **Consistent runs.** Orderly logins keep the tables in agreement. -/
theorem consistent_of_guarded {cfg : ℕ → Config} {n : ℕ} {stores : Stores} {is : List Cluster.Input}
    (hG : (cluster cfg).Guarded (Cluster.Each OrderlyLogins) (.fresh n stores) is) :
    ((cluster cfg).run (.fresh n stores) is).All fun _ x => x.Consistent := by
  have hall := all_guarded_run (I := fun i x => x.Sound (cfg i) ∧ x.Consistent)
    (fun _ _ _ inp h hG => ⟨sound_step h.1 inp, (consistent_step_iff h.1 h.2 inp).mpr hG⟩)
    (all_fresh (fun i => ⟨sound_new (cfg i), nofun⟩) n stores) hG
  exact fun i x hx => (hall i x hx).2

open Instance in
/-- **Membership.** In a run of services from their start, whatever the stores hold, the
    tables agree after every prefix on where the sessions are that are alive, exactly when
    every step is orderly: logins take effect in the lobby or outside of rooms, and new
    sessions get addresses without an entry. -/
theorem consistent_iff_guarded (cfg : ℕ → Config) (n : ℕ) (stores : Stores)
    (is : List Cluster.Input) :
    (∀ pre, pre <+: is → ((cluster cfg).run (.fresh n stores) pre).All fun _ x => x.Consistent) ↔
    (cluster cfg).Guarded (Cluster.Each OrderlyLogins) (.fresh n stores) is := by
  refine forall_prefix_iff_guarded (J := fun i x => x.Sound (cfg i))
    (fun i x y inp hx => sound_step hx inp)
    (fun i x y inp hx h => consistent_step_iff hx h inp) ?_ ?_ is
  · exact all_fresh (fun i => sound_new (cfg i)) n stores
  · exact all_fresh (fun i p hp => nomatch hp) n stores

/-- A session logs in, joins a room and logs in once more. -/
def secondLogin : List Cluster.Input :=
  logIn 0 0 .one "alice" ++ serve 0 1 60 (.join .one "x" "" "" none) ++
  serve 0 2 30 (.login .one { user := "alice2" })

/-- The second login leaves the session in two rooms. -/
theorem secondLogin_two_rooms :
    ∃ x, (samples.run (.fresh 1 {}) secondLogin).insts[0]? = some x ∧
      x.live .one = true ∧ .one ∈ membersOf x.st.rooms "x" ∧ .one ∈ membersOf x.st.rooms "lobby" ∧
      x.st.curRoom.lookup Session.one.addr = some "lobby" ∧ ¬ x.Consistent := by
  obtain ⟨x, hx, hlive, hroom, hlobby, hcur⟩ :
      ∃ x ∈ (samples.run (.fresh 1 {}) secondLogin).insts[0]?, x.live .one ∧
      .one ∈ membersOf x.st.rooms "x" ∧ .one ∈ membersOf x.st.rooms "lobby" ∧
      x.st.curRoom.lookup Session.one.addr = some "lobby" := by
    decide +kernel
  refine ⟨x, hx, hlive, hroom, hlobby, hcur, fun hcons => ?_⟩
  have hx : x.st.curRoom.lookup Session.one.addr = some "x" := (hcons .one hlive "x").mp hroom
  rw [hcur] at hx
  exact absurd (Option.some.inj hx) (by decide)

end Knights.Chat
