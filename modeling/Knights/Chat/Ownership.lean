import Knights.Chat.Membership
import Knights.Chat.Nicknames

namespace Knights.Chat

open Lib Table

/-!
# Owners of rooms

A room's owner is kept as a nickname.  When the owner leaves, ownership passes on to a member
who stays, so the owner should always be one of the members.  But a nickname can change under
the owner: a second login takes another name and leaves its session in the room.

* `Owned` — the invariant: members of rooms are alive and have nicknames, the tables agree on
  them, and every owner of a room other than the lobby is the nickname of one of its members;
* `owned_exec` — sections keep it, logins from other rooms than the lobby apart;
* `owner_is_member` — so it holds after every run in which logins take effect in the lobby or
  outside of rooms and in which no session object goes before the tables have forgotten it.
-/

namespace State

variable {cfg : Config} {live : Session → Bool} {st st' : State} {s p : Session}
  {r o room name : String} {a : ℕ} {c : Critical} {req : JoinRequest}

/-- Who is in a room is alive and has a nickname. -/
def Staffed (live : Session → Bool) (st : State) : Prop :=
  ∀ r, ∀ p ∈ membersOf st.rooms r, live p = true ∧ st.user.lookup p.addr ≠ none

/-- The owners of rooms are among the members, the lobby apart. -/
def OwnersPresent (st : State) : Prop :=
  ∀ r o, r ≠ "lobby" → st.roomOwners.lookup r = some o →
    ∃ p ∈ membersOf st.rooms r, st.user.lookup p.addr = some o

/-- The invariant behind `OwnersPresent`. -/
structure Owned (live : Session → Bool) (st : State) : Prop where
  named : st.Named
  placed : ∀ p, live p = true → st.Placed p
  listed : ∀ p, live p = true → st.Listed p
  rooted : ∀ a, st.curRoom.lookup a ≠ none ∨ st.user.lookup a ≠ none →
    ∃ p, live p = true ∧ p.addr = a
  staffed : st.Staffed live
  present : st.OwnersPresent

/-- Nicknames and owners are the same, and of the members only some that are gone are missing. -/
theorem OwnersPresent.of_same (h : OwnersPresent st) (howners : st'.roomOwners = st.roomOwners)
    (huser : st'.user = st.user)
    (hmem : ∀ r p, r ≠ "lobby" → p ∈ membersOf st.rooms r → p ∈ membersOf st'.rooms r) :
    OwnersPresent st' := by
  intro r o hr ho
  rw [howners] at ho
  obtain ⟨p, hp, hname⟩ := h r o hr ho
  refine ⟨p, hmem r p hr hp, ?_⟩
  rw [huser]
  exact hname

/-! ### Leaving a room -/

/-- A session that leaves a room leaves it with an owner among the members, if the owner was
    the session itself or somebody who stays. -/
theorem owner_vacate_present (hnames : ∀ a, st.user.lookup a ≠ some "")
    (hlive : ∀ p ∈ membersOf st.rooms r, live p = true)
    (hnamed : ∀ p ∈ membersOf st.rooms r, p ≠ s → st.user.lookup p.addr ≠ none)
    (hr : r ≠ "lobby") (h : (st.vacate live s room name).roomOwners.lookup r = some o)
    (howner : st.roomOwners.lookup r = some o → (r = room ∧ o = name ∧ s ∈ membersOf st.rooms r) ∨
        ∃ p ∈ membersOf st.rooms r, p ≠ s ∧ st.user.lookup p.addr = some o) :
    ∃ p ∈ membersOf (st.vacate live s room name).rooms r, st.user.lookup p.addr = some o := by
  obtain hfound | ⟨hold, hnone⟩ := owner_vacate h hr hnames
  · exact hfound
  obtain ⟨rfl, rfl, hs⟩ | ⟨p, hp, hne, hname⟩ := howner hold
  · -- the owner leaves: then somebody stays, who would have become the owner
    obtain ⟨q, hq, hnick⟩ := hnone rfl rfl hs
    have hstays := mem_vacate.mp hq
    exact absurd hnick (hnamed q hstays.1 (hstays.2 rfl).1)
  · exact ⟨p, mem_vacate.mpr ⟨hp, fun _ => ⟨hne, hlive p hp⟩⟩, hname⟩

section

variable (h : Owned live st)
include h

/-- The owner before a session leaves its room, in the form that `owner_vacate_present` asks
    for. -/
theorem Owned.owner_or_other (hs : live s = true) (hr : r ≠ "lobby")
    (hroom : st.curRoom.lookup s.addr = some room) (ho : st.roomOwners.lookup r = some o) :
    (r = room ∧ o = st.nameOf s ∧ s ∈ membersOf st.rooms r) ∨
      ∃ p ∈ membersOf st.rooms r, p ≠ s ∧ st.user.lookup p.addr = some o := by
  obtain ⟨p, hp, hname⟩ := h.present r o hr ho
  by_cases hps : p = s
  · subst hps
    have hin : st.curRoom.lookup p.addr = some r := (h.placed p hs r).mp hp
    rw [hroom] at hin
    exact .inl ⟨(Option.some.inj hin).symm, (nameOf_of_lookup hname).symm, hp⟩
  · exact .inr ⟨p, hp, hps, hname⟩

theorem Owned.present_vacate (hs : live s = true) (hroom : st.curRoom.lookup s.addr = some room) :
    OwnersPresent (st.vacate live s room (st.nameOf s)) := by
  intro r o hr ho
  rw [user_of_people people_vacate]
  exact owner_vacate_present h.named.ne_empty (fun p hp => (h.staffed r p hp).1)
    (fun p hp _ => (h.staffed r p hp).2) hr ho (h.owner_or_other hs hr hroom)

/-! ### The sections -/

/-- Only tables changed that are about neither members nor owners. -/
theorem Owned.of_people (hpeople : st'.people = st.people)
    (hrooms : st'.rooms = st.rooms) (howners : st'.roomOwners = st.roomOwners) :
    Owned live st' := by
  have hsame := SameSessions.of_people hpeople
  refine ⟨h.named.of_identities hsame.identities,
    fun p hp => (h.placed p hp).of_eq hrooms hsame.curRoom,
    fun p hp => (h.listed p hp).of_people hpeople, ?_, ?_, ?_⟩
  · rw [hsame.curRoom, hsame.user]
    exact h.rooted
  · unfold Staffed
    rw [hrooms, hsame.user]
    exact h.staffed
  · exact h.present.of_same howners hsame.user fun r p _ hp => hrooms ▸ hp

theorem Owned.cachePassword : Owned live (st.cachePassword req) :=
  h.of_people same_cachePassword.1 same_cachePassword.2.1 same_cachePassword.2.2.1

theorem Owned.present_leavePrevious (hs : live s = true) :
    OwnersPresent (st.leavePrevious live s room (st.nameOf s)) := by
  unfold leavePrevious
  cases hcur : st.curRoom.lookup s.addr with
  | none => exact h.present
  | some old =>
    dsimp only
    split_ifs
    · exact h.present
    · exact h.present_vacate hs hcur

end

section Sections

variable (h : Owned live st) (hs : live s = true)
  (hinj : ∀ q q', live q = true → live q' = true → q.addr = q'.addr → q = q')
include h hs

include hinj in
/-- A login from the lobby, or from no room. -/
theorem Owned.present_loginCommit {l : Login}
    (hlobby : ∀ room, st.curRoom.lookup s.addr = some room → room = "lobby") :
    OwnersPresent (st.loginCommit s l) := by
  intro r o hr ho
  obtain ⟨p, hp, hname⟩ := h.present r o hr ho
  have hps : p ≠ s := by
    rintro rfl
    exact hr (hlobby r ((h.placed p hs r).mp hp))
  have hne : p.addr ≠ s.addr := fun ha => hps (hinj p s (h.staffed r p hp).1 hs ha)
  refine ⟨p, mem_enter.mpr (.inl hp), ?_⟩
  show (st.user.insert s.addr l.name).lookup p.addr = some o
  rw [AList.lookup_insert_ne hne]
  exact hname

theorem Owned.present_completeJoin {hash : Option String} (hauthed : s.addr ∈ st.authed) :
    OwnersPresent (st.completeJoin live s req hash).1 := by
  have huser : (st.completeJoin live s req hash).1.user = st.user := by
    have hpeople := congrArg State.user (people_completeJoin live st s req hash)
    exact hpeople
  intro r o hr ho
  rw [huser]
  obtain ⟨rfl, rfl, -⟩ | ho := owner_completeJoin ho
  · -- the session that joins has become the owner
    obtain ⟨n, hn⟩ := Option.ne_none_iff_exists'.mp ((h.named.authed_iff s.addr).mp hauthed)
    refine ⟨s, mem_completeJoin.mpr ⟨fun _ => hs, .inl ⟨rfl, rfl⟩⟩, ?_⟩
    rw [nameOf_of_lookup hn]
    exact hn
  have hstays : ∀ p, p ∈ membersOf ((st.storePassword req.room hash).leavePrevious live s req.room
      (st.nameOf s)).rooms r → p ∈ membersOf (st.completeJoin live s req hash).1.rooms r := by
    intro p hp
    rw [mem_leavePrevious, same_storePassword.2.1] at hp
    rw [curRoom_of_people same_storePassword.1] at hp
    exact mem_completeJoin.mpr ⟨fun _ => (h.staffed r p hp.1).1, .inr hp⟩
  have hstore : Owned live (st.storePassword req.room hash) :=
    h.of_people same_storePassword.1 same_storePassword.2.1 same_storePassword.2.2
  have hname : (st.storePassword req.room hash).nameOf s = st.nameOf s := by
    unfold nameOf
    rw [user_of_people same_storePassword.1]
  obtain ⟨p, hp, hpo⟩ := hstore.present_leavePrevious hs r o hr (hname.symm ▸ ho)
  rw [hname, user_of_people people_leavePrevious, user_of_people same_storePassword.1] at hpo
  rw [hname] at hp
  exact ⟨p, hstays p hp, hpo⟩

theorem Owned.present_leaveRoom (hroom : st.curRoom.lookup s.addr = some room) :
    OwnersPresent ((st.vacate live s room (st.nameOf s)).enter s "lobby") := by
  have hvacate := h.present_vacate hs hroom
  exact hvacate.of_same rfl rfl fun r p _ hp => mem_enter.mpr (.inl hp)

include hinj in
/-- A close takes the nickname of its session along. -/
theorem Owned.present_closeSession : OwnersPresent (st.closeSession live s).1 := by
  -- those who stay keep their nicknames
  have huser : ∀ q, live q = true → q ≠ s →
      (st.user.erase s.addr).lookup q.addr = st.user.lookup q.addr := by
    intro q hq hqs
    rw [lookup_erase_ite, if_neg fun ha => hqs (hinj q s hq hs ha)]
  cases hcur : st.curRoom.lookup s.addr with
  | none =>
    rw [closeSession_of_lookup_none hcur]
    intro r o hr ho
    obtain ⟨p, hp, hname⟩ := h.present r o hr ho
    have hps : p ≠ s := by
      rintro rfl
      rw [(h.placed p hs r).mp hp] at hcur
      cases hcur
    exact ⟨p, hp, (huser p (h.staffed r p hp).1 hps).trans hname⟩
  | some room =>
    rw [closeSession_of_lookup hcur]
    intro r o hr ho
    have hnames := (named_forgetSession (s := s) h.named).ne_empty
    have hnamed : ∀ p ∈ membersOf (st.forgetSession s).rooms r, p ≠ s →
        (st.forgetSession s).user.lookup p.addr ≠ none := fun p hp hps =>
      (huser p (h.staffed r p hp).1 hps).symm ▸ (h.staffed r p hp).2
    have howner : (st.forgetSession s).roomOwners.lookup r = some o →
        (r = room ∧ o = st.nameOf s ∧ s ∈ membersOf (st.forgetSession s).rooms r) ∨
          ∃ p ∈ membersOf (st.forgetSession s).rooms r, p ≠ s ∧
            (st.forgetSession s).user.lookup p.addr = some o := by
      intro hold
      obtain hself | ⟨p, hp, hps, hname⟩ := h.owner_or_other hs hr hcur hold
      · exact .inl hself
      · exact .inr ⟨p, hp, hps, (huser p (h.staffed r p hp).1 hps).trans hname⟩
    obtain ⟨p, hp, hname⟩ := owner_vacate_present hnames (fun p hp => (h.staffed r p hp).1) hnamed
      hr ho howner
    refine ⟨p, hp, ?_⟩
    rw [user_of_people people_vacate]
    exact hname

end Sections

/-- A kick leaves the room to somebody who was not its target. -/
theorem Owned.present_kick {target : String} {set : RoomSet} (h : Owned live st)
    (hset : st.byUser.lookup target = some set) (hroom : room ≠ "lobby") :
    OwnersPresent ((st.moveKicked live set target room).afterKick live target room) := by
  have hapart := apart_moveKicked live st set target room
  have huser : (st.moveKicked live set target room).user = st.user :=
    (congrArg State.user hapart :)
  have howners : (st.moveKicked live set target room).roomOwners = st.roomOwners :=
    (congrArg State.roomOwners hapart :)
  intro r o hr ho
  rw [user_of_people people_afterKick, huser]
  obtain ⟨p, hp, -, hname⟩ | ⟨hold, hnone⟩ := owner_afterKick ho (huser ▸ h.named.ne_empty)
  · exact ⟨p, mem_afterKick.mpr hp, huser ▸ hname⟩
  obtain ⟨p, hp, hname⟩ := h.present r o hr (howners ▸ hold)
  by_cases hk : r = room ∧ p ∈ st.kickTargets live set room
  · -- the owner was kicked: then somebody stays, who would have become the owner
    obtain ⟨rfl, hk⟩ := hk
    obtain ⟨hin, hlive, -⟩ := mem_kickTargets.mp hk
    have htarget : st.user.lookup p.addr = some target :=
      (h.listed p hlive target).mp (membersOf_of_lookup hset ▸ hin)
    have ho' : o = target := Option.mem_unique hname htarget
    have hkept : (st.moveKicked live set target r).rooms.lookup r ≠ none := by
      cases hmembers : st.rooms.lookup r with
      | none =>
        rw [membersOf_of_lookup_none hmembers] at hp
        cases hp
      | some members => exact lookup_moveKicked hmembers hr ▸ Option.some_ne_none _
    obtain ⟨q, hq, hqname⟩ := hnone rfl ho' hkept
    obtain ⟨hqr, -⟩ | ⟨hlobby, -⟩ := mem_moveKicked.mp hq
    · obtain ⟨hqlive, hqnamed⟩ := h.staffed r q hqr
      exact absurd (huser ▸ hqname hqlive) hqnamed
    · exact absurd hlobby hr
  · refine ⟨p, mem_afterKick.mpr (mem_moveKicked.mpr (.inl ⟨hp, fun hr' hin => ?_⟩)), hname⟩
    exact hk ⟨hr', hin⟩

theorem Owned.present_removeRoom (h : Owned live st) :
    OwnersPresent ((st.enterLobby ((membersOf st.rooms room).prune live)).eraseRoom room) := by
  have hapart := apart_enterLobby st ((membersOf st.rooms room).prune live)
  generalize (membersOf st.rooms room).prune live = moved at hapart
  have howners : (st.enterLobby moved).roomOwners = st.roomOwners :=
    (congrArg State.roomOwners hapart :)
  have huser : (st.enterLobby moved).user = st.user := (congrArg State.user hapart :)
  intro r o hr ho
  change ((st.enterLobby moved).roomOwners.erase room).lookup r = some o at ho
  rw [howners, lookup_erase_ite] at ho
  split_ifs at ho with hroom
  obtain ⟨p, hp, hname⟩ := h.present r o hr ho
  exact ⟨p, mem_eraseRoom.mpr ⟨hroom, mem_enterLobby.mpr (.inl hp)⟩, huser ▸ hname⟩

section Step

variable (h : Owned live st)
  (hinj : ∀ q q', live q = true → live q' = true → q.addr = q'.addr → q = q')
  (hactor : ∀ s, c.actor = some s → live s = true)
include h hinj hactor

/-- **Sections keep owners present**, logins from other rooms than the lobby apart. -/
theorem Owned.present_exec (hroom : ∀ s target room, c = .kick s target room → room ≠ "lobby")
    (hlogin : ∀ s l, c = .loginCommit s l →
      ∀ room, st.curRoom.lookup s.addr = some room → room = "lobby") :
    OwnersPresent (c.exec cfg live st).1 := by
  have hout := outcome_exec cfg live st c
  generalize (c.exec cfg live st).1 = st' at hout ⊢
  cases hout with
  | tidied _ ht =>
    refine h.present.of_same ht.roomOwners ht.user fun r p _ hp => ?_
    exact ht.rooms.keep r p (h.staffed r p hp).1 hp
  | sessionUuid | register | setUserUuid | idCached | invited => exact h.present
  | loginCommit s l => exact h.present_loginCommit (hactor s rfl) hinj (hlogin s l rfl)
  | notJoined s req => exact h.cachePassword.present
  | joined s req hash hauthed _ _ =>
    refine h.cachePassword.present_completeJoin (hactor s rfl) ?_
    rw [(SameSessions.of_people same_cachePassword.1).authed]
    exact hauthed
  | left s room denied cur _ hcur => exact h.present_leaveRoom (hactor s rfl) hcur
  | closed s => exact h.present_closeSession (hactor s rfl) hinj
  | forgotten room =>
    intro r o hr ho
    change (st.roomOwners.erase room).lookup r = some o at ho
    rw [lookup_erase_ite] at ho
    split_ifs at ho
    exact h.present r o hr ho
  | kicked s target room set _ hset => exact h.present_kick hset (hroom s target room rfl)
  | removed s room _ => exact h.present_removeRoom

/-! ### Members -/

/-- **Sections keep members alive and named.** -/
theorem Owned.staffed_exec : Staffed live (c.exec cfg live st).1 := by
  intro r p hp
  have hauthed : p.addr ∈ st.authed → st.user.lookup p.addr ≠ none :=
    (h.named.authed_iff p.addr).mp
  have hmember : live p = true ∧ (st.user.lookup p.addr ≠ none ∨ ∃ l, c = .loginCommit p l) := by
    obtain hold | ⟨-, ⟨l, rfl⟩ | ⟨room, denied, rfl, hs⟩ | ⟨hlive, n, hn⟩ | ⟨r', hr'⟩⟩ |
      ⟨req, rfl, -, hs, -⟩ := entered_exec hp
    · exact (h.staffed r p hold).imp id .inl
    · exact ⟨hactor p rfl, .inr ⟨l, rfl⟩⟩
    · exact ⟨hactor p rfl, .inl (hauthed hs)⟩
    · exact ⟨hlive, .inl ((h.listed p hlive n).mp hn ▸ Option.some_ne_none n)⟩
    · exact (h.staffed r' p hr').imp id .inl
    · exact ⟨hactor p rfl, .inl (hauthed hs)⟩
  obtain ⟨hlive, hnamed⟩ := hmember
  refine ⟨hlive, ?_⟩
  by_cases hlogin : ∃ l, c = .loginCommit p l
  · obtain ⟨l, rfl⟩ := hlogin
    show (st.user.insert p.addr l.name).lookup p.addr ≠ none
    rw [AList.lookup_insert]
    exact Option.some_ne_none _
  -- who has a nickname loses it in a close only, and is in no room after that
  have hname := hnamed.resolve_right hlogin
  obtain ⟨st', hst', hids⟩ := identified_exec cfg live st c
  have huser := congrArg Identities.user hids
  change (c.exec cfg live st).1.user = st'.user at huser
  rw [huser]
  cases hst' with
  | same | sessionUuid | register | setUserUuid => exact hname
  | loginCommit s l =>
    show (st.user.insert s.addr l.name).lookup p.addr ≠ none
    rw [lookup_insert_ite]
    split_ifs
    · exact Option.some_ne_none _
    · exact hname
  | closed s =>
    obtain ⟨hold, hstays⟩ := mem_rooms_closeSession.mp hp
    have hps : p ≠ s := fun hps => (hstays (hps ▸ (h.placed p hlive r).mp hold)).1 hps
    show (st.user.erase s.addr).lookup p.addr ≠ none
    rw [lookup_erase_ite, if_neg fun ha => hps (hinj p s hlive (hactor s rfl) ha)]
    exact hname

/-- **Sections keep the invariant**, logins from other rooms than the lobby apart. -/
theorem owned_exec (hkick : ∀ s target room, c = .kick s target room → room ≠ "lobby")
    (hremove : ∀ s room, c = .removeRoom s room → room ≠ "lobby")
    (hname : ∀ s l, c = .loginCommit s l → l.name ≠ "") (hlogin : ∀ s l, c = .loginCommit s l →
      ∀ room, st.curRoom.lookup s.addr = some room → room = "lobby") :
    Owned live (c.exec cfg live st).1 := by
  refine ⟨named_exec h.named hname, fun p hp => ?_, fun p hp => ?_, fun a ha => ?_,
    h.staffed_exec hinj hactor, h.present_exec hinj hactor hkick hlogin⟩
  · by_cases hc : ∃ s l, c = .loginCommit s l
    · obtain ⟨s, l, rfl⟩ := hc
      refine (placed_loginCommit_iff (h.placed p hp) (hinj p s hp (hactor s rfl))).mpr fun _ => ?_
      exact hlogin s l rfl
    · refine placed_exec h.placed hinj hactor hremove hp ?_
      rintro s l rfl
      exact hc ⟨s, l, rfl⟩
  · exact listed_exec_of_live h.named (h.listed p hp) hp fun s hs => hinj p s hp (hactor s hs)
  · obtain hcur | huser := ha
    · obtain hold | ⟨p, hpa, ⟨hs, -⟩ | ⟨hp, -⟩⟩ := located_exec hcur
      · exact h.rooted a (.inl hold)
      · exact ⟨p, hactor p hs, hpa⟩
      · exact ⟨p, hp, hpa⟩
    · obtain ⟨n, hn⟩ := Option.ne_none_iff_exists'.mp huser
      obtain hold | ⟨s, l, rfl, rfl, -⟩ := user_exec hn
      · exact h.rooted a (.inr (hold ▸ Option.some_ne_none n))
      · exact ⟨s, hactor s rfl, rfl⟩

end Step

end State

/-! ### Whole services -/

namespace Instance

variable {cfg : Config} {x : Instance} {y : Stores}

/-- Logins take effect in the lobby or outside of rooms, and a session object goes only when it
    has neither a room nor a nickname any more. -/
def OrderlyStays (x : Instance) (inp : Input) : Prop :=
  x.OnStep (fun _ => True) (fun o => ∀ s l, o = .lock (.loginCommit s l) →
      ∀ room, x.st.curRoom.lookup s.addr = some room → room = "lobby")
    (fun s => x.st.curRoom.lookup s.addr = none ∧ x.st.user.lookup s.addr = none) inp

instance (x : Instance) (inp : Input) : Decidable (x.OrderlyStays inp) :=
  have : ∀ (s : Session) (_ : State.Login), Decidable (∀ room,
      x.st.curRoom.lookup s.addr = some room → room = "lobby") := fun s _ =>
    inferInstanceAs (Decidable (∀ room ∈ x.st.curRoom.lookup s.addr, room = "lobby"))
  inferInstanceAs (Decidable (x.OnStep _ _ _ inp))

/-- **One step.** -/
theorem owned_step (hx : x.Sound cfg) (h : x.st.Owned x.live) (inp : Input)
    (hG : x.OrderlyStays inp) :
    (x.step cfg y inp).1.st.Owned (x.step cfg y inp).1.live := by
  refine holds_step (P := fun st live => st.Owned live) inp h ?_ ?_ ?_ hG
  · intro s hacc _
    have hmono : ∀ p, x.live p = true → (x.setPhase s .connected).live p = true :=
      fun p hp => live_connected_iff.mpr (.inr hp)
    -- nobody alive has the address of the new session, so the tables do not know it
    have hnone : x.st.curRoom.lookup s.addr = none ∧ x.st.user.lookup s.addr = none := by
      by_contra hne
      obtain ⟨p, hp, hpa⟩ := h.rooted s.addr (by rwa [← not_and_or])
      exact (mayAccept_iff.mp hacc p (known_of_live hp)).2 hp hpa
    refine ⟨h.named, ?_, ?_, ?_, ?_, h.present⟩
    · have hs := (placed_of_mayAccept hx hacc).mpr hnone.1
      exact forall_live_connected.mpr ⟨hs, h.placed⟩
    · have hs := (listed_of_mayAccept hx hacc).mpr hnone.2
      exact forall_live_connected.mpr ⟨hs, h.listed⟩
    · intro a ha
      obtain ⟨p, hp, hpa⟩ := h.rooted a ha
      exact ⟨p, hmono p hp, hpa⟩
    · intro r p hp
      exact ⟨hmono p (h.staffed r p hp).1, (h.staffed r p hp).2⟩
  · intro k fate j o p ht hlogin
    refine st_exec (P := State.Owned x.live) h ?_
    rintro c rfl
    refine State.owned_exec h hx.addr_inj (fun s hs => live_of_actor hx ht hs) ?_ ?_ ?_ ?_
    · rintro s target room rfl
      exact (needs_of_task hx ht).2
    · rintro s room rfl
      exact (needs_of_task hx ht).2
    · rintro s l rfl
      exact (needs_of_task hx ht).2.1
    · rintro s l rfl
      exact hlogin s l rfl
  · rintro s - - ⟨hcur, huser⟩
    have hold : ∀ p, (x.setPhase s .gone).live p = true → x.live p = true :=
      fun p hp => (live_gone_iff.mp hp).2
    refine ⟨h.named, fun p hp => h.placed p (hold p hp), fun p hp => h.listed p (hold p hp), ?_, ?_,
      h.present⟩
    · intro a ha
      obtain ⟨p, hp, hpa⟩ := h.rooted a ha
      refine ⟨p, live_gone_iff.mpr ⟨?_, hp⟩, hpa⟩
      rintro rfl
      rw [← hpa, hcur, huser] at ha
      exact ha.elim (absurd rfl) (absurd rfl)
    · intro r p hp
      obtain ⟨hlive, hname⟩ := h.staffed r p hp
      refine ⟨live_gone_iff.mpr ⟨?_, hlive⟩, hname⟩
      rintro rfl
      exact hname huser

end Instance

open Instance in
/-- **Ownership.** In a run of services from their start in which logins take effect in the
    lobby or outside of rooms, and in which session objects go only after the tables have
    forgotten them, every room other than the lobby that has a living member and an owner has
    as its owner the nickname of one of its living members. -/
theorem owner_is_member (cfg : ℕ → Config) (n : ℕ) (stores : Stores) (is : List Cluster.Input)
    (hG : (cluster cfg).Guarded (Cluster.Each OrderlyStays) (.fresh n stores) is) :
    ((cluster cfg).run (.fresh n stores) is).All fun _ x =>
      ∀ r o, r ≠ "lobby" → (∃ p ∈ membersOf x.st.rooms r, x.live p = true) →
        x.st.roomOwners.lookup r = some o →
          ∃ p ∈ membersOf x.st.rooms r, x.live p = true ∧ x.st.user.lookup p.addr = some o := by
  have hinv : ((cluster cfg).run (.fresh n stores) is).All fun i x =>
      x.Sound (cfg i) ∧ x.st.Owned x.live := by
    refine Cluster.all_guarded_run (fun i x y inp hx hG => ?_) (Cluster.all_fresh ?_ n stores) hG
    · exact ⟨sound_step hx.1 inp, owned_step hx.1 hx.2 inp hG⟩
    · intro i
      refine ⟨sound_new (cfg i), State.named_new, fun p hp => (nomatch hp),
        fun p hp => (nomatch hp), fun a ha => ?_, fun r p hp => (nomatch hp),
        fun r o hr ho => (nomatch ho)⟩
      exact ha.elim (absurd rfl) (absurd rfl)
  intro i x hx r o hr _ ho
  obtain ⟨-, howned⟩ := hinv i x hx
  obtain ⟨p, hp, hname⟩ := howned.present r o hr ho
  exact ⟨p, hp, (howned.staffed r p hp).1, hname⟩

/-- Two sessions join a room with its password, and the one that owns it leaves. -/
def ownerLeaves : List Cluster.Input :=
  [.inst 0 (.accept .one), .inst 0 (.accept .two)] ++
  serve 0 0 30 (.login .one { user := "alice" }) ++
  serve 0 1 30 (.login .two { user := "bob" }) ++
  serve 0 2 60 (.join .one "x" "pw" "" none) ++
  serve 0 3 60 (.join .two "x" "pw" "" none) ++
  serve 0 4 60 (.leave .one "x" "" none)

/-- The other one becomes the owner. -/
theorem owner_is_member_ownerLeaves :
    samples.Guarded (Cluster.Each Instance.OrderlyStays) (.fresh 1 {}) ownerLeaves ∧
    ∃ x, (samples.run (.fresh 1 {}) ownerLeaves).insts[0]? = some x ∧
      x.st.roomOwners.lookup "x" = some "bob" ∧
      ∃ p ∈ membersOf x.st.rooms "x", x.live p = true ∧ x.st.user.lookup p.addr = some "bob" := by
  have hG : samples.Guarded (Cluster.Each Instance.OrderlyStays) (.fresh 1 {}) ownerLeaves := by
    decide +kernel
  obtain ⟨x, hx, howner, hmem, hlive⟩ : ∃ x ∈ (samples.run (.fresh 1 {}) ownerLeaves).insts[0]?,
      x.st.roomOwners.lookup "x" = some "bob" ∧ .two ∈ membersOf x.st.rooms "x" ∧
        x.live .two := by
    decide +kernel
  refine ⟨hG, x, hx, howner, ?_⟩
  have hpresent := owner_is_member (fun _ => .sample) 1 {} ownerLeaves hG 0 x hx "x" "bob"
  exact hpresent (by decide) ⟨.two, hmem, hlive⟩ howner

/-- A second login leaves a room with an owner whose nickname nobody has. -/
theorem secondLogin_owner_gone :
    ∃ x, (samples.run (.fresh 1 {}) secondLogin).insts[0]? = some x ∧
      .one ∈ membersOf x.st.rooms "x" ∧ x.live .one = true ∧
      x.st.roomOwners.lookup "x" = some "alice" ∧
      ∀ p ∈ membersOf x.st.rooms "x", x.st.user.lookup p.addr ≠ some "alice" := by
  show ∃ x ∈ (_ : Option Instance), _
  decide +kernel

end Knights.Chat
