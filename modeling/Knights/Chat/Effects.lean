import Mathlib.Data.List.TakeWhile
import Knights.Chat.Operations

namespace Knights.Chat

open Lib List Table RoomSet

/-!
# What critical sections do to the tables

Most sections leave the tables alone except that they drop references to sessions that are
gone.  `Tidied` says what such a section may do, and `tidied_exec` that every section does no
more unless it is one of twelve (`Critical.isMajor`).  For those, the effect on rooms, on the
rooms that sessions are in and on nicknames is stated here operation by operation:

* `SameSessions` — the tables keyed by sessions did not change;
* `mem_vacate`, `mem_enterLobby` and the like — who is in a room afterwards.

Everything that is proved about the tables over whole runs goes through these lemmas.
-/

namespace State

variable {cfg : Config} {live : Session → Bool} {st st' st'' : State} {s p : Session}
  {room r name o target user found : String} {set : RoomSet} {ps ms : List Session}
  {req : JoinRequest} {hash : Option String} {t t' t'' : Table String RoomSet}

/-! ### Tables keyed by sessions -/

/-- The tables keyed by sessions are the same. -/
structure SameSessions (st st' : State) : Prop where
  user : st'.user = st.user
  userUuid : st'.userUuid = st.userUuid
  sessionUuid : st'.sessionUuid = st.sessionUuid
  curRoom : st'.curRoom = st.curRoom
  sessionIp : st'.sessionIp = st.sessionIp
  sessionHwidHash : st'.sessionHwidHash = st.sessionHwidHash
  authed : st'.authed = st.authed
  guest : st'.guest = st.guest
  bySessionId : st'.bySessionId = st.bySessionId

theorem SameSessions.refl (st : State) : SameSessions st st :=
  ⟨rfl, rfl, rfl, rfl, rfl, rfl, rfl, rfl, rfl⟩

theorem SameSessions.trans (h : SameSessions st st') (h' : SameSessions st' st'') :
    SameSessions st st'' where
  user := h'.user.trans h.user
  userUuid := h'.userUuid.trans h.userUuid
  sessionUuid := h'.sessionUuid.trans h.sessionUuid
  curRoom := h'.curRoom.trans h.curRoom
  sessionIp := h'.sessionIp.trans h.sessionIp
  sessionHwidHash := h'.sessionHwidHash.trans h.sessionHwidHash
  authed := h'.authed.trans h.authed
  guest := h'.guest.trans h.guest
  bySessionId := h'.bySessionId.trans h.bySessionId

/-- The tables about sessions and users and the room ids, without what else is kept of rooms. -/
def people (st : State) : State :=
  { st with
    rooms := ∅
    roomPasswords := ∅
    roomOwners := ∅
    roomInvites := ∅ }

section

variable (h : st'.people = st.people)
include h

theorem SameSessions.of_people : SameSessions st st' := by
  have field {α : Type} (f : State → α) : f st'.people = f st.people := congrArg f h
  exact ⟨field State.user, field State.userUuid, field State.sessionUuid, field State.curRoom,
    field State.sessionIp, field State.sessionHwidHash, field State.authed, field State.guest,
    field State.bySessionId⟩

theorem user_of_people : st'.user = st.user :=
  (congrArg State.user h :)

theorem curRoom_of_people : st'.curRoom = st.curRoom :=
  (congrArg State.curRoom h :)

theorem byUser_of_people : st'.byUser = st.byUser :=
  (congrArg State.byUser h :)

theorem roomIds_of_people : st'.roomIds = st.roomIds :=
  (congrArg State.roomIds h :)

end

/-! ### Housekeeping -/

/-- A table of sets lost nothing but sessions that are gone, and has no new sets. -/
structure Pruned (live : Session → Bool) (t t' : Table String RoomSet) : Prop where
  sublist : ∀ name, (membersOf t' name).Sublist (membersOf t name)
  keep : ∀ name p, live p = true → p ∈ membersOf t name → p ∈ membersOf t' name
  none : ∀ name, t.lookup name = none → t'.lookup name = none

theorem Pruned.sub (h : Pruned live t t') (name : String) (p : Session)
    (hp : p ∈ membersOf t' name) : p ∈ membersOf t name := (h.sublist name).subset hp

theorem Pruned.refl (live : Session → Bool) (t : Table String RoomSet) : Pruned live t t :=
  ⟨fun _ => .refl _, fun _ _ _ h => h, fun _ h => h⟩

theorem Pruned.trans (h : Pruned live t t') (h' : Pruned live t' t'') : Pruned live t t'' where
  sublist n := (h'.sublist n).trans (h.sublist n)
  keep n p hl hp := h'.keep n p hl (h.keep n p hl hp)
  none n hn := h'.none n (h.none n hn)

/-- For a session that is alive, pruning changes nothing. -/
theorem Pruned.mem_iff (h : Pruned live t t') (hp : live p = true) (name : String) :
    p ∈ membersOf t' name ↔ p ∈ membersOf t name :=
  ⟨h.sub name p, h.keep name p hp⟩

/-- Replacing one set by a part that has everyone who is alive. -/
theorem pruned_insert {old : RoomSet} (hold : t.lookup name = some old)
    (hsub : set.Sublist (membersOf t name))
    (hkeep : ∀ p ∈ membersOf t name, live p = true → p ∈ set) :
    Pruned live t (t.insert name set) := by
  refine ⟨?_, ?_, ?_⟩
  · intro n
    rw [membersOf_insert]
    split_ifs with hn
    · exact hn ▸ hsub
    · exact .refl _
  · intro n p hl hp
    rw [membersOf_insert]
    split_ifs with hn
    · exact hkeep p (hn ▸ hp) hl
    · exact hp
  · intro n hn
    rw [lookup_insert_ite]
    split_ifs with hname
    · rw [hname, hold] at hn
      cases hn
    · exact hn

/-- Where a name has no set, nobody is listed. -/
theorem mem_of_lookup_none {P : Prop} (h : t.lookup name = none) :
    p ∈ membersOf t r ↔ p ∈ membersOf t r ∧ (r = name → P) := by
  refine ⟨fun hp => ⟨hp, ?_⟩, And.left⟩
  rintro rfl
  rw [membersOf_of_lookup_none h] at hp
  cases hp

/-- One set is left with those of whom `P` holds. -/
theorem mem_insert_of_lookup {P : Prop} {rest : RoomSet} (h : t.lookup name = some set)
    (hrest : p ∈ rest ↔ p ∈ set ∧ P) :
    p ∈ membersOf (t.insert name rest) r ↔ p ∈ membersOf t r ∧ (r = name → P) := by
  rw [membersOf_insert]
  split_ifs with hr
  · rw [hrest, hr, membersOf_of_lookup h]
    simp
  · simp [hr]

/-- A section that does housekeeping at most: sets of sessions are pruned, the tables keyed by
    sessions, the owners, the invitations and the room ids stay, and a password may go with a
    room where nobody is alive. -/
structure Tidied (live : Session → Bool) (st st' : State) : Prop
    extends SameSessions st st' where
  rooms : Pruned live st.rooms st'.rooms
  byUser : Pruned live st.byUser st'.byUser
  roomOwners : st'.roomOwners = st.roomOwners
  roomInvites : st'.roomInvites = st.roomInvites
  roomIds : st'.roomIds = st.roomIds
  roomPasswords : ∀ room, st'.roomPasswords.lookup room = st.roomPasswords.lookup room ∨
    st'.roomPasswords.lookup room = none ∧ ∀ p ∈ membersOf st.rooms room, live p = false

theorem Tidied.refl (live : Session → Bool) (st : State) : Tidied live st st :=
  { SameSessions.refl st with
    rooms := .refl live _
    byUser := .refl live _
    roomOwners := rfl
    roomInvites := rfl
    roomIds := rfl
    roomPasswords := fun _ => .inl rfl }

theorem Tidied.trans (h : Tidied live st st') (h' : Tidied live st' st'') : Tidied live st st'' :=
  { h.toSameSessions.trans h'.toSameSessions with
    rooms := h.rooms.trans h'.rooms
    byUser := h.byUser.trans h'.byUser
    roomOwners := h'.roomOwners.trans h.roomOwners
    roomInvites := h'.roomInvites.trans h.roomInvites
    roomIds := h'.roomIds.trans h.roomIds
    roomPasswords := by
      intro room
      obtain heq | ⟨hnone, hdead⟩ := h'.roomPasswords room
      · rw [heq]
        exact h.roomPasswords room
      · refine .inr ⟨hnone, fun p hp => ?_⟩
        -- a member that were alive would still be there after the first part
        by_contra hlive
        have hlive : live p = true := by simpa using hlive
        rw [hdead p (h.rooms.keep room p hlive hp)] at hlive
        cases hlive }

/-- The tables about sessions and rooms, without sanctions and blacklists. -/
def core (st : State) : State :=
  { st with
    userLastIp := ∅
    userLastHwidHash := ∅
    mutedUsers := ∅
    bannedUsers := ∅
    bannedIps := ∅
    bannedHwidHashes := ∅
    spamEvents := ∅
    spamViolations := ∅
    userBlacklists := ∅ }

/-- A section that does not touch those tables. -/
theorem Tidied.of_core (h : st'.core = st.core) : Tidied live st st' := by
  have field {α : Type} (f : State → α) : f st'.core = f st.core := congrArg f h
  have hrooms : st'.rooms = st.rooms := field State.rooms
  have hbyUser : st'.byUser = st.byUser := field State.byUser
  have hpasswords : st'.roomPasswords = st.roomPasswords := field State.roomPasswords
  have hsame : SameSessions st.core st'.core := .of_people (congrArg people h)
  exact
    { hsame with
      rooms := hrooms ▸ .refl live _
      byUser := hbyUser ▸ .refl live _
      roomOwners := field State.roomOwners
      roomInvites := field State.roomInvites
      roomIds := field State.roomIds
      roomPasswords := fun _ => .inl (by rw [hpasswords]) }

/-- Only rooms were pruned. -/
theorem Tidied.of_rooms (h : Pruned live st.rooms t) : Tidied live st { st with rooms := t } :=
  { Tidied.refl live st with rooms := h }

/-- Only the reverse index was pruned. -/
theorem Tidied.of_byUser (h : Pruned live st.byUser t) : Tidied live st { st with byUser := t } :=
  { Tidied.refl live st with byUser := h }

theorem pruned_prune (h : t.lookup name = some set) :
    Pruned live t (t.insert name (set.prune live)) := by
  have hset := membersOf_of_lookup h
  apply pruned_insert h
  · rw [hset]
    exact filter_sublist
  · intro p hp hl
    rw [hset] at hp
    exact mem_prune.mpr ⟨hl, hp⟩

theorem tidied_pruneRoom : Tidied live st (st.pruneRoom live room) := by
  unfold pruneRoom
  cases h : st.rooms.lookup room with
  | none => exact .refl live st
  | some set => exact .of_rooms (pruned_prune h)

theorem tidied_pruneUser : Tidied live st (st.pruneUser live name) := by
  unfold pruneUser
  cases h : st.byUser.lookup name with
  | none => exact .refl live st
  | some set => exact .of_byUser (pruned_prune h)

/-- The search for a holder of a name drops only sessions that are gone. -/
theorem tidied_ensureUnique {desired : String} {temps : ℕ → String} :
    Tidied live st (st.ensureUnique live desired temps).1 := by
  unfold ensureUnique
  split_ifs
  · cases h : st.byUser.lookup desired with
    | none => exact .refl live st
    | some set =>
      refine .of_byUser (pruned_insert h ?_ ?_)
      · rw [membersOf_of_lookup h]
        exact dropWhile_sublist _
      · intro p hp hl
        rw [membersOf_of_lookup h] at hp
        have hsplit : p ∈ set.takeWhile (fun t => !live t) ++ set.dropWhile fun t => !live t := by
          rw [takeWhile_append_dropWhile]
          exact hp
        refine (mem_append.mp hsplit).resolve_left fun hdead => ?_
        have := mem_takeWhile_imp hdead
        simp [hl] at this
  · exact .refl live st

/-- Looking for a session in a set drops only sessions that are gone. -/
theorem seek_sublist {addr : ℕ} : (seek live addr set).1.Sublist set := by
  induction set with
  | nil => exact .refl _
  | cons q set ih =>
    unfold seek
    split_ifs with hl ha
    · exact .refl _
    · exact ih.cons_cons q
    · exact ih.cons q

theorem mem_seek_of_live {addr : ℕ} (hl : live p = true) (hp : p ∈ set) :
    p ∈ (seek live addr set).1 := by
  induction set with
  | nil => exact hp
  | cons q set ih =>
    unfold seek
    split_ifs with hq ha
    · exact hp
    · obtain rfl | hp := mem_cons.mp hp
      · exact mem_cons_self
      · exact mem_cons_of_mem q (ih hp)
    · obtain rfl | hp := mem_cons.mp hp
      · exact absurd hl hq
      · exact ih hp

theorem tidied_roomUsersCheck : Tidied live st (st.roomUsersCheck live s target).1 := by
  unfold roomUsersCheck
  cases h : st.rooms.lookup target with
  | none => exact .refl live st
  | some set =>
    refine .of_rooms (pruned_insert h ?_ ?_)
    · rw [membersOf_of_lookup h]
      exact seek_sublist
    · intro p hp hl
      rw [membersOf_of_lookup h] at hp
      exact mem_seek_of_live hl hp

/-- Pruning every set. -/
theorem pruned_of_prune (hsets : ∀ name, membersOf t' name = (membersOf t name).prune live)
    (hnone : ∀ name, t.lookup name = none → t'.lookup name = none) : Pruned live t t' where
  sublist name := hsets name ▸ filter_sublist
  keep name _ hl hp := hsets name ▸ mem_prune.mpr ⟨hl, hp⟩
  none := hnone

/-- Cleaning the rooms prunes all of them. -/
theorem membersOf_tidyRooms :
    membersOf (st.tidyRooms live).rooms room = (membersOf st.rooms room).prune live := by
  unfold tidyRooms membersOf
  rw [lookup_sift]
  cases st.rooms.lookup room with
  | none => rfl
  | some set =>
    rw [Option.bind_some, Option.getD_some]
    split_ifs with hempty
    · -- a room that goes has nobody alive
      exact (isEmpty_iff.mp hempty.1).symm
    · rfl

/-- Nobody in a deserted room is alive. -/
theorem live_of_isDeserted (h : st.isDeserted live room = true)
    (hp : p ∈ membersOf st.rooms room) : live p = false := by
  unfold isDeserted at h
  unfold membersOf at hp
  cases hroom : st.rooms.lookup room with
  | none => rw [hroom] at hp; cases hp
  | some set =>
    rw [hroom] at h hp
    have hnone : set.prune live = [] := isEmpty_iff.mp (Bool.and_eq_true_iff.mp h).1
    by_contra hl
    have hmem : p ∈ set.prune live := mem_prune.mpr ⟨by simpa using hl, hp⟩
    rw [hnone] at hmem
    cases hmem

theorem lookup_roomPasswords_tidyRooms : (st.tidyRooms live).roomPasswords.lookup room =
      if st.isDeserted live room then none else st.roomPasswords.lookup room := by
  unfold tidyRooms
  rw [lookup_sift]
  cases st.roomPasswords.lookup room with
  | none => split_ifs <;> rfl
  | some pw => rfl

theorem tidied_tidyRooms : Tidied live st (st.tidyRooms live) :=
  { Tidied.refl live st with
    rooms := by
      refine pruned_of_prune (fun _ => membersOf_tidyRooms) fun room hnone => ?_
      unfold tidyRooms
      rw [lookup_sift, hnone]
      rfl
    roomPasswords := by
      intro room
      rw [lookup_roomPasswords_tidyRooms]
      split_ifs with hdes
      · exact .inr ⟨rfl, fun p hp => live_of_isDeserted hdes hp⟩
      · exact .inl rfl }

/-! ### Sanctions -/

/-- Sanctions, then the sessions of a user are looked up. -/
theorem tidied_pruneUser_of_core (h : st'.core = st.core) (name : String) :
    Tidied live st (st'.pruneUser live name) := (Tidied.of_core h).trans tidied_pruneUser

theorem tidied_moderateUser (op : AdminOp) (now sec : ℕ) (reason : String)
    (acc : State × List Session) (user : String) :
    Tidied live acc.1 (moderateUser cfg live op now sec reason acc user).1 := by
  cases op with
  | mute | unmute | unban => exact .of_core rfl
  | ban =>
    apply tidied_pruneUser_of_core
    rfl
  | kick => exact tidied_pruneUser
  | other => exact .refl live _

theorem tidied_countLine {sender : String} {now : ℕ} :
    Tidied live st (st.countLine cfg live sender now).1 := by
  unfold countLine
  dsimp only
  split_ifs
  · exact .of_core rfl
  · -- banned for repeated spam: the sessions of the sender are looked up
    apply tidied_pruneUser_of_core
    rfl
  · exact .of_core rfl

theorem tidied_moderate {now : ℕ} : Tidied live st (st.moderate cfg live s now).1 := by
  unfold moderate
  dsimp only
  split_ifs
  · exact .refl live st
  · have hlapse : Tidied live st { st with
        mutedUsers := (lapse st.mutedUsers (st.nameOf s) now "temporarily muted").1
        bannedUsers := (lapse st.bannedUsers (st.nameOf s) now "temporarily banned").1 } :=
      .of_core rfl
    cases (lapse st.bannedUsers (st.nameOf s) now "temporarily banned").2 with
    | some reason => exact hlapse
    | none =>
      cases (lapse st.mutedUsers (st.nameOf s) now "temporarily muted").2 with
      | some reason => exact hlapse
      | none => exact hlapse.trans tidied_countLine

theorem tidied_noticeTargets : Tidied live st (st.noticeTargets live).1 := by
  refine .of_rooms (pruned_of_prune (fun name => ?_) fun name hnone => ?_)
  · unfold membersOf
    rw [lookup_sift]
    cases st.rooms.lookup name <;> rfl
  · rw [lookup_sift, hnone]
    rfl

/-! ### Leaving and entering a room -/

@[simp] theorem same_passOwnership : (st.passOwnership room ms).people = st.people ∧
    (st.passOwnership room ms).rooms = st.rooms ∧
    (st.passOwnership room ms).roomPasswords = st.roomPasswords := by
  unfold passOwnership
  dsimp only
  split_ifs <;> exact ⟨rfl, rfl, rfl⟩

@[simp] theorem people_vacate : (st.vacate live s room name).people = st.people := by
  unfold vacate
  cases st.rooms.lookup room with
  | none => rfl
  | some set =>
    dsimp only
    split_ifs
    · rfl
    · rw [same_passOwnership.1]
      rfl
    · rfl

/-- Who is in a room after a session has left one: there, everyone else who is alive. -/
theorem mem_vacate : p ∈ membersOf (st.vacate live s room name).rooms r ↔
    p ∈ membersOf st.rooms r ∧ (r = room → p ≠ s ∧ live p = true) := by
  unfold vacate
  cases h : st.rooms.lookup room with
  | none => exact mem_of_lookup_none h
  | some set =>
    have hrest : p ∈ (set.remove s).prune live ↔ p ∈ set ∧ p ≠ s ∧ live p = true := by
      rw [mem_prune, mem_remove]
      tauto
    -- in every branch the room is left with `rest`, or has gone because `rest` is empty
    have hins := mem_insert_of_lookup (r := r) h hrest
    dsimp only
    split_ifs with hempty
    · rw [← hins, membersOf_insert]
      show p ∈ membersOf (st.rooms.erase room) r ↔ _
      rw [membersOf_erase, isEmpty_iff.mp hempty.1]
    · rw [same_passOwnership.2.1]
      exact hins
    · exact hins

theorem mem_enter : p ∈ membersOf (st.enter s room).rooms r ↔
    p ∈ membersOf st.rooms r ∨ r = room ∧ p = s := by
  show p ∈ membersOf (st.rooms.insert room _) r ↔ _
  rw [membersOf_insert]
  split_ifs with hr
  · rw [mem_add, hr]
    tauto
  · simp [hr]

theorem people_enter :
    (st.enter s room).people = { st.people with curRoom := st.curRoom.insert s.addr room } := rfl

/-! ### Ownership -/

/-- Ownership goes to a member's nickname, if to anyone. -/
theorem pickOwner_eq (h : st.pickOwner found ms = o) :
    o = found ∨ ∃ p ∈ ms, st.user.lookup p.addr = some o := by
  induction ms generalizing found with
  | nil => exact .inl h.symm
  | cons q ms ih =>
    unfold pickOwner at h
    cases hq : st.user.lookup q.addr with
    | none =>
      rw [hq] at h
      obtain ho | ⟨p, hp, ho⟩ := ih h
      · exact .inl ho
      · exact .inr ⟨p, mem_cons_of_mem q hp, ho⟩
    | some n =>
      rw [hq] at h
      dsimp only at h
      split_ifs at h with hn
      · exact .inr ⟨q, mem_cons_self, h ▸ hq⟩
      · obtain ho | ⟨p, hp, ho⟩ := ih h
        · exact .inr ⟨q, mem_cons_self, ho ▸ hq⟩
        · exact .inr ⟨p, mem_cons_of_mem q hp, ho⟩

/-- Somebody is found if somebody has a nickname, nicknames not being empty. -/
theorem pickOwner_ne_empty (hnames : ∀ a, st.user.lookup a ≠ some "")
    (h : found ≠ "" ∨ ∃ q ∈ ms, st.user.lookup q.addr ≠ none) : st.pickOwner found ms ≠ "" := by
  induction ms generalizing found with
  | nil =>
    obtain h | ⟨q, hq, -⟩ := h
    · exact h
    · cases hq
  | cons q ms ih =>
    unfold pickOwner
    cases hq : st.user.lookup q.addr with
    | none =>
      refine ih (h.imp_right ?_)
      rintro ⟨q', hmem, hname⟩
      obtain rfl | hmem := mem_cons.mp hmem
      · exact absurd hq hname
      · exact ⟨q', hmem, hname⟩
    | some n =>
      have hn : n ≠ "" := fun hn => hnames q.addr (hn ▸ hq)
      dsimp only
      split_ifs
      · exact hn
      · exact ih (.inl hn)

/-- Who owns a room after the ownership of one was passed on: one of the members to choose
    from, or whoever owned it before.  The latter in that room only if none of the members has
    a nickname. -/
theorem owner_passOwnership (h : (st.passOwnership room ms).roomOwners.lookup r = some o)
    (hnames : ∀ a, st.user.lookup a ≠ some "") :
    (r = room ∧ ∃ p ∈ ms, st.user.lookup p.addr = some o) ∨
      st.roomOwners.lookup r = some o ∧
        (r = room → ∀ p ∈ ms, st.user.lookup p.addr = none) := by
  unfold passOwnership at h
  dsimp only at h
  split_ifs at h with hnone
  · refine .inr ⟨h, fun _ p hp => ?_⟩
    by_contra hname
    exact pickOwner_ne_empty hnames (.inr ⟨p, hp, hname⟩) hnone
  · rw [lookup_insert_ite] at h
    split_ifs at h with hr
    · obtain ho | hp := pickOwner_eq (Option.some.inj h)
      · rw [← Option.some.inj h] at ho
        exact absurd ho hnone
      · exact .inl ⟨hr, hp⟩
    · exact .inr ⟨h, fun hr' => absurd hr' hr⟩

/-- Who owns a room after a session has left one: a member who stayed, or whoever owned it
    before.  The latter in that room only if it was not the session's, or somebody stays there
    who has no nickname. -/
theorem owner_vacate (h : (st.vacate live s room name).roomOwners.lookup r = some o)
    (hr : r ≠ "lobby") (hnames : ∀ a, st.user.lookup a ≠ some "") :
    (∃ p ∈ membersOf (st.vacate live s room name).rooms r, st.user.lookup p.addr = some o) ∨
      st.roomOwners.lookup r = some o ∧ (r = room → o = name → s ∈ membersOf st.rooms r →
        ∃ q ∈ membersOf (st.vacate live s room name).rooms r, st.user.lookup q.addr = none) := by
  unfold vacate at h ⊢
  cases hroom : st.rooms.lookup room with
  | none =>
    rw [hroom] at h
    refine .inr ⟨h, fun hr _ hs => ?_⟩
    rw [hr, membersOf_of_lookup_none hroom] at hs
    cases hs
  | some set =>
    rw [hroom] at h
    dsimp only at h ⊢
    split_ifs at h ⊢ with hempty howner
    · change (st.roomOwners.erase room).lookup r = some o at h
      rw [lookup_erase_ite] at h
      split_ifs at h with hne
      exact .inr ⟨h, fun hr' => absurd hr' hne⟩
    · rw [same_passOwnership.2.1]
      obtain ⟨rfl, hp⟩ | ⟨ho, hnone⟩ := owner_passOwnership h hnames
      · refine .inl ?_
        rw [membersOf_insert, if_pos rfl]
        exact hp
      · refine .inr ⟨ho, fun hr' _ _ => ?_⟩
        rw [membersOf_insert, if_pos hr']
        have hne : (set.remove s).prune live ≠ [] :=
          fun hnil => hempty ⟨isEmpty_iff.mpr hnil, hr' ▸ hr⟩
        obtain ⟨q, hq⟩ := exists_mem_of_ne_nil _ hne
        exact ⟨q, hq, hnone hr' q hq⟩
    · refine .inr ⟨h, fun hr' ho => absurd ⟨hr' ▸ hr, ?_⟩ howner⟩
      rw [← hr', ← ho]
      exact h

/-- Leaving a room is no matter of other rooms' passwords. -/
theorem lookup_roomPasswords_vacate (hr : r ≠ room) :
    (st.vacate live s room name).roomPasswords.lookup r = st.roomPasswords.lookup r := by
  unfold vacate
  cases st.rooms.lookup room with
  | none => rfl
  | some set =>
    dsimp only
    split_ifs
    · show (st.roomPasswords.erase room).lookup r = _
      rw [lookup_erase_ite, if_neg hr]
    · rw [same_passOwnership.2.2]
    · rfl


/-! ### Joining -/

@[simp] theorem same_cachePassword : (st.cachePassword req).people = st.people ∧
    (st.cachePassword req).rooms = st.rooms ∧
    (st.cachePassword req).roomOwners = st.roomOwners ∧
    (st.cachePassword req).roomInvites = st.roomInvites := by
  unfold cachePassword
  cases req.redisPassword <;> exact ⟨rfl, rfl, rfl, rfl⟩

/-- The three outcomes of the section of a join: it is refused before or after the password
    that was found in Redis is kept, or it is let in. -/
theorem join_cases : (∃ e, st.join cfg live s req = (st, .error e)) ∨
    (∃ e, st.join cfg live s req = (st.cachePassword req, .error e)) ∨
    ∃ hash, s.addr ∈ st.authed ∧ (st.cachePassword req).admits cfg (st.nameOf s) req = true ∧
      (st.cachePassword req).newPassword cfg req = .ok hash ∧
      st.join cfg live s req = (((st.cachePassword req).completeJoin live s req hash).1,
        .ok ((st.cachePassword req).completeJoin live s req hash).2) := by
  unfold join
  by_cases hauth : s.addr ∈ st.authed
  · rw [if_neg (not_not.mpr hauth)]
    cases req.denied with
    | some reason => exact .inl ⟨_, rfl⟩
    | none =>
      dsimp only
      cases hadm : (st.cachePassword req).admits cfg (st.nameOf s) req with
      | false => exact .inr (.inl ⟨_, rfl⟩)
      | true =>
        cases hnew : (st.cachePassword req).newPassword cfg req with
        | error e => exact .inr (.inl ⟨_, rfl⟩)
        | ok hash => exact .inr (.inr ⟨hash, hauth, rfl, rfl, rfl⟩)
  · rw [if_pos hauth]
    exact .inl ⟨_, rfl⟩

@[simp] theorem same_storePassword : (st.storePassword room hash).people = st.people ∧
    (st.storePassword room hash).rooms = st.rooms ∧
    (st.storePassword room hash).roomOwners = st.roomOwners := by
  cases hash <;> exact ⟨rfl, rfl, rfl⟩

@[simp] theorem people_leavePrevious : (st.leavePrevious live s room name).people = st.people := by
  unfold leavePrevious
  cases st.curRoom.lookup s.addr with
  | none => rfl
  | some old =>
    dsimp only
    split_ifs
    · rfl
    · exact people_vacate

theorem mem_leavePrevious : p ∈ membersOf (st.leavePrevious live s room name).rooms r ↔
    p ∈ membersOf st.rooms r ∧
      (st.curRoom.lookup s.addr = some r → r ≠ room → p ≠ s ∧ live p = true) := by
  unfold leavePrevious
  cases st.curRoom.lookup s.addr with
  | none => simp
  | some old =>
    dsimp only
    split_ifs with hold
    · subst hold
      refine ⟨fun hp => ⟨hp, fun hr hne => absurd (Option.some.inj hr).symm hne⟩, And.left⟩
    · rw [mem_vacate]
      refine and_congr_right fun _ => ⟨?_, ?_⟩
      · exact fun h hr _ => h (Option.some.inj hr).symm
      · rintro h rfl
        exact h rfl hold

@[simp] theorem same_claimRoom : (st.claimRoom room user).people = st.people ∧
    (st.claimRoom room user).rooms = st.rooms ∧
    (st.claimRoom room user).roomPasswords = st.roomPasswords := by
  unfold claimRoom
  split_ifs <;> exact ⟨rfl, rfl, rfl⟩

/-- Only a room without an owner gets a new one. -/
theorem owner_claimRoom (h : (st.claimRoom room name).roomOwners.lookup r = some o) :
    st.roomOwners.lookup r = some o ∨ r = room ∧ o = name ∧ name ≠ "guest" := by
  unfold claimRoom at h
  split_ifs at h with hc
  · rw [lookup_insert_ite] at h
    split_ifs at h with hr
    · exact .inr ⟨hr, (Option.some.inj h).symm, hc.2.2⟩
    · exact .inl h
  · exact .inl h

@[simp] theorem same_consumeInvite : (st.consumeInvite room user).people = st.people ∧
    (st.consumeInvite room user).rooms = st.rooms ∧
    (st.consumeInvite room user).roomOwners = st.roomOwners ∧
    (st.consumeInvite room user).roomPasswords = st.roomPasswords := by
  unfold consumeInvite
  dsimp only
  split_ifs <;> exact ⟨rfl, rfl, rfl, rfl⟩

@[simp] theorem same_pruneRoom : (st.pruneRoom live room).people = st.people ∧
    (st.pruneRoom live room).roomOwners = st.roomOwners ∧
    (st.pruneRoom live room).roomPasswords = st.roomPasswords := by
  unfold pruneRoom
  cases st.rooms.lookup room <;> exact ⟨rfl, rfl, rfl⟩

theorem mem_pruneRoom : p ∈ membersOf (st.pruneRoom live room).rooms r ↔
    p ∈ membersOf st.rooms r ∧ (r = room → live p = true) := by
  unfold pruneRoom
  cases h : st.rooms.lookup room with
  | none => exact mem_of_lookup_none h
  | some set => exact mem_insert_of_lookup h (mem_prune.trans and_comm)

variable (live st s req hash) in
theorem people_completeJoin : (st.completeJoin live s req hash).1.people =
      { st.people with curRoom := st.curRoom.insert s.addr req.room } := by
  have hleft : ((st.storePassword req.room hash).leavePrevious live s req.room
      (st.nameOf s)).people = st.people := by
    rw [people_leavePrevious, same_storePassword.1]
  unfold completeJoin
  dsimp only
  split_ifs
  all_goals
    simp only [same_pruneRoom.1, same_consumeInvite.1, same_claimRoom.1, people_enter]
    rw [hleft, curRoom_of_people hleft]

theorem curRoom_completeJoin :
    (st.completeJoin live s req hash).1.curRoom = st.curRoom.insert s.addr req.room := by
  have h := congrArg State.curRoom (people_completeJoin live st s req hash)
  exact h

variable (live st s req hash) in
/-- What a join that is let in does to the other tables. -/
theorem people_joined : ((st.cachePassword req).completeJoin live s req hash).1.people =
      { st.people with curRoom := st.curRoom.insert s.addr req.room } := by
  have hcache : (st.cachePassword req).people = st.people := same_cachePassword.1
  rw [people_completeJoin, hcache, curRoom_of_people hcache]

/-- Who is in a room after a join. -/
theorem mem_completeJoin : p ∈ membersOf (st.completeJoin live s req hash).1.rooms r ↔
    (r = req.room → live p = true) ∧ (r = req.room ∧ p = s ∨ p ∈ membersOf st.rooms r ∧
      (st.curRoom.lookup s.addr = some r → r ≠ req.room → p ≠ s ∧ live p = true)) := by
  have hcur : (st.storePassword req.room hash).curRoom = st.curRoom :=
    curRoom_of_people same_storePassword.1
  have hentered : p ∈ membersOf (((st.storePassword req.room hash).leavePrevious live s req.room
      (st.nameOf s)).enter s req.room).rooms r ↔ r = req.room ∧ p = s ∨
        p ∈ membersOf st.rooms r ∧
          (st.curRoom.lookup s.addr = some r → r ≠ req.room → p ≠ s ∧ live p = true) := by
    rw [mem_enter, mem_leavePrevious, same_storePassword.2.1, hcur, or_comm]
  unfold completeJoin
  dsimp only
  split_ifs
  all_goals
    rw [mem_pruneRoom]
    simp only [same_consumeInvite.2.1, same_claimRoom.2.1]
    rw [hentered, and_comm]

/-- The password of a room after somebody has joined it. -/
theorem lookup_roomPasswords_completeJoin :
    (st.completeJoin live s req hash).1.roomPasswords.lookup req.room =
      (st.storePassword req.room hash).roomPasswords.lookup req.room := by
  have hleft : ((st.storePassword req.room hash).leavePrevious live s req.room
      (st.nameOf s)).roomPasswords.lookup req.room =
        (st.storePassword req.room hash).roomPasswords.lookup req.room := by
    unfold leavePrevious
    cases (st.storePassword req.room hash).curRoom.lookup s.addr with
    | none => rfl
    | some old =>
      dsimp only
      split_ifs with hold
      · rfl
      · exact lookup_roomPasswords_vacate (Ne.symm hold)
  unfold completeJoin
  dsimp only
  split_ifs
  · rw [same_pruneRoom.2.2, same_consumeInvite.2.2.2, same_claimRoom.2.2]
    exact hleft
  · rw [same_pruneRoom.2.2, same_claimRoom.2.2]
    exact hleft

/-- Who owns a room after a join: the one who joined, or whoever owned it once the old room
    was left. -/
theorem owner_completeJoin (h : (st.completeJoin live s req hash).1.roomOwners.lookup r = some o) :
    (r = req.room ∧ o = st.nameOf s ∧ o ≠ "guest") ∨
      ((st.storePassword req.room hash).leavePrevious live s req.room
        (st.nameOf s)).roomOwners.lookup r = some o := by
  unfold completeJoin at h
  dsimp only at h
  split_ifs at h
  all_goals
    simp only [same_pruneRoom.2.1, same_consumeInvite.2.2.1] at h
    obtain ho | ⟨hr, ho, hne⟩ := owner_claimRoom h
    · exact .inr ho
    · exact .inl ⟨hr, ho, ho ▸ hne⟩

/-! ### Leave and close -/

/-- The outcomes of the section of a leave: it is refused, or the session moves to the lobby. -/
theorem leave_cases {denied : Option String} : (∃ e, st.leave live s room denied = (st, .error e)) ∨
    ∃ cur left, s.addr ∈ st.authed ∧ st.curRoom.lookup s.addr = some cur ∧
      (room = "" ∨ room = cur) ∧ left.room = cur ∧
      st.leave live s room denied =
        ((st.vacate live s cur (st.nameOf s)).enter s "lobby", .ok left) := by
  unfold leave
  by_cases hauth : s.addr ∈ st.authed
  · rw [if_neg (not_not.mpr hauth)]
    cases st.curRoom.lookup s.addr with
    | none => exact .inl ⟨_, rfl⟩
    | some cur =>
      dsimp only
      split_ifs with hroom
      · exact .inl ⟨_, rfl⟩
      · have hroom : room = "" ∨ room = cur := by
          by_cases h : room = ""
          · exact .inl h
          · exact .inr (by_contra fun hne => hroom ⟨h, fun heq => hne heq.symm⟩)
        cases hset : st.rooms.lookup cur with
        | none =>
          -- without a set there is nothing to take the session out of
          have hvac : st.vacate live s cur (st.nameOf s) = st := by
            unfold vacate
            rw [hset]
          refine .inr ⟨cur, ⟨cur, "", none, []⟩, hauth, rfl, hroom, rfl, ?_⟩
          rw [hvac]
        | some set =>
          cases denied with
          | some reason => exact .inl ⟨_, rfl⟩
          | none => exact .inr ⟨cur, ⟨cur, _, _, _⟩, hauth, rfl, hroom, rfl, rfl⟩
  · rw [if_pos hauth]
    exact .inl ⟨_, rfl⟩

/-- The section of a close as one equation for the tables. -/
theorem closeSession_of_lookup (h : st.curRoom.lookup s.addr = some room) :
    (st.closeSession live s).1 =
      { (st.forgetSession s).vacate live s room (st.nameOf s) with
        curRoom := st.curRoom.erase s.addr } := by
  have hcur : ((st.forgetSession s).vacate live s room (st.nameOf s)).curRoom = st.curRoom :=
    (curRoom_of_people people_vacate :)
  unfold closeSession
  rw [h]
  dsimp only
  rw [hcur]

theorem closeSession_of_lookup_none (h : st.curRoom.lookup s.addr = none) :
    (st.closeSession live s).1 = st.forgetSession s := by
  unfold closeSession
  rw [h]

theorem people_closeSession : (st.closeSession live s).1.people =
    { (st.forgetSession s).people with curRoom := st.curRoom.erase s.addr } := by
  cases h : st.curRoom.lookup s.addr with
  | none =>
    rw [closeSession_of_lookup_none h, erase_of_lookup_none h]
    rfl
  | some room =>
    rw [closeSession_of_lookup h]
    exact congrArg (fun st' => { st' with curRoom := st.curRoom.erase s.addr }) people_vacate

theorem curRoom_closeSession : (st.closeSession live s).1.curRoom = st.curRoom.erase s.addr :=
  (congrArg State.curRoom people_closeSession :)

/-! ### Moving sessions into the lobby -/

theorem mem_enterLobby : p ∈ membersOf (st.enterLobby ps).rooms r ↔
    p ∈ membersOf st.rooms r ∨ r = "lobby" ∧ p ∈ ps := by
  induction ps generalizing st with
  | nil => simp [enterLobby]
  | cons q ps ih =>
    show p ∈ membersOf ((st.enter q "lobby").enterLobby ps).rooms r ↔ _
    rw [ih, mem_enter, mem_cons]
    tauto

theorem curRoom_enterLobby {a : ℕ} : (st.enterLobby ps).curRoom.lookup a =
      if ∃ p ∈ ps, p.addr = a then some "lobby" else st.curRoom.lookup a := by
  induction ps generalizing st with
  | nil => simp [enterLobby]
  | cons q ps ih =>
    show ((st.enter q "lobby").enterLobby ps).curRoom.lookup a = _
    have hq : (st.enter q "lobby").curRoom.lookup a =
        if a = q.addr then some "lobby" else st.curRoom.lookup a := lookup_insert_ite ..
    rw [ih, hq]
    by_cases hex : ∃ p ∈ ps, p.addr = a
    · rw [if_pos hex, if_pos (hex.imp fun _ hp => ⟨mem_cons_of_mem q hp.1, hp.2⟩)]
    · rw [if_neg hex]
      by_cases ha : a = q.addr
      · rw [if_pos ha, if_pos ⟨q, mem_cons_self, ha.symm⟩]
      · rw [if_neg ha, if_neg]
        rintro ⟨p, hp, hpa⟩
        obtain rfl | hp := mem_cons.mp hp
        · exact ha hpa.symm
        · exact hex ⟨p, hp, hpa⟩

/-- Entering the lobby is no matter of other rooms. -/
theorem lookup_enterLobby (hr : r ≠ "lobby") :
    (st.enterLobby ps).rooms.lookup r = st.rooms.lookup r := by
  induction ps generalizing st with
  | nil => rfl
  | cons q ps ih =>
    have henter : (st.enter q "lobby").rooms.lookup r = st.rooms.lookup r := by
      show (st.rooms.insert "lobby" _).lookup r = _
      rw [AList.lookup_insert_ne hr]
    have hrest : ((st.enter q "lobby").enterLobby ps).rooms.lookup r =
        (st.enter q "lobby").rooms.lookup r := ih
    exact hrest.trans henter

/-- Everything but rooms and the rooms that sessions are in. -/
theorem apart_enterLobby (st : State) (ps : List Session) :
    { st.enterLobby ps with rooms := st.rooms, curRoom := st.curRoom } = st := by
  induction ps generalizing st with
  | nil => rfl
  | cons q ps ih =>
    have h := ih (st.enter q "lobby")
    exact congrArg (fun st' => { st' with rooms := st.rooms, curRoom := st.curRoom }) h

/-! ### Small sections -/

theorem getOrCreateSessionUuid_eq {fresh : String} :
    ∃ t, (st.getOrCreateSessionUuid s fresh).1 = { st with sessionUuid := t } := by
  unfold getOrCreateSessionUuid
  cases st.sessionUuid.lookup s.addr with
  | none => exact ⟨_, rfl⟩
  | some id =>
    dsimp only
    split_ifs
    · exact ⟨_, rfl⟩
    · exact ⟨_, rfl⟩

/-! ### Kicks and removals -/

@[simp] theorem people_afterKick : (st.afterKick live target room).people = st.people := by
  unfold afterKick
  cases st.rooms.lookup room with
  | none => rfl
  | some set =>
    dsimp only
    split_ifs
    · rfl
    · exact same_passOwnership.1
    · rfl

/-- A room goes only when it is empty. -/
theorem mem_afterKick : p ∈ membersOf (st.afterKick live target room).rooms r ↔
    p ∈ membersOf st.rooms r := by
  unfold afterKick
  cases h : st.rooms.lookup room with
  | none => rfl
  | some set =>
    dsimp only
    split_ifs with hempty
    · show p ∈ membersOf (st.rooms.erase room) r ↔ _
      rw [membersOf_erase]
      split_ifs with hr
      · rw [hr, membersOf_of_lookup h, isEmpty_iff.mp hempty]
      · rfl
    · rw [same_passOwnership.2.1]
    · rfl

/-- Who owns a room after members were kicked: a member who is alive, or whoever owned it
    before.  The latter in that room only if it was not the kicked user's, or somebody there has
    no nickname. -/
theorem owner_afterKick (h : (st.afterKick live target room).roomOwners.lookup r = some o)
    (hnames : ∀ a, st.user.lookup a ≠ some "") :
    (∃ p ∈ membersOf st.rooms r, live p = true ∧ st.user.lookup p.addr = some o) ∨
      st.roomOwners.lookup r = some o ∧ (r = room → o = target → st.rooms.lookup r ≠ none →
        ∃ q ∈ membersOf st.rooms r, live q = true → st.user.lookup q.addr = none) := by
  unfold afterKick at h
  cases hroom : st.rooms.lookup room with
  | none =>
    rw [hroom] at h
    exact .inr ⟨h, fun hr _ hsome => absurd (hr ▸ hroom) hsome⟩
  | some set =>
    have hset := membersOf_of_lookup hroom
    rw [hroom] at h
    dsimp only at h
    split_ifs at h with hempty howner
    · change (st.roomOwners.erase room).lookup r = some o at h
      rw [lookup_erase_ite] at h
      split_ifs at h with hne
      exact .inr ⟨h, fun hr' => absurd hr' hne⟩
    · obtain ⟨rfl, p, hp, ho⟩ | ⟨ho, hnone⟩ := owner_passOwnership h hnames
      · obtain ⟨hlive, hp⟩ := mem_prune.mp hp
        exact .inl ⟨p, hset ▸ hp, hlive, ho⟩
      · refine .inr ⟨ho, fun hr' _ _ => ?_⟩
        obtain ⟨q, hq⟩ := exists_mem_of_ne_nil set fun hnil => hempty (isEmpty_iff.mpr hnil)
        rw [hr', hset]
        exact ⟨q, hq, fun hlive => hnone hr' q (mem_prune.mpr ⟨hlive, hq⟩)⟩
    · refine .inr ⟨h, fun hr' ho => absurd ?_ howner⟩
      rw [← hr', ← ho]
      exact h

/-- The outcomes of the section of a kick: nothing changes, or the target's sessions in the
    room move. -/
theorem kick_cases : (∃ a, st.kick cfg live s target room = (st, a)) ∨
    ∃ set, st.mayManage cfg s room = true ∧ st.byUser.lookup target = some set ∧
      st.kick cfg live s target room =
        ((st.moveKicked live set target room).afterKick live target room,
          some (st.kickTargets live set room)) := by
  unfold kick
  cases hmay : st.mayManage cfg s room with
  | false => exact .inl ⟨_, rfl⟩
  | true =>
    cases hset : st.byUser.lookup target with
    | none => exact .inl ⟨_, rfl⟩
    | some set => exact .inr ⟨set, rfl, rfl, rfl⟩

theorem mem_kickTargets : p ∈ st.kickTargets live set room ↔
    p ∈ set ∧ live p = true ∧ st.curRoom.lookup p.addr = some room := by
  simp [kickTargets]

theorem mem_withoutMembers {kicked : List Session} :
    p ∈ membersOf (st.withoutMembers room kicked) r ↔
      p ∈ membersOf st.rooms r ∧ (r = room → p ∉ kicked) := by
  unfold withoutMembers
  cases h : st.rooms.lookup room with
  | none => exact mem_of_lookup_none h
  | some members => exact mem_insert_of_lookup h (by simp)

theorem mem_moveKicked : p ∈ membersOf (st.moveKicked live set target room).rooms r ↔
      p ∈ membersOf st.rooms r ∧ (r = room → p ∉ st.kickTargets live set room) ∨
        r = "lobby" ∧ p ∈ st.kickTargets live set room := by
  unfold moveKicked
  rw [mem_enterLobby, mem_withoutMembers]

/-- The room of a kick is still there right after it. -/
theorem lookup_moveKicked {members : RoomSet} (h : st.rooms.lookup room = some members)
    (hr : room ≠ "lobby") : (st.moveKicked live set target room).rooms.lookup room =
      some (members.filter (· ∉ st.kickTargets live set room)) := by
  unfold moveKicked
  rw [lookup_enterLobby hr]
  unfold withoutMembers
  rw [h]
  rw [AList.lookup_insert]

theorem curRoom_moveKicked {a : ℕ} : (st.moveKicked live set target room).curRoom.lookup a =
      if ∃ p ∈ st.kickTargets live set room, p.addr = a then some "lobby"
      else st.curRoom.lookup a := by
  unfold moveKicked
  rw [curRoom_enterLobby]

/-- Everything but rooms, the rooms that sessions are in and the reverse index stays in a
    kick. -/
theorem apart_moveKicked (live : Session → Bool) (st : State) (set : RoomSet)
    (target room : String) : { st.moveKicked live set target room with
      rooms := st.rooms, curRoom := st.curRoom, byUser := st.byUser } = st :=
  congrArg (fun st' => { st' with rooms := st.rooms, curRoom := st.curRoom, byUser := st.byUser })
    (apart_enterLobby _ _)

theorem byUser_moveKicked :
    (st.moveKicked live set target room).byUser = st.byUser.insert target (set.prune live) := by
  have h := congrArg State.byUser (apart_enterLobby
    { st with
      rooms := st.withoutMembers room (st.kickTargets live set room)
      byUser := st.byUser.insert target (set.prune live) } (st.kickTargets live set room))
  exact h

/-- The outcomes of the section of a removal: it is refused, or everyone alive moves to the
    lobby and the room goes. -/
theorem removeRoom_cases : st.removeRoom cfg live s room = (st, none) ∨
    st.mayManage cfg s room = true ∧ st.removeRoom cfg live s room =
      ((st.enterLobby ((membersOf st.rooms room).prune live)).eraseRoom room,
        some ((membersOf st.rooms room).prune live)) := by
  unfold removeRoom
  cases st.mayManage cfg s room with
  | false => exact .inl rfl
  | true => exact .inr ⟨rfl, rfl⟩

theorem mem_eraseRoom : p ∈ membersOf (st.eraseRoom room).rooms r ↔
    r ≠ room ∧ p ∈ membersOf st.rooms r := by
  show p ∈ membersOf (st.rooms.erase room) r ↔ _
  rw [membersOf_erase]
  split_ifs with hr <;> simp [hr]

end State

/-! ### Sections that do more than housekeeping -/

/-- The sections that change more than housekeeping does. -/
def Critical.isMajor : Critical → Bool
  | .sessionUuid _ _ => true
  | .register _ => true
  | .loginCommit _ _ => true
  | .setUserUuid _ _ _ => true
  | .join _ _ => true
  | .leave _ _ _ => true
  | .close _ => true
  | .forgetRoom _ => true
  | .cacheRoomId _ _ => true
  | .invite _ _ _ => true
  | .kick _ _ _ => true
  | .removeRoom _ _ => true
  | _ => false

open State in
/-- Every other section does housekeeping at most. -/
theorem tidied_exec {c : Critical} (hc : c.isMajor = false) (cfg : Config)
    (live : Session → Bool) (st : State) : Tidied live st (c.exec cfg live st).1 := by
  cases c with
  | ensureUnique desired temps => exact tidied_ensureUnique
  | banCheck | blacklistAdd => exact .of_core rfl
  | mute s user now sec =>
    show Tidied live st (st.muteBy cfg s user now sec).1
    unfold muteBy
    split_ifs <;> exact .of_core rfl
  | unmute s user =>
    show Tidied live st (st.unmuteBy cfg s user).1
    unfold unmuteBy
    split_ifs <;> exact .of_core rfl
  | ban s user now sec =>
    show Tidied live st (st.banBy cfg live s user now sec).1
    unfold banBy
    split_ifs
    · apply tidied_pruneUser_of_core
      rfl
    · exact .refl live st
  | unban s user =>
    show Tidied live st (st.unbanBy cfg s user).1
    unfold unbanBy
    split_ifs <;> exact .of_core rfl
  | globalKick s user =>
    show Tidied live st (st.globalKickBy cfg live s user).1
    unfold globalKickBy
    split_ifs
    · exact tidied_pruneUser
    · exact .refl live st
  | adminModeration op users now durationSec reason =>
    exact @foldlRecOn _ _ (fun acc => Tidied live st acc.1) users _ (st, []) (.refl live st)
      fun acc h user _ => h.trans (tidied_moderateUser op now durationSec reason acc user)
  | disconnectTargets users =>
    refine @foldlRecOn (State × _) _ (fun acc => Tidied live st acc.1) users _ (st, [])
      (.refl live st) fun acc h user _ => ?_
    exact h.trans tidied_pruneUser
  | noticeTargets => exact tidied_noticeTargets
  | moderate s now => exact tidied_moderate
  | blacklistRemove actor target =>
    show Tidied live st (st.blacklistRemove actor target).1
    unfold blacklistRemove
    cases st.userBlacklists.lookup actor with
    | none => exact .refl live st
    | some blocked =>
      dsimp only
      split_ifs <;> exact .of_core rfl
  | roomTargets room sender => exact tidied_pruneRoom
  | cleanRooms fromRedis => exact tidied_tidyRooms
  | roomUsersCheck s target => exact tidied_roomUsersCheck
  | localUsers room => exact tidied_pruneRoom
  | whisperTargets s sender target => exact tidied_pruneUser
  | remoteWhisperTargets n =>
    show Tidied live st (st.remoteWhisperTargets live n).1
    unfold remoteWhisperTargets
    split_ifs
    · exact .refl live st
    · exact tidied_pruneUser
  | userUuid | userName | roomId | chatRoom | currentRoom | blockedBy | viewerBlocks | isAuthed
  | whisperSender => exact .refl live st
  | sessionUuid | register | loginCommit | setUserUuid | join | leave | close | forgetRoom
  | cacheRoomId | invite | kick | removeRoom => cases hc

/-- **What a section can do to the tables.** Refusals count as housekeeping. -/
inductive Outcome (cfg : Config) (live : Session → Bool) (st : State) : Critical → State → Prop
  | tidied (c : Critical) {st' : State} (h : State.Tidied live st st') : Outcome cfg live st c st'
  | sessionUuid (s : Session) (fresh : String) : Outcome cfg live st (.sessionUuid s fresh)
      { st with sessionUuid := st.sessionUuid.insert s.addr fresh }
  | register (s : Session) : Outcome cfg live st (.register s) (st.register s)
  | loginCommit (s : Session) (l : State.Login) :
    Outcome cfg live st (.loginCommit s l) (st.loginCommit s l)
  | setUserUuid (s : Session) (name : String) (uid : UserId) :
    Outcome cfg live st (.setUserUuid s name uid) (st.setUserUuid s uid)
  | notJoined (s : Session) (req : State.JoinRequest) :
    Outcome cfg live st (.join s req) (st.cachePassword req)
  | joined (s : Session) (req : State.JoinRequest) (hash : Option String)
      (hauthed : s.addr ∈ st.authed)
      (hadmits : (st.cachePassword req).admits cfg (st.nameOf s) req = true)
      (hhash : (st.cachePassword req).newPassword cfg req = .ok hash) :
    Outcome cfg live st (.join s req) ((st.cachePassword req).completeJoin live s req hash).1
  | left (s : Session) (room : String) (denied : Option String) (cur : String)
      (hauthed : s.addr ∈ st.authed) (hcur : st.curRoom.lookup s.addr = some cur) :
    Outcome cfg live st (.leave s room denied)
      ((st.vacate live s cur (st.nameOf s)).enter s "lobby")
  | closed (s : Session) : Outcome cfg live st (.close s) (st.closeSession live s).1
  | forgotten (room : String) : Outcome cfg live st (.forgetRoom room) (st.forgetRoom room)
  | idCached (room : String) (id : RoomId) (hnone : st.roomIds.lookup room = none) :
    Outcome cfg live st (.cacheRoomId room id) { st with roomIds := st.roomIds.insert room id }
  | invited (s : Session) (target room : String) (hmanage : st.mayManage cfg s room = true) :
    Outcome cfg live st (.invite s target room)
      { st with roomInvites := st.roomInvites.insert room (insert target (st.invitedTo room)) }
  | kicked (s : Session) (target room : String) (set : RoomSet)
      (hmanage : st.mayManage cfg s room = true) (hset : st.byUser.lookup target = some set) :
    Outcome cfg live st (.kick s target room)
      ((st.moveKicked live set target room).afterKick live target room)
  | removed (s : Session) (room : String) (hmanage : st.mayManage cfg s room = true) :
    Outcome cfg live st (.removeRoom s room)
      ((st.enterLobby ((membersOf st.rooms room).prune live)).eraseRoom room)

open State in
/-- **Inversion.** A section does one of these things. -/
theorem outcome_exec (cfg : Config) (live : Session → Bool) (st : State) (c : Critical) :
    Outcome cfg live st c (c.exec cfg live st).1 := by
  cases hmajor : c.isMajor with
  | false => exact .tidied c (tidied_exec hmajor cfg live st)
  | true =>
    cases c
    case sessionUuid s fresh =>
      show Outcome cfg live st _ (st.getOrCreateSessionUuid s fresh).1
      unfold getOrCreateSessionUuid
      cases st.sessionUuid.lookup s.addr with
      | none => exact .sessionUuid s fresh
      | some id =>
        dsimp only
        split_ifs
        · exact .sessionUuid s fresh
        · exact .tidied _ (.refl live st)
    case register s => exact .register s
    case loginCommit s l => exact .loginCommit s l
    case setUserUuid s name uid => exact .setUserUuid s name uid
    case join s req =>
      show Outcome cfg live st _ (st.join cfg live s req).1
      obtain ⟨e, hj⟩ | ⟨e, hj⟩ | ⟨hash, hauthed, hadmits, hhash, hj⟩ :=
        join_cases
      · rw [hj]
        exact .tidied _ (.refl live st)
      · rw [hj]
        exact .notJoined s req
      · rw [hj]
        exact .joined s req hash hauthed hadmits hhash
    case leave s room denied =>
      show Outcome cfg live st _ (st.leave live s room denied).1
      obtain ⟨e, hl⟩ | ⟨cur, left, hauthed, hcur, -, -, hl⟩ := leave_cases
      · rw [hl]
        exact .tidied _ (.refl live st)
      · rw [hl]
        exact .left s room denied cur hauthed hcur
    case close s => exact .closed s
    case forgetRoom room => exact .forgotten room
    case cacheRoomId room id =>
      show Outcome cfg live st _ (st.cacheRoomId room id)
      unfold cacheRoomId
      cases hid : st.roomIds.lookup room with
      | none => exact .idCached room id hid
      | some _ => exact .tidied _ (.refl live st)
    case invite s target room =>
      show Outcome cfg live st _ (st.invite cfg s target room).1
      unfold invite
      split_ifs with hmanage
      · exact .invited s target room hmanage
      · exact .tidied _ (.refl live st)
    case kick s target room =>
      show Outcome cfg live st _ (st.kick cfg live s target room).1
      obtain ⟨a, hk⟩ | ⟨set, hmanage, hset, hk⟩ := kick_cases
      · rw [hk]
        exact .tidied _ (.refl live st)
      · rw [hk]
        exact .kicked s target room set hmanage hset
    case removeRoom s room =>
      show Outcome cfg live st _ (st.removeRoom cfg live s room).1
      obtain hk | ⟨hmanage, hk⟩ := removeRoom_cases
      · rw [hk]
        exact .tidied _ (.refl live st)
      · rw [hk]
        exact .removed s room hmanage
    all_goals exact (Bool.false_ne_true hmajor).elim

/-! ### Who sessions are -/

/-- What the tables keyed by sessions say, apart from the rooms sessions are in. -/
structure Identities where
  user : Table ℕ String
  userUuid : Table ℕ UserId
  sessionUuid : Table ℕ String
  sessionIp : Table ℕ String
  sessionHwidHash : Table ℕ String
  authed : Finset ℕ
  guest : Finset ℕ
  bySessionId : Table ℕ Session

namespace State

variable {live : Session → Bool} {st st' : State} {ps : List Session} {set : RoomSet}
  {target room : String}

/-- The tables that say who sessions are. -/
def identities (st : State) : Identities :=
  ⟨st.user, st.userUuid, st.sessionUuid, st.sessionIp, st.sessionHwidHash, st.authed, st.guest,
    st.bySessionId⟩

theorem SameSessions.identities (h : SameSessions st st') : st'.identities = st.identities := by
  unfold State.identities
  rw [h.user, h.userUuid, h.sessionUuid, h.sessionIp, h.sessionHwidHash, h.authed, h.guest,
    h.bySessionId]

theorem identities_enterLobby : (st.enterLobby ps).identities = st.identities := by
  have h := congrArg identities (apart_enterLobby st ps)
  exact h

theorem identities_moveKicked :
    (st.moveKicked live set target room).identities = st.identities := by
  have h := congrArg identities (apart_moveKicked live st set target room)
  exact h

end State

/-- The sections that change who sessions are. -/
def Critical.identifies : Critical → Bool
  | .sessionUuid _ _ => true
  | .register _ => true
  | .loginCommit _ _ => true
  | .setUserUuid _ _ _ => true
  | .close _ => true
  | _ => false

open State in
/-- Who sessions are after a close. -/
theorem identities_closeSession (live : Session → Bool) (st : State) (s : Session) :
    (st.closeSession live s).1.identities = (st.forgetSession s).identities :=
  (congrArg identities people_closeSession :)

/-- What a section can do to these tables: they are those of the state given. -/
inductive Identified (st : State) : Critical → State → Prop
  | same {c : Critical} (h : ∀ s, c ≠ .close s) : Identified st c st
  | sessionUuid (s : Session) (fresh : String) : Identified st (.sessionUuid s fresh)
      { st with sessionUuid := st.sessionUuid.insert s.addr fresh }
  | register (s : Session) : Identified st (.register s) (st.register s)
  | loginCommit (s : Session) (l : State.Login) :
    Identified st (.loginCommit s l) (st.loginCommit s l)
  | setUserUuid (s : Session) (name : String) (uid : UserId) :
    Identified st (.setUserUuid s name uid) (st.setUserUuid s uid)
  | closed (s : Session) : Identified st (.close s) (st.forgetSession s)

open State in
/-- **Inversion.** A section does one of these things to them. -/
theorem identified_exec (cfg : Config) (live : Session → Bool) (st : State) (c : Critical) :
    ∃ st', Identified st c st' ∧ (c.exec cfg live st).1.identities = st'.identities := by
  by_cases hclose : ∃ s, c = .close s
  · obtain ⟨s, rfl⟩ := hclose
    exact ⟨_, .closed s, identities_closeSession live st s⟩
  rw [not_exists] at hclose
  have hout := outcome_exec cfg live st c
  generalize (c.exec cfg live st).1 = st' at hout
  cases hout with
  | tidied _ ht => exact ⟨st, .same hclose, ht.toSameSessions.identities⟩
  | sessionUuid s fresh => exact ⟨_, .sessionUuid s fresh, rfl⟩
  | register s => exact ⟨_, .register s, rfl⟩
  | loginCommit s l => exact ⟨_, .loginCommit s l, rfl⟩
  | setUserUuid s name uid => exact ⟨_, .setUserUuid s name uid, rfl⟩
  | closed s => exact absurd rfl (hclose s)
  | notJoined s req =>
    exact ⟨st, .same hclose, (SameSessions.of_people same_cachePassword.1).identities⟩
  | joined s req hash _ _ _ =>
    have hjoin := congrArg identities (people_joined live st s req hash)
    exact ⟨st, .same hclose, hjoin⟩
  | left s room denied cur _ _ =>
    exact ⟨st, .same hclose, (SameSessions.of_people people_vacate).identities⟩
  | forgotten | idCached | invited => exact ⟨st, .same hclose, rfl⟩
  | kicked s target room set _ _ =>
    refine ⟨st, .same hclose, ?_⟩
    exact (SameSessions.of_people people_afterKick).identities.trans identities_moveKicked
  | removed s room _ => exact ⟨st, .same hclose, identities_enterLobby⟩

/-- Every other section leaves these tables alone. -/
theorem identities_exec {c : Critical} (hc : c.identifies = false) (cfg : Config)
    (live : Session → Bool) (st : State) : (c.exec cfg live st).1.identities = st.identities := by
  obtain ⟨st', hst', hids⟩ := identified_exec cfg live st c
  cases hst' with
  | same => exact hids
  | sessionUuid | register | loginCommit | setUserUuid | closed => cases hc

/-! ### Who comes into a set -/

/-- The session a section acts for, if it may write that session anywhere. -/
def Critical.actor : Critical → Option Session
  | .sessionUuid s _ => some s
  | .register s => some s
  | .loginCommit s _ => some s
  | .setUserUuid s _ _ => some s
  | .join s _ => some s
  | .leave s _ _ => some s
  | .close s => some s
  | .kick s _ _ => some s
  | .removeRoom s _ => some s
  | _ => none

namespace State

variable {cfg : Config} {live : Session → Bool} {st : State} {s p : Session} {r n : String}

theorem mem_forgetName : p ∈ membersOf (st.forgetName s) n ↔
    p ∈ membersOf st.byUser n ∧ (st.user.lookup s.addr = some n → p ≠ s) := by
  unfold forgetName
  cases hold : st.user.lookup s.addr with
  | none => simp
  | some old =>
    rw [Option.some.injEq, eq_comm]
    dsimp only
    cases hset : st.byUser.lookup old with
    | none => exact mem_of_lookup_none hset
    | some set => exact mem_insert_of_lookup hset (mem_remove.trans and_comm)

/-- Who is listed under a nickname after a login. -/
theorem mem_byUser_loginCommit {l : Login} : p ∈ membersOf (st.loginCommit s l).byUser n ↔
    n = l.name ∧ p = s ∨
      p ∈ membersOf st.byUser n ∧ (st.user.lookup s.addr = some n → p ≠ s) := by
  show p ∈ membersOf ((st.forgetName s).insert l.name _) n ↔ _
  rw [membersOf_insert]
  split_ifs with hn
  · rw [mem_add, ← hn, mem_forgetName]
    simp
  · rw [mem_forgetName]
    simp [hn]

/-- Who is listed under a nickname after a close. -/
theorem mem_byUser_forgetSession : p ∈ membersOf (st.forgetSession s).byUser n ↔
    p ∈ membersOf st.byUser n ∧ (n = st.nameOf s → n ≠ "" → p ≠ s) := by
  unfold forgetSession
  split_ifs with hempty
  · refine ⟨fun hp => ⟨hp, fun hn hne => ?_⟩, And.left⟩
    exact absurd (hn.trans hempty) hne
  · cases hset : st.byUser.lookup (st.nameOf s) with
    | none => exact mem_of_lookup_none hset
    | some set =>
      rw [mem_insert_of_lookup hset (mem_remove.trans and_comm)]
      exact and_congr_right fun _ => ⟨fun h hn _ => h hn, fun h hn => h hn (hn ▸ hempty)⟩

/-- A close changes the reverse index only when it forgets the session. -/
theorem byUser_closeSession : (st.closeSession live s).1.byUser = (st.forgetSession s).byUser :=
  (congrArg State.byUser people_closeSession :)

/-- Who is in a room after a close. -/
theorem mem_rooms_closeSession : p ∈ membersOf (st.closeSession live s).1.rooms r ↔
    p ∈ membersOf st.rooms r ∧
      (st.curRoom.lookup s.addr = some r → p ≠ s ∧ live p = true) := by
  cases h : st.curRoom.lookup s.addr with
  | none =>
    rw [closeSession_of_lookup_none h]
    simp only [reduceCtorEq, false_implies, and_true]
    rfl
  | some room =>
    rw [closeSession_of_lookup h]
    rw [mem_vacate, Option.some.injEq]
    refine and_congr_right fun _ => ?_
    rw [eq_comm]

end State

open State

variable {c : Critical} {cfg : Config} {live : Session → Bool} {st : State} {p : Session}
  {r n : String}

/-- **Who comes into a room.** A session that is in a room after a section was there before,
    came into the lobby, or joined. -/
theorem entered_exec (h : p ∈ membersOf (c.exec cfg live st).1.rooms r) :
    p ∈ membersOf st.rooms r ∨
    (r = "lobby" ∧ ((∃ l, c = .loginCommit p l) ∨
      (∃ room denied, c = .leave p room denied ∧ p.addr ∈ st.authed) ∨
      (live p = true ∧ ∃ n, p ∈ membersOf st.byUser n) ∨ ∃ r', p ∈ membersOf st.rooms r')) ∨
    ∃ req, c = .join p req ∧ r = req.room ∧ p.addr ∈ st.authed ∧
      (st.cachePassword req).admits cfg (st.nameOf p) req = true := by
  have hout := outcome_exec cfg live st c
  generalize (c.exec cfg live st).1 = st' at hout h
  cases hout with
  | tidied _ ht => exact .inl (ht.rooms.sub r p h)
  | sessionUuid | register | setUserUuid | forgotten | idCached | invited => exact .inl h
  | loginCommit s l =>
    obtain h | ⟨hr, rfl⟩ := mem_enter.mp h
    · exact .inl h
    · exact .inr (.inl ⟨hr, .inl ⟨l, rfl⟩⟩)
  | notJoined s req => exact .inl (same_cachePassword.2.1 ▸ h)
  | joined s req hash hauthed hadmits _ =>
    obtain ⟨-, ⟨hr, rfl⟩ | ⟨h, -⟩⟩ := mem_completeJoin.mp h
    · exact .inr (.inr ⟨req, rfl, hr, hauthed, hadmits⟩)
    · exact .inl (same_cachePassword.2.1 ▸ h)
  | left s room denied cur hauthed _ =>
    obtain h | ⟨hr, rfl⟩ := mem_enter.mp h
    · exact .inl (mem_vacate.mp h).1
    · exact .inr (.inl ⟨hr, .inr (.inl ⟨room, denied, rfl, hauthed⟩)⟩)
  | closed s => exact .inl (mem_rooms_closeSession.mp h).1
  | kicked s target room set _ hset =>
    obtain ⟨h, -⟩ | ⟨hr, h⟩ := mem_moveKicked.mp (mem_afterKick.mp h)
    · exact .inl h
    · obtain ⟨htarget, hlive, -⟩ := mem_kickTargets.mp h
      rw [← membersOf_of_lookup hset] at htarget
      exact .inr (.inl ⟨hr, .inr (.inr (.inl ⟨hlive, target, htarget⟩))⟩)
  | removed s room _ =>
    obtain h | ⟨hr, h⟩ := mem_enterLobby.mp (mem_eraseRoom.mp h).2
    · exact .inl h
    · exact .inr (.inl ⟨hr, .inr (.inr (.inr ⟨room, (mem_prune.mp h).2⟩))⟩)

/-- **Who comes under a nickname.** A session that is listed under a nickname after a section
    was before, or has logged in under it. -/
theorem listed_exec (h : p ∈ membersOf (c.exec cfg live st).1.byUser n) :
    p ∈ membersOf st.byUser n ∨ ∃ l, c = .loginCommit p l ∧ n = l.name := by
  have hout := outcome_exec cfg live st c
  generalize (c.exec cfg live st).1 = st' at hout h
  cases hout with
  | tidied _ ht => exact .inl (ht.byUser.sub n p h)
  | sessionUuid | register | setUserUuid | forgotten | idCached | invited => exact .inl h
  | loginCommit s l =>
    obtain ⟨hn, rfl⟩ | ⟨h, -⟩ := mem_byUser_loginCommit.mp h
    · exact .inr ⟨l, rfl, hn⟩
    · exact .inl h
  | notJoined s req => exact .inl (byUser_of_people same_cachePassword.1 ▸ h)
  | joined s req hash _ _ _ =>
    have hjoin := congrArg State.byUser (people_joined live st s req hash)
    exact .inl (hjoin ▸ h :)
  | left s room denied cur _ _ =>
    exact .inl (byUser_of_people people_vacate ▸ h)
  | closed s =>
    rw [byUser_closeSession] at h
    exact .inl (mem_byUser_forgetSession.mp h).1
  | kicked s target room set _ hset =>
    rw [byUser_of_people people_afterKick, byUser_moveKicked, membersOf_insert] at h
    split_ifs at h with hn
    · rw [hn, membersOf_of_lookup hset]
      exact .inl (mem_prune.mp h).2
    · exact .inl h
  | removed s room _ =>
    have hmoved := congrArg State.byUser
      (apart_enterLobby st ((membersOf st.rooms room).prune live))
    exact .inl (hmoved ▸ h :)

/-- **Who comes to be anywhere.** An address that has a room after a section had one before,
    is that of the session the section acts for, which logs in or has, or that of a living
    session in a room. -/
theorem located_exec {a : ℕ} (h : (c.exec cfg live st).1.curRoom.lookup a ≠ none) :
    st.curRoom.lookup a ≠ none ∨ ∃ p, p.addr = a ∧
      (c.actor = some p ∧ ((∃ l, c = .loginCommit p l) ∨ p.addr ∈ st.authed) ∨
        live p = true ∧ ∃ r, p ∈ membersOf st.rooms r) := by
  have hinsert : ∀ {room : String} (s : Session), (st.curRoom.insert s.addr room).lookup a ≠ none →
      st.curRoom.lookup a ≠ none ∨ s.addr = a := by
    intro room s h
    rw [lookup_insert_ite] at h
    split_ifs at h with ha
    · exact .inr ha.symm
    · exact .inl h
  have hout := outcome_exec cfg live st c
  generalize (c.exec cfg live st).1 = st' at hout h
  cases hout with
  | tidied _ ht => exact .inl (ht.curRoom ▸ h)
  | sessionUuid | register | setUserUuid | forgotten | idCached | invited => exact .inl h
  | loginCommit s l => exact (hinsert s h).imp id fun ha => ⟨s, ha, .inl ⟨rfl, .inl ⟨l, rfl⟩⟩⟩
  | notJoined s req =>
    exact .inl (curRoom_of_people same_cachePassword.1 ▸ h)
  | joined s req hash hauthed _ _ =>
    have hjoin := congrArg State.curRoom (people_joined live st s req hash)
    exact (hinsert s (hjoin ▸ h :)).imp id fun ha => ⟨s, ha, .inl ⟨rfl, .inr hauthed⟩⟩
  | left s room denied cur hauthed _ =>
    change ((st.vacate live s cur (st.nameOf s)).curRoom.insert s.addr "lobby").lookup a ≠ none at h
    rw [curRoom_of_people people_vacate] at h
    exact (hinsert s h).imp id fun ha => ⟨s, ha, .inl ⟨rfl, .inr hauthed⟩⟩
  | closed s =>
    rw [curRoom_closeSession, lookup_erase_ite] at h
    split_ifs at h
    · exact absurd rfl h
    · exact .inl h
  | kicked s target room set _ hset =>
    rw [curRoom_of_people people_afterKick, curRoom_moveKicked] at h
    split_ifs at h with hmoved
    · obtain ⟨p, hp, rfl⟩ := hmoved
      exact .inl ((mem_kickTargets.mp hp).2.2 ▸ Option.some_ne_none room)
    · exact .inl h
  | removed s room _ =>
    change (st.enterLobby ((membersOf st.rooms room).prune live)).curRoom.lookup a ≠ none at h
    rw [curRoom_enterLobby] at h
    split_ifs at h with hmoved
    · obtain ⟨p, hp, ha⟩ := hmoved
      obtain ⟨hlive, hroom⟩ := mem_prune.mp hp
      exact .inr ⟨p, ha, .inr ⟨hlive, room, hroom⟩⟩
    · exact .inl h

/-- **Where room ids come from.** A room id that is cached after a section was before, or the
    section caches it. -/
theorem roomIds_exec {room : String} {id : RoomId}
    (h : (c.exec cfg live st).1.roomIds.lookup room = some id) :
    st.roomIds.lookup room = some id ∨ c = .cacheRoomId room id := by
  have hout := outcome_exec cfg live st c
  generalize (c.exec cfg live st).1 = st' at hout h
  cases hout with
  | tidied _ ht => exact .inl (ht.roomIds ▸ h)
  | sessionUuid | register | loginCommit | setUserUuid | invited => exact .inl h
  | notJoined s req => exact .inl (roomIds_of_people same_cachePassword.1 ▸ h)
  | joined s req hash _ _ _ =>
    have hjoin := congrArg State.roomIds (people_joined live st s req hash)
    exact .inl (hjoin ▸ h :)
  | left s room denied cur _ _ =>
    exact .inl (roomIds_of_people people_vacate ▸ h)
  | closed s =>
    have hclose : (st.closeSession live s).1.roomIds = st.roomIds :=
      (congrArg State.roomIds people_closeSession :)
    exact .inl (hclose ▸ h)
  | forgotten room' =>
    change (st.roomIds.erase room').lookup room = some id at h
    rw [lookup_erase_ite] at h
    split_ifs at h
    exact .inl h
  | idCached room' id' _ =>
    obtain ⟨rfl, rfl⟩ | ⟨-, h⟩ := lookup_insert_eq_some.mp h
    · exact .inr rfl
    · exact .inl h
  | kicked s target room' set _ _ =>
    have hmoved := congrArg State.roomIds (apart_moveKicked live st set target room')
    rw [roomIds_of_people people_afterKick] at h
    exact .inl (hmoved ▸ h :)
  | removed s room' _ =>
    have hmoved := congrArg State.roomIds
      (apart_enterLobby st ((membersOf st.rooms room').prune live))
    exact .inl (hmoved ▸ h :)

end Knights.Chat
