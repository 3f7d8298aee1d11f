import Knights.Chat.State

namespace Knights.Chat

open Lib

/-!
# Critical sections: login and rooms

The handlers of the chat service do their work in critical sections of one mutex.  Here are
the sections about sessions and rooms, each as a function of the state that gives the new
state and what the handler takes out of the section.  What a handler does between its
sections is another module's matter.

* `ensureUnique`, `loginCommit`, … — the sections of a login;
* `join`, `leave`, `closeSession` — the three ways a session moves on its own.  All three take
  it out of its old room with `vacate`;
* `invite`, `kick`, `removeRoom` — what owners and administrators do;
* `cleanRooms`, `roomUsersCheck`, `localUsers` — the sections of listings.
-/

/-- Error codes a session is sent. -/
inductive Errc
  | internalError
  | nameTaken
  | unauthorized
  | forbidden
  | noRoom
  | roomMismatch
  deriving DecidableEq, Repr

/-- An error reply. -/
structure Refusal where
  code : Errc
  text : String
  deriving DecidableEq, Repr

namespace State

variable (cfg : Config) (live : Session → Bool) (st : State) (s : Session)

/-! ### Login -/

/-- `get_or_create_session_uuid`, with `fresh` for the uuid that would be generated. -/
def getOrCreateSessionUuid (fresh : String) : State × String :=
  match st.sessionUuid.lookup s.addr with
  | some id =>
    if id = "" then ({ st with sessionUuid := st.sessionUuid.insert s.addr fresh }, fresh)
    else (st, id)
  | none => ({ st with sessionUuid := st.sessionUuid.insert s.addr fresh }, fresh)

/-- The first section of a login: the session can be found by its id. -/
def register : State := { st with bySessionId := st.bySessionId.insert s.id s }

/-- Nobody is listed under the name. -/
def isUnused (name : String) : Bool :=
  (st.byUser.lookup name).isNone || (membersOf st.byUser name).isEmpty

/-- A temporary name: the first of four candidates that is unused, or the fifth whoever has
    it. -/
def tempName (temps : ℕ → String) : String :=
  (((List.range 4).map temps).find? st.isUnused).getD (temps 4)

/-- `ensure_unique_or_error`; `temps` are the names that `gen_temp_name_uuid8` makes.  The
    search for a holder of a name drops the sessions that are gone up to the first that is
    alive. -/
def ensureUnique (desired : String) (temps : ℕ → String) : State × Except Refusal String :=
  if desired ≠ "" ∧ desired ≠ "guest" then
    match st.byUser.lookup desired with
    | none => (st, .ok desired)
    | some set =>
      let rest := set.dropWhile fun t => !live t
      ({ st with byUser := st.byUser.insert desired rest },
        if rest.isEmpty then .ok desired else .error ⟨.nameTaken, "name taken"⟩)
  else (st, .ok (st.tempName temps))

/-- What a login writes for its session. -/
structure Login where
  name : String
  guestMode : Bool
  ip : String
  hwidHash : String
  deriving DecidableEq, Repr

/-- The reverse index without a session under its old nickname. -/
def forgetName : Table String RoomSet :=
  match st.user.lookup s.addr with
  | none => st.byUser
  | some old =>
    match st.byUser.lookup old with
    | none => st.byUser
    | some set => st.byUser.insert old (set.remove s)

/-- Put a session into a room, without taking it out of another. -/
def enter (room : String) : State :=
  { st with
    curRoom := st.curRoom.insert s.addr room
    rooms := st.rooms.insert room ((membersOf st.rooms room).add s) }

/-- The section that makes a login take effect. -/
def loginCommit (l : Login) : State :=
  let byUser := st.forgetName s
  { st.enter s "lobby" with
    user := st.user.insert s.addr l.name
    byUser := byUser.insert l.name ((membersOf byUser l.name).add s)
    authed := insert s.addr st.authed
    guest := if l.guestMode then insert s.addr st.guest else st.guest.erase s.addr
    sessionIp := st.sessionIp.insert s.addr l.ip
    sessionHwidHash := st.sessionHwidHash.insert s.addr l.hwidHash
    userLastIp := if l.ip = "" then st.userLastIp else st.userLastIp.insert l.name l.ip
    userLastHwidHash :=
      if l.hwidHash = "" then st.userLastHwidHash
      else st.userLastHwidHash.insert l.name l.hwidHash }

/-- The user row of a session becomes known. -/
def setUserUuid (uid : UserId) : State :=
  { st with userUuid := st.userUuid.insert s.addr uid }

/-! ### Leaving a room -/

/-- Whom ownership passes to: the first member with a nickname other than `"guest"`, else the
    last with any.  Empty if no member has one. -/
def pickOwner (found : String) : List Session → String
  | [] => found
  | p :: rest =>
    match st.user.lookup p.addr with
    | none => pickOwner found rest
    | some name => if name ≠ "guest" then name else pickOwner name rest

/-- Pass the ownership of a room on to one of its members. -/
def passOwnership (room : String) (members : List Session) : State :=
  let newOwner := st.pickOwner "" members
  if newOwner = "" then st else { st with roomOwners := st.roomOwners.insert room newOwner }

/-- Forget a room that has no members left. -/
def eraseRoom (room : String) : State :=
  { st with
    rooms := st.rooms.erase room
    roomPasswords := st.roomPasswords.erase room
    roomOwners := st.roomOwners.erase room
    roomInvites := st.roomInvites.erase room }

/-- Take a session, known as `name`, out of a room.  The room goes if nobody is left, and its
    ownership passes on if it was the session's. -/
def vacate (room name : String) : State :=
  match st.rooms.lookup room with
  | none => st
  | some set =>
    let rest := (set.remove s).prune live
    if rest.isEmpty ∧ room ≠ "lobby" then st.eraseRoom room
    else
      let st' := { st with rooms := st.rooms.insert room rest }
      if room ≠ "lobby" ∧ st.roomOwners.lookup room = some name then st'.passOwnership room rest
      else st'

/-! ### Joining a room -/

/-- A join as its section sees it: the room, the password that came with the request, what
    Redis had as the room's password, and the verdict of the join hook. -/
structure JoinRequest where
  room : String
  password : String
  redisPassword : Option String
  denied : Option String
  deriving DecidableEq, Repr

/-- What the rest of a join needs from its section. -/
structure Joined where
  sender : String
  previousRoom : Option String
  userUuid : Option UserId
  newHash : Option String
  targets : List Session
  deriving DecidableEq, Repr

/-- A password found in Redis replaces the one kept locally. -/
def cachePassword (req : JoinRequest) : State :=
  match req.redisPassword with
  | none => st
  | some pw => { st with roomPasswords := st.roomPasswords.insert req.room pw }

/-- The hash that a password for the room has to match, empty if there is none. -/
def expectedPassword (req : JoinRequest) : String :=
  let found := req.redisPassword.getD ""
  if found ≠ "" then found else (st.roomPasswords.lookup req.room).getD ""

/-- The password of the request is the room's. -/
def passwordOk (req : JoinRequest) : Bool :=
  let expected := st.expectedPassword req
  expected ≠ "" && req.password ≠ "" && cfg.verifyRoomPassword req.password expected

/-- There is a trace of the room anywhere. -/
def roomExists (req : JoinRequest) : Bool :=
  (st.rooms.lookup req.room).isSome || (st.roomOwners.lookup req.room).isSome ||
    (st.roomPasswords.lookup req.room).isSome || st.expectedPassword req ≠ ""

/-- The session's user owns the room. -/
def isRoomOwner (room user : String) : Bool :=
  room ≠ "lobby" && st.roomOwners.lookup room = some user

/-- The session's user is invited to the room. -/
def hasRoomInvite (room user : String) : Bool := room ≠ "lobby" && user ∈ st.invitedTo room

/-- A join is let in: everyone may enter the lobby or make a new room, and otherwise it takes
    an administrator, the owner, an invitation or the password. -/
def admits (user : String) (req : JoinRequest) : Bool :=
  req.room = "lobby" || !st.roomExists req || user ∈ cfg.adminUsers ||
    st.isRoomOwner req.room user || st.hasRoomInvite req.room user || st.passwordOk cfg req

/-- The hash a join stores: an upgrade of a legacy hash, or the password of a room that has
    none. -/
def newPassword (req : JoinRequest) : Except Refusal (Option String) :=
  let expected := st.expectedPassword req
  let hashed := cfg.hashRoomPassword req.password
  if st.passwordOk cfg req then
    .ok (if isModernRoomPasswordHash expected ∨ hashed = "" then none else some hashed)
  else if expected = "" ∧ req.password ≠ "" ∧ req.room ≠ "lobby" then
    if hashed = "" then .error ⟨.internalError, "password hash failed"⟩ else .ok (some hashed)
  else .ok none

/-- Store a new password hash. -/
def storePassword (room : String) (hash : Option String) : State :=
  match hash with
  | none => st
  | some h => { st with roomPasswords := st.roomPasswords.insert room h }

/-- Leave the current room, if it is another one. -/
def leavePrevious (room name : String) : State :=
  match st.curRoom.lookup s.addr with
  | none => st
  | some old => if old = room then st else st.vacate live s old name

/-- A room without an owner gets the one who enters. -/
def claimRoom (room user : String) : State :=
  if room ≠ "lobby" ∧ st.roomOwners.lookup room = none ∧ user ≠ "guest" then
    { st with roomOwners := st.roomOwners.insert room user }
  else st

/-- An invitation is used up. -/
def consumeInvite (room user : String) : State :=
  let rest := (st.invitedTo room).erase user
  if (st.roomInvites.lookup room).isNone then st
  else if rest = ∅ then { st with roomInvites := st.roomInvites.erase room }
  else { st with roomInvites := st.roomInvites.insert room rest }

/-- The part of a join after it has been let in. -/
def completeJoin (req : JoinRequest) (newHash : Option String) : State × Joined :=
  let sender := st.nameOf s
  let invited := st.hasRoomInvite req.room sender
  let entered := ((st.storePassword req.room newHash).leavePrevious live s req.room sender).enter s
    req.room
  let claimed := entered.claimRoom req.room sender
  let settled := (if invited then claimed.consumeInvite req.room sender else claimed).pruneRoom live
    req.room
  (settled,
    { sender := sender
      previousRoom := st.curRoom.lookup s.addr
      userUuid := st.userUuid.lookup s.addr
      newHash := newHash
      targets := settled.reachable sender (membersOf settled.rooms req.room) })

/-- The section of `on_join`. -/
def join (req : JoinRequest) : State × Except Refusal Joined :=
  if s.addr ∉ st.authed then (st, .error ⟨.unauthorized, "unauthorized"⟩)
  else
    match req.denied with
    | some reason => (st, .error ⟨.forbidden, reason⟩)
    | none =>
      let st' := st.cachePassword req
      if !st'.admits cfg (st.nameOf s) req then
        (st', .error ⟨.forbidden,
          if st'.expectedPassword req ≠ "" then "room locked" else "invite required"⟩)
      else
        match st'.newPassword cfg req with
        | .error refusal => (st', .error refusal)
        | .ok newHash => ((st'.completeJoin live s req newHash).1,
            .ok (st'.completeJoin live s req newHash).2)

/-! ### Leave and close -/

/-- What the rest of a leave needs from its section. -/
structure Left where
  room : String
  sender : String
  userUuid : Option UserId
  targets : List Session
  deriving DecidableEq, Repr

/-- The section of `on_leave`, with the verdict of the leave hook. -/
def leave (room : String) (denied : Option String) : State × Except Refusal Left :=
  if s.addr ∉ st.authed then (st, .error ⟨.unauthorized, "unauthorized"⟩)
  else
    match st.curRoom.lookup s.addr with
    | none => (st, .error ⟨.noRoom, "no current room"⟩)
    | some cur =>
      if room ≠ "" ∧ cur ≠ room then (st, .error ⟨.roomMismatch, "room mismatch"⟩)
      else
        match st.rooms.lookup cur with
        | none => (st.enter s "lobby", .ok ⟨cur, "", none, []⟩)
        | some set =>
          match denied with
          | some reason => (st, .error ⟨.forbidden, reason⟩)
          | none =>
            ((st.vacate live s cur (st.nameOf s)).enter s "lobby",
              .ok ⟨cur, st.nameOf s, st.userUuid.lookup s.addr,
                st.reachable (st.nameOf s) ((set.remove s).prune live)⟩)

/-- What the rest of a close needs from its section. -/
structure Closed where
  name : String
  roomLeft : Option String
  userUuid : Option UserId
  targets : List Session
  deriving DecidableEq, Repr

/-- Forget what the tables keyed by `Session*` know of a session, its user row and its room
    apart. -/
def forgetSession : State :=
  { st with
    bySessionId := st.bySessionId.erase s.id
    authed := st.authed.erase s.addr
    guest := st.guest.erase s.addr
    byUser :=
      if st.nameOf s = "" then st.byUser
      else
        match st.byUser.lookup (st.nameOf s) with
        | none => st.byUser
        | some set => st.byUser.insert (st.nameOf s) (set.remove s)
    user := st.user.erase s.addr
    sessionUuid := st.sessionUuid.erase s.addr
    sessionIp := st.sessionIp.erase s.addr
    sessionHwidHash := st.sessionHwidHash.erase s.addr }

/-- The section of `on_session_close`. -/
def closeSession : State × Closed :=
  let name := st.nameOf s
  let st₁ := st.forgetSession s
  match st.curRoom.lookup s.addr with
  | none => (st₁, ⟨name, none, st.userUuid.lookup s.addr, []⟩)
  | some room =>
    let st₂ := st₁.vacate live s room name
    ({ st₂ with curRoom := st₂.curRoom.erase s.addr },
      ⟨name, some room, st.userUuid.lookup s.addr,
        st₁.reachable name (((membersOf st.rooms room).remove s).prune live)⟩)

/-- A room whose row in the database was closed loses its id and what is left of it. -/
def forgetRoom (room : String) : State :=
  { st with
    roomIds := st.roomIds.erase room
    roomOwners := st.roomOwners.erase room
    roomInvites := st.roomInvites.erase room }

/-- `room_ids.emplace`, which does not overwrite. -/
def cacheRoomId (room : String) (id : RoomId) : State :=
  match st.roomIds.lookup room with
  | some _ => st
  | none => { st with roomIds := st.roomIds.insert room id }

/-! ### Managing a room -/

/-- The session's user may manage the room: its owner and administrators may, guests not. -/
def mayManage (room : String) : Bool :=
  st.nameOf s ≠ "guest" &&
    (st.nameOf s ∈ cfg.adminUsers || st.roomOwners.lookup room = some (st.nameOf s))

/-- The section of `/invite`; the answer says whether it was allowed. -/
def invite (target room : String) : State × Bool :=
  if st.mayManage cfg s room then
    ({ st with roomInvites := st.roomInvites.insert room (insert target (st.invitedTo room)) },
      true)
  else (st, false)

/-- Move sessions into the lobby, one after another. -/
def enterLobby (moved : List Session) : State := moved.foldl (fun st p => st.enter p "lobby") st

/-- The sessions of a user that are alive and in the room. -/
def kickTargets (set : RoomSet) (room : String) : List Session :=
  set.filter fun p => live p && st.curRoom.lookup p.addr = some room

/-- The rooms without some members of one of them. -/
def withoutMembers (room : String) (kicked : List Session) : Table String RoomSet :=
  match st.rooms.lookup room with
  | none => st.rooms
  | some members => st.rooms.insert room (members.filter (· ∉ kicked))

/-- Move the sessions of a user that are in the room to the lobby. -/
def moveKicked (set : RoomSet) (target room : String) : State :=
  let kicked := st.kickTargets live set room
  { st with
    rooms := st.withoutMembers room kicked
    byUser := st.byUser.insert target (set.prune live) }.enterLobby kicked

/-- What becomes of a room after members were kicked: it goes if nobody is left, and its
    ownership passes on if it was the kicked user's. -/
def afterKick (target room : String) : State :=
  match st.rooms.lookup room with
  | none => st
  | some set =>
    if set.isEmpty then st.eraseRoom room
    else if st.roomOwners.lookup room = some target then
      st.passOwnership room (set.prune live)
    else st

/-- The section of `/kick`; the answer is the sessions that were kicked, none if the kick was
    not allowed. -/
def kick (target room : String) : State × Option (List Session) :=
  if !st.mayManage cfg s room then (st, none)
  else
    match st.byUser.lookup target with
    | none => (st, some [])
    | some set =>
      ((st.moveKicked live set target room).afterKick live target room,
        some (st.kickTargets live set room))

/-- The section of `/room remove`; the answer is the sessions that were moved, none if the
    removal was not allowed. -/
def removeRoom (room : String) : State × Option (List Session) :=
  if !st.mayManage cfg s room then (st, none)
  else
    let moved := (membersOf st.rooms room).prune live
    ((st.enterLobby moved).eraseRoom room, some moved)

/-! ### Listings -/

/-- An entry of a list of rooms. -/
structure RoomInfo where
  name : String
  count : ℕ
  isLocked : Bool
  deriving DecidableEq, Repr

/-- A room to drop when the rooms are cleaned: nobody in it is alive. -/
def isDeserted (room : String) : Bool :=
  match st.rooms.lookup room with
  | none => false
  | some set => (set.prune live).isEmpty && room ≠ "lobby"

/-- Drop the sessions that are gone from all rooms, and the rooms where nobody is left. -/
def tidyRooms : State :=
  { st with
    rooms := st.rooms.sift fun room set =>
      if (set.prune live).isEmpty ∧ room ≠ "lobby" then none else some (set.prune live)
    roomPasswords := st.roomPasswords.sift fun room pw =>
      if st.isDeserted live room then none else some pw }

/-- The section of `send_rooms_list` and `send_snapshot` that cleans the rooms and lists them:
    as Redis had them, or as they are known locally. -/
def cleanRooms (fromRedis : Option (List RoomInfo)) : State × List RoomInfo :=
  let st' := st.tidyRooms live
  (st', match fromRedis with
    | some infos => infos.map fun info =>
        { info with isLocked := info.isLocked || (st'.roomPasswords.lookup info.name).isSome }
    | none => st'.rooms.entries.map fun e =>
        ⟨e.1, e.2.length, (st'.roomPasswords.lookup e.1).isSome⟩)

/-- Look for a session in a set, dropping the ones before it that are gone. -/
def seek (addr : ℕ) : RoomSet → RoomSet × Bool
  | [] => ([], false)
  | p :: rest =>
    if live p then
      if p.addr = addr then (p :: rest, true) else (p :: (seek addr rest).1, (seek addr rest).2)
    else seek addr rest

/-- The first section of `send_room_users`: whether the list may be sent, and the viewer's
    nickname.  A room is locked if a password is kept for it locally. -/
def roomUsersCheck (target : String) : State × Bool × String :=
  let viewer := (st.user.lookup s.addr).getD ""
  let isLocked := (st.roomPasswords.lookup target).isSome
  match st.rooms.lookup target with
  | none => (st, !isLocked, viewer)
  | some set =>
    ({ st with rooms := st.rooms.insert target (seek live s.addr set).1 },
      !isLocked || (seek live s.addr set).2, viewer)

/-- The nicknames of a room's members, as far as they are known locally. -/
def localUsers (room : String) : State × List String :=
  (st.pruneRoom live room, ((membersOf st.rooms room).prune live).map st.nameOf)

/-- Who is in a room, and of those who may hear from a sender if there is one. -/
def roomTargets (room : String) (sender : Option String) : State × List Session :=
  let st' := st.pruneRoom live room
  (st', match sender with
    | none => membersOf st'.rooms room
    | some sender => st'.reachable sender (membersOf st'.rooms room))

/-- The first section of `on_chat_send`: the room the session is in. -/
def chatRoom (room : String) : Except Refusal String :=
  if s.addr ∉ st.authed then .error ⟨.unauthorized, "unauthorized"⟩
  else
    match st.curRoom.lookup s.addr with
    | none => .error ⟨.noRoom, "no current room"⟩
    | some cur =>
      if room ≠ "" ∧ room ≠ cur then .error ⟨.roomMismatch, "room mismatch"⟩ else .ok cur

end State

end Knights.Chat
