import Knights.Chat.Sections

namespace Knights.Chat

open Lib

/-!
# Redis and the database

The two stores that chat services share.  Every command is atomic in its store.  A command may
fail in three ways, and `Fate` says which: it was never carried out, or it was and the answer got
lost, or its transaction was not committed.  A `commit()` that throws comes after the answer to
what was created: a service knows the id of such a user or message whatever became of the row.

Of Redis the keys that the modelled handlers read are kept: `room:password:<room>`,
`room:users:<room>`, `rooms:active`, the recent messages of a room id, and what was published.
Of the database the rows of users, rooms and messages and the `last_seen_msg_id` of
memberships.  `Db` carries what the schema guarantees about generated ids, so that a database
with an id to be used twice cannot be built.  Foreign keys are not checked: a command that one
refuses is a lost one.
-/

/-- What becomes of a command. -/
inductive Fate
  | done
  /-- The command did not reach the store. -/
  | lost
  /-- The command was carried out, its answer did not arrive. -/
  | unanswered
  /-- The transaction was not committed, whatever it had answered before. -/
  | aborted
  deriving DecidableEq, Repr

/-- A message of the recent history as it is cached and sent; the time stamp is left out. -/
structure SnapshotMessage where
  id : ℕ
  sender : String
  text : String
  deriving DecidableEq, Repr

/-! ### Redis -/

/-- The keys of Redis. -/
structure Redis where
  password : Table String String := ∅
  users : Table String (List String) := ∅
  active : List String := []
  recent : Table RoomId (List ℕ) := ∅
  message : Table ℕ SnapshotMessage := ∅
  published : List (String × String) := []

namespace Redis

/-- The members of `room:users:<room>`. -/
def usersOf (r : Redis) (room : String) : List String := (r.users.lookup room).getD []

/-- The ids cached for a room id, newest first. -/
def recentOf (r : Redis) (rid : RoomId) : List ℕ := (r.recent.lookup rid).getD []

/-- `SADD` on a set, kept as the list that `SMEMBERS` replies. -/
def sadd (set : List String) (x : String) : List String := if x ∈ set then set else set ++ [x]

/-- `SREM` on a set. -/
def srem (set : List String) (x : String) : List String := set.filter (· ≠ x)

/-- The commands of the chat service. -/
inductive Cmd
  | getPassword (room : String)
  | setexPassword (room hash : String)
  | delPassword (room : String)
  | mgetPasswords (rooms : List String)
  | saddUser (room name : String)
  | sremUser (room name : String)
  | delUsers (room : String)
  | smembersUsers (room : String)
  | scardUsers (room : String)
  | scardManyUsers (rooms : List String)
  | saddActive (room : String)
  | sremActive (room : String)
  | smembersActive
  | setexMessage (id : ℕ) (m : SnapshotMessage)
  | lpushTrimRecent (rid : RoomId) (id maxLen : ℕ)
  | lrangeRecent (rid : RoomId) (count : ℕ)
  | mgetMessages (ids : List ℕ)
  | getMessage (id : ℕ)
  | publish (channel message : String)
  deriving DecidableEq, Repr

/-- The answer to a command; the failure of a command without data is not told apart where no
    handler does. -/
@[reducible] def Cmd.Ans : Cmd → Type
  | .getPassword _ => Option String
  | .mgetPasswords _ => Option (List (Option String))
  | .smembersUsers _ => Option (List String)
  | .scardUsers _ => Option ℕ
  | .scardManyUsers _ => Option (List ℕ)
  | .smembersActive => List String
  | .setexMessage _ _ => Bool
  | .lrangeRecent _ _ => Option (List ℕ)
  | .mgetMessages _ => Option (List (Option SnapshotMessage))
  | .getMessage _ => Option SnapshotMessage
  | .publish _ _ => Bool
  | _ => Unit

/-- The keys after a command. -/
def apply (r : Redis) : Cmd → Redis
  | .setexPassword room hash => { r with password := r.password.insert room hash }
  | .delPassword room => { r with password := r.password.erase room }
  | .saddUser room name => { r with users := r.users.insert room (sadd (r.usersOf room) name) }
  | .sremUser room name => { r with users := r.users.insert room (srem (r.usersOf room) name) }
  | .delUsers room => { r with users := r.users.erase room }
  | .saddActive room => { r with active := sadd r.active room }
  | .sremActive room => { r with active := srem r.active room }
  | .setexMessage id m => { r with message := r.message.insert id m }
  | .lpushTrimRecent rid id maxLen =>
    { r with recent := r.recent.insert rid ((id :: r.recentOf rid).take maxLen) }
  | .publish channel message => { r with published := r.published ++ [(channel, message)] }
  | _ => r

/-- What a command reads. -/
def answer (r : Redis) : (c : Cmd) → c.Ans
  | .getPassword room => r.password.lookup room
  | .mgetPasswords rooms => some (rooms.map r.password.lookup)
  | .smembersUsers room => some (r.usersOf room)
  | .scardUsers room => some (r.usersOf room).length
  | .scardManyUsers rooms => some (rooms.map fun room => (r.usersOf room).length)
  | .smembersActive => r.active
  | .setexMessage _ _ => true
  | .lrangeRecent rid count => some ((r.recentOf rid).take count)
  | .mgetMessages ids => some (ids.map r.message.lookup)
  | .getMessage id => r.message.lookup id
  | .publish _ _ => true
  | .setexPassword _ _ => ()
  | .delPassword _ => ()
  | .saddUser _ _ => ()
  | .sremUser _ _ => ()
  | .delUsers _ => ()
  | .saddActive _ => ()
  | .sremActive _ => ()
  | .lpushTrimRecent _ _ _ => ()

/-- What the service sees when a command fails. -/
def Cmd.failure : (c : Cmd) → c.Ans
  | .getPassword _ => none
  | .mgetPasswords _ => none
  | .smembersUsers _ => none
  | .scardUsers _ => none
  | .scardManyUsers _ => none
  | .smembersActive => []
  | .setexMessage _ _ => false
  | .lrangeRecent _ _ => none
  | .mgetMessages _ => none
  | .getMessage _ => none
  | .publish _ _ => false
  | .setexPassword _ _ => ()
  | .delPassword _ => ()
  | .saddUser _ _ => ()
  | .sremUser _ _ => ()
  | .delUsers _ => ()
  | .saddActive _ => ()
  | .sremActive _ => ()
  | .lpushTrimRecent _ _ _ => ()

/-- Carry out a command. -/
def exec (c : Cmd) (fate : Fate) (r : Redis) : Redis × c.Ans :=
  match fate with
  | .done => (r.apply c, r.answer c)
  | .lost => (r, c.failure)
  | .unanswered => (r.apply c, c.failure)
  | .aborted => (r, c.failure)

end Redis

/-! ### The database -/

/-- A row of `users`, or what a transaction without a commit would have made one. -/
structure UserRow where
  id : UserId
  name : String
  committed : Bool := true
  deriving DecidableEq, Repr

/-- A row of `rooms`. -/
structure RoomRow where
  id : RoomId
  name : String
  isActive : Bool
  deriving DecidableEq, Repr

/-- A row of `messages`, or what a transaction without a commit would have made one. -/
structure MessageRow where
  id : ℕ
  roomId : RoomId
  roomName : String
  userId : Option UserId
  content : String
  committed : Bool := true
  deriving DecidableEq, Repr

/-- The tables of the database, rows in the order of their creation.  Generated ids are below
    the next one to be generated, and messages are numbered upwards from 1.  No command reads
    what was not committed, but its id is not generated again. -/
structure Db where
  users : List UserRow := []
  rooms : List RoomRow := []
  messages : List MessageRow := []
  lastSeen : Table (UserId × RoomId) (Option ℕ) := ∅
  nextUser : ℕ := 0
  nextRoom : ℕ := 0
  lastMessage : ℕ := 0
  users_lt : ∀ u ∈ users, u.id < nextUser := by simp
  rooms_lt : ∀ r ∈ rooms, r.id < nextRoom := by simp
  rooms_nodup : (rooms.map RoomRow.id).Nodup := by simp
  messages_le : ∀ m ∈ messages, m.id ≤ lastMessage := by simp
  messages_sorted : messages.Pairwise fun a b => a.id < b.id := by simp

namespace Db

/-- The database without rows. -/
def blank : Db := {}

/-- The commands of the chat service. -/
inductive Cmd
  | findUser (name : String)
  | createGuest (name : String)
  | updateLastLogin (uid : Option UserId) (ip : String)
  | findRoom (name : String)
  | createRoom (name : String)
  | closeRoom (rid : RoomId)
  | createMessage (rid : RoomId) (roomName : String) (uid : Option UserId) (content : String)
  | fetchRecent (rid : RoomId) (sinceId limit : ℕ)
  | lastId (rid : RoomId)
  | upsertJoin (uid : UserId) (rid : RoomId)
  | updateLastSeen (uid : UserId) (rid : RoomId) (id : ℕ)
  | getLastSeen (uid : UserId) (rid : RoomId)
  deriving DecidableEq, Repr

/-- A stored message with the name of its author, if the author's row has one. -/
structure Stored where
  row : MessageRow
  userName : Option String
  deriving DecidableEq, Repr

/-- What a command answers if it does not throw; with what was created comes whether `commit()`
    returned. -/
@[reducible] def Cmd.Res : Cmd → Type
  | .findUser _ => Option UserRow
  | .createGuest _ => UserId × Bool
  | .findRoom _ => Option RoomRow
  | .createRoom _ => RoomId
  | .createMessage _ _ _ _ => ℕ × Bool
  | .fetchRecent _ _ _ => List Stored
  | .lastId _ => ℕ
  | .getLastSeen _ _ => Option ℕ
  | _ => Unit

/-- The answer to a command, none if it throws. -/
abbrev Cmd.Ans (c : Cmd) : Type := Option c.Res

variable (lower : String → String) (d : Db)

/-- `find_by_name_exact_ci`: the oldest active room whose name differs at most in case. -/
def activeRoom (name : String) : Option RoomRow :=
  d.rooms.find? fun r => lower r.name = lower name ∧ r.isActive

/-- A new row in `users`. -/
def addUser (committed : Bool) (name : String) : Db :=
  { d with
    users := d.users ++ [⟨d.nextUser, name, committed⟩]
    nextUser := d.nextUser + 1
    users_lt := by
      intro u hu
      obtain hu | hu := List.mem_append.mp hu
      · exact Nat.lt_succ_of_lt (d.users_lt u hu)
      · rw [List.mem_singleton.mp hu]
        exact Nat.lt_succ_self _ }

/-- A new active row in `rooms`. -/
def addRoom (name : String) : Db :=
  { d with
    rooms := d.rooms ++ [⟨d.nextRoom, name, true⟩]
    nextRoom := d.nextRoom + 1
    rooms_lt := by
      intro r hr
      obtain hr | hr := List.mem_append.mp hr
      · exact Nat.lt_succ_of_lt (d.rooms_lt r hr)
      · rw [List.mem_singleton.mp hr]
        exact Nat.lt_succ_self _
    rooms_nodup := by
      rw [List.map_append, List.nodup_append]
      refine ⟨d.rooms_nodup, List.nodup_singleton _, ?_⟩
      rintro i hi j hj rfl
      obtain ⟨r, hr, rfl⟩ := List.mem_map.mp hi
      exact absurd (List.mem_singleton.mp hj) (Nat.ne_of_lt (d.rooms_lt r hr)) }

/-- A room's row with its id, closed if it is the one to close. -/
def RoomRow.closed (rid : RoomId) (r : RoomRow) : RoomRow :=
  if r.id = rid then { r with isActive := false } else r

@[simp] theorem id_closed (rid : RoomId) (r : RoomRow) : (RoomRow.closed rid r).id = r.id := by
  unfold RoomRow.closed
  split_ifs <;> rfl

@[simp] theorem name_closed {rid : RoomId} {r : RoomRow} :
    (RoomRow.closed rid r).name = r.name := by
  unfold RoomRow.closed
  split_ifs <;> rfl

/-- Close a room. -/
def closeRoom (rid : RoomId) : Db :=
  { d with
    rooms := d.rooms.map (RoomRow.closed rid)
    rooms_lt := by
      intro r hr
      obtain ⟨r', hr', rfl⟩ := List.mem_map.mp hr
      rw [id_closed]
      exact d.rooms_lt r' hr'
    rooms_nodup := by
      rw [List.map_map]
      have hids : RoomRow.id ∘ RoomRow.closed rid = RoomRow.id := funext (id_closed rid)
      rw [hids]
      exact d.rooms_nodup }

/-- A new row in `messages`. -/
def addMessage (committed : Bool) (rid : RoomId) (roomName : String) (uid : Option UserId)
    (content : String) : Db :=
  { d with
    messages := d.messages ++ [⟨d.lastMessage + 1, rid, roomName, uid, content, committed⟩]
    lastMessage := d.lastMessage + 1
    messages_le := by
      intro m hm
      obtain hm | hm := List.mem_append.mp hm
      · exact Nat.le_succ_of_le (d.messages_le m hm)
      · rw [List.mem_singleton.mp hm]
    messages_sorted := by
      refine List.pairwise_append.mpr ⟨d.messages_sorted, List.pairwise_singleton _ _, ?_⟩
      intro m hm m' hm'
      rw [List.mem_singleton.mp hm']
      exact Nat.lt_succ_of_le (d.messages_le m hm) }

/-- The messages of a room, oldest first. -/
def messagesOf (rid : RoomId) : List MessageRow :=
  d.messages.filter fun m => m.committed ∧ m.roomId = rid

/-- `get_last_id`. -/
def lastIdOf (rid : RoomId) : ℕ := ((d.messagesOf rid).getLast?.map (·.id)).getD 0

/-- A message together with the name of its author. -/
def withAuthor (m : MessageRow) : Stored :=
  ⟨m, m.userId.bind fun uid => (d.users.find? fun u => u.committed ∧ u.id = uid).map (·.name)⟩

/-- `update_last_seen`, which needs the membership to be there. -/
def setLastSeen (uid : UserId) (rid : RoomId) (id : ℕ) : Db :=
  match d.lastSeen.lookup (uid, rid) with
  | none => d
  | some _ => { d with lastSeen := d.lastSeen.insert (uid, rid) (some id) }

/-- The transaction of a join: the membership is there, and everything so far is seen. -/
def upsertJoin (uid : UserId) (rid : RoomId) : Db :=
  let d' := { d with
    lastSeen := d.lastSeen.insert (uid, rid) ((d.lastSeen.lookup (uid, rid)).getD none) }
  if 0 < d.lastIdOf rid then d'.setLastSeen uid rid (d.lastIdOf rid) else d'

/-- The command throws: `update_last_login` does on an empty id or address. -/
def Cmd.throws : Cmd → Bool
  | .updateLastLogin uid ip => uid.isNone || ip = ""
  | _ => false

/-- A user or a message is answered before `commit()`. -/
def Cmd.answersFirst : Cmd → Bool
  | .createGuest _ | .createMessage _ _ _ _ => true
  | _ => false

/-- The tables after a command. -/
def apply (committed : Bool) : Cmd → Db
  | .createGuest name => d.addUser committed name
  | .createRoom name => d.addRoom name
  | .closeRoom rid => d.closeRoom rid
  | .createMessage rid roomName uid content => d.addMessage committed rid roomName uid content
  | .upsertJoin uid rid => d.upsertJoin uid rid
  | .updateLastSeen uid rid id => d.setLastSeen uid rid id
  | _ => d

/-- What a command reads. -/
def answer (committed : Bool) : (c : Cmd) → c.Res
  | .findUser name => d.users.find? fun u => u.committed ∧ lower u.name = lower name
  | .createGuest _ => (d.nextUser, committed)
  | .updateLastLogin _ _ => ()
  | .findRoom name => d.activeRoom lower name
  | .createRoom _ => d.nextRoom
  | .closeRoom _ => ()
  | .createMessage _ _ _ _ => (d.lastMessage + 1, committed)
  | .fetchRecent rid sinceId limit =>
    (((d.messagesOf rid).filter (sinceId < ·.id)).take limit).map d.withAuthor
  | .lastId rid => d.lastIdOf rid
  | .upsertJoin _ _ => ()
  | .updateLastSeen _ _ _ => ()
  | .getLastSeen uid rid => (d.lastSeen.lookup (uid, rid)).getD none

/-- Carry out a command. -/
def exec (c : Cmd) (fate : Fate) (d : Db) : Db × c.Ans :=
  if c.throws then (d, none)
  else
    match fate with
    | .done => (d.apply true c, some (d.answer lower true c))
    | .lost => (d, none)
    | .unanswered =>
      (d.apply true c, if c.answersFirst then some (d.answer lower false c) else none)
    | .aborted =>
      if c.answersFirst then (d.apply false c, some (d.answer lower false c)) else (d, none)

end Db

end Knights.Chat
