import Knights.Lib.Process
import Knights.Chat.Moderation
import Knights.Chat.Stores

namespace Knights.Chat

open Lib

/-!
# What handlers are made of

A handler of the chat service is a process whose operations are critical sections, commands to
Redis and the database, and messages to sessions.  Each of them is atomic; between two of them
other handlers run.

* `Critical` names the critical sections and `Critical.exec` carries them out;
* `Op` are the operations, `World` is what they act on, `Op.exec` is their effect.
-/

/-- A critical section of the mutex of `State`, with what the handler brings along. -/
inductive Critical
  | sessionUuid (s : Session) (fresh : String)
  | register (s : Session)
  | ensureUnique (desired : String) (temps : ℕ → String)
  | banCheck (user ip hwidHash : String) (now : ℕ)
  | loginCommit (s : Session) (l : State.Login)
  | userUuid (s : Session)
  /-- `name` is whose row it is; the section itself has no use for it. -/
  | setUserUuid (s : Session) (name : String) (uid : UserId)
  | join (s : Session) (req : State.JoinRequest)
  | leave (s : Session) (room : String) (denied : Option String)
  | userName (s : Session)
  | close (s : Session)
  | forgetRoom (room : String)
  | roomId (room : String)
  | cacheRoomId (room : String) (id : RoomId)
  | chatRoom (s : Session) (room : String)
  | currentRoom (s : Session)
  | invite (s : Session) (target room : String)
  | kick (s : Session) (target room : String)
  | removeRoom (s : Session) (room : String)
  | mute (s : Session) (user : String) (now sec : ℕ)
  | unmute (s : Session) (user : String)
  | ban (s : Session) (user : String) (now sec : ℕ)
  | unban (s : Session) (user : String)
  | globalKick (s : Session) (user : String)
  | adminModeration (op : State.AdminOp) (users : List String) (now durationSec : ℕ)
      (reason : String)
  | disconnectTargets (users : List String)
  | noticeTargets
  | moderate (s : Session) (now : ℕ)
  | blockedBy (user : String)
  | blacklistAdd (actor target : String)
  | blacklistRemove (actor target : String)
  | roomTargets (room : String) (sender : Option String)
  | cleanRooms (fromRedis : Option (List State.RoomInfo))
  | roomUsersCheck (s : Session) (target : String)
  | localUsers (room : String)
  | viewerBlocks (s : Session)
  | isAuthed (s : Session)
  | whisperSender (s : Session)
  | whisperTargets (s : Session) (sender target : String)
  | remoteWhisperTargets (n : WhisperNotice)

/-- What a handler takes out of a section. -/
@[reducible] def Critical.Ans : Critical → Type
  | .sessionUuid _ _ => String
  | .ensureUnique _ _ => Except Refusal String
  | .banCheck _ _ _ _ => String
  | .userUuid _ => Option UserId
  | .join _ _ => Except Refusal State.Joined
  | .leave _ _ _ => Except Refusal State.Left
  | .userName _ => Option String
  | .close _ => State.Closed
  | .roomId _ => Option RoomId
  | .chatRoom _ _ => Except Refusal String
  | .currentRoom _ => Option String
  | .invite _ _ _ => Bool
  | .kick _ _ _ => Option (List Session)
  | .removeRoom _ _ => Option (List Session)
  | .mute _ _ _ _ => Bool
  | .unmute _ _ => Option Bool
  | .ban _ _ _ _ => Option (List Session)
  | .unban _ _ => Option Bool
  | .globalKick _ _ => Option (List Session)
  | .adminModeration _ _ _ _ _ => List Session
  | .disconnectTargets _ => List Session
  | .noticeTargets => List Session
  | .moderate _ _ => State.Verdict
  | .blockedBy _ => Finset String
  | .blacklistAdd _ _ => Bool
  | .blacklistRemove _ _ => Bool
  | .roomTargets _ _ => List Session
  | .cleanRooms _ => List State.RoomInfo
  | .roomUsersCheck _ _ => Bool × String
  | .localUsers _ => List String
  | .viewerBlocks _ => Finset String
  | .isAuthed _ => Bool
  | .whisperSender _ => String × Bool
  | .whisperTargets _ _ _ => State.WhisperTargets
  | .remoteWhisperTargets _ => List Session
  | _ => Unit

/-- Carry out a section. -/
def Critical.exec (cfg : Config) (live : Session → Bool) (st : State) :
    (c : Critical) → State × c.Ans
  | .sessionUuid s fresh => st.getOrCreateSessionUuid s fresh
  | .register s => (st.register s, ())
  | .ensureUnique desired temps => st.ensureUnique live desired temps
  | .banCheck user ip hwidHash now => st.banCheck user ip hwidHash now
  | .loginCommit s l => (st.loginCommit s l, ())
  | .userUuid s => (st, st.userUuid.lookup s.addr)
  | .setUserUuid s _ uid => (st.setUserUuid s uid, ())
  | .join s req => st.join cfg live s req
  | .leave s room denied => st.leave live s room denied
  | .userName s => (st, st.user.lookup s.addr)
  | .close s => st.closeSession live s
  | .forgetRoom room => (st.forgetRoom room, ())
  | .roomId room => (st, st.roomIds.lookup room)
  | .cacheRoomId room id => (st.cacheRoomId room id, ())
  | .chatRoom s room => (st, st.chatRoom s room)
  | .currentRoom s => (st, st.curRoom.lookup s.addr)
  | .invite s target room => st.invite cfg s target room
  | .kick s target room => st.kick cfg live s target room
  | .removeRoom s room => st.removeRoom cfg live s room
  | .mute s user now sec => st.muteBy cfg s user now sec
  | .unmute s user => st.unmuteBy cfg s user
  | .ban s user now sec => st.banBy cfg live s user now sec
  | .unban s user => st.unbanBy cfg s user
  | .globalKick s user => st.globalKickBy cfg live s user
  | .adminModeration op users now durationSec reason =>
    st.adminModeration cfg live op users now durationSec reason
  | .disconnectTargets users => st.disconnectTargets live users
  | .noticeTargets => st.noticeTargets live
  | .moderate s now => st.moderate cfg live s now
  | .blockedBy user => (st, st.blockedBy user)
  | .blacklistAdd actor target => st.blacklistAdd actor target
  | .blacklistRemove actor target => st.blacklistRemove actor target
  | .roomTargets room sender => st.roomTargets live room sender
  | .cleanRooms fromRedis => st.cleanRooms live fromRedis
  | .roomUsersCheck s target => st.roomUsersCheck live s target
  | .localUsers room => st.localUsers live room
  | .viewerBlocks s => (st, ((st.user.lookup s.addr).map st.blockedBy).getD ∅)
  | .isAuthed s => (st, decide (s.addr ∈ st.authed))
  | .whisperSender s => (st, st.nameOf s, decide (s.addr ∈ st.guest))
  | .whisperTargets s sender target => st.whisperTargets live s sender target
  | .remoteWhisperTargets n => st.remoteWhisperTargets live n

/-! ### Messages to sessions -/

/-- The state a client is shown: rooms, users of its room and recent history. -/
structure Snapshot where
  currentRoom : String
  rooms : List State.RoomInfo
  users : List String
  messages : List SnapshotMessage
  lastSeenId : ℕ
  yourName : String
  deriving DecidableEq, Repr

/-- What is sent to a session. -/
inductive Message
  | error (r : Refusal)
  | loginRes (effectiveUser : String) (sessionId : ℕ) (isAdmin : Bool)
  | broadcast (b : Broadcast) (self : Bool)
  | refreshNotify
  | roomUsers (room : String) (users : List String)
  | snapshot (s : Snapshot)
  | whisper (n : WhisperNotice)
  | whisperResult (ok : Bool) (reason : String)
  deriving DecidableEq, Repr

/-! ### Operations -/

/-- One atomic operation of a handler. -/
inductive Op
  | lock (c : Critical)
  | redis (c : Redis.Cmd)
  | db (c : Db.Cmd)
  | send (t : Session) (m : Message)
  | stop (t : Session)

/-- The answer to an operation. -/
@[reducible] def Op.Ans : Op → Type
  | .lock c => c.Ans
  | .redis c => c.Ans
  | .db c => c.Ans
  | .send _ _ => Unit
  | .stop _ => Unit

/-- What operations act on: the state of one chat service, the sessions of that service that
    are alive, what they were sent so far, and the stores. -/
structure World where
  st : State
  live : Session → Bool
  sent : List (Session × Message)
  redis : Redis
  db : Db

/-- Carry out an operation.  `stop` only asks for a connection to be closed; that it is closed
    comes from outside. -/
def Op.exec (cfg : Config) : (o : Op) → Fate → World → World × o.Ans
  | .lock c, _, w => ({ w with st := (c.exec cfg w.live w.st).1 }, (c.exec cfg w.live w.st).2)
  | .redis c, fate, w => ({ w with redis := (Redis.exec c fate w.redis).1 },
      (Redis.exec c fate w.redis).2)
  | .db c, fate, w => ({ w with db := (Db.exec cfg.lower c fate w.db).1 },
      (Db.exec cfg.lower c fate w.db).2)
  | .send t m, _, w => ({ w with sent := w.sent ++ [(t, m)] }, ())
  | .stop _, _, w => (w, ())

/-- Handlers, and parts of handlers that return a value. -/
abbrev Handler := Proc Op.Ans

namespace Handler

/-- Run a critical section. -/
def lock (c : Critical) : Handler c.Ans := Proc.perform (Op.lock c)

/-- Send a command to Redis. -/
def redis (c : Redis.Cmd) : Handler c.Ans := Proc.perform (Op.redis c)

/-- Send a command to the database. -/
def db (c : Db.Cmd) : Handler c.Ans := Proc.perform (Op.db c)

/-- Send a message to a session. -/
def send (t : Session) (m : Message) : Handler Unit := Proc.perform (Op.send t m)

/-- Ask for a session to be closed. -/
def stop (t : Session) : Handler Unit := Proc.perform (Op.stop t)

end Handler

end Knights.Chat
