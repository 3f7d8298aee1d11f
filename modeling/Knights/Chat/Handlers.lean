import Mathlib.Data.Finset.Sort
import Mathlib.Data.String.Basic
import Knights.Chat.Commands
import Knights.Chat.Operations

namespace Knights.Chat

open Lib

/-!
# The handlers

The jobs of the chat service, operation by operation in the order of the source.  What comes
from outside a job — generated uuids and names, the clock, the remote address, the verdicts of
hooks — is a parameter of the job.

Left out are presence keys, the write-behind stream, the notices of hooks, time stamps, logs
and metrics: no other handler reads them.

* `sendSnapshot`, `sendRoomUsers`, `sendRoomsList`, `broadcastRefresh`, `ensureRoomId` — what
  several handlers share;
* `onLogin`, `onJoin`, `onLeave`, `onSessionClose`, `onChatSend` and the smaller ones;
* `Job` are the jobs, `Job.handler` is what they run.
-/

namespace Handler

variable (cfg : Config) (s : Session)

/-! ### Shared parts -/

/-- `send_system_notice`. -/
def sendNotice (t : Session) (text : String) : Handler Unit :=
  send t (.broadcast ⟨"(system)", "(system)", text, 0⟩ false)

/-- A part that is carried out only under a condition. -/
def onlyIf (c : Bool) (p : Handler Unit) : Handler Unit := if c then p else return ()

/-- A part for a value, if there is one. -/
def forSome {α : Type} (o : Option α) (p : α → Handler Unit) : Handler Unit :=
  match o with
  | none => return ()
  | some a => p a

/-- A question that is asked only under a condition. -/
def askIf {α : Type} (c : Bool) (p : Handler (Option α)) : Handler (Option α) :=
  if c then p else return none

/-- Send one message to several sessions. -/
def sendAll (ts : List Session) (m : Message) : Handler Unit := Proc.each (fun t => send t m) ts

/-- `ensure_room_id_ci`. -/
def ensureRoomId (room : String) : Handler (Option RoomId) :=
  if cfg.hasDb then do
    match ← lock (.roomId room) with
    | some id => return some id
    | none =>
      match ← db (.findRoom room) with
      | none => return none
      | some (some row) =>
        lock (.cacheRoomId room row.id)
        return some row.id
      | some none =>
        match ← db (.createRoom room) with
        | none => return none
        | some id =>
          lock (.cacheRoomId room id)
          return some id
  else return none

/-- `broadcast_refresh_local`. -/
def broadcastRefreshLocal (room : String) : Handler Unit := do
  let targets ← lock (.roomTargets room none)
  sendAll targets .refreshNotify

/-- The envelope of everything that is published: where it comes from, and the payload. -/
def envelope (payload : String) : String := "gw=" ++ cfg.gatewayId ++ "\n" ++ payload

/-- `broadcast_refresh`. -/
def broadcastRefresh (room : String) : Handler Unit := do
  broadcastRefreshLocal room
  if cfg.hasRedis && cfg.pubsubEnabled then
    let _ ← redis (.publish (cfg.channelPrefix ++ "fanout:refresh:" ++ room)
      ("gw=" ++ cfg.gatewayId))
    return ()
  else return ()

/-- The size of `room:users:<room>`, by two ways. -/
def countUsers (room : String) : Handler ℕ := do
  match ← redis (.scardUsers room) with
  | some n => return n
  | none =>
    match ← redis (.smembersUsers room) with
    | some names => return names.length
    | none => return 0

/-- The number of users of a room, as the batch command gave it or asked for now. -/
def countOr (room : String) : Option ℕ → Handler ℕ
  | some n => return n
  | none => countUsers room

/-- Whether a room has a password, as the batch command gave it or asked for now. -/
def lockedOr (room : String) : Option (Option String) → Handler Bool
  | some pw => return pw.isSome
  | none => do
    let pw ← redis (.getPassword room)
    return pw.isSome

/-- What Redis knows of a list of rooms, with the results of the batch commands as far as
    these succeeded. -/
def roomInfos : List String → Option (List (Option String)) → Option (List ℕ) →
    Handler (List State.RoomInfo)
  | [], _, _ => return []
  | room :: rooms, passwords, counts => do
    let count ← countOr room (counts.bind List.head?)
    let isLocked ← lockedOr room (passwords.bind List.head?)
    let rest ← roomInfos rooms (passwords.map List.tail) (counts.map List.tail)
    return ⟨room, count, isLocked⟩ :: rest

/-- The rooms as Redis has them; none without Redis. -/
def loadRooms : Handler (Option (List State.RoomInfo)) :=
  if cfg.hasRedis then do
    let rooms ← redis .smembersActive
    let passwords ← askIf (rooms ≠ []) (redis (.mgetPasswords rooms))
    let counts ← askIf (rooms ≠ []) (redis (.scardManyUsers rooms))
    let infos ← roomInfos rooms passwords counts
    if "lobby" ∈ rooms then return some infos
    else
      let n ← countUsers "lobby"
      return some (infos ++ [⟨"lobby", n, false⟩])
  else return none

/-- The line that lists rooms. -/
def roomsText (infos : List State.RoomInfo) : String :=
  infos.foldl (fun text info =>
    text ++ " " ++ (if info.isLocked then "🔒" else "") ++ info.name ++ "(" ++
      toString info.count ++ ")") "rooms:"

/-- `send_rooms_list`. -/
def sendRoomsList : Handler Unit := do
  let fromRedis ← loadRooms cfg
  let infos ← lock (.cleanRooms fromRedis)
  sendNotice s (roomsText infos)

/-- The users of a room as Redis has them, or as they are known locally if Redis has none. -/
def usersOr (room : String) : List String → Handler (List String)
  | [] => lock (.localUsers room)
  | names => return names

/-- `send_room_users`. -/
def sendRoomUsers (target : String) : Handler Unit := do
  let (allow, viewer) ← lock (.roomUsersCheck s target)
  if allow then
    let fromRedis ← askIf cfg.hasRedis (redis (.smembersUsers target))
    let names ← usersOr target (fromRedis.getD [])
    let blocked ← lock (.blockedBy viewer)
    send s (.roomUsers target (names.filter (· ∉ blocked)))
  else sendNotice s "room is locked"

/-! ### Recent history -/

/-- `cache_recent_message`. -/
def cacheRecentMessage (rid : RoomId) (m : SnapshotMessage) : Handler Unit :=
  if cfg.hasRedis && m.id ≠ 0 then do
    let stored ← redis (.setexMessage m.id m)
    if stored then redis (.lpushTrimRecent rid m.id cfg.maxListLen) else return ()
  else return ()

/-- The payloads of messages, one command each. -/
def getMessages : List ℕ → Handler (List SnapshotMessage)
  | [] => return []
  | id :: ids => do
    let m ← redis (.getMessage id)
    let rest ← getMessages ids
    return m.toList ++ rest

/-- The payloads of messages, in one command if that works. -/
def fetchMessages (ids : List ℕ) : Handler (List SnapshotMessage) := do
  match ← redis (.mgetMessages ids) with
  | some payloads => return payloads.filterMap id
  | none => getMessages ids

/-- `load_recent_messages_from_cache`; none on a miss. -/
def loadRecentMessages (rid : RoomId) : Handler (Option (List SnapshotMessage)) :=
  if cfg.recentLimit = 0 then return none
  else do
    match ← redis (.lrangeRecent rid cfg.recentLimit) with
    | none => return none
    | some ids =>
      let valid := ids.filter (· ≠ 0)
      if valid = [] then return none
      else
        let parsed ← fetchMessages valid
        if parsed = [] then return none else return some parsed.reverse

/-- Cached messages without repetitions; the first of an id stays. -/
def dedupIds (ms : List SnapshotMessage) : List SnapshotMessage :=
  ms.foldl (fun acc m => if acc.any (·.id = m.id) then acc else acc ++ [m]) []

/-- From which id on the database is asked for messages. -/
def sinceId (lastId lastSeen : ℕ) : ℕ :=
  let context := cfg.recentLimit * cfg.fetchFactor
  if lastId = 0 then 0
  else if lastSeen = 0 ∨ lastId ≤ lastSeen then lastId - cfg.recentLimit
  else if context < lastId then max lastSeen (lastId - context)
  else lastSeen

/-- The last `n` entries of a list. -/
def lastN {α : Type} (n : ℕ) (l : List α) : List α := l.drop (l.length - n)

/-- The stored messages a snapshot is filled up with: those that are not cached, the newest
    that fit. -/
def fillUp (cached : Option (List SnapshotMessage)) (fetched : List Db.Stored) :
    List SnapshotMessage :=
  let shown := cached.getD []
  let missing := fetched.filter fun m => shown.all (·.id ≠ m.row.id)
  let budget := cfg.recentLimit - shown.length
  (lastN budget (lastN cfg.recentLimit missing)).map fun m =>
    ⟨m.row.id, (m.userName.filter (· ≠ "")).getD "(system)", m.row.content⟩

/-- The messages of a snapshot from the database, which go into the cache on the way; none if
    the database throws. -/
def loadStored (rid : RoomId) (cached : Option (List SnapshotMessage)) (lastSeen : ℕ) :
    Handler (List SnapshotMessage) := do
  match ← db (.lastId rid) with
  | none => return []
  | some lastId =>
    let count := min cfg.maxListLen (max cfg.recentLimit (cfg.recentLimit * cfg.fetchFactor))
    match ← db (.fetchRecent rid (sinceId cfg lastId lastSeen) count) with
    | none => return []
    | some fetched =>
      Proc.each (cacheRecentMessage cfg rid) (fillUp cfg cached fetched)
      return fillUp cfg cached fetched

/-- The last message of a room that a user has seen, none if the database throws. -/
def lastSeenOf (rid : RoomId) : Option UserId → Handler (Option ℕ)
  | none => return some 0
  | some uid => do
    let seen ← db (.getLastSeen uid rid)
    return seen.map fun o => o.getD 0

/-- The viewer's `last_seen` and the messages that are not cached. -/
def loadHistory (rid : RoomId) (cached : Option (List SnapshotMessage)) :
    Handler (ℕ × List SnapshotMessage) := do
  let uid ← lock (.userUuid s)
  match ← lastSeenOf rid uid with
  | none => return (0, [])
  | some seen =>
    let enough := match cached with
      | none => false
      | some ms => cfg.recentLimit ≤ ms.length
    if enough then return (seen, [])
    else
      let stored ← loadStored cfg rid cached seen
      return (seen, stored)

/-- The users of a room for a snapshot. -/
def snapshotUsers (room : String) : Handler (List String) := do
  match ← askIf cfg.hasRedis (redis (.smembersUsers room)) with
  | some names => return names
  | none => lock (.localUsers room)

/-- The id of a room for a snapshot. -/
def snapshotRoomId (room : String) : Handler (Option RoomId) := do
  match ← lock (.roomId room) with
  | some id => return some id
  | none => ensureRoomId cfg room

/-- The history of a room for a snapshot. -/
def snapshotHistory (rid : Option RoomId) : Handler (ℕ × List SnapshotMessage) :=
  match rid with
  | none => return (0, [])
  | some rid => do
    let cached ← askIf cfg.hasRedis (loadRecentMessages cfg rid)
    let shown := dedupIds (cached.getD [])
    if cfg.hasDb then
      let (lastSeen, stored) ← loadHistory cfg s rid cached
      return (lastSeen, shown ++ stored)
    else return (0, shown)

/-- `send_snapshot`. -/
def sendSnapshot (current : String) : Handler Unit := do
  let fromRedis ← loadRooms cfg
  let rooms ← lock (.cleanRooms fromRedis)
  let blocked ← lock (.viewerBlocks s)
  let users ← snapshotUsers cfg current
  let rid ← snapshotRoomId cfg current
  let (lastSeen, messages) ← snapshotHistory cfg s rid
  let name ← lock (.userName s)
  send s (.snapshot
    { currentRoom := current
      rooms := rooms
      users := users.filter (· ∉ blocked)
      messages := messages
      lastSeenId := lastSeen
      yourName := name.getD "" })

/-! ### Login -/

/-- A login request with what comes from outside: the generated uuid and names, the remote
    address, the clock and the verdict of the login hook. -/
structure LoginRequest where
  user : String
  token : String := ""
  fresh : String := "uuid"
  temps : ℕ → String := fun n => "temp" ++ toString n
  ip : String := "127.0.0.1"
  now : ℕ := 0
  denied : Option String := none

/-- The row of the user with a nickname, which is made if there is none. -/
def findOrCreateUser (name : String) : Handler (Option UserId) := do
  match ← db (.findUser name) with
  | none => return none
  | some (some row) => return some row.id
  | some none =>
    match ← db (.createGuest name) with
    | some (uid, true) => return some uid
    | created =>
      -- somebody else may have made the row meanwhile; an id without a commit stays otherwise
      match ← db (.findUser name) with
      | some (some row) => return some row.id
      | _ => return created.map (·.1)

/-- The user row of a session that logs in: the one on record, or that of the nickname. -/
def resolveUser (name : String) : Handler (Option UserId) := do
  match ← lock (.userUuid s) with
  | some uid => return some uid
  | none =>
    match ← findOrCreateUser name with
    | none => return none
    | some uid =>
      lock (.setUserUuid s name uid)
      return some uid

/-- What a login writes to the database.  A command that throws ends it. -/
def recordLogin (name ip : String) : Handler Unit := do
  let uid ← resolveUser s name
  match ← db (.updateLastLogin uid ip) with
  | none => return ()
  | some _ =>
    match ← ensureRoomId cfg "lobby" with
    | none => return ()
    | some rid =>
      let _ ← db (.createMessage rid "lobby" none ("(login ip=" ++ ip ++ ")"))
      return ()

/-- The rest of a login once its name is settled and no ban speaks against it. -/
def completeLogin (name : String) (req : LoginRequest) : Handler Unit := do
  lock (.loginCommit s
    { name := name
      guestMode := req.user = "" || req.user = "guest"
      ip := req.ip
      hwidHash := cfg.hashHwidToken req.token })
  onlyIf cfg.hasDb (recordLogin cfg s name req.ip)
  send s (.loginRes name s.id (name ∈ cfg.adminUsers))
  if cfg.hasRedis then
    redis (.saddUser "lobby" name)
    broadcastRefresh cfg "lobby"
  else return ()

/-- `on_login`. -/
def onLogin (req : LoginRequest) : Handler Unit := do
  let _ ← lock (.sessionUuid s req.fresh)
  lock (.register s)
  match ← lock (.ensureUnique req.user req.temps) with
  | .error refusal => send s (.error refusal)
  | .ok name =>
    if name = "" then return ()
    else
      match req.denied with
      | some reason => send s (.error ⟨.forbidden, reason⟩)
      | none =>
        let deny ← lock (.banCheck name req.ip (cfg.hashHwidToken req.token) req.now)
        if deny = "" then completeLogin cfg s name req
        else send s (.error ⟨.forbidden, deny⟩)

/-! ### Join -/

/-- The line that says that somebody came or went. -/
def systemLine (room text : String) : Message := .broadcast ⟨room, "(system)", text, 0⟩ false

/-- The membership of a join in the database. -/
def recordJoin (room : String) : Handler Unit := do
  match ← lock (.userUuid s) with
  | none => return ()
  | some uid =>
    match ← ensureRoomId cfg room with
    | none => return ()
    | some rid =>
      let _ ← db (.upsertJoin uid rid)
      return ()

/-- Close the row of a room that a join has left empty. -/
def closeEmptied (room : String) : Handler Unit := do
  match ← db (.findRoom room) with
  | none => return ()
  | some none => lock (.forgetRoom room)
  | some (some row) =>
    match ← db (.closeRoom row.id) with
    | none => return ()
    | some _ => lock (.forgetRoom room)

/-- What a join does in Redis for the room it left. -/
def leaveMirror (room name : String) : Handler Unit := do
  redis (.sremUser room name)
  if room = "lobby" then return ()
  else
    match ← redis (.scardUsers room) with
    | some 0 =>
      redis (.sremActive room)
      redis (.delPassword room)
      onlyIf cfg.hasDb (closeEmptied room)
    | _ => return ()

/-- The room a session moves out of, if it is another than the one it moves to. -/
def leftBehind (joined : State.Joined) (room : String) : Option String :=
  joined.previousRoom.filter (· ≠ room)

/-- What a join does in Redis. -/
def updateMirror (room : String) (joined : State.Joined) : Handler Unit := do
  forSome (leftBehind joined room) fun previous => leaveMirror cfg previous joined.sender
  redis (.saddUser room joined.sender)
  onlyIf (room ≠ "lobby") (redis (.saddActive room))

/-- The refreshes at the end of a join. -/
def refreshAfterJoin (room : String) (joined : State.Joined) : Handler Unit := do
  broadcastRefresh cfg "lobby"
  onlyIf (room ≠ "lobby") (broadcastRefresh cfg room)
  forSome ((leftBehind joined room).filter (· ≠ "lobby")) (broadcastRefresh cfg)

/-- The rest of a join that was let in. -/
def completeJoin (room : String) (joined : State.Joined) : Handler Unit := do
  forSome joined.newHash fun hash => onlyIf cfg.hasRedis (redis (.setexPassword room hash))
  sendAll joined.targets (systemLine room (joined.sender ++ " 님이 입장했습니다"))
  onlyIf cfg.hasDb (recordJoin cfg s room)
  onlyIf cfg.hasRedis (updateMirror cfg room joined)
  sendSnapshot cfg s room
  refreshAfterJoin cfg room joined

/-- The name of the room that a request names; an empty one is the lobby. -/
def roomToJoin (room : String) : String := if room = "" then "lobby" else room

/-- `on_join`. -/
def onJoin (room password fresh : String) (denied : Option String) : Handler Unit := do
  let _ ← lock (.sessionUuid s fresh)
  let redisPassword ← askIf cfg.hasRedis (redis (.getPassword (roomToJoin room)))
  match ← lock (.join s ⟨roomToJoin room, password, redisPassword, denied⟩) with
  | .error refusal => send s (.error refusal)
  | .ok joined => completeJoin cfg s (roomToJoin room) joined

/-! ### Leave -/

/-- The id of the room that is left, and whether its list of users is cleared of the name: not
    if the user has a row and the room none. -/
def leftRoomId (room : String) : Handler (Option RoomId × Bool) := do
  let uid ← lock (.userUuid s)
  let rid ← ensureRoomId cfg room
  return (rid, uid.isNone || rid.isSome)

/-- Close the row of a room that a leave has left empty. -/
def closeLeft (room : String) (rid : Option RoomId) : Handler Unit :=
  match rid with
  | none => return ()
  | some rid =>
    if cfg.hasDb then do
      match ← db (.closeRoom rid) with
      | none => return ()
      | some _ => lock (.forgetRoom room)
    else return ()

/-- What a leave does in Redis when its room may have become empty. -/
def sweepMirror (room : String) (rid : Option RoomId) : Handler Unit := do
  match ← redis (.scardUsers room) with
  | some 0 =>
    redis (.sremActive room)
    redis (.delPassword room)
    closeLeft cfg room rid
  | _ => return ()

/-- What a leave does in Redis; the answer is the id of the room that was left. -/
def updateLeft (left : State.Left) : Handler (Option RoomId) := do
  let (rid, clears) ← leftRoomId cfg s left.room
  onlyIf clears (redis (.sremUser left.room left.sender))
  onlyIf (left.room ≠ "lobby") (sweepMirror cfg left.room rid)
  redis (.saddUser "lobby" left.sender)
  return rid

/-- The room id for the event that reports a leave, which makes a row if need be. -/
def reportedRoomId (room : String) (rid : Option RoomId) : Handler (Option RoomId) :=
  match rid with
  | some rid => return some rid
  | none => ensureRoomId cfg room

/-- The rest of a leave. -/
def completeLeave (left : State.Left) : Handler Unit := do
  sendAll left.targets (systemLine left.room (left.sender ++ " 님이 떠났습니다"))
  let rid ← askIf cfg.hasRedis (updateLeft cfg s left)
  let targets ← lock (.roomTargets "lobby" (some left.sender))
  sendAll targets (systemLine "lobby" (left.sender ++ " 님이 입장했습니다"))
  broadcastRefresh cfg "lobby"
  onlyIf (left.room ≠ "lobby") (broadcastRefresh cfg left.room)
  let _ ← reportedRoomId cfg left.room rid
  sendSnapshot cfg s "lobby"

/-- `on_leave`. -/
def onLeave (room fresh : String) (denied : Option String) : Handler Unit := do
  let _ ← lock (.sessionUuid s fresh)
  match ← lock (.leave s room denied) with
  | .error refusal => send s (.error refusal)
  | .ok left => completeLeave cfg s left

/-! ### Close -/

/-- What a close does in Redis. -/
def updateClosed (room name : String) : Handler Unit := do
  let uid ← lock (.userUuid s)
  forSome uid fun _ => do
    let _ ← ensureRoomId cfg room
    return ()
  redis (.sremUser room name)
  if room = "lobby" then return ()
  else
    redis (.saddUser "lobby" name)
    match ← redis (.scardUsers room) with
    | some 0 => redis (.sremActive room)
    | _ => return ()

/-- `on_session_close`. -/
def onSessionClose (fresh : String) : Handler Unit := do
  let _ ← lock (.sessionUuid s fresh)
  let _ ← lock (.userName s)
  let closed ← lock (.close s)
  match closed.roomLeft with
  | none => return ()
  | some room =>
    sendAll closed.targets (systemLine room (closed.name ++ " 님이 연결을 종료했습니다"))
    onlyIf cfg.hasRedis (updateClosed cfg s room closed.name)
    broadcastRefresh cfg room

/-! ### Whispers -/

/-- `send_whisper_result` after a notice. -/
def whisperFailed (notice reason : String) : Handler Unit := do
  sendNotice s notice
  send s (.whisperResult false reason)

/-- Publish a whisper; the answer says whether that worked. -/
def publishWhisper (n : WhisperNotice) : Handler Bool :=
  if cfg.hasRedis && cfg.pubsubEnabled then
    redis (.publish (cfg.channelPrefix ++ "fanout:whisper") (envelope cfg (cfg.encodeWhisper n)))
  else return false

/-- A whisper to somebody who is not here: it is published, if that works. -/
def routeWhisper (n : WhisperNotice) : Handler Unit := do
  let routed ← publishWhisper cfg n
  if routed then
    send s (.whisper { n with outgoing := true })
    send s (.whisperResult true "")
  else whisperFailed s ("user not found: " ++ n.recipient) "user not found"

/-- `dispatch_whisper`. -/
def dispatchWhisper (target text : String) : Handler Unit :=
  if target = "" ∨ text = "" then
    whisperFailed s "usage: /whisper <user> <message>" "invalid payload"
  else do
    let authed ← lock (.isAuthed s)
    if authed then
      let (sender, guest) ← lock (.whisperSender s)
      if sender = "guest" || guest then
        whisperFailed s "login required for whisper" "login required"
        send s (.error ⟨.unauthorized, "guest cannot whisper"⟩)
      else if target = sender then
        whisperFailed s "cannot whisper to yourself" "cannot whisper to yourself"
      else
        let found ← lock (.whisperTargets s sender target)
        let n : WhisperNotice := ⟨sender, target, text, false⟩
        match found.targets with
        | [] =>
          if found.ineligibleFound then
            if found.blockedBySender then
              whisperFailed s "whisper denied: unblock target first" "recipient blocked by sender"
            else
              whisperFailed s ("user cannot receive whispers (login required): " ++ target)
                "recipient not eligible"
          else routeWhisper cfg s n
        | t :: ts =>
          sendAll (t :: ts) (.whisper n)
          send s (.whisper { n with outgoing := true })
          send s (.whisperResult true "")
    else send s (.error ⟨.unauthorized, "unauthorized"⟩)

/-! ### Chat -/

/-- What the chat hook makes of a line. -/
inductive ChatHook
  | pass
  | replace (text : String)
  | stop
  deriving DecidableEq, Repr

/-- Tell several sessions something and ask for their connections to be closed. -/
def noticeAndStop (ts : List Session) (text : String) : Handler Unit :=
  Proc.each (fun t => do
    sendNotice t text
    stop t) ts

/-- `/kick`. -/
def kickCommand (target room : String) : Handler Unit := do
  match ← lock (.kick s target room) with
  | none => sendNotice s "kick denied: owner/admin only"
  | some kicked =>
    Proc.each (fun t => do
      sendNotice t ("kicked from room: " ++ room)
      sendSnapshot cfg t "lobby") kicked
    if kicked = [] then sendNotice s "kick target not found in room"
    else
      broadcastRefresh cfg room
      broadcastRefresh cfg "lobby"
      sendNotice s "kick applied"

/-- `/room remove`. -/
def removeRoomCommand (room : String) : Handler Unit := do
  match ← lock (.removeRoom s room) with
  | none => sendNotice s "room remove denied: owner/admin only"
  | some moved =>
    Proc.each (fun t => do
      sendNotice t ("room removed: " ++ room)
      sendSnapshot cfg t "lobby") moved
    onlyIf cfg.hasRedis do
      redis (.sremActive room)
      redis (.delPassword room)
      redis (.delUsers room)
    broadcastRefresh cfg room
    broadcastRefresh cfg "lobby"
    sendNotice s ("room removed: " ++ room)

/-- The names on a blacklist, as they are listed. -/
def blacklistText (blocked : Finset String) : String :=
  if blocked = ∅ then "(empty)" else ", ".intercalate (blocked.sort (· ≤ ·))

/-- `/blacklist` and its short forms. -/
def blacklistCommand (op target : String) : Handler Unit := do
  let name ← lock (.userName s)
  let actor := name.getD "guest"
  if actor = "" ∨ actor = "guest" then sendNotice s "blacklist denied: login required"
  else if op = "list" then
    let blocked ← lock (.blockedBy actor)
    sendNotice s ("blacklist: " ++ blacklistText blocked)
  else if target = "" then sendNotice s "usage: /blacklist <add|remove|list> [user]"
  else if target = actor then sendNotice s "blacklist denied: cannot target yourself"
  else if op = "add" then
    let changed ← lock (.blacklistAdd actor target)
    sendNotice s (if changed then "blacklist add: " ++ target else "blacklist add no-op")
  else if op = "remove" then
    let changed ← lock (.blacklistRemove actor target)
    sendNotice s (if changed then "blacklist remove: " ++ target else "blacklist remove no-op")
  else sendNotice s "usage: /blacklist <add|remove|list> [user]"

/-- What a command of an administrator replies when it lifts something. -/
def liftReply (what done noop : String) : Option Bool → Handler Unit
  | none => sendNotice s (what ++ " denied: admin only")
  | some changed => sendNotice s (if changed then done else noop)

/-- Carry out a command; `now` is the clock. -/
def runCommand (now : ℕ) : Command → Handler Unit
  | .rooms => sendRoomsList cfg s
  | .who target => sendRoomUsers cfg s target
  | .whisper target text => dispatchWhisper cfg s target text
  | .whisperUsage => whisperFailed s "usage: /whisper <user> <message>" "invalid payload"
  | .invite target room => do
    let allowed ← lock (.invite s target room)
    sendNotice s (if allowed then "invited user: " ++ target ++ " room=" ++ room
      else "invite denied: owner/admin only")
  | .kick target room => kickCommand cfg s target room
  | .removeRoom room => removeRoomCommand cfg s room
  | .mute user sec => do
    let allowed ← lock (.mute s user now sec)
    sendNotice s (if allowed then
        "mute applied: user=" ++ user ++ " duration=" ++ toString sec ++ "s"
      else "mute denied: admin only")
  | .unmute user => do
    let changed ← lock (.unmute s user)
    liftReply s "unmute" ("unmute applied: user=" ++ user) "unmute no-op: user not muted" changed
  | .ban user sec => do
    match ← lock (.ban s user now sec) with
    | none => sendNotice s "ban denied: admin only"
    | some sessions =>
      noticeAndStop sessions "temporarily banned"
      sendNotice s ("ban applied: user=" ++ user ++ " duration=" ++ toString sec ++ "s")
  | .unban user => do
    let changed ← lock (.unban s user)
    liftReply s "unban" ("unban applied: user=" ++ user) "unban no-op: user not banned" changed
  | .globalKick user => do
    match ← lock (.globalKick s user) with
    | none => sendNotice s "global kick denied: admin only"
    | some sessions =>
      noticeAndStop sessions "disconnected by administrator"
      sendNotice s (if sessions = [] then "global kick target not found"
        else "global kick applied")
  | .blacklist op target => blacklistCommand s op target
  | .usage text => sendNotice s text

/-- `handle_refresh`. -/
def handleRefresh : Handler Unit := do
  let room ← lock (.currentRoom s)
  let current := room.getD "lobby"
  sendSnapshot cfg s current
  if cfg.hasDb then
    match ← lock (.userUuid s) with
    | none => return ()
    | some uid =>
      match ← ensureRoomId cfg current with
      | none => return ()
      | some rid =>
        match ← db (.lastId rid) with
        | some (id + 1) =>
          let _ ← db (.updateLastSeen uid rid (id + 1))
          return ()
        | _ => return ()
  else return ()

/-- Store a line of chat; the answer is its room id and its number. -/
def persistLine (room text : String) : Handler (Option (RoomId × ℕ)) :=
  if cfg.hasDb then do
    match ← ensureRoomId cfg room with
    | none => return none
    | some rid =>
      let uid ← lock (.userUuid s)
      match ← db (.createMessage rid room uid text) with
      | none => return none
      -- the id is kept when `commit()` throws
      | some (id, _) => return some (rid, id)
  else return none

/-- Send a line to those who are to get it, or back to its sender alone. -/
def sendLine (line : Broadcast) (targets : List Session) : Handler Unit :=
  match targets with
  | [] => send s (.broadcast line true)
  | t :: ts => Proc.each (fun t => send t (.broadcast line (t.addr = s.addr))) (t :: ts)

/-- Publish a line for the other services. -/
def publishLine (line : Broadcast) : Handler Unit := do
  let _ ← redis (.publish (cfg.channelPrefix ++ "fanout:room:" ++ line.room)
    (envelope cfg (cfg.encodeBroadcast line)))
  return ()

/-- A line that is delivered: stored, cached, sent and published. -/
def deliverLine (room sender text : String) : Handler Unit := do
  let targets ← lock (.roomTargets room (some sender))
  let stored ← persistLine cfg s room text
  forSome stored fun m => cacheRecentMessage cfg m.1 ⟨m.2, sender, text⟩
  sendLine s ⟨room, sender, text, s.id⟩ targets
  onlyIf (cfg.hasRedis && cfg.pubsubEnabled) (publishLine cfg ⟨room, sender, text, s.id⟩)
  forSome stored fun m => do
    match ← lock (.userUuid s) with
    | none => return ()
    | some uid =>
      let _ ← db (.updateLastSeen uid m.1 m.2)
      return ()

/-- A line of chat that is no command. -/
def chatLine (room text : String) (now : ℕ) (hook : ChatHook) : Handler Unit := do
  match ← lock (.moderate s now) with
  | .guest => send s (.error ⟨.unauthorized, "guest cannot chat"⟩)
  | .banned reason =>
    sendNotice s reason
    send s (.error ⟨.forbidden, reason⟩)
    stop s
  | .muted reason =>
    sendNotice s reason
    send s (.error ⟨.forbidden, reason⟩)
  | .penalized reason toStop =>
    sendNotice s reason
    send s (.error ⟨.forbidden, reason⟩)
    noticeAndStop toStop reason
  | .passes sender =>
    match hook with
    | .stop => return ()
    | .pass => deliverLine cfg s room sender text
    | .replace text' => deliverLine cfg s room sender text'

/-- `on_chat_send`. -/
def onChatSend (room text : String) (now : ℕ) (hook : ChatHook) : Handler Unit :=
  if text = "/refresh" then handleRefresh cfg s
  else do
    match ← lock (.chatRoom s room) with
    | .error refusal => send s (.error refusal)
    | .ok current =>
      match parseCommand cfg current text with
      | some command => runCommand cfg s now command
      | none => chatLine cfg s current text now hook

/-! ### The other jobs -/

/-- `on_room_users_request`. -/
def onRoomUsersRequest (requested : String) : Handler Unit :=
  if requested = "" then do
    let room ← lock (.currentRoom s)
    sendRoomUsers cfg s (room.getD "lobby")
  else sendRoomUsers cfg s requested

/-- `broadcast_room`, for a line from another instance. -/
def broadcastRoom (room : String) (b : Broadcast) : Handler Unit := do
  let targets ← lock (.roomTargets room (if b.sender = "" then none else some b.sender))
  sendAll targets (.broadcast b false)

/-- `deliver_remote_whisper`. -/
def deliverRemoteWhisper (n : WhisperNotice) : Handler Unit :=
  if n.sender = "" ∨ n.recipient = "" ∨ n.text = "" then return ()
  else do
    let targets ← lock (.remoteWhisperTargets n)
    sendAll targets (.whisper { n with outgoing := false })

/-- `admin_disconnect_users`. -/
def adminDisconnect (users : List String) (notice : String) : Handler Unit := do
  let sessions ← lock (.disconnectTargets (users.filter (· ≠ "")))
  Proc.each (fun t => do
    onlyIf (notice ≠ "") (sendNotice t notice)
    stop t) sessions

/-- `admin_broadcast_notice`. -/
def adminNotice (text : String) : Handler Unit := do
  let sessions ← lock .noticeTargets
  Proc.each (fun t => sendNotice t text) sessions

/-- `admin_apply_user_moderation`. -/
def adminModeration (op : State.AdminOp) (users : List String) (now durationSec : ℕ)
    (reason : String) : Handler Unit := do
  let sessions ← lock (.adminModeration op users now durationSec reason)
  if op = .ban ∨ op = .kick then
    noticeAndStop sessions (if reason ≠ "" then reason
      else if op = .ban then "temporarily banned" else "disconnected by administrator")
  else return ()

end Handler

/-! ### Jobs -/

/-- The jobs of a chat service. -/
inductive Job
  | login (s : Session) (req : Handler.LoginRequest)
  | join (s : Session) (room password fresh : String) (denied : Option String)
  | leave (s : Session) (room fresh : String) (denied : Option String)
  | close (s : Session) (fresh : String)
  | chat (s : Session) (room text : String) (now : ℕ) (hook : Handler.ChatHook)
  | rooms (s : Session)
  | roomUsers (s : Session) (room : String)
  | refresh (s : Session)
  | whisper (s : Session) (target text : String)
  | remoteLine (room : String) (b : Broadcast)
  | remoteRefresh (room : String)
  | remoteWhisper (n : WhisperNotice)
  | adminDisconnect (users : List String) (notice : String)
  | adminNotice (text : String)
  | adminModeration (op : State.AdminOp) (users : List String) (now durationSec : ℕ)
      (reason : String)

namespace Job

/-- The session a job belongs to and keeps alive. -/
def session : Job → Option Session
  | .login s _ => some s
  | .join s _ _ _ _ => some s
  | .leave s _ _ _ => some s
  | .close s _ => some s
  | .chat s _ _ _ _ => some s
  | .rooms s => some s
  | .roomUsers s _ => some s
  | .refresh s => some s
  | .whisper s _ _ => some s
  | _ => none

/-- What a job runs. -/
def handler (cfg : Config) : Job → Handler Unit
  | .login s req => Handler.onLogin cfg s req
  | .join s room password fresh denied => Handler.onJoin cfg s room password fresh denied
  | .leave s room fresh denied => Handler.onLeave cfg s room fresh denied
  | .close s fresh => Handler.onSessionClose cfg s fresh
  | .chat s room text now hook => Handler.onChatSend cfg s room text now hook
  | .rooms s => Handler.sendRoomsList cfg s
  | .roomUsers s room => Handler.onRoomUsersRequest cfg s room
  | .refresh s => Handler.handleRefresh cfg s
  | .whisper s target text => Handler.dispatchWhisper cfg s target text
  | .remoteLine room b => Handler.broadcastRoom room b
  | .remoteRefresh room => Handler.broadcastRefreshLocal room
  | .remoteWhisper n => Handler.deliverRemoteWhisper n
  | .adminDisconnect users notice => Handler.adminDisconnect users notice
  | .adminNotice text => Handler.adminNotice text
  | .adminModeration op users now durationSec reason =>
    Handler.adminModeration op users now durationSec reason

end Job

end Knights.Chat
