import Knights.Chat.Sections

namespace Knights.Chat

open Lib

/-!
# Critical sections: sanctions, blacklists and whispers

The sections that keep users in order: bans and mutes by administrators, the spam filter every
line of chat passes, the users' own blacklists, and the choice of the sessions a whisper goes
to.  None of them moves a session between rooms.
-/

namespace State

variable (cfg : Config) (live : Session → Bool) (st : State) (s : Session) (user : String)

/-! ### Bans and mutes -/

/-- Mute a user. -/
def mute (expiresAt : ℕ) (reason : String) : State :=
  { st with mutedUsers := st.mutedUsers.insert user ⟨expiresAt, reason⟩ }

/-- Lift a mute. -/
def unmute : State := { st with mutedUsers := st.mutedUsers.erase user }

/-- Write an entry under a key that is on record and not empty. -/
def recordUnder (t : Table String ℕ) (key : Option String) (expiresAt : ℕ) : Table String ℕ :=
  match key with
  | none => t
  | some k => if k = "" then t else t.insert k expiresAt

/-- Erase the entry of a key that is on record and not empty. -/
def eraseUnder (t : Table String ℕ) (key : Option String) : Table String ℕ :=
  match key with
  | none => t
  | some k => if k = "" then t else t.erase k

/-- Ban a user, together with the address and the device they last logged in from. -/
def ban (expiresAt : ℕ) (reason : String) : State :=
  { st with
    bannedUsers := st.bannedUsers.insert user ⟨expiresAt, reason⟩
    bannedIps := recordUnder st.bannedIps (st.userLastIp.lookup user) expiresAt
    bannedHwidHashes :=
      recordUnder st.bannedHwidHashes (st.userLastHwidHash.lookup user) expiresAt }

/-- Lift a ban, together with those of the user's last address and device. -/
def unban : State :=
  { st with
    bannedUsers := st.bannedUsers.erase user
    bannedIps := eraseUnder st.bannedIps (st.userLastIp.lookup user)
    bannedHwidHashes := eraseUnder st.bannedHwidHashes (st.userLastHwidHash.lookup user) }

/-- Lifting a ban changes something. -/
def isBanned : Bool :=
  let under (t : Table String ℕ) (key : Option String) : Bool :=
    match key with
    | none => false
    | some k => k ≠ "" && (t.lookup k).isSome
  (st.bannedUsers.lookup user).isSome || under st.bannedIps (st.userLastIp.lookup user) ||
    under st.bannedHwidHashes (st.userLastHwidHash.lookup user)

/-- The sessions of a user that are alive. -/
def sessionsOf : List Session := (membersOf st.byUser user).prune live

/-- The section of `/mute` and the like: the actor has to be an administrator. -/
def isAdmin : Bool := st.nameOf s ∈ cfg.adminUsers

/-- The section of `/mute`; the answer says whether it was allowed. -/
def muteBy (now sec : ℕ) : State × Bool :=
  if st.isAdmin cfg s then (st.mute user (now + seconds sec) "muted by admin", true)
  else (st, false)

/-- The section of `/unmute`; the answer says whether the user was muted. -/
def unmuteBy : State × Option Bool :=
  if st.isAdmin cfg s then (st.unmute user, some (st.mutedUsers.lookup user).isSome)
  else (st, none)

/-- The section of `/ban`; the answer is the sessions of the banned user. -/
def banBy (now sec : ℕ) : State × Option (List Session) :=
  if st.isAdmin cfg s then
    ((st.ban user (now + seconds sec) "banned by admin").pruneUser live user,
      some (st.sessionsOf live user))
  else (st, none)

/-- The section of `/unban`; the answer says whether anything was lifted. -/
def unbanBy : State × Option Bool :=
  if st.isAdmin cfg s then (st.unban user, some (st.isBanned user)) else (st, none)

/-- The section of `/gkick`; the answer is the sessions to disconnect. -/
def globalKickBy : State × Option (List Session) :=
  if st.isAdmin cfg s then (st.pruneUser live user, some (st.sessionsOf live user))
  else (st, none)

/-- Erase a penalty that has run out; the answer is the reason of one that has not. -/
def lapse (t : Table String TimedPenalty) (user : String) (now : ℕ) (fallback : String) :
    Table String TimedPenalty × Option String :=
  match t.lookup user with
  | none => (t, none)
  | some p =>
    if p.expiresAt ≤ now then (t.erase user, none)
    else (t, some (if p.reason = "" then fallback else p.reason))

/-- The same for an address or a device, which counts only if it is known. -/
def lapseUnder (t : Table String ℕ) (key : String) (now : ℕ) : Table String ℕ × Bool :=
  if key = "" then (t, false)
  else
    match t.lookup key with
    | none => (t, false)
    | some expiresAt => if expiresAt ≤ now then (t.erase key, false) else (t, true)

/-- The section of a login that refuses banned users, addresses and devices.  A ban that has
    run out is erased on the way; a reason to refuse stops the search.  The answer is empty if
    there is none. -/
def banCheck (user ip hwidHash : String) (now : ℕ) : State × String :=
  let users := lapse st.bannedUsers user now "temporarily banned"
  let ips :=
    if users.2.isSome then (st.bannedIps, false) else lapseUnder st.bannedIps ip now
  let hwids :=
    if users.2.isSome || ips.2 then (st.bannedHwidHashes, false)
    else lapseUnder st.bannedHwidHashes hwidHash now
  ({ st with bannedUsers := users.1, bannedIps := ips.1, bannedHwidHashes := hwids.1 },
    match users.2 with
    | some reason => reason
    | none =>
      if ips.2 then "temporarily banned (ip)"
      else if hwids.2 then "temporarily banned (device)"
      else "")

/-- What administrators do to a list of users. -/
inductive AdminOp
  | mute
  | unmute
  | ban
  | unban
  | kick
  /-- Any other text for the operation: nothing is done. -/
  | other
  deriving DecidableEq, Repr

/-- One user of `admin_apply_user_moderation`. -/
def moderateUser (op : AdminOp) (now durationSec : ℕ) (reason : String)
    (acc : State × List Session) (user : String) : State × List Session :=
  let add (found : List Session) : List Session :=
    acc.2 ++ found.filter fun p => acc.2.all fun q => q.addr ≠ p.addr
  match op with
  | .mute =>
    (acc.1.mute user (now + seconds (if 0 < durationSec then durationSec else cfg.spamMuteSec))
      (if reason = "" then "muted by administrator" else reason), acc.2)
  | .unmute => (acc.1.unmute user, acc.2)
  | .ban =>
    ((acc.1.ban user (now + seconds (if 0 < durationSec then durationSec else cfg.spamBanSec))
      (if reason = "" then "banned by administrator" else reason)).pruneUser live user,
      add (acc.1.sessionsOf live user))
  | .unban => (acc.1.unban user, acc.2)
  | .kick => (acc.1.pruneUser live user, add (acc.1.sessionsOf live user))
  | .other => acc

/-- The section of `admin_apply_user_moderation`; the answer is the sessions affected. -/
def adminModeration (op : AdminOp) (users : List String) (now durationSec : ℕ) (reason : String) :
    State × List Session :=
  users.foldl (moderateUser cfg live op now durationSec reason) (st, [])

/-- A session that is logged in under a name of its own. -/
def isMemberSession (p : Session) : Bool := p.addr ∈ st.authed && p.addr ∉ st.guest

/-- The section of `admin_disconnect_users`; the answer is the sessions to disconnect. -/
def disconnectTargets (users : List String) : State × List Session :=
  users.foldl (fun acc user =>
    (acc.1.pruneUser live user,
      acc.2 ++ (acc.1.sessionsOf live user).filter fun p =>
        acc.1.isMemberSession p && acc.2.all fun q => q.addr ≠ p.addr)) (st, [])

/-- The section of `admin_broadcast_notice`; the answer is everyone who is to get the notice. -/
def noticeTargets : State × List Session :=
  ({ st with rooms := st.rooms.sift fun _ set => some (set.prune live) },
    (st.rooms.entries.flatMap fun e => e.2.prune live).foldl (fun acc p =>
      if st.isMemberSession p && acc.all fun q => q.addr ≠ p.addr then acc ++ [p] else acc) [])

/-! ### The spam filter -/

/-- What the moderation step of `on_chat_send` decides about a line. -/
inductive Verdict
  | passes (sender : String)
  | guest
  | muted (reason : String)
  | banned (reason : String)
  /-- The line is one too many: the sender is muted, or banned and disconnected. -/
  | penalized (reason : String) (toStop : List Session)
  deriving DecidableEq, Repr

/-- Count a line of chat against the spam limits. -/
def countLine (sender : String) (now : ℕ) : State × Verdict :=
  let recent := ((st.spamEvents.lookup sender).getD []).dropWhile fun t =>
    t + seconds cfg.spamWindowSec < now
  let events := recent ++ [now]
  if events.length ≤ cfg.spamMessageThreshold then
    ({ st with spamEvents := st.spamEvents.insert sender events }, .passes sender)
  else
    let violations := ((st.spamViolations.lookup sender).getD 0 + 1) % 2 ^ 32
    let st' := { st with
      spamEvents := st.spamEvents.insert sender []
      spamViolations := st.spamViolations.insert sender violations }
    if cfg.spamBanViolationThreshold ≤ violations then
      let reason := "temporarily banned for repeated spam"
      ((st'.ban sender (now + seconds cfg.spamBanSec) reason).pruneUser live sender,
        .penalized reason (st'.sessionsOf live sender))
    else
      let reason := "temporarily muted for spam"
      (st'.mute sender (now + seconds cfg.spamMuteSec) reason, .penalized reason [])

/-- The moderation section of `on_chat_send`. -/
def moderate (now : ℕ) : State × Verdict :=
  let sender := st.nameOf s
  if sender = "guest" then (st, .guest)
  else
    let muted := lapse st.mutedUsers sender now "temporarily muted"
    let banned := lapse st.bannedUsers sender now "temporarily banned"
    let st' := { st with mutedUsers := muted.1, bannedUsers := banned.1 }
    match banned.2 with
    | some reason => (st', .banned reason)
    | none =>
      match muted.2 with
      | some reason => (st', .muted reason)
      | none => st'.countLine cfg live sender now

/-! ### Blacklists -/

/-- The section of `/blacklist add`; the answer says whether the name is new on the list. -/
def blacklistAdd (actor target : String) : State × Bool :=
  ({ st with
      userBlacklists := st.userBlacklists.insert actor (insert target (st.blockedBy actor)) },
    target ∉ st.blockedBy actor)

/-- The section of `/blacklist remove`; the answer says whether the name was on the list. -/
def blacklistRemove (actor target : String) : State × Bool :=
  match st.userBlacklists.lookup actor with
  | none => (st, false)
  | some blocked =>
    (if blocked.erase target = ∅ then
        { st with userBlacklists := st.userBlacklists.erase actor }
      else
        { st with userBlacklists := st.userBlacklists.insert actor (blocked.erase target) },
      target ∈ blocked)

/-! ### Whispers -/

/-- What `dispatch_whisper` learns about its target. -/
structure WhisperTargets where
  targets : List Session
  ineligibleFound : Bool
  blockedBySender : Bool
  deriving DecidableEq, Repr

/-- The section of `dispatch_whisper` that looks for the target's sessions. -/
def whisperTargets (sender target : String) : State × WhisperTargets :=
  let blockedBySender : Bool := target ∈ st.blockedBy sender
  let blocked : Bool := blockedBySender || sender ∈ st.blockedBy target
  let others := (st.sessionsOf live target).filter fun p => p.addr ≠ s.addr
  (st.pruneUser live target,
    { targets := if blocked then [] else others.filter st.isMemberSession
      ineligibleFound := blocked || others.any fun p => !st.isMemberSession p
      blockedBySender := blockedBySender })

/-- The section of `deliver_remote_whisper`; a recipient who blocked the sender ends it. -/
def remoteWhisperTargets (n : WhisperNotice) : State × List Session :=
  if n.sender ∈ st.blockedBy n.recipient then (st, [])
  else
    (st.pruneUser live n.recipient,
      (st.sessionsOf live n.recipient).filter st.isMemberSession)

end State

end Knights.Chat
