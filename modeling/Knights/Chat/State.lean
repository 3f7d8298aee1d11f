import Mathlib.Algebra.Group.Nat.Defs
import Mathlib.Data.Finset.Basic
import Mathlib.Data.List.Sort
import Knights.Lib.Table

namespace Knights.Chat

open Lib

/-!
# The state of the chat service

One `ChatService` keeps its sessions, rooms and sanctions in memory, in `State`, behind one
mutex.  Two kinds of reference to a session occur there, and they fail differently:

* maps keyed by `Session*` know a session by its address, which a later session may get
  again once the first is destroyed;
* rooms and the reverse index of nicknames hold `weak_ptr`s, which know the object itself and
  notice when it is gone.

`Session` therefore has both an identity and an address, and whether a session object is still
alive is a parameter (`live`) of everything that follows `weak_ptr`s.
-/

/-- A session object: `id` is its session id, which no other session of a run gets, `addr` the
    address it lives at. -/
structure Session where
  id : ℕ
  addr : ℕ
  deriving DecidableEq, Repr

/-! ### Sets of sessions -/

/-- Sets of `weak_ptr`s, in the order in which they are iterated. -/
abbrev RoomSet := List Session

namespace RoomSet

/-- `owner_less` compares control blocks; `make_shared` places a session's control block with
    the session, so this is the order of addresses. -/
def before (a b : Session) : Prop := a.addr < b.addr ∨ a.addr = b.addr ∧ a.id ≤ b.id

instance : DecidableRel before := fun _ _ => inferInstanceAs (Decidable (_ ∨ _))

/-- Put a session into a set. -/
def add (set : RoomSet) (s : Session) : RoomSet :=
  if s ∈ set then set else List.orderedInsert before s set

/-- Take a session out of a set. -/
def remove (set : RoomSet) (s : Session) : RoomSet := set.filter (· ≠ s)

/-- Drop the sessions that are gone; what is left are also the sessions that
    `collect_room_sessions` gets from the set. -/
def prune (live : Session → Bool) (set : RoomSet) : RoomSet := set.filter (live ·)

variable {set : RoomSet} {s t : Session} {live : Session → Bool}

/-- Who is in a set after a change. -/
@[simp] theorem mem_add : t ∈ set.add s ↔ t = s ∨ t ∈ set := by
  unfold add
  by_cases hs : s ∈ set
  · rw [if_pos hs]
    exact ⟨Or.inr, fun h => h.elim (fun hts => hts ▸ hs) id⟩
  · rw [if_neg hs, List.mem_orderedInsert]

@[simp] theorem mem_remove : t ∈ set.remove s ↔ t ≠ s ∧ t ∈ set := by
  simp [remove, and_comm]

/-- Only who is alive stays. -/
@[simp] theorem mem_prune : t ∈ set.prune live ↔ live t = true ∧ t ∈ set := by
  simp [prune, and_comm]

end RoomSet

/-- The sessions a table of sets lists under a name, none if it has no entry. -/
def membersOf (t : Table String RoomSet) (name : String) : RoomSet := (t.lookup name).getD []

section MembersOf

variable (t : Table String RoomSet) (a b : String) (set : RoomSet)

@[simp] theorem membersOf_insert :
    membersOf (t.insert a set) b = if b = a then set else membersOf t b := by
  unfold membersOf
  rw [Table.lookup_insert_ite]
  split_ifs <;> rfl

@[simp] theorem membersOf_erase :
    membersOf (t.erase a) b = if b = a then [] else membersOf t b := by
  unfold membersOf
  rw [Table.lookup_erase_ite]
  split_ifs <;> rfl

theorem membersOf_of_lookup {t : Table String RoomSet} {a : String} {set : RoomSet}
    (h : t.lookup a = some set) : membersOf t a = set := by
  unfold membersOf
  rw [h]
  rfl

theorem membersOf_of_lookup_none {t : Table String RoomSet} {a : String}
    (h : t.lookup a = none) : membersOf t a = [] := by
  unfold membersOf
  rw [h]
  rfl

end MembersOf

/-! ### The tables -/

/-- Identifiers of rows in the `users` table. -/
abbrev UserId := ℕ

/-- Identifiers of rows in the `rooms` table. -/
abbrev RoomId := ℕ

/-- A mute or a ban; times count nanoseconds of the steady clock. -/
structure TimedPenalty where
  expiresAt : ℕ
  reason : String
  deriving DecidableEq, Repr

/-- A duration in nanoseconds. -/
def seconds (n : ℕ) : ℕ := n * 1000000000

/-- `ChatService::State`.  Tables from sessions are keyed by address. -/
structure State where
  rooms : Table String RoomSet := ∅
  roomIds : Table String RoomId := ∅
  roomPasswords : Table String String := ∅
  roomOwners : Table String String := ∅
  roomInvites : Table String (Finset String) := ∅
  user : Table ℕ String := ∅
  userUuid : Table ℕ UserId := ∅
  sessionUuid : Table ℕ String := ∅
  curRoom : Table ℕ String := ∅
  sessionIp : Table ℕ String := ∅
  sessionHwidHash : Table ℕ String := ∅
  userLastIp : Table String String := ∅
  userLastHwidHash : Table String String := ∅
  authed : Finset ℕ := ∅
  guest : Finset ℕ := ∅
  byUser : Table String RoomSet := ∅
  bySessionId : Table ℕ Session := ∅
  mutedUsers : Table String TimedPenalty := ∅
  bannedUsers : Table String TimedPenalty := ∅
  bannedIps : Table String ℕ := ∅
  bannedHwidHashes : Table String ℕ := ∅
  spamEvents : Table String (List ℕ) := ∅
  spamViolations : Table String ℕ := ∅
  userBlacklists : Table String (Finset String) := ∅

namespace State

variable (st : State)

/-- A session's nickname, `"guest"` without one. -/
def nameOf (s : Session) : String := (st.user.lookup s.addr).getD "guest"

/-- Whom a user has blocked. -/
def blockedBy (user : String) : Finset String := (st.userBlacklists.lookup user).getD ∅

/-- Whom the owner or an administrator has invited to a room. -/
def invitedTo (room : String) : Finset String := (st.roomInvites.lookup room).getD ∅

/-- The sessions among `targets` that have a nickname and have not blocked `sender`. -/
def reachable (sender : String) (targets : List Session) : List Session :=
  targets.filter fun t =>
    match st.user.lookup t.addr with
    | none => false
    | some receiver => sender ∉ st.blockedBy receiver

/-- `collect_room_sessions` on the set of a room, which drops the sessions that are gone. -/
def pruneRoom (live : Session → Bool) (room : String) : State :=
  match st.rooms.lookup room with
  | none => st
  | some set => { st with rooms := st.rooms.insert room (set.prune live) }

/-- The same on the set of a nickname. -/
def pruneUser (live : Session → Bool) (name : String) : State :=
  match st.byUser.lookup name with
  | none => st
  | some set => { st with byUser := st.byUser.insert name (set.prune live) }

end State

/-! ### Configuration -/

/-- A line of chat as it goes over the wire; the time stamp is left out. -/
structure Broadcast where
  room : String
  sender : String
  text : String
  senderSid : ℕ
  deriving DecidableEq, Repr

/-- A whisper as it goes over the wire; the time stamp is left out. -/
structure WhisperNotice where
  sender : String
  recipient : String
  text : String
  outgoing : Bool
  deriving DecidableEq, Repr

/-- What a chat service is set up with.  The hash functions, the database's `lower` and the
    wire encodings are whatever they are. -/
structure Config where
  hasDb : Bool := true
  hasRedis : Bool := true
  pubsubEnabled : Bool := true
  gatewayId : String := "gw-default"
  channelPrefix : String := ""
  adminUsers : Finset String := ∅
  spamMessageThreshold : ℕ := 6
  spamWindowSec : ℕ := 5
  spamMuteSec : ℕ := 30
  spamBanSec : ℕ := 600
  spamBanViolationThreshold : ℕ := 3
  recentLimit : ℕ := 20
  maxListLen : ℕ := 200
  fetchFactor : ℕ := 3
  sha256Hex : String → String
  legacyHash : String → String
  lower : String → String
  encodeBroadcast : Broadcast → String
  encodeWhisper : WhisperNotice → String

/-! ### Room passwords -/

/-- The text starts with `pre`. -/
def startsWith (pre text : String) : Bool := pre.toList.isPrefixOf text.toList

theorem startsWith_append {pre text : String} : startsWith pre (pre ++ text) = true := by
  unfold startsWith
  rw [List.isPrefixOf_iff_prefix, String.toList_append]
  exact List.prefix_append _ _

/-- `kRoomPasswordHashPrefix`. -/
def roomPasswordHashPrefix : String := "sha256:"

/-- `hash_room_password`; empty if the digest fails. -/
def Config.hashRoomPassword (cfg : Config) (password : String) : String :=
  if cfg.sha256Hex password = "" then "" else roomPasswordHashPrefix ++ cfg.sha256Hex password

/-- `is_modern_room_password_hash`. -/
def isModernRoomPasswordHash (storedHash : String) : Bool :=
  startsWith roomPasswordHashPrefix storedHash

/-- `verify_room_password`: a stored hash is a versioned one or a legacy one. -/
def Config.verifyRoomPassword (cfg : Config) (password storedHash : String) : Bool :=
  if storedHash = "" then false
  else if isModernRoomPasswordHash storedHash then cfg.hashRoomPassword password = storedHash
  else cfg.legacyHash password = storedHash

/-- `hash_hwid_token`. -/
def Config.hashHwidToken (cfg : Config) (token : String) : String :=
  if token = "" then "" else if cfg.sha256Hex token = "" then "" else "hwid:" ++ cfg.sha256Hex token

/-- A fresh hash accepts the password it was made from. -/
theorem Config.verify_hashRoomPassword (cfg : Config) {password : String}
    (h : cfg.hashRoomPassword password ≠ "") :
    cfg.verifyRoomPassword password (cfg.hashRoomPassword password) = true := by
  have hmodern : isModernRoomPasswordHash (cfg.hashRoomPassword password) = true := by
    unfold hashRoomPassword at h ⊢
    by_cases hd : cfg.sha256Hex password = ""
    · rw [if_pos hd] at h
      exact absurd rfl h
    · rw [if_neg hd]
      exact startsWith_append
  unfold verifyRoomPassword
  rw [if_neg h, if_pos hmodern]
  exact decide_eq_true rfl

end Knights.Chat
