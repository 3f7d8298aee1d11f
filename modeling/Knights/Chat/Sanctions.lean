import Knights.Chat.Soundness
import Knights.Chat.Knowledge

namespace Knights.Chat

open Lib List Table Instance Machine

/-!
# Bans of addresses and devices

A ban goes by name, but it also writes down the address and the device its user last logged in
from, and so do the bans of other users who share them.  The entries are overwritten and lifted
without regard to whose they are.

* `records_exec` — sections that are not about sanctions or blacklists leave these alone;
* `bannedUntil_exec` — what a section does to the entry of an address or a device;
* `ban_outlasts_others` — while nobody who shares the address or the device is unbanned, or
  banned until an earlier time, a ban keeps everyone out who comes from there.
-/

/-! ### Sanctions and blacklists -/

/-- The tables of sanctions and blacklists. -/
structure Records where
  mutedUsers : Table String TimedPenalty
  bannedIps : Table String ℕ
  bannedHwidHashes : Table String ℕ
  userBlacklists : Table String (Finset String)

namespace State

variable {cfg : Config} {live : Session → Bool} {st st' : State} {s : Session}

/-- What a state has of these tables. -/
def records (st : State) : Records :=
  ⟨st.mutedUsers, st.bannedIps, st.bannedHwidHashes, st.userBlacklists⟩

theorem records_of_people (h : st'.people = st.people) : st'.records = st.records :=
  (congrArg records h :)

@[simp] theorem records_pruneUser {user : String} :
    (st.pruneUser live user).records = st.records := by
  unfold pruneUser
  cases st.byUser.lookup user <;> rfl

@[simp] theorem records_pruneRoom {room : String} :
    (st.pruneRoom live room).records = st.records := by
  unfold pruneRoom
  cases st.rooms.lookup room <;> rfl

theorem records_closeSession : (st.closeSession live s).1.records = st.records :=
  (congrArg records people_closeSession :)

end State

/-- The sections about sanctions and blacklists. -/
def Critical.sanctions : Critical → Bool
  | .banCheck _ _ _ _ => true
  | .mute _ _ _ _ => true
  | .unmute _ _ => true
  | .ban _ _ _ _ => true
  | .unban _ _ => true
  | .adminModeration _ _ _ _ _ => true
  | .moderate _ _ => true
  | .blacklistAdd _ _ => true
  | .blacklistRemove _ _ => true
  | _ => false

open State in
/-- Every other section leaves sanctions and blacklists alone. -/
theorem records_exec {c : Critical} (hc : c.sanctions = false) (cfg : Config)
    (live : Session → Bool) (st : State) : (c.exec cfg live st).1.records = st.records := by
  cases c with
  | sessionUuid s fresh =>
    show (st.getOrCreateSessionUuid s fresh).1.records = _
    obtain ⟨t, ht⟩ := getOrCreateSessionUuid_eq
    rw [ht]
    rfl
  | ensureUnique desired temps =>
    show (st.ensureUnique live desired temps).1.records = _
    unfold ensureUnique
    split_ifs
    · cases st.byUser.lookup desired <;> rfl
    · rfl
  | join s req =>
    show (st.join cfg live s req).1.records = _
    obtain ⟨e, hj⟩ | ⟨e, hj⟩ | ⟨hash, -, -, -, hj⟩ := join_cases
    · rw [hj]
    · rw [hj]
      exact records_of_people same_cachePassword.1
    · rw [hj]
      exact (congrArg records (people_joined live st s req hash) :)
  | leave s room denied =>
    show (st.leave live s room denied).1.records = _
    obtain ⟨e, hl⟩ | ⟨cur, left, -, -, -, -, hl⟩ := leave_cases
    · rw [hl]
    · rw [hl]
      exact (records_of_people people_vacate :)
  | close s => exact records_closeSession
  | cacheRoomId room id =>
    show (st.cacheRoomId room id).records = _
    unfold cacheRoomId
    cases st.roomIds.lookup room <;> rfl
  | invite s target room =>
    show (st.invite cfg s target room).1.records = _
    unfold invite
    split_ifs <;> rfl
  | kick s target room =>
    show (st.kick cfg live s target room).1.records = _
    obtain ⟨a, hk⟩ | ⟨set, -, -, hk⟩ := kick_cases
    · rw [hk]
    · rw [hk]
      have hmove : (st.moveKicked live set target room).records = st.records :=
        (congrArg records (apart_moveKicked live st set target room) :)
      exact (records_of_people people_afterKick).trans hmove
  | removeRoom s room =>
    show (st.removeRoom cfg live s room).1.records = _
    obtain hr | ⟨-, hr⟩ := removeRoom_cases
    · rw [hr]
    · rw [hr]
      exact (congrArg records (apart_enterLobby _ _) :)
  | globalKick s user =>
    show (st.globalKickBy cfg live s user).1.records = _
    unfold globalKickBy
    split_ifs
    · exact records_pruneUser
    · rfl
  | disconnectTargets users =>
    refine @foldlRecOn (State × _) _ (fun acc => acc.1.records = st.records) users _ (st, []) rfl
      fun acc h user _ => ?_
    exact records_pruneUser.trans h
  | roomTargets room sender => exact records_pruneRoom
  | roomUsersCheck s target =>
    show (st.roomUsersCheck live s target).1.records = _
    unfold roomUsersCheck
    cases st.rooms.lookup target <;> rfl
  | localUsers room => exact records_pruneRoom
  | whisperTargets s sender target => exact records_pruneUser
  | remoteWhisperTargets n =>
    show (st.remoteWhisperTargets live n).1.records = _
    unfold remoteWhisperTargets
    split_ifs
    · rfl
    · exact records_pruneUser
  | banCheck | mute | unmute | ban | unban | adminModeration | moderate | blacklistAdd
  | blacklistRemove => cases hc
  | _ => rfl

/-! ### Addresses and devices -/

/-- What a ban goes by besides the name. -/
inductive Mark
  | ip (text : String)
  | device (hash : String)
  deriving DecidableEq, Repr

/-- A login comes from the address or the device. -/
def Mark.Carried (ip hwidHash : String) : Mark → Prop
  | .ip text => ip = text
  | .device hash => hwidHash = hash

instance (ip hwidHash : String) : ∀ m : Mark, Decidable (m.Carried ip hwidHash)
  | .ip text => inferInstanceAs (Decidable (ip = text))
  | .device hash => inferInstanceAs (Decidable (hwidHash = hash))

/-- The address or device is not empty. -/
def Mark.Known : Mark → Prop
  | .ip text => text ≠ ""
  | .device hash => hash ≠ ""

/-- Users who are banned until a time, or whose bans are lifted. -/
structure BanChange where
  users : List String
  expiresAt : Option ℕ
  deriving DecidableEq, Repr

variable {expiresAt : ℕ} {P : State → Prop} {inp : Chat.Input} {reason k key : String} {s : Session}

namespace State

variable {cfg : Config} {live : Session → Bool} {st st' : State} {user sender : String} {m : Mark}
  {now : ℕ} {t : Table String ℕ}

/-- The address or device a user last logged in from, which a ban writes down. -/
def Marked (st : State) (user : String) : Mark → Prop
  | .ip text => st.userLastIp.lookup user = some text ∧ text ≠ ""
  | .device hash => st.userLastHwidHash.lookup user = some hash ∧ hash ≠ ""

instance (st : State) (user : String) : ∀ m : Mark, Decidable (st.Marked user m)
  | .ip text => inferInstanceAs (Decidable (_ ∧ text ≠ ""))
  | .device hash => inferInstanceAs (Decidable (_ ∧ hash ≠ ""))

/-- Until when an address or a device is banned. -/
def bannedUntil (st : State) : Mark → Option ℕ
  | .ip text => st.bannedIps.lookup text
  | .device hash => st.bannedHwidHashes.lookup hash

theorem bannedUntil_of_records (h : st'.records = st.records) (m : Mark) :
    st'.bannedUntil m = st.bannedUntil m := by
  have hips : st'.bannedIps = st.bannedIps := congrArg Records.bannedIps h
  have hdevices : st'.bannedHwidHashes = st.bannedHwidHashes := congrArg Records.bannedHwidHashes h
  cases m with
  | ip text => exact congrArg (fun t => AList.lookup text t) hips
  | device hash => exact congrArg (fun t => AList.lookup hash t) hdevices

/-- What is done under a key unless it is empty. -/
theorem lookup_unless_empty {t' : Table String ℕ} {v : Option ℕ}
    (h : t'.lookup k = if k = key then v else t.lookup k) :
    (if key = "" then t else t').lookup k = if key = k ∧ k ≠ "" then v else t.lookup k := by
  by_cases hkey : key = ""
  · rw [if_pos hkey, if_neg]
    rintro ⟨hk, hne⟩
    exact hne (hk ▸ hkey)
  · rw [if_neg hkey, h]
    by_cases hk : k = key
    · simp [hk, hkey]
    · simp [hk, Ne.symm hk]

theorem lookup_recordUnder {key : Option String} : (recordUnder t key expiresAt).lookup k =
      if key = some k ∧ k ≠ "" then some expiresAt else t.lookup k := by
  cases key with
  | none => simp [recordUnder]
  | some key => simpa [recordUnder] using lookup_unless_empty (lookup_insert_ite t key k expiresAt)

theorem lookup_eraseUnder {key : Option String} :
    (eraseUnder t key).lookup k = if key = some k ∧ k ≠ "" then none else t.lookup k := by
  cases key with
  | none => simp [eraseUnder]
  | some key => simpa [eraseUnder] using lookup_unless_empty (lookup_erase_ite t key k)

/-- A ban writes down the address and the device of its user. -/
theorem bannedUntil_ban : (st.ban user expiresAt reason).bannedUntil m =
      if st.Marked user m then some expiresAt else st.bannedUntil m := by
  cases m with
  | ip | device => exact lookup_recordUnder

/-- Lifting a ban lifts those of the user's address and device, whoever else they are of. -/
theorem bannedUntil_unban :
    (st.unban user).bannedUntil m = if st.Marked user m then none else st.bannedUntil m := by
  cases m with
  | ip | device => exact lookup_eraseUnder

theorem lapseUnder_fst : (lapseUnder t key now).1.lookup k = t.lookup k ∨
      ∃ expiresAt ∈ t.lookup k, expiresAt ≤ now := by
  unfold lapseUnder
  by_cases hkey : key = ""
  · rw [if_pos hkey]
    exact .inl rfl
  rw [if_neg hkey]
  cases hlookup : t.lookup key with
  | none => exact .inl rfl
  | some expiresAt =>
    dsimp only
    by_cases hnow : expiresAt ≤ now
    · rw [if_pos hnow, lookup_erase_ite]
      by_cases hk : k = key
      · exact .inr ⟨expiresAt, hk ▸ hlookup, hnow⟩
      · rw [if_neg hk]
        exact .inl rfl
    · rw [if_neg hnow]
      exact .inl rfl

/-- An address or a device that is banned beyond now is found. -/
theorem lapseUnder_snd (hkey : key ≠ "") (h : t.lookup key = some expiresAt)
    (hnow : now < expiresAt) :
    (lapseUnder t key now).2 = true := by
  unfold lapseUnder
  rw [if_neg hkey, h]
  dsimp only
  rw [if_neg (not_le.mpr hnow)]

/-- A check drops bans that have run out, and no others. -/
theorem bannedUntil_banCheck {ip hwidHash : String} :
    (st.banCheck user ip hwidHash now).1.bannedUntil m = st.bannedUntil m ∨
      ∃ expiresAt ∈ st.bannedUntil m, expiresAt ≤ now := by
  cases m with
  | ip text =>
    show (ite _ _ _ : Table String ℕ × Bool).1.lookup text = _ ∨ _
    split_ifs
    · exact .inl rfl
    · exact lapseUnder_fst
  | device hash =>
    show (ite _ _ _ : Table String ℕ × Bool).1.lookup hash = _ ∨ _
    split_ifs
    · exact .inl rfl
    · exact lapseUnder_fst
    · exact .inl rfl
    · exact lapseUnder_fst

/-- A penalty that has not run out has a reason to tell. -/
theorem lapse_ne_empty {t : Table String TimedPenalty} {fallback : String}
    (hfallback : fallback ≠ "") (h : (lapse t user now fallback).2 = some reason) :
    reason ≠ "" := by
  unfold lapse at h
  cases hp : t.lookup user with
  | none =>
    rw [hp] at h
    cases h
  | some p =>
    rw [hp] at h
    dsimp only at h
    split_ifs at h with hnow hreason
    · obtain rfl := Option.some.inj h
      exact hfallback
    · obtain rfl := Option.some.inj h
      exact hreason

theorem marked_congr (hip : st'.userLastIp = st.userLastIp)
    (hdevice : st'.userLastHwidHash = st.userLastHwidHash) :
    st'.Marked user m ↔ st.Marked user m := by
  cases m with
  | ip text => simp only [Marked, hip]
  | device hash => simp only [Marked, hdevice]

theorem Marked.known (h : st.Marked user m) : m.Known := by
  cases m with
  | ip | device => exact h.2

/-- A login from an address or a device that is banned beyond now is refused. -/
theorem denied_of_bannedUntil {name ip hwidHash : String} (hm : m.Known)
    (hcarried : m.Carried ip hwidHash) (h : st.bannedUntil m = some expiresAt)
    (hnow : now < expiresAt) : (st.banCheck name ip hwidHash now).2 ≠ "" := by
  unfold banCheck
  dsimp only
  cases husers : (lapse st.bannedUsers name now "temporarily banned").2 with
  | some reason => exact lapse_ne_empty (by decide) husers
  | none =>
    simp only [Option.isSome_none, Bool.false_or, Bool.false_eq_true, if_false]
    cases m with
    | ip text =>
      obtain rfl : ip = text := hcarried
      rw [if_pos (lapseUnder_snd hm h hnow)]
      decide
    | device hash =>
      obtain rfl : hwidHash = hash := hcarried
      by_cases hips : (lapseUnder st.bannedIps ip now).2 = true
      · rw [if_pos hips]
        decide
      · rw [if_neg hips, if_neg hips, if_pos (lapseUnder_snd hm h hnow)]
        decide

/-- The spam filter has banned the sender of a line. -/
def Verdict.isSpamBan : Verdict → Bool
  | .penalized reason _ => reason = "temporarily banned for repeated spam"
  | _ => false

/-- What becomes of a line: it is counted, or it is one too many and its sender is banned or
    muted. -/
theorem countLine_cases : (∃ events, st.countLine cfg live sender now =
      ({ st with spamEvents := events }, .passes sender)) ∨
    (∃ events violations ts, st.countLine cfg live sender now =
      (({ st with spamEvents := events, spamViolations := violations }.ban sender
          (now + seconds cfg.spamBanSec) "temporarily banned for repeated spam").pruneUser live
          sender,
        .penalized "temporarily banned for repeated spam" ts)) ∨
    ∃ events violations, st.countLine cfg live sender now =
      ({ st with spamEvents := events, spamViolations := violations }.mute sender
          (now + seconds cfg.spamMuteSec) "temporarily muted for spam",
        .penalized "temporarily muted for spam" []) := by
  unfold countLine
  dsimp only
  split_ifs
  · exact .inl ⟨_, rfl⟩
  · exact .inr (.inl ⟨_, _, _, rfl⟩)
  · exact .inr (.inr ⟨_, _, rfl⟩)

theorem bannedUntil_countLine : (st.countLine cfg live sender now).1.bannedUntil m =
      if (st.countLine cfg live sender now).2.isSpamBan = true ∧ st.Marked sender m then
        some (now + seconds cfg.spamBanSec)
      else st.bannedUntil m := by
  obtain ⟨events, h⟩ | ⟨events, violations, ts, h⟩ | ⟨events, violations, h⟩ :=
    countLine_cases
  · rw [h, if_neg (by simp [Verdict.isSpamBan])]
    exact bannedUntil_of_records rfl m
  · rw [h]
    rw [bannedUntil_of_records records_pruneUser, bannedUntil_ban]
    have hmarked : ({ st with spamEvents := events, spamViolations := violations } : State).Marked
        sender m ↔ st.Marked sender m := marked_congr rfl rfl
    refine if_congr (hmarked.trans ?_) rfl (bannedUntil_of_records rfl m)
    simp [Verdict.isSpamBan]
  · rw [h, if_neg (by simp [Verdict.isSpamBan])]
    exact bannedUntil_of_records rfl m

/-- The state after penalties of a user that have run out were dropped. -/
def lapsed (st : State) (user : String) (now : ℕ) : State :=
  { st with
    mutedUsers := (lapse st.mutedUsers user now "temporarily muted").1
    bannedUsers := (lapse st.bannedUsers user now "temporarily banned").1 }

/-- What the moderation of a line comes to: guests, the banned and the muted are refused, other
    lines are counted. -/
theorem moderate_cases : st.moderate cfg live s now = (st, .guest) ∨
    (∃ reason, st.moderate cfg live s now = (st.lapsed (st.nameOf s) now, .banned reason)) ∨
    (∃ reason, (lapse st.mutedUsers (st.nameOf s) now "temporarily muted").2 = some reason ∧
      st.moderate cfg live s now = (st.lapsed (st.nameOf s) now, .muted reason)) ∨
    (lapse st.mutedUsers (st.nameOf s) now "temporarily muted").2 = none ∧
      st.moderate cfg live s now =
        (st.lapsed (st.nameOf s) now).countLine cfg live (st.nameOf s) now := by
  unfold moderate
  by_cases hguest : st.nameOf s = "guest"
  · rw [if_pos hguest]
    exact .inl rfl
  rw [if_neg hguest]
  dsimp only
  cases (lapse st.bannedUsers (st.nameOf s) now "temporarily banned").2 with
  | some reason => exact .inr (.inl ⟨reason, rfl⟩)
  | none =>
    cases (lapse st.mutedUsers (st.nameOf s) now "temporarily muted").2 with
    | some reason => exact .inr (.inr (.inl ⟨reason, rfl, rfl⟩))
    | none => exact .inr (.inr (.inr ⟨rfl, rfl⟩))

/-- A line that passes is one of the session's user, who is not muted. -/
theorem sender_of_passes (h : (st.moderate cfg live s now).2 = .passes sender) :
    sender = st.nameOf s ∧ (lapse st.mutedUsers sender now "temporarily muted").2 = none := by
  obtain hm | ⟨reason, hm⟩ | ⟨reason, -, hm⟩ | ⟨hnone, hm⟩ := moderate_cases
  · rw [hm] at h
    cases h
  · rw [hm] at h
    cases h
  · rw [hm] at h
    cases h
  · rw [hm] at h
    obtain ⟨events, hc⟩ | ⟨events, violations, ts, hc⟩ | ⟨events, violations, hc⟩ :=
      countLine_cases
    · rw [hc] at h
      cases h
      exact ⟨rfl, hnone⟩
    · rw [hc] at h
      cases h
    · rw [hc] at h
      cases h

theorem bannedUntil_lapsed : (st.lapsed user now).bannedUntil m = st.bannedUntil m := by
  cases m <;> rfl

/-- The spam filter bans the sender of a line. -/
theorem bannedUntil_moderate : (st.moderate cfg live s now).1.bannedUntil m =
      if (st.moderate cfg live s now).2.isSpamBan = true ∧ st.Marked (st.nameOf s) m then
        some (now + seconds cfg.spamBanSec)
      else st.bannedUntil m := by
  obtain h | ⟨reason, h⟩ | ⟨reason, -, h⟩ | ⟨-, h⟩ := moderate_cases
  · rw [h, if_neg (by simp [Verdict.isSpamBan])]
  · rw [h, if_neg (by simp [Verdict.isSpamBan])]
    exact bannedUntil_lapsed
  · rw [h, if_neg (by simp [Verdict.isSpamBan])]
    exact bannedUntil_lapsed
  · rw [h, bannedUntil_countLine, bannedUntil_lapsed]
    exact if_congr (and_congr_right fun _ => marked_congr rfl rfl) rfl rfl

end State

/-! ### What a section does to bans -/

open State in
/-- Whom a section bans, or whose bans it lifts. -/
def Critical.banChange (cfg : Config) (live : Session → Bool) (st : State) : Critical → BanChange
  | .ban s user now sec =>
    ⟨if st.isAdmin cfg s then [user] else [], some (now + seconds sec)⟩
  | .unban s user => ⟨if st.isAdmin cfg s then [user] else [], none⟩
  | .adminModeration .ban users now durationSec _ =>
    ⟨users, some (now + seconds (if 0 < durationSec then durationSec else cfg.spamBanSec))⟩
  | .adminModeration .unban users _ _ _ => ⟨users, none⟩
  | .moderate s now =>
    ⟨if (st.moderate cfg live s now).2.isSpamBan then [st.nameOf s] else [],
      some (now + seconds cfg.spamBanSec)⟩
  | _ => ⟨[], none⟩

namespace State

variable {cfg : Config} {live : Session → Bool} {st : State} {m : Mark}

/-- The entry of an address or a device after a change: that of the change, if it is about a user
    who comes from there. -/
def entryAfter (st : State) (m : Mark) (change : BanChange) : Option ℕ :=
  if ∃ user ∈ change.users, st.Marked user m then change.expiresAt else st.bannedUntil m

theorem entryAfter_nil {expiresAt : Option ℕ} :
    st.entryAfter m ⟨[], expiresAt⟩ = st.bannedUntil m :=
  if_neg (by simp)

theorem entryAfter_singleton (user : String) (expiresAt : Option ℕ) :
    st.entryAfter m ⟨[user], expiresAt⟩ =
      if st.Marked user m then expiresAt else st.bannedUntil m := by
  simp [entryAfter]

/-- Users are taken one after another. -/
theorem bannedUntil_foldl {f : State × List Session → String → State × List Session}
    {expiresAt : Option ℕ}
    (hf : ∀ acc user, (f acc user).1.userLastIp = acc.1.userLastIp ∧
      (f acc user).1.userLastHwidHash = acc.1.userLastHwidHash ∧
      (f acc user).1.bannedUntil m = if acc.1.Marked user m then expiresAt else acc.1.bannedUntil m)
    (users : List String) (acc : State × List Session) :
    (users.foldl f acc).1.bannedUntil m = acc.1.entryAfter m ⟨users, expiresAt⟩ := by
  induction users generalizing acc with
  | nil => exact entryAfter_nil.symm
  | cons user users ih =>
    obtain ⟨hip, hdevice, hentry⟩ := hf acc user
    have hmarked : ∀ u, (f acc user).1.Marked u m ↔ acc.1.Marked u m :=
      fun _ => marked_congr hip hdevice
    rw [foldl_cons, ih]
    unfold entryAfter
    rw [hentry]
    simp only [hmarked, exists_mem_cons_iff]
    by_cases hrest : ∃ u ∈ users, acc.1.Marked u m
    · simp [hrest]
    · simp [hrest]

theorem bannedUntil_adminModeration {op : AdminOp} {users : List String} {now durationSec : ℕ} :
    (st.adminModeration cfg live op users now durationSec reason).1.bannedUntil m = st.entryAfter m
      (Critical.banChange cfg live st (.adminModeration op users now durationSec reason)) := by
  -- what is no ban and lifts none changes nothing
  have hother : (∀ (acc : State × List Session) user,
      (moderateUser cfg live op now durationSec reason acc user).1.bannedUntil m =
        acc.1.bannedUntil m) →
      (st.adminModeration cfg live op users now durationSec reason).1.bannedUntil m =
        st.bannedUntil m := by
    exact fun h => @foldlRecOn _ _ (fun acc => acc.1.bannedUntil m = st.bannedUntil m) users _
      (st, []) rfl fun acc hacc user _ => (h acc user).trans hacc
  have hnone : st.entryAfter m ⟨[], none⟩ = st.bannedUntil m := entryAfter_nil
  cases op with
  | ban =>
    refine bannedUntil_foldl (fun acc user => ⟨?_, ?_, ?_⟩) users (st, [])
    · unfold moderateUser pruneUser
      dsimp only
      split <;> rfl
    · unfold moderateUser pruneUser
      dsimp only
      split <;> rfl
    · exact (bannedUntil_of_records records_pruneUser m).trans bannedUntil_ban
  | unban =>
    refine bannedUntil_foldl (f := moderateUser cfg live .unban now durationSec reason)
      (fun acc user => ⟨rfl, rfl, ?_⟩) users (st, [])
    exact bannedUntil_unban
  | kick =>
    refine (hother fun acc user => ?_).trans hnone.symm
    exact bannedUntil_of_records records_pruneUser m
  | mute | unmute => exact (hother fun acc user => by cases m <;> rfl).trans hnone.symm
  | other => exact (hother fun acc user => rfl).trans hnone.symm

end State

open State in
/-- **What a section does to the entry of an address or a device.** -/
theorem bannedUntil_exec {c : Critical}
    (hc : ∀ user ip hwidHash now, c ≠ .banCheck user ip hwidHash now) (cfg : Config)
    (live : Session → Bool) (st : State) (m : Mark) :
    (c.exec cfg live st).1.bannedUntil m = st.entryAfter m (c.banChange cfg live st) := by
  have hnone : st.entryAfter m ⟨[], none⟩ = st.bannedUntil m := entryAfter_nil
  cases hs : c.sanctions with
  | false =>
    rw [bannedUntil_of_records (records_exec hs cfg live st)]
    cases c
    case ban => cases hs
    case unban => cases hs
    case adminModeration => cases hs
    case moderate => cases hs
    all_goals exact hnone.symm
  | true =>
    cases c
    case banCheck user ip hwidHash now => exact absurd rfl (hc user ip hwidHash now)
    case mute s user now sec =>
      show (st.muteBy cfg s user now sec).1.bannedUntil m = st.entryAfter m ⟨[], none⟩
      unfold muteBy
      split_ifs <;> cases m <;> rfl
    case unmute s user =>
      show (st.unmuteBy cfg s user).1.bannedUntil m = st.entryAfter m ⟨[], none⟩
      unfold unmuteBy
      split_ifs <;> cases m <;> rfl
    case ban s user now sec =>
      show (st.banBy cfg live s user now sec).1.bannedUntil m = st.entryAfter m
        ⟨if st.isAdmin cfg s then [user] else [], some (now + seconds sec)⟩
      unfold banBy
      split_ifs
      · rw [entryAfter_singleton]
        exact (bannedUntil_of_records records_pruneUser m).trans bannedUntil_ban
      · exact entryAfter_nil.symm
    case unban s user =>
      show (st.unbanBy cfg s user).1.bannedUntil m = st.entryAfter m
        ⟨if st.isAdmin cfg s then [user] else [], none⟩
      unfold unbanBy
      split_ifs
      · rw [entryAfter_singleton]
        exact bannedUntil_unban
      · exact hnone.symm
    case adminModeration op users now durationSec reason =>
      exact bannedUntil_adminModeration
    case moderate s now =>
      refine bannedUntil_moderate.trans ?_
      show _ = st.entryAfter m ⟨if (st.moderate cfg live s now).2.isSpamBan then [st.nameOf s]
        else [], some (now + seconds cfg.spamBanSec)⟩
      by_cases hspam : (st.moderate cfg live s now).2.isSpamBan = true
      · simp [hspam, entryAfter_singleton]
      · simp [hspam, entryAfter_nil]
    case blacklistAdd actor target =>
      refine Eq.trans ?_ hnone.symm
      cases m <;> rfl
    case blacklistRemove actor target =>
      refine Eq.trans ?_ hnone.symm
      show (st.blacklistRemove actor target).1.bannedUntil m = _
      unfold blacklistRemove
      cases st.userBlacklists.lookup actor with
      | none => rfl
      | some blocked =>
        dsimp only
        split_ifs <;> cases m <;> rfl
    all_goals cases hs

/-! ### The sections of one service -/

/-- The section that an operation runs. -/
def Op.section? : Op → Option Critical
  | .lock c => some c
  | _ => none

namespace Cluster

variable {cfg : ℕ → Config} {c : Cluster} {i : ℕ} {G : Instance → Critical → Prop} {is : List Input}

/-- A condition on the sections that service `i` runs. -/
def OnSections (i : ℕ) (G : Instance → Critical → Prop) (c : Cluster) : Input → Prop
  | .inst i' inp => i' = i → ∀ x ∈ c.insts[i]?, ∀ jo ∈ x.performs inp, ∀ cr ∈ jo.2.section?, G x cr
  | _ => True

instance decidableOnSections (i : ℕ) (G : Instance → Critical → Prop)
    [∀ x cr, Decidable (G x cr)] (c : Cluster) : ∀ inp, Decidable (OnSections i G c inp)
  | .inst i' inp => inferInstanceAs (Decidable (i' = i → ∀ x ∈ c.insts[i]?,
      ∀ jo ∈ x.performs inp, ∀ cr ∈ jo.2.section?, G x cr))
  | .expirePassword _ => isTrue trivial
  | .expireMessage _ => isTrue trivial

/-- The tables of a service after it has run a section. -/
theorem st_of_section {x z : Instance} {j : Job} {cr : Critical} (hx : c.insts[i]? = some x)
    (hcr : x.performs inp = some (j, .lock cr))
    (hz : ((cluster cfg).next c (.inst i inp)).insts[i]? = some z) :
    z.st = (cr.exec (cfg i) x.live x.st).1 := by
  rw [next_inst_self hx] at hz
  obtain rfl := Option.some.inj hz
  obtain ⟨k, ans, hact⟩ : ∃ k ans,
      x.action (cfg i) i c.stores inp = some ⟨i, k, j, .lock cr, ans⟩ :=
    exists_action hcr
  obtain ⟨fate, p, -, -, hstep, -⟩ := exec_of_action hact
  rw [hstep]
  rfl

variable (hP : ∀ x cr, P x.st → G x cr → P (cr.exec (cfg i) x.live x.st).1)
  (h : ∀ x ∈ c.insts[i]?, P x.st)
include hP h

/-- What the sections of a service keep that meet a condition, a step keeps. -/
theorem sections_next {inp : Input} (hG : OnSections i G c inp) :
    ∀ x ∈ ((cluster cfg).next c inp).insts[i]?, P x.st := by
  intro z hz
  obtain ⟨x, hx, hsame | ⟨inp', j, cr, rfl, hperforms, hst⟩⟩ := st_next hz
  · rw [hsame]
    exact h x hx
  · rw [hst]
    exact hP x cr (h x hx) (hG rfl x hx _ hperforms cr rfl)

theorem guarded_sections (hG : (cluster cfg).Guarded (OnSections i G) c is) :
    ∀ x ∈ ((cluster cfg).run c is).insts[i]?, P x.st :=
  (cluster cfg).guarded_invariant (fun c => ∀ x ∈ c.insts[i]?, P x.st) (OnSections i G)
    (fun _ _ hc hinp => sections_next hP hc hinp) h hG

/-- A section in the trace of a run whose sections all meet a condition: it meets the condition
    itself, it is run on tables that have what the sections before it keep, and its answer comes
    from there. -/
theorem section_of_mem_trace (hG : (cluster cfg).Guarded (OnSections i G) c is)
    {e : ClusterEvent} (he : e ∈ (cluster cfg).trace c is) {k : ℕ} {j : Job}
    {cr : Critical} {a : cr.Ans} (hout : e.output = some ⟨i, k, j, .lock cr, a⟩) :
    ∃ x, e.pre.insts[i]? = some x ∧ G x cr ∧ a = (cr.exec (cfg i) x.live x.st).2 ∧ P x.st := by
  obtain ⟨pre, post, rfl, hpre, hstep⟩ := (cluster cfg).mem_trace.mp he
  obtain ⟨hGpre, hGe, -⟩ := (cluster cfg).guarded_append (OnSections i G) c pre _ |>.mp hG
  obtain ⟨x, inp, hinp, hx, hact⟩ := action_of_step (hstep.symm.trans hout)
  obtain ⟨fate, -, -, hans, -⟩ := exec_of_action hact
  rw [hinp] at hGe
  rw [hpre] at hx
  refine ⟨x, hpre ▸ hx, ?_, hans, guarded_sections hP h hGpre x hx⟩
  exact hGe rfl x hx _ (performs_of_action hact) cr rfl

end Cluster

/-! ### Whole runs -/

/-- A section leaves the ban of `user`, which goes by a mark until `expiresAt`, alone: it names no
    ban of the user, and it changes no ban of another user with that mark but to one that lasts
    as long; and the ban has not run out. -/
def Critical.SparesBan (cfg : Config) (live : Session → Bool) (st : State) (user : String)
    (m : Mark) (expiresAt : ℕ) : Critical → Prop
  | .banCheck _ _ _ now => now < expiresAt
  | c => user ∉ (c.banChange cfg live st).users ∧
    ((∃ other ∈ (c.banChange cfg live st).users, st.Marked other m) →
      ∃ t ∈ (c.banChange cfg live st).expiresAt, expiresAt ≤ t)

instance (cfg : Config) (live : Session → Bool) (st : State) (user : String) (m : Mark)
    (expiresAt : ℕ) (c : Critical) : Decidable (c.SparesBan cfg live st user m expiresAt) := by
  unfold Critical.SparesBan
  split <;> infer_instance

namespace State

variable {cfg : Config} {live : Session → Bool} {st : State} {m : Mark}

/-- The mark is banned until a time or longer. -/
def BannedFor (st : State) (m : Mark) (expiresAt : ℕ) : Prop :=
  ∃ t ∈ st.bannedUntil m, expiresAt ≤ t

/-- A section that leaves a ban alone keeps its mark banned. -/
theorem bannedFor_exec {c : Critical} {user : String} (h : st.BannedFor m expiresAt)
    (hc : c.SparesBan cfg live st user m expiresAt) :
    (c.exec cfg live st).1.BannedFor m expiresAt := by
  by_cases hcheck : ∃ name ip hwidHash now, c = .banCheck name ip hwidHash now
  · obtain ⟨name, ip, hwidHash, now, rfl⟩ := hcheck
    obtain ⟨t, ht, hle⟩ := h
    obtain hsame | ⟨t', ht', hnow⟩ := bannedUntil_banCheck
    · exact ⟨t, hsame.trans ht, hle⟩
    · -- the entry has not run out yet
      obtain rfl := Option.mem_unique ht ht'
      have hbefore : now < expiresAt := hc
      omega
  · push Not at hcheck
    have hspares : (∃ other ∈ (c.banChange cfg live st).users, st.Marked other m) →
        ∃ t ∈ (c.banChange cfg live st).expiresAt, expiresAt ≤ t := by
      unfold Critical.SparesBan at hc
      split at hc
      · exact absurd rfl (hcheck _ _ _ _)
      · exact hc.2
    unfold BannedFor
    rw [bannedUntil_exec hcheck]
    unfold entryAfter
    split_ifs with hmarked
    · exact hspares hmarked
    · exact h

end State

namespace Cluster

variable {cfg : ℕ → Config} {i : ℕ} {user : String} {m : Mark} {expiresAt : ℕ}

/-- A step leaves a ban of service `i` alone. -/
def SparesBan (cfg : ℕ → Config) (i : ℕ) (user : String) (m : Mark) (expiresAt : ℕ) :
    Cluster → Input → Prop :=
  OnSections i fun x cr => cr.SparesBan (cfg i) x.live x.st user m expiresAt

instance (cfg : ℕ → Config) (i : ℕ) (user : String) (m : Mark) (expiresAt : ℕ) (c : Cluster)
    (inp : Input) : Decidable (SparesBan cfg i user m expiresAt c inp) :=
  decidableOnSections i _ c inp

/-- The next step of service `i` bans a user until a time and writes down a mark. -/
def Bans (cfg : ℕ → Config) (i : ℕ) (user : String) (m : Mark) (expiresAt : ℕ) (c : Cluster)
    (inp : Chat.Input) : Prop :=
  ∃ x ∈ c.insts[i]?, ∃ jo ∈ x.performs inp, ∃ cr ∈ jo.2.section?,
    user ∈ (cr.banChange (cfg i) x.live x.st).users ∧
      expiresAt ∈ (cr.banChange (cfg i) x.live x.st).expiresAt ∧ x.st.Marked user m

instance (cfg : ℕ → Config) (i : ℕ) (user : String) (m : Mark) (expiresAt : ℕ) (c : Cluster)
    (inp : Chat.Input) : Decidable (Bans cfg i user m expiresAt c inp) :=
  inferInstanceAs (Decidable (∃ x ∈ c.insts[i]?, ∃ jo ∈ x.performs inp, ∃ cr ∈ jo.2.section?,
    user ∈ (cr.banChange (cfg i) x.live x.st).users ∧
      expiresAt ∈ (cr.banChange (cfg i) x.live x.st).expiresAt ∧ x.st.Marked user m))

theorem known_of_bans {c : Cluster} (h : Bans cfg i user m expiresAt c inp) : m.Known := by
  obtain ⟨x, -, jo, -, cr, -, -, -, hm⟩ := h
  exact hm.known

theorem bannedFor_of_bans {c : Cluster} (h : Bans cfg i user m expiresAt c inp) :
    ∀ z ∈ ((cluster cfg).next c (.inst i inp)).insts[i]?, z.st.BannedFor m expiresAt := by
  obtain ⟨x, hx, ⟨j, o⟩, hperforms, cr, hcr, huser, hexpires, hm⟩ := h
  intro z hz
  obtain rfl : o = .lock cr := by
    cases o with
    | lock c => exact congrArg Op.lock (Option.some.inj hcr)
    | redis | db | send | stop => cases hcr
  have hcheck : ∀ name ip hwidHash now, cr ≠ .banCheck name ip hwidHash now := by
    rintro name ip hwidHash now rfl
    cases huser
  rw [st_of_section hx hperforms hz]
  refine ⟨expiresAt, ?_, le_rfl⟩
  rw [bannedUntil_exec hcheck]
  exact (if_pos ⟨user, huser, hm⟩).trans hexpires

/-- **Bans outlast other bans.** Service `i` bans a user until `expiresAt`, and writes down an
    address or a device as theirs.  As long as the user is not named by another ban or unban, and
    no other user with that address or device is unbanned or banned for a shorter time, every
    check of a login that comes from there refuses it, until the ban runs out.  So the logins
    from there that still take effect have passed their check before the ban. -/
theorem ban_outlasts_others (cfg : ℕ → Config) (n : ℕ) (stores : Stores) (pre post : List Input)
    (i : ℕ) (inp : Chat.Input) (user : String) (m : Mark) (expiresAt : ℕ)
    (hban : Bans cfg i user m expiresAt ((cluster cfg).run (fresh n stores) pre) inp)
    (hpost : (cluster cfg).Guarded (SparesBan cfg i user m expiresAt)
      ((cluster cfg).run (fresh n stores) (pre ++ [.inst i inp])) post) :
    (∀ e ∈ (cluster cfg).trace ((cluster cfg).run (fresh n stores) (pre ++ [.inst i inp])) post,
      ∀ k j name ip hwidHash now a,
        e.output = some ⟨i, k, j, .lock (.banCheck name ip hwidHash now), a⟩ →
        m.Carried ip hwidHash → a ≠ "") ∧
    ∀ e ∈ (cluster cfg).trace ((cluster cfg).run (fresh n stores) (pre ++ [.inst i inp])) post,
      ∀ k j s l a, e.output = some ⟨i, k, j, .lock (.loginCommit s l), a⟩ →
        m.Carried l.ip l.hwidHash →
        ∃ e' ∈ (cluster cfg).trace (fresh n stores) (pre ++ [.inst i inp]), ∃ j' now,
          e'.output = some ⟨i, k, j', .lock (.banCheck l.name l.ip l.hwidHash now), ""⟩ := by
  have hbanned : ∀ z ∈ ((cluster cfg).run (fresh n stores) (pre ++ [.inst i inp])).insts[i]?,
      z.st.BannedFor m expiresAt := by
    rw [run_append]
    exact bannedFor_of_bans hban
  have hdenied : ∀ e ∈ (cluster cfg).trace
      ((cluster cfg).run (fresh n stores) (pre ++ [.inst i inp])) post,
      ∀ k j name ip hwidHash now a,
        e.output = some ⟨i, k, j, .lock (.banCheck name ip hwidHash now), a⟩ →
        m.Carried ip hwidHash → a ≠ "" := by
    intro e he k j name ip hwidHash now a hout hcarried
    obtain ⟨z, hz, hG, hans, hP⟩ := section_of_mem_trace
      (P := fun st => st.BannedFor m expiresAt) (fun z cr hz hG => State.bannedFor_exec hz hG)
      hbanned hpost he hout
    obtain ⟨t, ht, hle⟩ := hP
    have hnow : now < expiresAt := hG
    rw [hans]
    exact State.denied_of_bannedUntil (known_of_bans hban) hcarried ht (lt_of_lt_of_le hnow hle)
  refine ⟨hdenied, ?_⟩
  intro e he k j s l a hout hcarried
  obtain ⟨post₁, post₂, rfl, hpre, hstep⟩ := (cluster cfg).mem_trace.mp he
  rw [← run_append] at hpre
  -- the job has passed a check, which cannot have come after the ban
  rw [hpre] at hstep
  have hneed := needed_of_step (informed_run cfg n stores (pre ++ [.inst i inp] ++ post₁))
    (hstep.symm.trans hout)
  obtain ⟨-, -, now, e', he', ⟨i', k', j', o, a'⟩, hact, rfl, rfl, hf⟩ := hneed
  rw [trace_append] at he'
  cases tells_of_learned hf with
  | cleared name ip hwidHash now =>
    obtain he' | he' := mem_append.mp he'
    · exact ⟨e', he', j', now, hact⟩
    · refine absurd rfl (hdenied e' ?_ k' j' l.name l.ip l.hwidHash now "" hact hcarried)
      rw [trace_append]
      exact mem_append_left _ he'

end Cluster

/-- Alice and bob come from the same address, and bob is about to be banned for a minute. -/
def sharedAddress : List Cluster.Input :=
  [.inst 0 (.accept .one)] ++ serve 0 0 30 (.login .one { user := "alice", ip := "10.0.0.1" }) ++
  [.inst 0 (.accept .two)] ++ serve 0 1 30 (.login .two { user := "bob", ip := "10.0.0.1" }) ++
  [.inst 0 (.submit (.adminModeration .ban ["bob"] 0 60 ""))]

/-- A login from that address a second later, as task `k`. -/
def loginFromThere (k : ℕ) : List Cluster.Input :=
  .inst 0 (.accept ⟨3, 30⟩) ::
    serve 0 k 30 (.login ⟨3, 30⟩ { user := "carol", ip := "10.0.0.1", now := seconds 1 })

/-- What the checks of logins answer in a run. -/
def banAnswers (c : Cluster) (is : List Cluster.Input) : List (String × String) :=
  (samples.trace c is).filterMap fun e =>
    match e.output with
    | some ⟨_, _, _, .lock (.banCheck user _ _ _), a⟩ => some (user, a)
    | _ => none

theorem ban_outlasts_others_carol :
    banAnswers (.fresh 1 {}) (sharedAddress ++ [.inst 0 (.advance 2 .done)] ++ loginFromThere 3) =
      [("alice", ""), ("bob", ""), ("carol", "temporarily banned (ip)")] ∧
    ∀ e ∈ samples.trace (samples.run (.fresh 1 {})
        (sharedAddress ++ [.inst 0 (.advance 2 .done)])) (loginFromThere 3),
      ∀ k j name ip hwidHash now a,
        e.output = some ⟨0, k, j, .lock (.banCheck name ip hwidHash now), a⟩ →
        (Mark.ip "10.0.0.1").Carried ip hwidHash → a ≠ "" := by
  refine ⟨by decide +kernel, ?_⟩
  exact (Cluster.ban_outlasts_others (fun _ => .sample) 1 {} sharedAddress (loginFromThere 3) 0
    (.advance 2 .done) "bob" (.ip "10.0.0.1") (seconds 60) (by decide +kernel)
    (by decide +kernel)).1

/-- Bob is banned for a minute.  Lifting a ban of alice, who was never banned, lets a login from
    bob's address in after a second. -/
theorem unban_of_other_lifts_ban :
    Cluster.Bans (fun _ => .sample) 0 "bob" (.ip "10.0.0.1") (seconds 60)
      (samples.run (.fresh 1 {}) sharedAddress) (.advance 2 .done) ∧
    banAnswers (.fresh 1 {}) (sharedAddress ++ [.inst 0 (.advance 2 .done),
        .inst 0 (.submit (.adminModeration .unban ["alice"] 0 0 "")), .inst 0 (.advance 3 .done)] ++
        loginFromThere 4) =
      [("alice", ""), ("bob", ""), ("carol", "")] := by
  decide +kernel

end Knights.Chat
