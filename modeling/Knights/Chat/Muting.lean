import Knights.Chat.Sanctions

namespace Knights.Chat

open Lib List Table Machine

/-!
# Mutes

Every line of chat passes moderation before it is sent, published or stored, and moderation
holds back the lines of a muted user.  A whisper takes another way: it is sent or published once
its receivers are found, and nobody asks whether its sender is muted.

* `isMuted_exec` — what keeps an entry in the table of mutes;
* `speaks_of_bearsText` — a text that leaves a task for somebody else, or for the database, was
  let through by a section of that task;
* `mute_silences` — while a mute stands and its user does not whisper, texts of the user leave a
  service only if they were let through before the mute.
-/

/-! ### What keeps a mute -/

/-- A section leaves the mute of a user standing: it does not lift it, and it does not find that
    it has run out. -/
def Critical.KeepsMute (cfg : Config) (st : State) (user : String) : Critical → Prop
  | .unmute s name => st.isAdmin cfg s = true → name ≠ user
  | .adminModeration op users _ _ _ => op = .unmute → user ∉ users
  | .moderate s now => st.nameOf s = user → ∀ p ∈ st.mutedUsers.lookup user, now < p.expiresAt
  | _ => True

instance (cfg : Config) (st : State) (user : String) (c : Critical) :
    Decidable (c.KeepsMute cfg st user) := by
  unfold Critical.KeepsMute
  split <;> infer_instance

/-- The user whose whisper a section looks for receivers of. -/
def Critical.whisperer? : Critical → Option String
  | .whisperTargets _ sender _ => some sender
  | _ => none

variable {s : Session} {now : ℕ} {t : Table String TimedPenalty} {o : Op}

namespace State

variable {cfg : Config} {live : Session → Bool} {st st' : State} {user name : String}

/-- The user has an entry in the table of mutes. -/
def IsMuted (st : State) (user : String) : Prop := (st.mutedUsers.lookup user).isSome = true

instance (st : State) (user : String) : Decidable (st.IsMuted user) :=
  inferInstanceAs (Decidable (_ = true))

theorem isMuted_of_records (h : st'.records = st.records) : st'.IsMuted user ↔ st.IsMuted user := by
  have hmuted : st'.mutedUsers = st.mutedUsers := congrArg Records.mutedUsers h
  rw [IsMuted, IsMuted, hmuted]

theorem IsMuted.mute (h : st.IsMuted user) (name : String) (expiresAt : ℕ) (reason : String) :
    (st.mute name expiresAt reason).IsMuted user := by
  show ((st.mutedUsers.insert name ⟨expiresAt, reason⟩).lookup user).isSome = true
  rw [lookup_insert_ite]
  split_ifs
  · rfl
  · exact h

theorem IsMuted.unmute (h : st.IsMuted user) (hname : name ≠ user) :
    (st.unmute name).IsMuted user := by
  show ((st.mutedUsers.erase name).lookup user).isSome = true
  rw [lookup_erase_ite, if_neg (Ne.symm hname)]
  exact h

/-- A mute that has not run out is found. -/
theorem lapse_of_lookup {p : TimedPenalty} (hp : t.lookup user = some p) (hnow : now < p.expiresAt)
    (fallback : String) :
    lapse t user now fallback = (t, some (if p.reason = "" then fallback else p.reason)) := by
  unfold lapse
  rw [hp]
  dsimp only
  rw [if_neg (not_le.mpr hnow)]

/-- Entries of others stay when one that has run out is dropped. -/
theorem lookup_lapse_of_ne (hname : name ≠ user) (now : ℕ) (fallback : String) :
    (lapse t name now fallback).1.lookup user = t.lookup user := by
  unfold lapse
  cases t.lookup name with
  | none => rfl
  | some p =>
    dsimp only
    by_cases hnow : p.expiresAt ≤ now
    · rw [if_pos hnow, lookup_erase_ite, if_neg (Ne.symm hname)]
    · rw [if_neg hnow]

variable (h : st.IsMuted user)
include h

theorem IsMuted.lapsed (hkeep : name = user → ∀ p ∈ st.mutedUsers.lookup user, now < p.expiresAt) :
    (st.lapsed name now).IsMuted user := by
  show ((lapse st.mutedUsers name now "temporarily muted").1.lookup user).isSome = true
  by_cases hname : name = user
  · subst hname
    obtain ⟨p, hp⟩ := Option.isSome_iff_exists.mp h
    rw [lapse_of_lookup hp (hkeep rfl p hp)]
    exact h
  · rw [lookup_lapse_of_ne hname]
    exact h

theorem IsMuted.countLine (cfg : Config) (live : Session → Bool)
    (sender : String) (now : ℕ) : (st.countLine cfg live sender now).1.IsMuted user := by
  obtain ⟨events, hc⟩ | ⟨events, violations, ts, hc⟩ | ⟨events, violations, hc⟩ :=
    countLine_cases
  · rw [hc]
    exact h
  · rw [hc]
    exact (isMuted_of_records records_pruneUser).mpr h
  · rw [hc]
    have hst : ({ st with spamEvents := events, spamViolations := violations } : State).IsMuted
        user := h
    exact hst.mute _ _ _

theorem IsMuted.moderate
    (hkeep : st.nameOf s = user → ∀ p ∈ st.mutedUsers.lookup user, now < p.expiresAt) :
    (st.moderate cfg live s now).1.IsMuted user := by
  have hlapsed := h.lapsed hkeep
  obtain hm | ⟨reason, hm⟩ | ⟨reason, -, hm⟩ | ⟨-, hm⟩ := moderate_cases
  · rw [hm]
    exact h
  · rw [hm]
    exact hlapsed
  · rw [hm]
    exact hlapsed
  · rw [hm]
    exact hlapsed.countLine cfg live _ now

theorem IsMuted.adminModeration {op : AdminOp} {users : List String}
    (hkeep : op = .unmute → user ∉ users) (now durationSec : ℕ) (reason : String) :
    (st.adminModeration cfg live op users now durationSec reason).1.IsMuted user := by
  -- one user after another
  have hone : ∀ (acc : State × List Session) name, name ∈ users → acc.1.IsMuted user →
      (moderateUser cfg live op now durationSec reason acc name).1.IsMuted user := by
    intro acc name hname hacc
    cases op with
    | mute => exact hacc.mute _ _ _
    | unmute =>
      refine hacc.unmute ?_
      rintro rfl
      exact hkeep rfl hname
    | ban | kick => exact (isMuted_of_records records_pruneUser).mpr hacc
    | unban | other => exact hacc
  have hst : (st, ([] : List Session)).1.IsMuted user := h
  exact List.foldlRecOn users (moderateUser cfg live op now durationSec reason)
    (motive := fun acc => acc.1.IsMuted user) hst
    fun acc hacc name hname => hone acc name hname hacc

theorem not_passes_of_isMuted
    (hkeep : st.nameOf s = user → ∀ p ∈ st.mutedUsers.lookup user, now < p.expiresAt) :
    (st.moderate cfg live s now).2 ≠ .passes user := by
  intro hpass
  obtain ⟨rfl, hnone⟩ := sender_of_passes hpass
  obtain ⟨p, hp⟩ := Option.isSome_iff_exists.mp h
  rw [lapse_of_lookup hp (hkeep rfl p hp)] at hnone
  cases hnone

end State

open State in
/-- **What keeps an entry in the table of mutes.** -/
theorem isMuted_exec {cfg : Config} {live : Session → Bool} {st : State} {user : String}
    (h : st.IsMuted user) {c : Critical} (hc : c.KeepsMute cfg st user) :
    (c.exec cfg live st).1.IsMuted user := by
  cases hs : c.sanctions with
  | false => exact (isMuted_of_records (records_exec hs cfg live st)).mpr h
  | true =>
    cases c
    case banCheck name ip hwidHash now => exact h
    case mute s name now sec =>
      show (st.muteBy cfg s name now sec).1.IsMuted user
      unfold muteBy
      split_ifs
      · exact h.mute _ _ _
      · exact h
    case unmute s name =>
      show (st.unmuteBy cfg s name).1.IsMuted user
      unfold unmuteBy
      split_ifs with hadmin
      · exact h.unmute (hc hadmin)
      · exact h
    case ban s name now sec =>
      show (st.banBy cfg live s name now sec).1.IsMuted user
      unfold banBy
      split_ifs
      · exact (isMuted_of_records records_pruneUser).mpr h
      · exact h
    case unban s name =>
      show (st.unbanBy cfg s name).1.IsMuted user
      unfold unbanBy
      split_ifs <;> exact h
    case adminModeration op users now durationSec reason =>
      exact h.adminModeration hc now durationSec reason
    case moderate s now => exact h.moderate hc
    case blacklistAdd actor target => exact h
    case blacklistRemove actor target =>
      show (st.blacklistRemove actor target).1.IsMuted user
      unfold blacklistRemove
      cases st.userBlacklists.lookup actor with
      | none => exact h
      | some blocked =>
        dsimp only
        split_ifs <;> exact h
    all_goals cases hs

/-! ### Texts that leave a task -/

/-- A section whose answer lets a task of session `s` speak for `v`. -/
inductive Speaks (s : Session) (v : String) : (o : Op) → o.Ans → Prop
  | line (now : ℕ) : Speaks s v (.lock (.moderate s now)) (.passes v)
  | whisper (target : String) (found : State.WhisperTargets) :
    Speaks s v (.lock (.whisperTargets s v target)) found

/-- An operation of a task of session `s` takes a text to another session, to other services or
    to the database.  The service's own lines, refreshes and the note of a login do not count. -/
def Op.BearsText (cfg : Config) (j : Job) (s : Session) : Op → Prop
  | .send _ (.broadcast b _) => ¬ b.IsSystem
  | .send t (.whisper _) => t ≠ s
  | .redis (.publish channel _) => ∀ room, channel ≠ cfg.channelPrefix ++ "fanout:refresh:" ++ room
  | .db (.createMessage _ _ _ _) => ∀ req, j ≠ .login s req
  | _ => False

/-- The text that an operation takes somewhere is one of `v`.  A stored text does not tell. -/
inductive Op.Carries (cfg : Config) (v : String) : Op → Prop
  | line (t : Session) (b : Broadcast) (self : Bool) (h : b.sender = v) :
    Carries cfg v (.send t (.broadcast b self))
  | whisper (t : Session) (n : WhisperNotice) (h : n.sender = v) :
    Carries cfg v (.send t (.whisper n))
  | publishedLine (b : Broadcast) (h : b.sender = v) :
    Carries cfg v (.redis (.publish (cfg.channelPrefix ++ "fanout:room:" ++ b.room)
      (Handler.envelope cfg (cfg.encodeBroadcast b))))
  | publishedWhisper (n : WhisperNotice) (h : n.sender = v) :
    Carries cfg v (.redis (.publish (cfg.channelPrefix ++ "fanout:whisper")
      (Handler.envelope cfg (cfg.encodeWhisper n))))
  | stored (rid : RoomId) (room : String) (uid : Option UserId) (text : String) :
    Carries cfg v (.db (.createMessage rid room uid text))

/-- A fact that lets a task of session `s` speak for `v`. -/
inductive Fact.LetsSpeak (s : Session) (v : String) : Fact → Prop
  | passed (now : ℕ) : LetsSpeak s v (.passed s v now)
  | hearers (recipient : String) (ts : List Session) :
    LetsSpeak s v (.hearers (some s) v recipient ts)

theorem speaks_of_learned {v : String} {a : o.Ans} {f : Fact} (h : f ∈ learned o a)
    (hf : f.LetsSpeak s v) : Speaks s v o a := by
  cases hf with
  | passed now =>
    cases tells_of_learned h with
    | passed s now sender => exact .line now
  | hearers recipient ts =>
    cases tells_of_learned h with
    | hearers s sender target found => exact .whisper recipient found

/-- A text leaves a task only with such a fact. -/
theorem letsSpeak_of_needs {cfg : Config} {j : Job} {K : Set Fact} (hs : j.session = some s)
    (hneed : Needs cfg j K o) (htext : o.BearsText cfg j s) :
    ∃ v, o.Carries cfg v ∧ ∃ f ∈ K, f.LetsSpeak s v := by
  have hpassed : ∀ {v}, Passed j K v → ∃ f ∈ K, f.LetsSpeak s v := by
    rintro v ⟨s', now, hs', hf⟩
    obtain rfl := Option.mem_unique hs hs'
    exact ⟨_, hf, .passed now⟩
  unfold Op.BearsText at htext
  split at htext
  · obtain hsystem | ⟨hb, -⟩ | ⟨room, ts, rfl, -⟩ := hneed
    · exact absurd hsystem htext
    · exact ⟨_, .line _ _ _ rfl, hpassed hb⟩
    · cases hs
  · obtain ⟨-, ht, -⟩ | ⟨ts, hts, -⟩ := hneed
    · exact absurd (Option.mem_unique ht hs) htext
    · rw [hs] at hts
      exact ⟨_, .whisper _ _ rfl, _, hts, .hearers _ ts⟩
  · obtain ⟨room, hroom⟩ | ⟨n, rfl, rfl, hts⟩ | ⟨b, rfl, rfl, hb⟩ := hneed
    · exact absurd hroom (htext room)
    · rw [hs] at hts
      exact ⟨_, .publishedWhisper n rfl, _, hts, .hearers _ []⟩
    · exact ⟨_, .publishedLine b rfl, hpassed hb⟩
  · obtain ⟨-, ⟨s', req, rfl⟩ | ⟨v, hv⟩⟩ := hneed
    · obtain rfl : s' = s := Option.some.inj hs
      exact absurd rfl (htext req)
    · exact ⟨v, .stored _ _ _ _, hpassed hv⟩
  · cases htext

namespace Cluster

variable {cfg : ℕ → Config}

/-- **Every text was let through.** A text that leaves a task of a session for another session,
    for other services or for the database is one of a user for whom a section of the same task
    let it speak. -/
theorem speaks_of_bearsText {n : ℕ} {stores : Stores} {is : List Input} {inp : Input} {i k : ℕ}
    {j : Job} {a : o.Ans}
    (hstep : ((cluster cfg).step ((cluster cfg).run (fresh n stores) is) inp).2 =
      some ⟨i, k, j, o, a⟩)
    (hs : j.session = some s) (htext : o.BearsText (cfg i) j s) :
    ∃ v, o.Carries (cfg i) v ∧ ∃ e ∈ (cluster cfg).trace (fresh n stores) is,
      ∃ j' o' a', e.output = some ⟨i, k, j', o', a'⟩ ∧ Speaks s v o' a' := by
  have hneed := needed_of_step (informed_run cfg n stores is) hstep
  obtain ⟨v, hv, f, hf, hspeak⟩ := letsSpeak_of_needs hs hneed htext
  obtain ⟨e, he, ⟨i', k', j', o', a'⟩, hact, rfl, rfl, hlearned⟩ := hf
  exact ⟨v, hv, e, he, j', o', a', hact, speaks_of_learned hlearned hspeak⟩

/-- A step leaves the mute of a user of service `i` standing, and is no whisper of theirs. -/
def KeepsSilence (cfg : ℕ → Config) (i : ℕ) (user : String) : Cluster → Input → Prop :=
  OnSections i fun x cr => cr.KeepsMute (cfg i) x.st user ∧ cr.whisperer? ≠ some user

instance (cfg : ℕ → Config) (i : ℕ) (user : String) (c : Cluster) (inp : Input) :
    Decidable (KeepsSilence cfg i user c inp) := decidableOnSections i _ c inp

/-- **A mute silences all but whispers.** A user of service `i` is muted.  As long as the mute is
    not lifted and does not run out, and the user does not whisper, no line of theirs passes
    moderation, and a text that a task of the service takes to another session, to other
    services or to the database is theirs only if it was let through before the mute. -/
theorem mute_silences (cfg : ℕ → Config) (n : ℕ) (stores : Stores) (pre post : List Input)
    (i : ℕ) (user : String)
    (hmuted : ∀ x ∈ ((cluster cfg).run (fresh n stores) pre).insts[i]?, x.st.IsMuted user)
    (hpost : (cluster cfg).Guarded (KeepsSilence cfg i user)
      ((cluster cfg).run (fresh n stores) pre) post) :
    (∀ e ∈ (cluster cfg).trace ((cluster cfg).run (fresh n stores) pre) post, ∀ k j s now,
      e.output ≠ some ⟨i, k, j, .lock (.moderate s now), .passes user⟩) ∧
    ∀ e ∈ (cluster cfg).trace ((cluster cfg).run (fresh n stores) pre) post, ∀ k j o a s,
      e.output = some ⟨i, k, j, o, a⟩ → j.session = some s → o.BearsText (cfg i) j s →
      ∃ v, o.Carries (cfg i) v ∧ ∃ e' ∈ (cluster cfg).trace (fresh n stores) (pre ++ post),
        (∃ j' o' a', e'.output = some ⟨i, k, j', o', a'⟩ ∧ Speaks s v o' a') ∧
        (v = user → e' ∈ (cluster cfg).trace (fresh n stores) pre) := by
  have hsection : ∀ e ∈ (cluster cfg).trace ((cluster cfg).run (fresh n stores) pre) post,
      ∀ k j cr a, e.output = some ⟨i, k, j, .lock cr, a⟩ → ∃ x : Instance,
        (cr.KeepsMute (cfg i) x.st user ∧ cr.whisperer? ≠ some user) ∧
        a = (cr.exec (cfg i) x.live x.st).2 ∧ x.st.IsMuted user := by
    intro e he k j cr a hout
    obtain ⟨x, -, hG, hans, hP⟩ := section_of_mem_trace (P := fun st => st.IsMuted user)
      (fun x cr hx hG => isMuted_exec hx hG.1) hmuted hpost he hout
    exact ⟨x, hG, hans, hP⟩
  have hmoderate : ∀ e ∈ (cluster cfg).trace ((cluster cfg).run (fresh n stores) pre) post,
      ∀ k j s now, e.output ≠ some ⟨i, k, j, .lock (.moderate s now), .passes user⟩ := by
    intro e he k j s now hout
    obtain ⟨x, ⟨hkeep, -⟩, hans, hm⟩ := hsection e he k j _ _ hout
    exact State.not_passes_of_isMuted hm hkeep hans.symm
  refine ⟨hmoderate, ?_⟩
  intro e he k j o a s hout hs htext
  obtain ⟨post₁, post₂, rfl, hpre, hstep⟩ := (cluster cfg).mem_trace.mp he
  rw [← run_append] at hpre
  rw [hpre] at hstep
  obtain ⟨v, hv, e', he', j', o', a', hact, hspeak⟩ :=
    speaks_of_bearsText (hstep.symm.trans hout) hs htext
  rw [trace_append] at he'
  refine ⟨v, hv, e', ?_, ⟨j', o', a', hact, hspeak⟩, ?_⟩
  · rw [trace_append, trace_append]
    obtain he' | he' := mem_append.mp he'
    · exact mem_append_left _ he'
    · exact mem_append_right _ (mem_append_left _ he')
  · -- what comes after the mute lets the user neither chat nor whisper
    rintro rfl
    obtain he' | he' := mem_append.mp he'
    · exact he'
    have hmem : e' ∈ (cluster cfg).trace ((cluster cfg).run (fresh n stores) pre)
        (post₁ ++ e.input :: post₂) := by
      rw [trace_append]
      exact mem_append_left _ he'
    cases hspeak with
    | line now => exact absurd hact (hmoderate e' hmem k j' s now)
    | whisper target found =>
      obtain ⟨x, ⟨-, hwhisper⟩, -⟩ := hsection e' hmem k j' _ _ hact
      exact absurd rfl hwhisper

end Cluster

/-- Alice and bob are logged in, and an administrator mutes alice for a minute. -/
def aliceMuted : List Cluster.Input :=
  logIn 0 0 .one "alice" ++ logIn 0 1 .two "bob" ++
  [.inst 0 (.submit (.adminModeration .mute ["alice"] 0 60 "")), .inst 0 (.advance 2 .done)]

/-- Alice says something in the lobby a second later. -/
def aliceChats : List Cluster.Input :=
  serve 0 3 30 (.chat .one "lobby" "hello" (seconds 1) .pass)

/-- Whether service 0 has sent a message to a session in a run. -/
def sentIn (is : List Cluster.Input) (t : Session) (m : Message) : Bool :=
  (samples.run (.fresh 1 {}) is).insts.any fun x => (t, m) ∈ x.sent

theorem mute_silences_alice :
    sentIn (aliceMuted ++ aliceChats) .one (.error ⟨.forbidden, "muted by administrator"⟩) = true ∧
    ∀ e ∈ samples.trace (samples.run (.fresh 1 {}) aliceMuted) aliceChats,
      ∀ k j s now, e.output ≠ some ⟨0, k, j, .lock (.moderate s now), .passes "alice"⟩ :=
  ⟨by decide +kernel, (Cluster.mute_silences (fun _ => .sample) 1 {} aliceMuted aliceChats 0 "alice"
    (by decide +kernel) (by decide +kernel)).1⟩

/-- Alice is muted for a minute, but a whisper of theirs reaches bob. -/
theorem muted_whisper_arrives : (∀ x ∈ (samples.run (.fresh 1 {})
        (aliceMuted ++ serve 0 3 30 (.whisper .one "bob" "hello"))).insts[0]?,
      x.st.mutedUsers.lookup "alice" = some ⟨seconds 60, "muted by administrator"⟩) ∧
    sentIn (aliceMuted ++ serve 0 3 30 (.whisper .one "bob" "hello"))
      .two (.whisper ⟨"alice", "bob", "hello", false⟩) = true := by
  decide +kernel

end Knights.Chat
