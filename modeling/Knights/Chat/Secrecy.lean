import Knights.Chat.Cluster

namespace Knights.Chat

open Lib

/-!
# What a blocked sender can tell

Somebody who whispers to a user who is not online gets replies.  The replies should not tell
whether the user has blocked them, and the source says so in a comment.  They do tell, unless
the whisper is refused before the recipient is looked up: `block_unobservable_iff` compares two
runs of `dispatch_whisper` from worlds that differ in the recipient's blacklist only.
-/

namespace World

variable (cfg : Config) (fate : Fate) (s : Session) (target text : String) (w : World)

/-- The world after `dispatch_whisper`. -/
def whispered : World := ((Handler.dispatchWhisper cfg s target text).run (Op.exec cfg) fate w).1

/-- What `dispatch_whisper` sends back to the session that whispers. -/
def replies : List Message :=
  ((whispered cfg fate s target text w).sent.drop w.sent.length).filterMap fun tm =>
    if tm.1 = s then some tm.2 else none

/-- The same world, but `user` has blocked `other`. -/
def withBlock (user other : String) : World := { w with st := (w.st.blacklistAdd user other).1 }

/-- None of the sessions under a name is alive. -/
def Offline (user : String) : Prop := ∀ p ∈ membersOf w.st.byUser user, w.live p = false

/-- The whisper is refused before the recipient is looked up. -/
def RefusedAtOnce : Prop :=
  target = "" ∨ text = "" ∨ s.addr ∉ w.st.authed ∨ w.st.nameOf s = "guest" ∨
    s.addr ∈ w.st.guest ∨ target = w.st.nameOf s

instance (user : String) : Decidable (w.Offline user) :=
  inferInstanceAs (Decidable (∀ p ∈ membersOf w.st.byUser user, w.live p = false))

instance : Decidable (w.RefusedAtOnce s target text) := inferInstanceAs (Decidable (_ ∨ _))

/-! ### Replies -/

variable {cfg fate s target text w}

theorem replies_of_sent {ms : List Message}
    (h : (whispered cfg fate s target text w).sent = w.sent ++ ms.map fun m => (s, m)) :
    w.replies cfg fate s target text = ms := by
  unfold replies
  rw [h, List.drop_left]
  induction ms with
  | nil => rfl
  | cons m ms ih => simp

theorem sent_whisperFailed (notice reason : String) :
    ((Handler.whisperFailed s notice reason).run (Op.exec cfg) fate w).1.sent =
      w.sent ++ [(s, .broadcast ⟨"(system)", "(system)", notice, 0⟩ false),
        (s, .whisperResult false reason)] := by
  simp [Handler.whisperFailed, Handler.sendNotice, Handler.send, Op.exec]

/-- Who is offline has no sessions. -/
theorem sessionsOf_of_offline (h : w.Offline target) : w.st.sessionsOf w.live target = [] := by
  unfold State.sessionsOf RoomSet.prune
  rw [List.filter_eq_nil_iff]
  intro p hp
  rw [h p hp]
  exact Bool.false_ne_true

/-- A whisper to somebody offline finds nobody; a block makes it find somebody who may not be
    told of it. -/
theorem whisperTargets_of_offline (h : w.Offline target)
    (hsender : target ∉ w.st.blockedBy (w.st.nameOf s)) :
    (w.st.whisperTargets w.live s (w.st.nameOf s) target).2 =
      ⟨[], decide (w.st.nameOf s ∈ w.st.blockedBy target), false⟩ := by
  unfold State.whisperTargets
  rw [sessionsOf_of_offline h]
  simp [hsender]

/-- The replies to a whisper that fails. -/
def failure (notice reason : String) : List Message :=
  [.broadcast ⟨"(system)", "(system)", notice, 0⟩ false, .whisperResult false reason]

/-- The replies to a whisper that goes to the other services. -/
def routed (cfg : Config) (fate : Fate) (sender target text : String) : List Message :=
  if cfg.hasRedis = true ∧ cfg.pubsubEnabled = true ∧ fate = .done then
    [.whisper ⟨sender, target, text, true⟩, .whisperResult true ""]
  else failure ("user not found: " ++ target) "user not found"

theorem sent_routeWhisper (sender : String) :
    ((Handler.routeWhisper cfg s ⟨sender, target, text, false⟩).run (Op.exec cfg) fate w).1.sent =
      w.sent ++ (routed cfg fate sender target text).map fun m => (s, m) := by
  unfold Handler.routeWhisper Handler.publishWhisper routed failure
  by_cases hpub : cfg.hasRedis = true ∧ cfg.pubsubEnabled = true
  · obtain ⟨hredis, hpubsub⟩ := hpub
    cases fate <;>
      simp [hredis, hpubsub, Handler.redis, Handler.send, Op.exec, Redis.exec, Redis.answer,
        Redis.Cmd.failure, sent_whisperFailed]
  · have hrouted : ¬ (cfg.hasRedis = true ∧ cfg.pubsubEnabled = true ∧ fate = .done) :=
      fun h => hpub ⟨h.1, h.2.1⟩
    simp [hpub, hrouted, sent_whisperFailed]

/-- The replies to a whisper that is refused before the recipient is looked up. -/
def refusal (w : World) (s : Session) (target text : String) : List Message :=
  if target = "" ∨ text = "" then failure "usage: /whisper <user> <message>" "invalid payload"
  else if s.addr ∉ w.st.authed then [.error ⟨.unauthorized, "unauthorized"⟩]
  else if w.st.nameOf s = "guest" ∨ s.addr ∈ w.st.guest then
    failure "login required for whisper" "login required" ++
      [.error ⟨.unauthorized, "guest cannot whisper"⟩]
  else failure "cannot whisper to yourself" "cannot whisper to yourself"

theorem replies_of_refusedAtOnce (h : w.RefusedAtOnce s target text) :
    w.replies cfg fate s target text = w.refusal s target text := by
  apply replies_of_sent
  unfold whispered refusal Handler.dispatchWhisper
  by_cases hempty : target = "" ∨ text = ""
  · rw [if_pos hempty, if_pos hempty, sent_whisperFailed]
    rfl
  rw [if_neg hempty, if_neg hempty]
  by_cases hauthed : s.addr ∈ w.st.authed
  · by_cases hguest : w.st.nameOf s = "guest" ∨ s.addr ∈ w.st.guest
    · simp [Handler.lock, Handler.send, Op.exec, Critical.exec, hauthed, hguest,
        sent_whisperFailed, failure]
    · have hself : target = w.st.nameOf s := by
        unfold RefusedAtOnce at h
        tauto
      simp [Handler.lock, Op.exec, Critical.exec, hauthed, hguest, hself, sent_whisperFailed,
        failure]
  · simp [Handler.lock, Handler.send, Op.exec, Critical.exec, hauthed]

/-- The replies to a whisper to somebody who is offline. -/
theorem replies_of_offline (h : ¬ w.RefusedAtOnce s target text) (hoff : w.Offline target)
    (hsender : target ∉ w.st.blockedBy (w.st.nameOf s)) :
    w.replies cfg fate s target text =
      if w.st.nameOf s ∈ w.st.blockedBy target then
        failure ("user cannot receive whispers (login required): " ++ target)
          "recipient not eligible"
      else routed cfg fate (w.st.nameOf s) target text := by
  unfold RefusedAtOnce at h
  push Not at h
  obtain ⟨htarget, htext, hauthed, hname, hguest, hself⟩ := h
  apply replies_of_sent
  have hfound := whisperTargets_of_offline hoff hsender
  unfold whispered Handler.dispatchWhisper
  rw [if_neg (by tauto)]
  by_cases hblocked : w.st.nameOf s ∈ w.st.blockedBy target <;>
    simp [Handler.lock, Op.exec, Critical.exec, hauthed, hname, hguest, hself, hfound, hblocked,
      sent_whisperFailed, sent_routeWhisper, failure]

end World

/-! ### Two runs -/

open World in
/-- **Blocks are observable.** Take a recipient who is offline, and a sender who has not blocked
    them and is not blocked by them.  The sender gets the same replies if the recipient blocks
    them exactly when the whisper is refused before the recipient is looked up. -/
theorem block_unobservable_iff (cfg : Config) (fate : Fate) (s : Session) (target text : String)
    (w : World) (hoff : w.Offline target) (hsender : target ∉ w.st.blockedBy (w.st.nameOf s))
    (hfree : w.st.nameOf s ∉ w.st.blockedBy target) :
    (w.withBlock target (w.st.nameOf s)).replies cfg fate s target text =
      w.replies cfg fate s target text ↔ w.RefusedAtOnce s target text := by
  have hname : (w.withBlock target (w.st.nameOf s)).st.nameOf s = w.st.nameOf s := rfl
  constructor
  · intro h
    by_contra hrefused
    have hself : target ≠ w.st.nameOf s := fun hself => hrefused (by unfold RefusedAtOnce; tauto)
    -- the lists of others are as they were
    have hsender' : target ∉ (w.withBlock target (w.st.nameOf s)).st.blockedBy (w.st.nameOf s) := by
      unfold withBlock State.blacklistAdd State.blockedBy
      rw [AList.lookup_insert_ne (Ne.symm hself)]
      exact hsender
    have hblocked : w.st.nameOf s ∈ (w.withBlock target (w.st.nameOf s)).st.blockedBy target := by
      unfold withBlock State.blacklistAdd State.blockedBy
      rw [AList.lookup_insert]
      exact Finset.mem_insert_self _ _
    rw [replies_of_offline (w := w.withBlock target (w.st.nameOf s)) hrefused hoff hsender',
      replies_of_offline hrefused hoff hsender, hname, if_pos hblocked, if_neg hfree] at h
    unfold routed World.failure at h
    split_ifs at h <;> simp at h
  · intro hrefused
    have hrefused' : (w.withBlock target (w.st.nameOf s)).RefusedAtOnce s target text := hrefused
    rw [replies_of_refusedAtOnce hrefused, replies_of_refusedAtOnce hrefused']
    rfl

/-- Somebody who is logged in as alice, and nobody else. -/
def aliceAlone : World where
  st := ({} : State).loginCommit .one ⟨"alice", false, "", ""⟩
  live := fun s => s = .one
  sent := []
  redis := {}
  db := .blank

theorem block_unobservable_iff_aliceAlone :
    aliceAlone.Offline "bob" ∧
    ((aliceAlone.withBlock "bob" "alice").replies .sample .done .one "bob" "hi" =
      aliceAlone.replies .sample .done .one "bob" "hi" ↔
        aliceAlone.RefusedAtOnce .one "bob" "hi") := by
  have hoff : aliceAlone.Offline "bob" := by decide
  exact ⟨hoff, block_unobservable_iff .sample .done .one "bob" "hi" aliceAlone hoff (by decide)
    (by decide)⟩

/-- With and without pub/sub, alice learns whether bob, who is offline, has blocked them. -/
theorem block_observed :
    aliceAlone.Offline "bob" ∧
    aliceAlone.replies .sample .done .one "bob" "hi" =
      [.whisper ⟨"alice", "bob", "hi", true⟩, .whisperResult true ""] ∧
    aliceAlone.replies { Config.sample with pubsubEnabled := false } .done .one "bob" "hi" =
      World.failure "user not found: bob" "user not found" ∧
    ∀ pubsub : Bool, (aliceAlone.withBlock "bob" "alice").replies
        { Config.sample with pubsubEnabled := pubsub } .done .one "bob" "hi" =
      World.failure "user cannot receive whispers (login required): bob"
        "recipient not eligible" := by
  decide +kernel

end Knights.Chat
