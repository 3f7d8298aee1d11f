import Knights.Lib.Monitor
import Knights.Chat.Knowledge

namespace Knights.Chat

open Lib Handler List Instance Proc

/-!
# How a line is sent

A line of chat that passes the hooks is sent by the task of its sender, and by one task on every
other service that hears of it.  Each of these tasks collects its audience in one section, sends
the line to everyone in it, and, at the sender's service, publishes it.

* `LineBook` is the record of what a task has done about a line, and `lineMonitor` objects if it
  does anything out of order: another line, a session that is not the next one of the audience,
  a second publication;
* `safe_handler` — no task does;
* `Distinct` — rooms list no session twice, in every state that is reached (`distinct_exec`);
* `mem_roomTargets` — who is in an audience.
-/

/-! ### Lines -/

/-- The text is no command and no refresh. -/
def isPlain (cfg : Config) (text : String) : Bool :=
  text ≠ "/refresh" && (parseCommand cfg "" text).isNone

variable {cfg : Config}

/-- Whether a text is a command does not depend on the room. -/
theorem isNone_parseCommand {current current' text : String} :
    (parseCommand cfg current text).isNone = (parseCommand cfg current' text).isNone := by
  unfold parseCommand
  simp only [apply_ite Option.isNone, Option.isNone_some, Option.isNone_none]

namespace Handler

/-- The text that the hook lets through. -/
def ChatHook.text (text : String) : ChatHook → String
  | .replace text' => text'
  | _ => text

end Handler

namespace Job

/-- The line whose audience a task collects with an operation. -/
def line? (cfg : Config) : Job → Op → Option Broadcast
  | .chat s _ text _ hook, .lock (.roomTargets room (some sender)) =>
    if isPlain cfg text then some ⟨room, sender, hook.text text, s.id⟩ else none
  | .remoteLine room b, .lock (.roomTargets room' sender) =>
    if room' = room ∧ sender = (if b.sender = "" then none else some b.sender) then some b else none
  | _, _ => none

/-- Who gets a line that nobody else is to hear. -/
def echo : Job → List Session
  | .chat s _ _ _ _ => [s]
  | _ => []

/-- The task is one of the service where the line comes from. -/
def isChat : Job → Bool
  | .chat _ _ _ _ _ => true
  | _ => false

/-- The task passes on a line from another service. -/
def isRemoteLine : Job → Bool
  | .remoteLine _ _ => true
  | _ => false

end Job

/-- What a session is sent by an operation, if that is a line. -/
def Op.broadcast? : Op → Option (Session × Broadcast)
  | .send t (.broadcast m _) => some (t, m)
  | _ => none

/-- The operation publishes something. -/
def Op.isPublish : Op → Bool
  | .redis (.publish _ _) => true
  | _ => false

/-- What a task has done about a line: the line with those who are to get it, what it has sent,
    and how often it has published. -/
structure LineBook where
  plan : Option (Broadcast × List Session) := none
  sent : List (Session × Broadcast) := []
  published : ℕ := 0

/-- The channel that the lines of a room are published on. -/
def Config.roomChannel (cfg : Config) (room : String) : String :=
  cfg.channelPrefix ++ "fanout:room:" ++ room

namespace LineBook

variable (cfg : Config) (j : Job) (b : LineBook)

/-- The record after one more operation. -/
def note : (o : Op) → o.Ans → LineBook
  | .lock (.roomTargets room sender), ts =>
    match j.line? cfg (.lock (.roomTargets room sender)) with
    | some line => { b with plan := some (line, if ts = [] then j.echo else ts) }
    | none => b
  | .send t (.broadcast m _), _ => { b with sent := b.sent ++ [(t, m)] }
  | .redis (.publish _ _), _ => { b with published := b.published + 1 }
  | _, _ => b

/-- What may follow on an audience: the line to the next one of it, or the publication. -/
def Follows (line : Broadcast) (ts : List Session) : Op → Prop
  | .send t (.broadcast m _) => m = line ∧ ts[b.sent.length]? = some t
  | .redis (.publish channel message) => b.published = 0 ∧ j.isChat = true ∧
      channel = cfg.roomChannel line.room ∧ message = envelope cfg (cfg.encodeBroadcast line)
  | _ => True

/-- An audience is collected before anything else, and the rest follows on it; a line from
    another service is not sent before. -/
structure Allows (o : Op) : Prop where
  first : (j.line? cfg o).isSome = true → b = {}
  follows : ∀ line ts, b.plan = some (line, ts) → b.Follows cfg j line ts o
  silent : j.isRemoteLine = true → b.plan = none → o.broadcast? = none

/-- What is known of a record at any time. -/
def Orderly : Prop :=
  ∀ line ts, b.plan = some (line, ts) → b.sent.map Prod.fst <+: ts ∧
    (∀ x ∈ b.sent, x.2 = line) ∧ b.published ≤ 1

/-- What is known of the record of a task that is done. -/
def Complete : Prop :=
  (∀ line ts, b.plan = some (line, ts) → b.sent.length = ts.length ∧
    (j.isChat = true → cfg.hasRedis = true → cfg.pubsubEnabled = true → b.published = 1)) ∧
  (j.isRemoteLine = true → b.plan ≠ none)

end LineBook

/-- The monitor of tasks that send lines. -/
def lineMonitor (cfg : Config) (j : Job) : Monitor Op.Ans LineBook where
  ok := LineBook.Allows cfg j
  next := LineBook.note cfg j

variable {line : Broadcast} {o : Op} {s : Session} {sender : Option String} {p : Handler Unit}
  {j : Job} {x : Instance}

namespace LineBook

variable {cfg : Config} {j : Job} {b : LineBook} {room text : String} {now : ℕ} {hook : ChatHook}

/-- The operation leaves no trace in a record. -/
def Unnoted : Op → Prop
  | .lock (.roomTargets _ _) => False
  | .send _ (.broadcast _ _) => False
  | .redis (.publish _ _) => False
  | _ => True

theorem note_of_unnoted (h : Unnoted o) (a : o.Ans) : b.note cfg j o a = b := by
  unfold note
  split
  · exact h.elim
  · exact h.elim
  · exact h.elim
  · rfl

theorem line?_of_unnoted (h : Unnoted o) : j.line? cfg o = none := by
  unfold Job.line?
  split
  · exact h.elim
  · exact h.elim
  · rfl

theorem broadcast?_of_unnoted (h : Unnoted o) : o.broadcast? = none := by
  unfold Op.broadcast?
  split
  · exact h.elim
  · rfl

theorem isPublish_of_unnoted (h : Unnoted o) : o.isPublish = false := by
  unfold Op.isPublish
  split
  · exact h.elim
  · rfl

theorem allows_of_unnoted (h : Unnoted o) : b.Allows cfg j o := by
  refine ⟨fun hsome => ?_, fun line ts _ => ?_, fun _ _ => broadcast?_of_unnoted h⟩
  · rw [line?_of_unnoted h] at hsome
    cases hsome
  · unfold Follows
    split
    · exact h.elim
    · exact h.elim
    · trivial

/-- What a task does that is not noted does not matter. -/
theorem safe_of_avoids {α : Type} {p : Handler α} (h : p.Avoids fun o => ¬ Unnoted o) :
    p.Safe (lineMonitor cfg j) b fun b' _ => b' = b := by
  refine h.safe (I := fun b' => b' = b) (fun b' o hb' ho => ?_) rfl
  have hun : Unnoted o := not_not.mp ho
  exact ⟨allows_of_unnoted hun, fun a => (note_of_unnoted hun a).trans hb'⟩

/-- The operations that are noted. -/
theorem noted_cases (h : ¬ Unnoted o) : (∃ room sender, o = .lock (.roomTargets room sender)) ∨
      (∃ t m self, o = .send t (.broadcast m self)) ∨
      ∃ channel message, o = .redis (.publish channel message) := by
  unfold Unnoted at h
  split at h
  · exact .inl ⟨_, _, rfl⟩
  · exact .inr (.inl ⟨_, _, _, rfl⟩)
  · exact .inr (.inr ⟨_, _, rfl⟩)
  · exact absurd trivial h

theorem note_roomTargets_none (h : j.line? cfg (.lock (.roomTargets room sender)) = none)
    (ts : List Session) :
    b.note cfg j (.lock (.roomTargets room sender)) ts = b := by
  simp only [note, h]

theorem note_roomTargets_some (h : j.line? cfg (.lock (.roomTargets room sender)) = some line)
    (ts : List Session) :
    b.note cfg j (.lock (.roomTargets room sender)) ts =
      { b with plan := some (line, if ts = [] then j.echo else ts) } := by
  simp only [note, h]

theorem complete_of_plan_none (h : b.plan = none) (hremote : j.isRemoteLine = false) :
    b.Complete cfg j := by
  refine ⟨fun line ts hts => ?_, fun hr => ?_⟩
  · rw [h] at hts
    cases hts
  · rw [hremote] at hr
    cases hr

/-- Where no audience is collected there is nothing to keep in order. -/
theorem safe_of_no_line (h : p.Avoids fun o => (j.line? cfg o).isSome = true)
    (hremote : j.isRemoteLine = false) (hb : b.plan = none) :
    p.Safe (lineMonitor cfg j) b fun b' _ => b'.Complete cfg j := by
  have hkeep : ∀ (b : LineBook) (o : Op), b.plan = none → ¬ (j.line? cfg o).isSome = true →
      (lineMonitor cfg j).ok b o ∧ ∀ a, ((lineMonitor cfg j).next b o a).plan = none := by
    intro b o hb hno
    refine ⟨⟨fun hsome => absurd hsome hno, fun line ts hts => ?_, fun hr => ?_⟩, fun a => ?_⟩
    · rw [hb] at hts
      cases hts
    · rw [hremote] at hr
      cases hr
    · show (b.note cfg j o a).plan = none
      by_cases hun : Unnoted o
      · rw [note_of_unnoted hun]
        exact hb
      · obtain ⟨room, sender, rfl⟩ | ⟨t, m, self, rfl⟩ | ⟨channel, message, rfl⟩ := noted_cases hun
        · rw [note_roomTargets_none (Option.not_isSome_iff_eq_none.mp hno)]
          exact hb
        · exact hb
        · exact hb
  refine (h.safe (I := fun b => b.plan = none) hkeep hb).imp fun b' _ hb' => ?_
  exact complete_of_plan_none hb' hremote

theorem concat_prefix {α : Type} {l ts : List α} {t : α} (h : l <+: ts)
    (ht : ts[l.length]? = some t) : l ++ [t] <+: ts := by
  obtain ⟨hlt, rfl⟩ := List.getElem?_eq_some_iff.mp ht
  exact concat_get_prefix h hlt

/-- Whatever is allowed keeps a record orderly. -/
theorem orderly_note (h : b.Orderly) (hok : b.Allows cfg j o) (a : o.Ans) :
    (b.note cfg j o a).Orderly := by
  by_cases hun : Unnoted o
  · rw [note_of_unnoted hun]
    exact h
  · obtain ⟨room, sender, rfl⟩ | ⟨t, m, self, rfl⟩ | ⟨channel, message, rfl⟩ := noted_cases hun
    · cases hline : j.line? cfg (.lock (.roomTargets room sender)) with
      | none =>
        rw [note_roomTargets_none hline]
        exact h
      | some line =>
        -- nothing was sent before
        have hnew : b = {} := hok.first (by rw [hline]; rfl)
        rw [note_roomTargets_some hline, hnew]
        intro line' ts' _
        exact ⟨List.nil_prefix, fun x hx => absurd hx not_mem_nil, Nat.zero_le 1⟩
    · intro line ts hplan
      obtain ⟨rfl, ht⟩ := hok.follows line ts hplan
      obtain ⟨hpre, hall, hpub⟩ := h m ts hplan
      refine ⟨?_, ?_, hpub⟩
      · show (b.sent ++ [(t, m)]).map Prod.fst <+: ts
        rw [map_append]
        exact concat_prefix hpre (by rwa [length_map])
      · intro x hx
        rcases mem_append.mp hx with hx | hx
        · exact hall x hx
        · rw [mem_singleton.mp hx]
    · intro line ts hplan
      obtain ⟨hpre, hall, -⟩ := h line ts hplan
      obtain ⟨hzero, -⟩ := hok.follows line ts hplan
      refine ⟨hpre, hall, ?_⟩
      show b.published + 1 ≤ 1
      omega

/-! ### What tasks do -/

/-- Everyone who is left of an audience gets the line, one after another. -/
theorem safe_each_send (f : Session → Bool) {n : ℕ} (done rest : List Session)
    (hdone : b.sent.length = done.length) (hplan : b.plan = some (line, done ++ rest))
    (hpub : b.published = n) :
    (Proc.each (fun t => send t (.broadcast line (f t))) rest).Safe (lineMonitor cfg j) b
      fun b' _ => b'.plan = b.plan ∧ b'.sent.length = (done ++ rest).length ∧ b'.published = n := by
  induction rest generalizing b done with
  | nil => exact ⟨rfl, by rw [hdone, append_nil], hpub⟩
  | cons t rest ih =>
    refine ⟨⟨fun hsome => ?_, fun line' ts hts => ?_, fun _ hnone => ?_⟩, fun _ => ?_⟩
    · rw [show j.line? cfg (.send t _) = none by cases j <;> rfl] at hsome
      cases hsome
    · obtain ⟨rfl, rfl⟩ := Prod.mk.inj (Option.mem_unique hplan hts)
      refine ⟨rfl, ?_⟩
      rw [hdone, List.getElem?_append_right le_rfl, Nat.sub_self]
      rfl
    · rw [hplan] at hnone
      cases hnone
    · have hnext := ih (b := b.note cfg j (.send t (.broadcast line (f t))) ()) (done ++ [t])
        (by simp [note, hdone]) (by simp [note, hplan]) hpub
      rw [append_assoc, singleton_append] at hnext
      exact hnext

/-- A line from another service. -/
theorem safe_broadcastRoom :
    (broadcastRoom room line).Safe (lineMonitor cfg (.remoteLine room line)) {}
      fun b' _ => b'.Complete cfg (.remoteLine room line) := by
  refine ⟨⟨fun _ => rfl, fun _ _ hts => (nomatch hts), fun _ _ => rfl⟩, fun ts => ?_⟩
  set b : LineBook := { plan := some (line, ts) } with hb
  have hbook : (lineMonitor cfg (.remoteLine room line)).next {}
      (.lock (.roomTargets room (if line.sender = "" then none else some line.sender))) ts = b := by
    have hline : (Job.remoteLine room line).line? cfg (.lock (.roomTargets room
        (if line.sender = "" then none else some line.sender))) = some line :=
      if_pos ⟨rfl, rfl⟩
    show note cfg (.remoteLine room line) {} _ ts = b
    rw [note_roomTargets_some hline]
    split_ifs with hts
    · rw [hb, hts]
      rfl
    · rfl
  rw [hbook]
  refine (safe_each_send (b := b) (fun _ => false) [] ts rfl rfl rfl).imp
    fun b' _ hb' => ⟨fun line' ts' hplan => ?_, fun _ => ?_⟩
  · rw [hb'.1] at hplan
    obtain ⟨rfl, rfl⟩ := Prod.mk.inj (Option.some.inj hplan)
    exact ⟨hb'.2.1, nofun⟩
  · rw [hb'.1]
    exact Option.some_ne_none _

/-- Storing a line is not noted. -/
theorem avoids_persistLine : (persistLine cfg s room text).Avoids fun o => ¬ Unnoted o := by
  have hroom : (ensureRoomId cfg room).Avoids fun o => ¬ Unnoted o := by
    unfold ensureRoomId
    split_ifs
    · refine ⟨not_not.mpr trivial, fun id => ?_⟩
      cases id with
      | some id => trivial
      | none =>
        refine ⟨not_not.mpr trivial, fun found => ?_⟩
        obtain _ | _ | row := found
        · trivial
        · refine ⟨not_not.mpr trivial, fun made => ?_⟩
          cases made with
          | none => trivial
          | some id => exact ⟨not_not.mpr trivial, fun _ => trivial⟩
        · exact ⟨not_not.mpr trivial, fun _ => trivial⟩
    · trivial
  unfold persistLine
  split_ifs
  · refine avoids_bind hroom fun rid => ?_
    cases rid with
    | none => trivial
    | some rid =>
      refine ⟨not_not.mpr trivial, fun uid => ⟨not_not.mpr trivial, fun id => ?_⟩⟩
      cases id <;> trivial
  · trivial

theorem avoids_cacheRecentMessage {rid : RoomId} {m : SnapshotMessage} :
    (cacheRecentMessage cfg rid m).Avoids fun o => ¬ Unnoted o := by
  unfold cacheRecentMessage
  split_ifs
  · refine ⟨not_not.mpr trivial, fun stored => ?_⟩
    cases stored
    · trivial
    · exact ⟨not_not.mpr trivial, fun _ => trivial⟩
  · trivial

/-- The sender's line goes to its audience, or back to the sender. -/
theorem safe_sendLine {ts : List Session}
    (hplan : b.plan = some (line, if ts = [] then [s] else ts)) (hsent : b.sent = [])
    (hpub : b.published = 0) : (sendLine s line ts).Safe (lineMonitor cfg j) b
      fun b' _ => b'.plan = b.plan ∧
        b'.sent.length = (if ts = [] then [s] else ts).length ∧ b'.published = 0 := by
  cases ts with
  | nil =>
    exact safe_each_send (fun _ => true) [] [s] (by rw [hsent]; rfl) hplan hpub
  | cons t ts =>
    exact safe_each_send (fun t => t.addr = s.addr) [] (t :: ts) (by rw [hsent]; rfl) hplan hpub

/-- A line that has passed the hooks. -/
theorem safe_deliverLine {asked sender : String} (hplain : isPlain cfg text = true) :
    (deliverLine cfg s room sender (hook.text text)).Safe
      (lineMonitor cfg (.chat s asked text now hook)) {}
      fun b' _ => b'.Complete cfg (.chat s asked text now hook) := by
  set j : Job := .chat s asked text now hook with hj
  set line : Broadcast := ⟨room, sender, hook.text text, s.id⟩ with hl
  have hline : j.line? cfg (.lock (.roomTargets room (some sender))) = some line := if_pos hplain
  refine ⟨⟨fun _ => rfl, fun _ _ hts => (nomatch hts), fun _ _ => rfl⟩, fun ts => ?_⟩
  set plan := if ts = [] then [s] else ts with hplan
  have hbook : (lineMonitor cfg j).next {} (.lock (.roomTargets room (some sender))) ts =
      { plan := some (line, plan) } := note_roomTargets_some hline ts
  rw [hbook]
  -- what is stored and cached is not noted, then the line goes out
  show Proc.Safe _ _ (persistLine cfg s room (hook.text text) >>= _) _
  refine (safe_bind _ _).mpr ((safe_of_avoids avoids_persistLine).imp ?_)
  rintro b stored rfl
  refine (safe_bind _ _).mpr ((safe_of_avoids ?_).imp ?_)
  · cases stored with
    | none => trivial
    | some m => exact avoids_cacheRecentMessage
  rintro b - rfl
  refine (safe_bind _ _).mpr ((safe_sendLine rfl rfl rfl).imp ?_)
  rintro b - ⟨hb, hsent, hpub⟩
  have hpublish : (onlyIf (cfg.hasRedis && cfg.pubsubEnabled) (publishLine cfg line)).Safe
      (lineMonitor cfg j) b fun b' _ => b'.Complete cfg j := by
    unfold onlyIf
    split_ifs with hpubsub
    · refine ⟨⟨fun hsome => (nomatch hsome), fun line' ts' hts => ?_, fun _ _ => rfl⟩, fun _ =>
        ⟨fun line' ts' hts => ?_, nofun⟩⟩
      all_goals obtain ⟨rfl, rfl⟩ := Prod.mk.inj (Option.mem_unique hb hts)
      · exact ⟨hpub, rfl, rfl, rfl⟩
      · refine ⟨hsent, fun _ _ _ => ?_⟩
        show b.published + 1 = 1
        rw [hpub]
    · refine ⟨fun line' ts' hts => ?_, nofun⟩
      obtain ⟨rfl, rfl⟩ := Prod.mk.inj (Option.mem_unique hb hts)
      refine ⟨hsent, fun _ hredis hpubsub' => absurd ?_ hpubsub⟩
      rw [hredis, hpubsub']
      rfl
  refine (safe_bind _ _).mpr (hpublish.imp ?_)
  rintro b' - hcomplete
  -- nor is the last message that the sender has seen
  refine (safe_of_avoids ?_).imp fun _ _ heq => heq ▸ hcomplete
  cases stored with
  | none => trivial
  | some m =>
    refine ⟨not_not.mpr trivial, fun uid => ?_⟩
    cases uid with
    | none => trivial
    | some uid => exact ⟨not_not.mpr trivial, fun _ => trivial⟩

/-- A line of chat that is no command. -/
theorem safe_chatLine {asked : String} (hplain : isPlain cfg text = true) :
    (chatLine cfg s room text now hook).Safe (lineMonitor cfg (.chat s asked text now hook)) {}
      fun b' _ => b'.Complete cfg (.chat s asked text now hook) := by
  set j : Job := .chat s asked text now hook with hj
  have hsend : ∀ t m, (send t m).Avoids fun o => (j.line? cfg o).isSome = true :=
    fun t m => avoids_perform Bool.false_ne_true
  have hstop : ∀ t, (stop t).Avoids fun o => (j.line? cfg o).isSome = true :=
    fun t => avoids_perform Bool.false_ne_true
  refine (safe_bind _ _).mpr ⟨allows_of_unnoted trivial, fun verdict => ?_⟩
  cases verdict with
  | guest => exact safe_of_no_line (hsend s _) rfl rfl
  | banned reason =>
    refine safe_of_no_line ?_ rfl rfl
    exact avoids_bind (hsend s _) fun _ => avoids_bind (hsend s _) fun _ => hstop s
  | muted reason =>
    refine safe_of_no_line ?_ rfl rfl
    exact avoids_bind (hsend s _) fun _ => hsend s _
  | penalized reason toStop =>
    refine safe_of_no_line ?_ rfl rfl
    refine avoids_bind (hsend s _) fun _ => avoids_bind (hsend s _) fun _ => ?_
    exact avoids_each (fun t => avoids_bind (hsend t _) fun _ => hstop t) toStop
  | passes sender =>
    cases hook with
    | stop => exact complete_of_plan_none rfl rfl
    | pass | replace => exact safe_deliverLine hplain

theorem safe_onChatSend (hook : ChatHook) :
    (onChatSend cfg s room text now hook).Safe (lineMonitor cfg (.chat s room text now hook)) {}
      fun b' _ => b'.Complete cfg (.chat s room text now hook) := by
  cases hplain : isPlain cfg text with
  | false =>
    -- a refresh or a command is no line
    refine safe_of_no_line (avoids_of_forall (fun o => ?_) _) rfl rfl
    have hnone : (Job.chat s room text now hook).line? cfg o = none := by
      unfold Job.line?
      split
      case h_1 _ _ h =>
        cases h
        exact if_neg (by rw [hplain]; exact Bool.false_ne_true)
      case h_2 _ _ h => cases h
      case h_3 => rfl
    rw [hnone]
    exact Bool.false_ne_true
  | true =>
    obtain ⟨hrefresh, hcommand⟩ := Bool.and_eq_true_iff.mp hplain
    unfold onChatSend
    rw [if_neg (of_decide_eq_true hrefresh)]
    refine (safe_bind _ _).mpr ⟨allows_of_unnoted trivial, fun answer => ?_⟩
    cases answer with
    | error refusal =>
      exact safe_of_no_line (avoids_perform Bool.false_ne_true) rfl rfl
    | ok current =>
      rw [isNone_parseCommand, Option.isNone_iff_eq_none] at hcommand
      rw [safe_ret]
      dsimp only
      rw [hcommand]
      exact safe_chatLine hplain

/-- **Order.** Whatever a task does, its line goes to the audience that it has collected, one
    after another, and out once. -/
theorem safe_handler :
    (j.handler cfg).Safe (lineMonitor cfg j) {} fun b' _ => b'.Complete cfg j := by
  cases j
  case chat s room text now hook => exact safe_onChatSend hook
  case remoteLine room line => exact safe_broadcastRoom
  all_goals
    exact safe_of_no_line (avoids_of_forall (fun _ => Bool.false_ne_true) _) rfl rfl

end LineBook

/-- What an operation that collects an audience looks like. -/
theorem Job.line?_eq_some (h : j.line? cfg o = some line) :
    ∃ room sender, o = .lock (.roomTargets room sender) ∧ (∀ v ∈ sender, v = line.sender) ∧
      (j.isChat = true ∧ room = line.room ∨ j = .remoteLine room line) := by
  unfold Job.line? at h
  split at h
  · obtain ⟨-, hline⟩ := Option.ite_none_right_eq_some.mp h
    obtain rfl := Option.some.inj hline
    exact ⟨_, _, rfl, fun v hv => (Option.some.inj hv).symm, .inl ⟨rfl, rfl⟩⟩
  · obtain ⟨⟨rfl, rfl⟩, hline⟩ := Option.ite_none_right_eq_some.mp h
    obtain rfl := Option.some.inj hline
    refine ⟨_, _, rfl, fun v hv => ?_, .inr rfl⟩
    split_ifs at hv
    · cases hv
    · exact (Option.some.inj hv).symm
  · cases h

/-! ### Records of actions -/

/-- Who is to get the line whose audience an action has collected. -/
def Action.audience : Action → List Session
  | ⟨_, _, j, .lock (.roomTargets _ _), ts⟩ => if ts = [] then j.echo else ts
  | _ => []

namespace LineBook

variable {cfg : Config} {b : LineBook} {acts : List Action} {act : Action}

/-- The record of what a task has done. -/
def ofActions (cfg : Config) (acts : List Action) : LineBook :=
  acts.foldl (fun b act => b.note cfg act.job act.op act.ans) {}

@[simp] theorem ofActions_concat : ofActions cfg (acts ++ [act]) =
    (ofActions cfg acts).note cfg act.job act.op act.ans := by
  simp [ofActions]

/-- A record agrees with a list of actions. -/
structure Tallies (cfg : Config) (b : LineBook) (acts : List Action) : Prop where
  orderly : b.Orderly
  sent : b.sent = acts.filterMap fun act => act.op.broadcast?
  published : b.published = (acts.filter fun act => act.op.isPublish).length
  collected : ∀ act ∈ acts, ∀ line, act.job.line? cfg act.op = some line →
    b.plan = some (line, act.audience)
  planned : ∀ line ts, b.plan = some (line, ts) →
    ∃ act ∈ acts, act.job.line? cfg act.op = some line ∧ act.audience = ts
  channel : ∀ line ts, b.plan = some (line, ts) → ∀ act ∈ acts, ∀ channel message,
    act.op = .redis (.publish channel message) →
      channel = cfg.roomChannel line.room ∧ message = envelope cfg (cfg.encodeBroadcast line)
  silent : b.plan = none → (∀ act ∈ acts, act.job.isRemoteLine = true) → b.sent = []

theorem tallies_nil : Tallies cfg {} [] where
  orderly := nofun
  sent := rfl
  published := rfl
  collected := fun _ h => absurd h not_mem_nil
  planned := nofun
  channel := nofun
  silent := fun _ _ => rfl

/-- An action that collects no audience. -/
theorem Tallies.concat_of_no_line {b' : LineBook} (h : Tallies cfg b acts) (horderly : b'.Orderly)
    (hline : act.job.line? cfg act.op = none) (hplan : b'.plan = b.plan)
    (hsent : b'.sent = b.sent ++ act.op.broadcast?.toList)
    (hpub : b'.published = b.published + if act.op.isPublish then 1 else 0)
    (hchannel : ∀ line ts, b.plan = some (line, ts) → ∀ channel message,
      act.op = .redis (.publish channel message) →
        channel = cfg.roomChannel line.room ∧ message = envelope cfg (cfg.encodeBroadcast line))
    (hsilent : act.job.isRemoteLine = true → b.plan = none → act.op.broadcast? = none) :
    Tallies cfg b' (acts ++ [act]) where
  orderly := horderly
  sent := by
    rw [hsent, h.sent, filterMap_append]
    cases hb : act.op.broadcast? <;> simp [hb]
  published := by
    rw [hpub, h.published, filter_append, length_append]
    cases hp : act.op.isPublish <;> simp [hp]
  collected := by
    intro act' hact' line hl
    rw [hplan]
    rcases mem_append.mp hact' with hact' | hact'
    · exact h.collected act' hact' line hl
    · rw [mem_singleton.mp hact', hline] at hl
      cases hl
  planned := by
    intro line ts hts
    obtain ⟨act', hact', hl⟩ := h.planned line ts (hplan ▸ hts)
    exact ⟨act', mem_append_left _ hact', hl⟩
  channel := by
    intro line ts hts act' hact' channel message hop
    rcases mem_append.mp hact' with hact' | hact'
    · exact h.channel line ts (hplan ▸ hts) act' hact' channel message hop
    · rw [mem_singleton.mp hact'] at hop
      exact hchannel line ts (hplan ▸ hts) channel message hop
  silent := by
    intro hnone hremote
    rw [hplan] at hnone
    have hact := hremote act (mem_append_right _ (mem_singleton.mpr rfl))
    have hbefore := h.silent hnone fun act' hact' => hremote act' (mem_append_left _ hact')
    rw [hsent, hbefore, hsilent hact hnone]
    rfl

/-- The action that collects the audience comes first of all. -/
theorem Tallies.concat_of_line (h : Tallies cfg {} acts)
    (hline : act.job.line? cfg act.op = some line) :
    Tallies cfg { plan := some (line, act.audience) } (acts ++ [act]) := by
  obtain ⟨room, sender, hop, -⟩ := Job.line?_eq_some hline
  have hnopub : ∀ act' ∈ acts, act'.op.isPublish = false := by
    intro act' hact'
    have hnil := eq_nil_of_length_eq_zero h.published.symm
    simpa using filter_eq_nil_iff.mp hnil act' hact'
  refine ⟨?_, ?_, ?_, ?_, ?_, ?_, fun _ _ => rfl⟩
  · exact fun _ _ _ => ⟨List.nil_prefix, fun x hx => absurd hx not_mem_nil, Nat.zero_le 1⟩
  · rw [filterMap_append, ← h.sent, filterMap_cons, hop]
    rfl
  · rw [filter_append, length_append, ← h.published, filter_cons, hop]
    rfl
  · intro act' hact' line' hl
    rcases mem_append.mp hact' with hact' | hact'
    · exact absurd (h.collected act' hact' line' hl) (Option.some_ne_none _).symm
    · rw [mem_singleton.mp hact'] at hl ⊢
      rw [Option.mem_unique hline hl]
  · intro line' ts hts
    obtain ⟨rfl, rfl⟩ := Prod.mk.inj (Option.some.inj hts)
    exact ⟨act, mem_append_right _ (mem_singleton.mpr rfl), hline, rfl⟩
  · intro line' ts _ act' hact' channel message hpublish
    rcases mem_append.mp hact' with hact' | hact'
    · have := hnopub act' hact'
      rw [hpublish] at this
      cases this
    · rw [mem_singleton.mp hact', hop] at hpublish
      cases hpublish

/-- **One more action** that the monitor does not object to. -/
theorem Tallies.concat (h : Tallies cfg b acts) (hok : b.Allows cfg act.job act.op) :
    Tallies cfg (b.note cfg act.job act.op act.ans) (acts ++ [act]) := by
  obtain ⟨i, k, j, o, a⟩ := act
  have horderly : (b.note cfg j o a).Orderly := orderly_note h.orderly hok a
  by_cases hun : Unnoted o
  · have hnote : b.note cfg j o a = b := note_of_unnoted hun a
    have hbroadcast : o.broadcast? = none := broadcast?_of_unnoted hun
    have hpublish : o.isPublish = false := isPublish_of_unnoted hun
    rw [hnote] at horderly ⊢
    refine h.concat_of_no_line horderly (line?_of_unnoted hun) rfl ?_ ?_ ?_ hok.silent
    · rw [hbroadcast]
      exact (append_nil _).symm
    · rw [hpublish]
      rfl
    · intro line ts _ channel message hop
      change o = _ at hop
      rw [hop] at hpublish
      cases hpublish
  · obtain ⟨room, sender, rfl⟩ | ⟨t, m, self, rfl⟩ | ⟨channel, message, rfl⟩ := noted_cases hun
    · cases hline : j.line? cfg (.lock (.roomTargets room sender)) with
      | none =>
        rw [note_roomTargets_none hline] at horderly ⊢
        refine h.concat_of_no_line horderly hline rfl (append_nil _).symm rfl ?_ hok.silent
        exact nofun
      | some line =>
        have hnew : b = {} := hok.first (by rw [hline]; rfl)
        subst hnew
        rw [note_roomTargets_some hline]
        have hact : Job.line? cfg (Action.mk i k j _ a).job (Action.mk i k j _ a).op = some line :=
          hline
        exact h.concat_of_line hact
    · have hline : j.line? cfg (.send t (.broadcast m self)) = none := by cases j <;> rfl
      exact h.concat_of_no_line horderly hline rfl rfl rfl nofun hok.silent
    · have hline : j.line? cfg (.redis (.publish channel message)) = none := by cases j <;> rfl
      refine h.concat_of_no_line horderly hline rfl (append_nil _).symm rfl ?_ hok.silent
      intro line ts hts channel' message' hop
      obtain ⟨-, -, hchannel, hmessage⟩ := hok.follows line ts hts
      cases hop
      exact ⟨hchannel, hmessage⟩

end LineBook

namespace Instance

variable {cfg : Config} {x : Instance} {y : Stores} {i : ℕ} {inp : Input} {act : Action}

/-- Without an action at most a new task comes. -/
theorem tasks_of_no_action (h : x.action cfg i y inp = none) :
    (x.step cfg y inp).1.tasks = x.tasks ∨
      ∃ j : Job, (x.step cfg y inp).1.tasks = x.tasks ++ [(j, j.handler cfg)] := by
  have hmoves := x.moves_step cfg y inp
  generalize hx' : (x.step cfg y inp).1 = x' at hmoves
  generalize (x.step cfg y inp).2 = y' at hmoves
  cases hmoves with
  | idle | accept | destroy => exact .inl rfl
  | submit j _ => exact .inr ⟨j, rfl⟩
  | disconnect s fresh _ => exact .inr ⟨.close s fresh, rfl⟩
  | perform k fate j o p hp =>
    have hsome : x.action cfg i y (.advance k fate) ≠ none := by
      have hnext : x.tasks.next? k = some (j, o) := Pool.next?_eq_some.mpr ⟨p, hp⟩
      show (x.tasks.next? k).map _ ≠ none
      rw [hnext]
      exact Option.some_ne_none _
    exact absurd h hsome

/-- The tag of a task stays. -/
theorem tag_of_step {k : ℕ} (hp : x.tasks[k]? = some (j, p)) :
    ∃ p', (x.step cfg y inp).1.tasks[k]? = some (j, p') := by
  have hlt : k < x.tasks.length := (List.getElem?_eq_some_iff.mp hp).1
  cases hact : x.action cfg 0 y inp with
  | none =>
    obtain htasks | ⟨j', htasks⟩ := tasks_of_no_action hact
    · exact ⟨p, htasks ▸ hp⟩
    · refine ⟨p, ?_⟩
      rw [htasks, List.getElem?_append_left hlt]
      exact hp
  | some act =>
    obtain ⟨fate, q, hq, -, hstep, -⟩ := exec_of_action hact
    rw [hstep]
    show ∃ p', (x.tasks.set act.task (act.job, q act.ans))[k]? = some (j, p')
    by_cases hk : act.task = k
    · subst hk
      obtain ⟨rfl, -⟩ := Prod.mk.inj (Option.mem_unique hq hp)
      exact ⟨_, List.getElem?_set_self hlt⟩
    · exact ⟨p, by rw [List.getElem?_set_ne hk]; exact hp⟩

end Instance

namespace Cluster

open LineBook

variable {cfg : ℕ → Config} {acts : List Action} {c : Cluster} {inp : Input} {act : Action}

/-- What task `k` of service `i` has done. -/
def taskActs (acts : List Action) (i k : ℕ) : List Action :=
  acts.filter fun act => act.inst = i ∧ act.task = k

theorem mem_taskActs {i k : ℕ} :
    act ∈ taskActs acts i k ↔ act ∈ acts ∧ act.inst = i ∧ act.task = k := by
  simp [taskActs]

/-- The record of task `k` of service `i`. -/
def book (cfg : ℕ → Config) (acts : List Action) (i k : ℕ) : LineBook :=
  ofActions (cfg i) (taskActs acts i k)

/-- After the actions `acts` every record agrees with what the task has done, and the rest of
    every task is safe. -/
structure Watched (cfg : ℕ → Config) (acts : List Action) (c : Cluster) : Prop where
  tallies : ∀ i k, Tallies (cfg i) (book cfg acts i k) (taskActs acts i k)
  safe : c.All fun i x => Pool.AllSafe (lineMonitor (cfg i)) (book cfg acts i)
    (fun j b => b.Complete (cfg i) j) x.tasks
  tagged : ∀ act ∈ acts, ∃ x p, c.insts[act.inst]? = some x ∧ x.tasks[act.task]? = some (act.job, p)

theorem watched_fresh (cfg : ℕ → Config) (n : ℕ) (stores : Stores) :
    (fresh n stores).Watched cfg [] where
  tallies := fun _ _ => tallies_nil
  safe := all_fresh (fun _ _ _ h => nomatch h) n stores
  tagged := fun _ h => absurd h not_mem_nil

/-- A task that is yet to come has done nothing. -/
theorem Watched.book_of_length_le (h : c.Watched cfg acts) {i k : ℕ} (hx : c.insts[i]? = some x)
    (hk : x.tasks.length ≤ k) : book cfg acts i k = {} := by
  have hnil : taskActs acts i k = [] := by
    refine eq_nil_iff_forall_not_mem.mpr fun act hact => ?_
    obtain ⟨hmem, rfl, rfl⟩ := mem_taskActs.mp hact
    obtain ⟨x', p, hx', hp⟩ := h.tagged act hmem
    obtain rfl := Option.mem_unique hx hx'
    rw [List.getElem?_eq_none hk] at hp
    cases hp
  rw [book, hnil]
  rfl

/-- The tag of a task stays. -/
theorem tag_of_next {i k : ℕ} (hx : c.insts[i]? = some x) (hp : x.tasks[k]? = some (j, p)) :
    ∃ x' p', ((cluster cfg).next c inp).insts[i]? = some x' ∧ x'.tasks[k]? = some (j, p') := by
  have hlt : i < ((cluster cfg).next c inp).insts.length := by
    rw [length_next]
    exact (List.getElem?_eq_some_iff.mp hx).1
  obtain ⟨x', hx'⟩ : ∃ x', ((cluster cfg).next c inp).insts[i]? = some x' :=
    ⟨_, List.getElem?_eq_getElem hlt⟩
  obtain ⟨z, hz, hstep⟩ := inst_next hx'
  obtain rfl := Option.mem_unique hx hz
  obtain rfl | ⟨inp', -, rfl⟩ := hstep
  · exact ⟨x', p, hx', hp⟩
  · obtain ⟨p', hp'⟩ := tag_of_step hp
    exact ⟨_, p', hx', hp'⟩

theorem taskActs_concat (act : Action) (i k : ℕ) : taskActs (acts ++ [act]) i k =
    if act.inst = i ∧ act.task = k then taskActs acts i k ++ [act] else taskActs acts i k := by
  unfold taskActs
  split_ifs with h <;> simp [h]

/-- A step without an action keeps the watch. -/
theorem Watched.next_of_no_action (h : c.Watched cfg acts)
    (hact : ((cluster cfg).step c inp).2 = none) : ((cluster cfg).next c inp).Watched cfg acts where
  tallies := h.tallies
  safe := by
    intro i z hz
    obtain ⟨x, hx, rfl | ⟨inp, rfl, rfl⟩⟩ := inst_next hz
    · exact h.safe i z hx
    rw [step_inst hx] at hact
    obtain htasks | ⟨j, htasks⟩ := tasks_of_no_action hact
    · rw [htasks]
      exact h.safe i x hx
    · -- the new task starts with an empty record
      rw [htasks]
      refine (h.safe i x hx).concat ?_
      rw [h.book_of_length_le hx le_rfl]
      exact safe_handler
  tagged := by
    intro act hmem
    obtain ⟨x, p, hx, hp⟩ := h.tagged act hmem
    exact tag_of_next hx hp

/-- The monitor does not object to an action. -/
theorem Watched.allows (h : c.Watched cfg acts) (hact : ((cluster cfg).step c inp).2 = some act) :
    (book cfg acts act.inst act.task).Allows (cfg act.inst) act.job act.op := by
  obtain ⟨x, inp', rfl, hx, hx'⟩ := action_of_step hact
  obtain ⟨-, p, hp, -⟩ := exec_of_action hx'
  exact (h.safe act.inst x hx act.task _ hp).1

/-- A step with an action adds to the record of its task. -/
theorem Watched.next_of_action (h : c.Watched cfg acts)
    (hact : ((cluster cfg).step c inp).2 = some act) :
    ((cluster cfg).next c inp).Watched cfg (acts ++ [act]) := by
  have hself : book cfg (acts ++ [act]) act.inst act.task =
      (book cfg acts act.inst act.task).note (cfg act.inst) act.job act.op act.ans := by
    rw [book, taskActs_concat, if_pos ⟨rfl, rfl⟩, ofActions_concat]
    rfl
  have hother : ∀ i k, ¬ (act.inst = i ∧ act.task = k) →
      book cfg (acts ++ [act]) i k = book cfg acts i k := by
    intro i k hne
    rw [book, taskActs_concat, if_neg hne]
    rfl
  have hallows := h.allows hact
  obtain ⟨x, inp', rfl, hx, hx'⟩ := action_of_step hact
  obtain ⟨fate, p, hp, -, hstep, -⟩ := exec_of_action hx'
  refine ⟨fun i k => ?_, ?_, fun act' hmem => ?_⟩
  · by_cases hik : act.inst = i ∧ act.task = k
    · obtain ⟨rfl, rfl⟩ := hik
      rw [hself, taskActs_concat, if_pos ⟨rfl, rfl⟩]
      exact (h.tallies act.inst act.task).concat hallows
    · rw [hother i k hik, taskActs_concat, if_neg hik]
      exact h.tallies i k
  · intro i z hz
    by_cases hi : act.inst = i
    · subst hi
      rw [next_inst_self hx] at hz
      obtain rfl := Option.some.inj hz
      rw [hstep]
      refine (h.safe act.inst x hx).set hp act.ans hself fun k hk => ?_
      exact hother act.inst k fun hik => hk hik.2.symm
    · rw [next_inst hx, List.getElem?_set_ne hi] at hz
      exact (h.safe i z hz).congr fun k => hother i k fun hik => hi hik.1
  · rcases mem_append.mp hmem with hmem | hmem
    · obtain ⟨z, q, hz, hq⟩ := h.tagged act' hmem
      exact tag_of_next hz hq
    · rw [mem_singleton.mp hmem]
      exact tag_of_next hx hp

end Cluster

/-! ### Rooms list nobody twice -/

theorem RoomSet.nodup_add {set : RoomSet} (h : set.Nodup) (s : Session) : (set.add s).Nodup := by
  unfold RoomSet.add
  split_ifs with hs
  · exact h
  · have hperm := perm_orderedInsert RoomSet.before s set
    exact hperm.nodup_iff.mpr (nodup_cons.mpr ⟨hs, h⟩)

namespace State

variable {live : Session → Bool} {st st' : State} {s : Session} {room name : String}

/-- No room lists a session twice. -/
def Distinct (st : State) : Prop := ∀ room, (membersOf st.rooms room).Nodup

section

variable (h : st.Distinct)
include h

theorem Distinct.of_sublist
    (hsub : ∀ room, (membersOf st'.rooms room).Sublist (membersOf st.rooms room)) :
    st'.Distinct := fun room => (h room).sublist (hsub room)

theorem Distinct.of_eq (heq : st'.rooms = st.rooms) : st'.Distinct := by
  intro room
  rw [heq]
  exact h room

/-- One room gets another set. -/
theorem distinct_insert {set : RoomSet} (hset : set.Nodup)
    (heq : st'.rooms = st.rooms.insert room set) : st'.Distinct := by
  intro r
  rw [heq, membersOf_insert]
  split_ifs
  · exact hset
  · exact h r

theorem distinct_enter : (st.enter s room).Distinct :=
  distinct_insert h (RoomSet.nodup_add (h room) s) rfl

theorem distinct_eraseRoom : (st.eraseRoom room).Distinct := by
  refine h.of_sublist fun r => ?_
  show (membersOf (st.rooms.erase room) r).Sublist _
  rw [membersOf_erase]
  split_ifs
  · exact nil_sublist _
  · exact .refl _

theorem distinct_vacate : (st.vacate live s room name).Distinct := by
  unfold vacate
  cases hset : st.rooms.lookup room with
  | none => exact h
  | some set =>
    have hnodup : ((set.remove s).prune live).Nodup := by
      have := h room
      rw [membersOf_of_lookup hset] at this
      exact (this.filter _).filter _
    dsimp only
    split_ifs
    · exact distinct_eraseRoom h
    · exact distinct_insert h hnodup same_passOwnership.2.1
    · exact distinct_insert h hnodup rfl

theorem distinct_enterLobby (ps : List Session) : (st.enterLobby ps).Distinct := by
  induction ps generalizing st with
  | nil => exact h
  | cons p ps ih => exact ih (distinct_enter h)

theorem distinct_pruneRoom : (st.pruneRoom live room).Distinct :=
  h.of_sublist tidied_pruneRoom.rooms.sublist

theorem distinct_completeJoin (req : JoinRequest) (hash : Option String) :
    (st.completeJoin live s req hash).1.Distinct := by
  have hstored : (st.storePassword req.room hash).Distinct := h.of_eq same_storePassword.2.1
  have hleft : ((st.storePassword req.room hash).leavePrevious live s req.room
      (st.nameOf s)).Distinct := by
    unfold leavePrevious
    split
    · exact hstored
    · split_ifs
      · exact hstored
      · exact distinct_vacate hstored
  have hclaimed : ((((st.storePassword req.room hash).leavePrevious live s req.room
      (st.nameOf s)).enter s req.room).claimRoom req.room (st.nameOf s)).Distinct :=
    (distinct_enter hleft).of_eq same_claimRoom.2.1
  refine distinct_pruneRoom ?_
  split_ifs
  · exact hclaimed.of_eq same_consumeInvite.2.1
  · exact hclaimed

theorem distinct_moveKicked (set : RoomSet) (target : String) :
    (st.moveKicked live set target room).Distinct := by
  refine distinct_enterLobby ?_ _
  intro r
  unfold withoutMembers
  cases hset : st.rooms.lookup room with
  | none => exact h r
  | some members =>
    rw [membersOf_insert]
    split_ifs
    · have := h room
      rw [membersOf_of_lookup hset] at this
      exact this.filter _
    · exact h r

theorem distinct_afterKick (target : String) : (st.afterKick live target room).Distinct := by
  unfold afterKick
  cases st.rooms.lookup room with
  | none => exact h
  | some set =>
    dsimp only
    split_ifs
    · exact distinct_eraseRoom h
    · exact h.of_eq same_passOwnership.2.1
    · exact h

theorem distinct_closeSession : (st.closeSession live s).1.Distinct := by
  cases hcur : st.curRoom.lookup s.addr with
  | none =>
    rw [closeSession_of_lookup_none hcur]
    exact h
  | some room =>
    rw [closeSession_of_lookup hcur]
    have hforgot : (st.forgetSession s).Distinct := h
    exact (distinct_vacate hforgot).of_eq rfl

/-- **Sections keep it so.** -/
theorem distinct_exec {c : Critical} : (c.exec cfg live st).1.Distinct := by
  have hout := outcome_exec cfg live st c
  generalize (c.exec cfg live st).1 = st' at hout
  cases hout with
  | tidied _ ht => exact h.of_sublist ht.rooms.sublist
  | sessionUuid | register | setUserUuid | forgotten | idCached | invited => exact h
  | loginCommit s l => exact (distinct_enter h).of_eq rfl
  | notJoined s req => exact h.of_eq same_cachePassword.2.1
  | joined s req hash _ _ _ =>
    exact distinct_completeJoin (h.of_eq same_cachePassword.2.1) req hash
  | left s room denied cur _ _ => exact distinct_enter (distinct_vacate h)
  | closed s => exact distinct_closeSession h
  | kicked s target room set _ _ =>
    exact distinct_afterKick (distinct_moveKicked h set target) target
  | removed s room _ => exact distinct_eraseRoom (distinct_enterLobby h _)

end

/-- Who is to hear a line: the members of the room that are alive and have a nickname whose
    blacklist lacks the sender. -/
def Hears (live : Session → Bool) (st : State) (line : Broadcast) (t : Session) : Prop :=
  live t = true ∧ t ∈ membersOf st.rooms line.room ∧
    ∃ name ∈ st.user.lookup t.addr, line.sender ∉ st.blockedBy name

instance (live : Session → Bool) (st : State) (line : Broadcast) (t : Session) :
    Decidable (st.Hears live line t) := inferInstanceAs (Decidable (_ ∧ _ ∧ _))

theorem blockedBy_pruneRoom : (st.pruneRoom live room).blockedBy name = st.blockedBy name := by
  unfold pruneRoom
  cases st.rooms.lookup room <;> rfl

/-- **The audience.** Everyone who is to hear a line is collected. -/
theorem mem_roomTargets {t : Session} (h : st.Hears live line t)
    (hsender : ∀ v ∈ sender, v = line.sender) :
    t ∈ (st.roomTargets live line.room sender).2 := by
  obtain ⟨hlive, hmem, receiver, hname, hblock⟩ := h
  have hmember : t ∈ membersOf (st.pruneRoom live line.room).rooms line.room :=
    mem_pruneRoom.mpr ⟨hmem, fun _ => hlive⟩
  cases sender with
  | none => exact hmember
  | some v =>
    obtain rfl := hsender v rfl
    refine mem_filter.mpr ⟨hmember, ?_⟩
    have huser : (st.pruneRoom live line.room).user.lookup t.addr = some receiver := by
      rw [tidied_pruneRoom.user]
      exact hname
    rw [huser]
    simpa [blockedBy_pruneRoom] using hblock

theorem nodup_roomTargets (h : st.Distinct) (live : Session → Bool) (room : String)
    (sender : Option String) : (st.roomTargets live room sender).2.Nodup := by
  have hmembers : (membersOf (st.pruneRoom live room).rooms room).Nodup := distinct_pruneRoom h room
  cases sender with
  | none => exact hmembers
  | some sender => exact hmembers.filter _

end State

end Knights.Chat
