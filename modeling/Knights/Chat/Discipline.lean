import Knights.Chat.Handlers

namespace Knights.Chat

open Lib List

/-!
# What handlers know when they act

Between two operations of a handler anything may happen, so a handler can rely only on what
its own operations have told it.  `Fact` lists what there is to learn, `Needs` what an operation
of a job takes for granted, and `obeys_handler` says that every handler has learned what its
operations need.  It is the one place where the handlers are gone through operation by
operation for all interleavings; what follows for whole runs uses only the discipline.
-/

/-- What the answers to operations tell. -/
inductive Fact
  /-- `uid` is the row of a user with this name, case aside. -/
  | userRow (name : String) (uid : UserId)
  /-- `rid` is the row of a room with this name, case aside. -/
  | roomRow (room : String) (rid : RoomId)
  /-- Message `id` is one of room `rid`. -/
  | listed (rid : RoomId) (id : ℕ)
  /-- Message `id` has this text. -/
  | text (id : ℕ) (content : String)
  /-- One of the messages `ids` is cached as `m`. -/
  | cached (ids : List ℕ) (m : SnapshotMessage)
  /-- What Redis had as the password of a room. -/
  | password (room : String) (value : Option String)
  /-- A join with this password is to store this hash. -/
  | hash (password hash : String)
  /-- A session was found fit to see who is in a room. -/
  | mayList (s : Session) (room : String)
  /-- Where a session was found to be. -/
  | located (s : Session) (room : Option String)
  /-- A login was found free of bans. -/
  | cleared (user ip hwidHash : String) (now : ℕ)
  /-- A line of a session was let pass, as a line of `sender`. -/
  | passed (s : Session) (sender : String) (now : ℕ)
  /-- Who is to hear from a sender in a room. -/
  | audience (room : String) (sender : Option String) (ts : List Session)
  /-- The name under which a session whispers. -/
  | named (s : Session) (name : String)
  /-- Who is to get a whisper of a session, or one from another service. -/
  | hearers (s : Option Session) (sender recipient : String) (ts : List Session)

/-- What a handler learns from the answer to an operation. -/
def learned : (o : Op) → o.Ans → Set Fact
  | .lock (.roomId room), some id => {.roomRow room id}
  | .lock (.join _ req), .ok joined => {f | ∃ h ∈ joined.newHash, f = .hash req.password h}
  | .lock (.roomUsersCheck s room), (true, _) => {.mayList s room}
  | .lock (.currentRoom s), room => {.located s room}
  | .lock (.banCheck user ip hwidHash now), deny =>
    {f | deny = "" ∧ f = .cleared user ip hwidHash now}
  | .lock (.moderate s now), .passes sender => {.passed s sender now}
  | .lock (.roomTargets room sender), ts => {.audience room sender ts}
  | .lock (.whisperSender s), (name, _) => {.named s name}
  | .lock (.whisperTargets s sender target), found =>
    {.hearers (some s) sender target found.targets}
  | .lock (.remoteWhisperTargets n), ts => {.hearers none n.sender n.recipient ts}
  | .redis (.getPassword room), value => {.password room value}
  | .redis (.lrangeRecent rid _), some ids => {f | ∃ id ∈ ids, f = .listed rid id}
  | .redis (.mgetMessages ids), some ms => {f | ∃ m, some m ∈ ms ∧ f = .cached ids m}
  | .redis (.getMessage id), some m => {.cached [id] m}
  | .db (.findUser name), some (some row) => {.userRow name row.id}
  | .db (.createGuest name), some (uid, _) => {.userRow name uid}
  | .db (.findRoom room), some (some row) => {.roomRow room row.id}
  | .db (.createRoom room), some id => {.roomRow room id}
  | .db (.createMessage rid _ _ content), some (id, _) => {.listed rid id, .text id content}
  | .db (.fetchRecent rid _ _), some rows =>
    {f | ∃ m ∈ rows, f = .listed rid m.row.id ∨ f = .text m.row.id m.row.content}
  | _, _ => ∅

/-- A message of a snapshot of room `rid` is known to be one. -/
def KnownMessage (K : Set Fact) (rid : RoomId) (m : SnapshotMessage) : Prop :=
  .listed rid m.id ∈ K ∧ .text m.id m.text ∈ K ∨
    ∃ ids, .cached ids m ∈ K ∧ ∀ id ∈ ids, .listed rid id ∈ K

/-- The job shows its session the room that the session is in. -/
def Job.isRefresh : Job → Bool
  | .refresh _ => true
  | .chat _ _ text _ _ => text = "/refresh"
  | _ => false

/-- How the service marks its own lines. -/
def Broadcast.IsSystem (b : Broadcast) : Prop := b.sender = "(system)" ∧ b.senderSid = 0

/-- A line that a job may send or publish as one of `sender`: it has passed moderation. -/
def Passed (j : Job) (K : Set Fact) (sender : String) : Prop :=
  ∃ s now, j.session = some s ∧ .passed s sender now ∈ K

/-- A line that a job may send to a session: the service's own, or one that has passed
    moderation, to those who are to hear it or back to the session it came from, or one from
    another service. -/
def MaySend (j : Job) (K : Set Fact) (t : Session) (b : Broadcast) : Prop :=
  b.IsSystem ∨ (Passed j K b.sender ∧ ∃ ts, .audience b.room (some b.sender) ts ∈ K ∧
      (t ∈ ts ∨ j.session = some t)) ∨
    ∃ room ts, j = .remoteLine room b ∧
      .audience room (if b.sender = "" then none else some b.sender) ts ∈ K ∧ t ∈ ts

/-- What a job may publish: refreshes, whispers that nobody here is to get, and lines that have
    passed moderation. -/
def MayPublish (cfg : Config) (j : Job) (K : Set Fact) (channel message : String) : Prop :=
  (∃ room, channel = cfg.channelPrefix ++ "fanout:refresh:" ++ room) ∨
    (∃ n : WhisperNotice, channel = cfg.channelPrefix ++ "fanout:whisper" ∧
      message = Handler.envelope cfg (cfg.encodeWhisper n) ∧
      .hearers j.session n.sender n.recipient [] ∈ K) ∨
    ∃ line : Broadcast, channel = cfg.channelPrefix ++ "fanout:room:" ++ line.room ∧
      message = Handler.envelope cfg (cfg.encodeBroadcast line) ∧ Passed j K line.sender

/-- A message that a job may store: the note of a login, or a line that has passed
    moderation. -/
def MayStore (j : Job) (K : Set Fact) : Prop :=
  (∃ s req, j = .login s req) ∨ ∃ sender, Passed j K sender

/-- What a job has to know before it performs an operation, and which operations it may
    perform at all. -/
def Needs (cfg : Config) (j : Job) (K : Set Fact) : Op → Prop
  | .lock (.sessionUuid s _) => j.session = some s
  | .lock (.register s) => j.session = some s
  | .lock (.loginCommit s l) => (∃ req, j = .login s req) ∧ l.name ≠ "" ∧
      ∃ now, .cleared l.name l.ip l.hwidHash now ∈ K
  | .lock (.setUserUuid s name uid) => j.session = some s ∧ .userRow name uid ∈ K
  | .lock (.join s req) => ∃ room fresh denied,
      j = .join s room req.password fresh denied ∧ req.room = Handler.roomToJoin room ∧
        (if cfg.hasRedis then .password req.room req.redisPassword ∈ K
          else req.redisPassword = none)
  | .lock (.leave s _ _) => j.session = some s
  | .lock (.close s) => ∃ fresh, j = .close s fresh
  | .lock (.cacheRoomId room rid) => .roomRow room rid ∈ K
  | .lock (.kick s _ room) => j.session = some s ∧ room ≠ "lobby"
  | .lock (.removeRoom s room) => j.session = some s ∧ room ≠ "lobby"
  | .lock (.roomUsersCheck s _) => j.session = some s
  | .lock (.currentRoom s) => j.session = some s
  | .lock (.blacklistAdd actor target) => target ≠ "" ∧ target ≠ actor
  | .redis (.setexPassword room h) => ∃ s room' pw fresh denied,
      j = .join s room' pw fresh denied ∧ room = Handler.roomToJoin room' ∧ .hash pw h ∈ K
  | .redis (.setexMessage id m) => m.id = id ∧ .text id m.text ∈ K
  | .redis (.lpushTrimRecent rid id _) => .listed rid id ∈ K
  | .redis (.publish channel message) => MayPublish cfg j K channel message
  | .db (.createMessage rid room _ _) => .roomRow room rid ∈ K ∧ MayStore j K
  | .send t (.broadcast b _) => MaySend j K t b
  | .send t (.whisper n) => (n.outgoing = true ∧ j.session = some t ∧ .named t n.sender ∈ K) ∨
      ∃ ts, .hearers j.session n.sender n.recipient ts ∈ K ∧ t ∈ ts
  | .send t (.roomUsers room _) => .mayList t room ∈ K
  | .send t (.snapshot snap) =>
      (snap.messages ≠ [] → ∃ rid, .roomRow snap.currentRoom rid ∈ K ∧
        ∀ m ∈ snap.messages, KnownMessage K rid m) ∧
      (j.isRefresh → ∃ room, .located t room ∈ K ∧ snap.currentRoom = room.getD "lobby")
  | _ => True

variable {K L : Set Fact} {m : SnapshotMessage} {j : Job} {joined : State.Joined} {sender : String}
  {cfg : Config} {t : Session} {o : Op} {ts : List Session} {command : Command}

section

variable (hKL : K ⊆ L)
include hKL

theorem KnownMessage.mono {rid : RoomId} (h : KnownMessage K rid m) : KnownMessage L rid m := by
  obtain ⟨hl, ht⟩ | ⟨ids, hc, hl⟩ := h
  · exact .inl ⟨hKL hl, hKL ht⟩
  · exact .inr ⟨ids, hKL hc, fun id hid => hKL (hl id hid)⟩

theorem Passed.mono (h : Passed j K sender) : Passed j L sender := by
  obtain ⟨s, now, hs, hpassed⟩ := h
  exact ⟨s, now, hs, hKL hpassed⟩

theorem MaySend.mono {b : Broadcast} (h : MaySend j K t b) : MaySend j L t b := by
  obtain hsystem | ⟨hpassed, ts, hts, ht⟩ | ⟨room, ts, hj, hts, ht⟩ := h
  · exact .inl hsystem
  · exact .inr (.inl ⟨hpassed.mono hKL, ts, hKL hts, ht⟩)
  · exact .inr (.inr ⟨room, ts, hj, hKL hts, ht⟩)

theorem MayPublish.mono {channel message : String}
    (h : MayPublish cfg j K channel message) : MayPublish cfg j L channel message := by
  obtain hrefresh | ⟨n, hchannel, hmessage, hts⟩ | ⟨line, hchannel, hmessage, hpassed⟩ := h
  · exact .inl hrefresh
  · exact .inr (.inl ⟨n, hchannel, hmessage, hKL hts⟩)
  · exact .inr (.inr ⟨line, hchannel, hmessage, hpassed.mono hKL⟩)

theorem MayStore.mono (h : MayStore j K) : MayStore j L := by
  obtain hlogin | ⟨sender, hpassed⟩ := h
  · exact .inl hlogin
  · exact .inr ⟨sender, hpassed.mono hKL⟩

/-- Needs stay met when more is known. -/
theorem needs_mono (h : Needs cfg j K o) : Needs cfg j L o := by
  revert h
  unfold Needs
  split
  -- what the other operations need does not depend on the facts
  case h_3 => exact fun ⟨hj, hname, now, hcleared⟩ => ⟨hj, hname, now, hKL hcleared⟩
  case h_4 => exact fun ⟨hj, hrow⟩ => ⟨hj, hKL hrow⟩
  case h_5 =>
    rintro ⟨room, fresh, denied, hj, hroom, hpw⟩
    refine ⟨room, fresh, denied, hj, hroom, ?_⟩
    split_ifs at hpw ⊢
    · exact hKL hpw
    · exact hpw
  case h_8 => exact fun h => hKL h
  case h_14 =>
    rintro ⟨s, room', pw, fresh, denied, hj, hroom, hhash⟩
    exact ⟨s, room', pw, fresh, denied, hj, hroom, hKL hhash⟩
  case h_15 => exact fun ⟨hid, htext⟩ => ⟨hid, hKL htext⟩
  case h_16 => exact fun h => hKL h
  case h_17 => exact fun h => h.mono hKL
  case h_18 => exact fun ⟨hrow, hstore⟩ => ⟨hKL hrow, hstore.mono hKL⟩
  case h_19 => exact fun h => h.mono hKL
  case h_20 =>
    rintro (⟨hout, hj, hname⟩ | ⟨ts, hts, ht⟩)
    · exact .inl ⟨hout, hj, hKL hname⟩
    · exact .inr ⟨ts, hKL hts, ht⟩
  case h_21 => exact fun h => hKL h
  case h_22 =>
    rintro ⟨hms, hloc⟩
    refine ⟨fun hne => ?_, fun hj => ?_⟩
    · obtain ⟨rid, hrow, hms⟩ := hms hne
      exact ⟨rid, hKL hrow, fun m hm => (hms m hm).mono hKL⟩
    · obtain ⟨room, hloc, hroom⟩ := hloc hj
      exact ⟨room, hKL hloc, hroom⟩
  all_goals exact id

end

/-- The discipline of the handlers. -/
def discipline (cfg : Config) : Discipline Op.Ans Fact Job where
  learned := learned
  needed := Needs cfg
  needed_mono := needs_mono

namespace Handler

open Proc

variable {cfg : Config} {j : Job} {K : Set Fact} {α β : Type}
  {cached : Option (List SnapshotMessage)} {denied : Option String} {rid : RoomId} {s : Session}
  {fresh name room text currentRoom usage password reason : String} {Q : Set Fact → β → Prop}
  {f : α → Handler β} {req : LoginRequest}

/-- One operation and what comes after it. -/
theorem obeys_step {f : o.Ans → Handler β} (hneed : Needs cfg j K o)
    (h : ∀ a, Obeys (discipline cfg) j (K ∪ learned o a) (f a) Q) :
    Obeys (discipline cfg) j K (perform o >>= f) Q := (obeys_bind _ _).mpr ⟨hneed, h⟩

/-- A part of a handler and what comes after it. -/
theorem obeys_part {p : Handler α} {P : Set Fact → α → Prop} (hp : Obeys (discipline cfg) j K p P)
    (h : ∀ L a, K ⊆ L → P L a → Obeys (discipline cfg) j L (f a) Q) :
    Obeys (discipline cfg) j K (p >>= f) Q := (obeys_bind _ _).mpr (hp.imp h)

/-- A last operation. -/
theorem obeys_last {Q : Set Fact → o.Ans → Prop} (hneed : Needs cfg j K o)
    (h : ∀ a, Q (K ∪ learned o a) a) : Obeys (discipline cfg) j K (perform o) Q := ⟨hneed, h⟩

/-- The handler obeys, whatever it learns and gives. -/
abbrev Obedient (cfg : Config) (j : Job) (K : Set Fact) (p : Handler α) : Prop :=
  Obeys (discipline cfg) j K p fun _ _ => True

/-- A part of which only the facts are kept, and what comes after it. -/
theorem obeys_then {p : Handler α} (hp : Obedient cfg j K p)
    (h : ∀ {L} a, K ⊆ L → Obeys (discipline cfg) j L (f a) Q) :
    Obeys (discipline cfg) j K (p >>= f) Q := obeys_part hp fun _ a hL _ => h a hL

/-- An operation of which nothing is made. -/
theorem obeys_op (hneed : Needs cfg j K o) : Obedient cfg j K (perform o) :=
  obeys_last hneed fun _ => trivial

/-! ### Shared parts -/

theorem obeys_onlyIf {c : Bool} {p : Handler Unit} (hp : Obedient cfg j K p) :
    Obedient cfg j K (onlyIf c p) := by
  unfold onlyIf
  split_ifs
  · exact hp
  · trivial

theorem obeys_forSome {o : Option α} {p : α → Handler Unit}
    (hp : ∀ a, o = some a → Obedient cfg j K (p a)) : Obedient cfg j K (forSome o p) := by
  cases o with
  | none => trivial
  | some a => exact hp a rfl

theorem obeys_askIf {c : Bool} {p : Handler (Option α)} {Q : Set Fact → Option α → Prop}
    (hp : Obeys (discipline cfg) j K p Q) (hnone : Q K none) :
    Obeys (discipline cfg) j K (askIf c p) Q := by
  unfold askIf
  split_ifs
  · exact hp
  · exact hnone

/-- The service's own lines may go to anybody. -/
theorem needs_system {self : Bool} :
    Needs cfg j K (.send t (.broadcast ⟨room, "(system)", text, 0⟩ self)) := .inl ⟨rfl, rfl⟩

theorem obeys_sendNotice : Obedient cfg j K (sendNotice t text) :=
  obeys_op needs_system

theorem obeys_sendAll {m : Message} (hneed : ∀ t L, Needs cfg j L (.send t m)) :
    Obedient cfg j K (sendAll ts m) :=
  obeys_each fun t _ L _ => obeys_op (hneed t L)

/-- The id that comes out is that of a row with the name. -/
theorem obeys_ensureRoomId : Obeys (discipline cfg) j K (ensureRoomId cfg room) fun L r =>
      ∀ rid, r = some rid → .roomRow room rid ∈ L := by
  unfold ensureRoomId
  split_ifs
  · refine obeys_step trivial ?_
    -- a cached id, an error, no row, or a row
    rintro (_ | id)
    · refine obeys_step trivial ?_
      rintro (_ | _ | row)
      · nofun
      · refine obeys_step trivial ?_
        rintro (_ | id)
        · nofun
        · refine obeys_step (.inr rfl) fun _ => ?_
          rintro rid ⟨⟩
          exact .inl (.inr rfl)
      · refine obeys_step (.inr rfl) fun _ => ?_
        rintro rid ⟨⟩
        exact .inl (.inr rfl)
    · rintro rid ⟨⟩
      exact .inr rfl
  · nofun

theorem obeys_broadcastRefreshLocal : Obedient cfg j K (broadcastRefreshLocal room) := by
  refine obeys_step trivial fun targets => ?_
  exact obeys_sendAll fun _ _ => trivial

theorem obeys_broadcastRefresh : Obedient cfg j K (broadcastRefresh cfg room) := by
  refine obeys_then obeys_broadcastRefreshLocal fun _ _ => ?_
  split_ifs
  · exact obeys_step (.inl ⟨room, rfl⟩) fun _ => trivial
  · trivial

theorem obeys_countUsers (room : String) : Obedient cfg j K (countUsers room) := by
  refine obeys_step trivial ?_
  rintro (_ | n)
  · refine obeys_step trivial ?_
    rintro (_ | names) <;> trivial
  · trivial

theorem obeys_roomInfos (rooms : List String) (passwords : Option (List (Option String)))
    (counts : Option (List ℕ)) : Obedient cfg j K (roomInfos rooms passwords counts) := by
  induction rooms generalizing K passwords counts with
  | nil => trivial
  | cons room rooms ih =>
    refine obeys_then ?_ fun count _ => ?_
    · cases counts.bind List.head? with
      | none => exact obeys_countUsers room
      | some n => trivial
    refine obeys_then ?_ fun isLocked _ => ?_
    · cases passwords.bind List.head? with
      | none => exact obeys_step trivial fun _ => trivial
      | some pw => trivial
    exact obeys_part (ih _ _) fun _ _ _ _ => trivial

theorem obeys_loadRooms : Obedient cfg j K (loadRooms cfg) := by
  unfold loadRooms
  split_ifs
  · refine obeys_step trivial fun rooms => ?_
    refine obeys_then (obeys_askIf (obeys_op trivial) trivial) fun passwords _ => ?_
    refine obeys_then (obeys_askIf (obeys_op trivial) trivial) fun counts _ => ?_
    refine obeys_then (obeys_roomInfos rooms passwords counts) fun infos _ => ?_
    split_ifs
    · trivial
    · exact obeys_then (obeys_countUsers "lobby") fun _ _ => trivial
  · trivial

theorem obeys_sendRoomsList : Obedient cfg j K (sendRoomsList cfg s) := by
  refine obeys_then obeys_loadRooms fun fromRedis _ => ?_
  refine obeys_step trivial fun infos => ?_
  exact obeys_sendNotice

/-- A list of users is sent only after the check. -/
theorem obeys_sendRoomUsers (hs : j.session = some s) (target : String) :
    Obedient cfg j K (sendRoomUsers cfg s target) := by
  refine obeys_step hs ?_
  rintro ⟨_ | _, viewer⟩
  · exact obeys_sendNotice
  · have hmay : Fact.mayList s target ∈
        K ∪ learned (.lock (.roomUsersCheck s target)) (true, viewer) := .inr rfl
    refine obeys_then (obeys_askIf (obeys_op trivial) trivial) fun fromRedis hL => ?_
    refine obeys_then ?_ fun names hL' => ?_
    · cases fromRedis.getD [] with
      | nil => exact obeys_op trivial
      | cons name names => trivial
    refine obeys_step trivial fun blocked => ?_
    exact obeys_op (.inl (hL' (hL hmay)))

/-! ### Recent history -/

/-- A message is cached when its room and text are known. -/
theorem obeys_cacheRecentMessage (hl : .listed rid m.id ∈ K) (ht : .text m.id m.text ∈ K) :
    Obedient cfg j K (cacheRecentMessage cfg rid m) := by
  unfold cacheRecentMessage
  split_ifs
  · refine obeys_step ⟨rfl, ht⟩ fun stored => ?_
    split_ifs
    · exact obeys_op (.inl hl)
    · trivial
  · trivial

/-- Messages read by known numbers are known. -/
theorem obeys_getMessages {ids : List ℕ} (hids : ∀ id ∈ ids, .listed rid id ∈ K) :
    Obeys (discipline cfg) j K (getMessages ids) fun L ms =>
      ∀ m ∈ ms, KnownMessage L rid m := by
  induction ids generalizing K with
  | nil => exact fun m hm => absurd hm not_mem_nil
  | cons id ids ih =>
    refine obeys_step trivial fun found => ?_
    refine obeys_part (ih fun i hi => .inl (hids i (mem_cons_of_mem id hi))) ?_
    intro L rest hL hrest m hm
    obtain hm | hm := mem_append.mp hm
    · rw [Option.mem_toList] at hm
      subst hm
      refine .inr ⟨[id], hL (.inr rfl), fun i hi => ?_⟩
      rw [mem_singleton.mp hi]
      exact hL (.inl (hids id mem_cons_self))
    · exact hrest m hm

/-- So are those of one command. -/
theorem obeys_fetchMessages {ids : List ℕ} (hids : ∀ id ∈ ids, .listed rid id ∈ K) :
    Obeys (discipline cfg) j K (fetchMessages ids) fun L ms =>
      ∀ m ∈ ms, KnownMessage L rid m := by
  refine obeys_step trivial ?_
  rintro (_ | payloads)
  · exact obeys_getMessages fun id hid => .inl (hids id hid)
  · intro m hm
    obtain ⟨o, ho, hom⟩ := mem_filterMap.mp hm
    have hmem : some m ∈ payloads := hom ▸ ho
    exact .inr ⟨ids, .inr ⟨m, hmem, rfl⟩, fun id hid => .inl (hids id hid)⟩

/-- What comes out of the cache was listed for the room. -/
theorem obeys_loadRecentMessages :
    Obeys (discipline cfg) j K (loadRecentMessages cfg rid) fun L r =>
      ∀ ms, r = some ms → ∀ m ∈ ms, KnownMessage L rid m := by
  unfold loadRecentMessages
  split_ifs
  · nofun
  refine obeys_step trivial ?_
  rintro (_ | ids)
  · nofun
  have hids : ∀ id ∈ ids.filter (· ≠ 0),
      .listed rid id ∈ K ∪ learned (.redis (.lrangeRecent rid cfg.recentLimit)) (some ids) :=
    fun id hid => .inr ⟨id, (mem_filter.mp hid).1, rfl⟩
  dsimp only
  split_ifs
  · nofun
  refine obeys_part (obeys_fetchMessages hids) ?_
  intro L parsed _ hparsed
  split_ifs
  · nofun
  · rintro ms ⟨⟩ m hm
    exact hparsed m (mem_reverse.mp hm)

theorem mem_of_mem_dedupIds {ms : List SnapshotMessage} (hm : m ∈ dedupIds ms) : m ∈ ms := by
  suffices h : ∀ acc : List SnapshotMessage,
      m ∈ ms.foldl (fun acc m => if acc.any (·.id = m.id) then acc else acc ++ [m]) acc →
        m ∈ acc ∨ m ∈ ms from (h [] hm).resolve_left not_mem_nil
  clear hm
  induction ms with
  | nil => exact fun acc h => .inl h
  | cons m' ms ih =>
    intro acc h
    rw [foldl_cons] at h
    obtain h | h := ih _ h
    · split_ifs at h
      · exact .inl h
      · obtain h | h := mem_append.mp h
        · exact .inl h
        · exact .inr (mem_singleton.mp h ▸ mem_cons_self)
    · exact .inr (mem_cons_of_mem m' h)

/-- A stored message of a snapshot is one of those that were fetched. -/
theorem exists_of_mem_fillUp {fetched : List Db.Stored} (hm : m ∈ fillUp cfg cached fetched) :
    ∃ f ∈ fetched, m.id = f.row.id ∧ m.text = f.row.content := by
  obtain ⟨f, hf, rfl⟩ := mem_map.mp hm
  refine ⟨f, ?_, rfl, rfl⟩
  exact (mem_filter.mp (mem_of_mem_drop (mem_of_mem_drop hf))).1

/-- What was fetched is cached and shown. -/
theorem obeys_loadStored {seen : ℕ} :
    Obeys (discipline cfg) j K (loadStored cfg rid cached seen) fun L ms =>
      ∀ m ∈ ms, KnownMessage L rid m := by
  refine obeys_step trivial ?_
  rintro (_ | lastId)
  · exact fun m hm => absurd hm not_mem_nil
  refine obeys_step trivial ?_
  rintro (_ | fetched)
  · exact fun m hm => absurd hm not_mem_nil
  generalize hK : _ ∪ learned (.db (.fetchRecent rid _ _)) (some fetched) = K'
  -- what was fetched is known to be of this room
  have hknown : ∀ m ∈ fillUp cfg cached fetched,
      .listed rid m.id ∈ K' ∧ .text m.id m.text ∈ K' := by
    intro m hm
    obtain ⟨f, hf, hid, htext⟩ := exists_of_mem_fillUp hm
    rw [hid, htext, ← hK]
    exact ⟨.inr ⟨f, hf, .inl rfl⟩, .inr ⟨f, hf, .inr rfl⟩⟩
  refine obeys_then (obeys_each fun m hm _ hL => ?_) ?_
  · exact obeys_cacheRecentMessage (hL (hknown m hm).1) (hL (hknown m hm).2)
  · intro L _ hL m hm
    exact .inl ⟨hL (hknown m hm).1, hL (hknown m hm).2⟩

theorem obeys_loadHistory : Obeys (discipline cfg) j K (loadHistory cfg s rid cached) fun L r =>
      ∀ m ∈ r.2, KnownMessage L rid m := by
  refine obeys_step trivial fun uid => ?_
  refine obeys_then ?_ fun lastSeen _ => ?_
  · cases uid with
    | none => trivial
    | some uid => exact obeys_step trivial fun _ => trivial
  · cases lastSeen with
    | none => exact fun m hm => absurd hm not_mem_nil
    | some seen =>
      dsimp only
      split_ifs
      · exact fun m hm => absurd hm not_mem_nil
      · exact obeys_part obeys_loadStored fun _ _ _ h => h

theorem obeys_snapshotUsers : Obedient cfg j K (snapshotUsers cfg room) := by
  refine obeys_then (obeys_askIf (obeys_op trivial) trivial) fun fromRedis _ => ?_
  cases fromRedis with
  | none => exact obeys_op trivial
  | some names => trivial

theorem obeys_snapshotRoomId : Obeys (discipline cfg) j K (snapshotRoomId cfg room) fun L r =>
      ∀ rid, r = some rid → .roomRow room rid ∈ L := by
  refine obeys_step trivial ?_
  rintro (_ | id)
  · exact obeys_ensureRoomId
  · rintro rid ⟨⟩
    exact .inr rfl

/-- Cached or stored, the messages are of one row. -/
theorem obeys_snapshotHistory {rid : Option RoomId} :
    Obeys (discipline cfg) j K (snapshotHistory cfg s rid) fun L r =>
      r.2 ≠ [] → ∃ id, rid = some id ∧ ∀ m ∈ r.2, KnownMessage L id m := by
  cases rid with
  | none => exact fun h => absurd rfl h
  | some id =>
    refine obeys_part (obeys_askIf obeys_loadRecentMessages ?_) ?_
    · nofun
    · intro L cached _ hcached
      have hshown : ∀ m ∈ dedupIds (cached.getD []), KnownMessage L id m := by
        intro m hm
        cases cached with
        | none => exact absurd hm not_mem_nil
        | some ms => exact hcached ms rfl m (mem_of_mem_dedupIds hm)
      split_ifs
      · refine obeys_part obeys_loadHistory ?_
        rintro L' ⟨lastSeen, stored⟩ hL' hstored
        refine fun _ => ⟨id, rfl, fun m hm => ?_⟩
        obtain hm | hm := mem_append.mp hm
        · exact (hshown m hm).mono hL'
        · exact hstored m hm
      · exact fun _ => ⟨id, rfl, hshown⟩

/-- A snapshot shows the messages of its room. -/
theorem obeys_sendSnapshot {current : String}
    (hrefresh : j.isRefresh → ∃ room, .located s room ∈ K ∧ current = room.getD "lobby") :
    Obedient cfg j K (sendSnapshot cfg s current) := by
  refine obeys_then obeys_loadRooms fun fromRedis h₁ => ?_
  refine obeys_step trivial fun rooms => ?_
  refine obeys_step trivial fun blocked => ?_
  refine obeys_then obeys_snapshotUsers fun users h₂ => ?_
  refine obeys_part obeys_snapshotRoomId fun L₃ rid h₃ hrid => ?_
  refine obeys_part obeys_snapshotHistory ?_
  rintro L₄ ⟨lastSeen, messages⟩ h₄ hmessages
  refine obeys_step trivial fun name => ?_
  refine obeys_last ⟨fun hne => ?_, fun hj => ?_⟩ fun _ => trivial
  · obtain ⟨id, rfl, hms⟩ := hmessages hne
    refine ⟨id, .inl (h₄ (hrid id rfl)), fun m hm => (hms m hm).mono Set.subset_union_left⟩
  · obtain ⟨room, hloc, hcur⟩ := hrefresh hj
    exact ⟨room, .inl (h₄ (h₃ (h₂ (.inl (.inl (h₁ hloc)))))), hcur⟩

/-- A snapshot that no refresh has asked for. -/
theorem obeys_showRoom (hj : j.isRefresh = false) : Obedient cfg j K (sendSnapshot cfg s room) :=
  obeys_sendSnapshot fun h => absurd (hj.symm.trans h) Bool.false_ne_true

/-! ### Login -/

/-- The id was answered for the name. -/
theorem obeys_findOrCreateUser : Obeys (discipline cfg) j K (findOrCreateUser name) fun L r =>
      ∀ uid, r = some uid → .userRow name uid ∈ L := by
  refine obeys_step trivial ?_
  rintro (_ | _ | row)
  · nofun
  · -- no answer, an answer without a commit, a new row
    refine obeys_step trivial ?_
    rintro (_ | ⟨uid, _ | _⟩)
    · refine obeys_step trivial ?_
      rintro (_ | _ | row)
      · nofun
      · intro uid hr
        cases hr
      · rintro uid ⟨⟩
        exact .inr rfl
    · refine obeys_step trivial ?_
      rintro (_ | _ | row)
      · rintro uid ⟨⟩
        exact .inl (.inr rfl)
      · rintro uid ⟨⟩
        exact .inl (.inr rfl)
      · rintro uid ⟨⟩
        exact .inr rfl
    · rintro uid ⟨⟩
      exact .inr rfl
  · rintro uid ⟨⟩
    exact .inr rfl

theorem obeys_resolveUser (hs : j.session = some s) (name : String) :
    Obedient cfg j K (resolveUser s name) := by
  refine obeys_step trivial ?_
  rintro (_ | uid)
  · refine obeys_part obeys_findOrCreateUser fun L found _ hfound => ?_
    cases found with
    | none => trivial
    | some uid => exact obeys_step ⟨hs, hfound uid rfl⟩ fun _ => trivial
  · trivial

theorem obeys_recordLogin {ip : String} :
    Obedient cfg (.login s req) K (recordLogin cfg s name ip) := by
  refine obeys_then (obeys_resolveUser rfl name) fun uid _ => ?_
  refine obeys_step trivial ?_
  rintro (_ | _)
  · trivial
  · refine obeys_part obeys_ensureRoomId fun L' rid _ hrid => ?_
    cases rid with
    | none => trivial
    | some rid => exact obeys_step ⟨hrid rid rfl, .inl ⟨s, req, rfl⟩⟩ fun _ => trivial

/-- A login commits under a name that was cleared. -/
theorem obeys_completeLogin (hname : name ≠ "") (req : LoginRequest)
    (hclear : .cleared name req.ip (cfg.hashHwidToken req.token) req.now ∈ K) :
    Obedient cfg (.login s req) K (completeLogin cfg s name req) := by
  refine obeys_step ⟨⟨req, rfl⟩, hname, req.now, hclear⟩ fun _ => ?_
  refine obeys_then (obeys_onlyIf obeys_recordLogin) fun _ _ => ?_
  refine obeys_step trivial fun _ => ?_
  split_ifs
  · exact obeys_step trivial fun _ => obeys_broadcastRefresh
  · trivial

/-- Nobody logs in before the check for bans. -/
theorem obeys_onLogin : Obedient cfg (.login s req) K (onLogin cfg s req) := by
  refine obeys_step rfl fun _ => ?_
  refine obeys_step rfl fun _ => ?_
  refine obeys_step trivial ?_
  rintro (refusal | name)
  · exact obeys_op trivial
  · dsimp only
    split_ifs with hname
    · trivial
    · cases req.denied with
      | some reason => exact obeys_op trivial
      | none =>
        -- the check clears the name or gives a reason
        refine obeys_step trivial fun deny => ?_
        split_ifs with hdeny
        · exact obeys_completeLogin hname req (.inr ⟨hdeny, rfl⟩)
        · exact obeys_op trivial

/-! ### Join -/

theorem obeys_recordJoin : Obedient cfg j K (recordJoin cfg s room) := by
  refine obeys_step trivial ?_
  rintro (_ | uid)
  · trivial
  · refine obeys_part obeys_ensureRoomId fun L rid _ _ => ?_
    cases rid with
    | none => trivial
    | some rid => exact obeys_step trivial fun _ => trivial

theorem obeys_closeEmptied : Obedient cfg j K (closeEmptied room) := by
  refine obeys_step trivial ?_
  rintro (_ | _ | row)
  · trivial
  · exact obeys_op trivial
  · refine obeys_step trivial ?_
    rintro (_ | _)
    · trivial
    · exact obeys_op trivial

theorem obeys_leaveMirror : Obedient cfg j K (leaveMirror cfg room name) := by
  refine obeys_step trivial fun _ => ?_
  split_ifs
  · trivial
  · refine obeys_step trivial ?_
    rintro (_ | _ | n)
    · trivial
    · refine obeys_step trivial fun _ => obeys_step trivial fun _ => ?_
      exact obeys_onlyIf obeys_closeEmptied
    · trivial

theorem obeys_updateMirror : Obedient cfg j K (updateMirror cfg room joined) := by
  refine obeys_then (obeys_forSome fun previous _ => obeys_leaveMirror) fun _ _ => ?_
  refine obeys_step trivial fun _ => ?_
  exact obeys_onlyIf (obeys_op trivial)

theorem obeys_refreshAfterJoin : Obedient cfg j K (refreshAfterJoin cfg room joined) := by
  refine obeys_then obeys_broadcastRefresh fun _ _ => ?_
  refine obeys_then (obeys_onlyIf obeys_broadcastRefresh) fun _ _ => ?_
  exact obeys_forSome fun previous _ => obeys_broadcastRefresh

/-- The rest of a join stores only the hash that its section made. -/
theorem obeys_completeJoin (hj : j = .join s room password fresh denied)
    (hhash : ∀ h, joined.newHash = some h → .hash password h ∈ K) :
    Obedient cfg j K (completeJoin cfg s (roomToJoin room) joined) := by
  refine obeys_then (obeys_forSome fun h hh => obeys_onlyIf (obeys_op ?_)) fun _ _ => ?_
  · exact ⟨s, room, password, fresh, denied, hj, rfl, hhash h hh⟩
  refine obeys_then (obeys_sendAll fun _ _ => needs_system) fun _ _ => ?_
  refine obeys_then (obeys_onlyIf obeys_recordJoin) fun _ _ => ?_
  refine obeys_then (obeys_onlyIf obeys_updateMirror) fun _ _ => ?_
  exact obeys_then (obeys_showRoom (hj ▸ rfl)) fun _ _ => obeys_refreshAfterJoin

/-- The password is read before the section that decides. -/
theorem obeys_onJoin : Obedient cfg (.join s room password fresh denied) K
      (onJoin cfg s room password fresh denied) := by
  refine obeys_step rfl fun _ => ?_
  refine obeys_part (P := fun L value => if cfg.hasRedis then
    .password (roomToJoin room) value ∈ L else value = none) ?_ fun L value _ hvalue => ?_
  · unfold askIf
    split_ifs
    · exact obeys_last trivial fun _ => .inr rfl
    · rfl
  · refine obeys_step ⟨room, fresh, denied, rfl, rfl, hvalue⟩ ?_
    rintro (refusal | joined)
    · exact obeys_op trivial
    · exact obeys_completeJoin rfl fun h hh => .inr ⟨h, hh, rfl⟩

/-! ### Leave and close -/

theorem obeys_leftRoomId : Obedient cfg j K (leftRoomId cfg s room) := by
  refine obeys_step trivial fun uid => ?_
  exact obeys_part obeys_ensureRoomId fun _ _ _ _ => trivial

theorem obeys_closeLeft {rid : Option RoomId} : Obedient cfg j K (closeLeft cfg room rid) := by
  unfold closeLeft
  cases rid with
  | none => trivial
  | some rid =>
    split_ifs
    · refine obeys_step trivial ?_
      rintro (_ | _)
      · trivial
      · exact obeys_op trivial
    · trivial

theorem obeys_sweepMirror {rid : Option RoomId} : Obedient cfg j K (sweepMirror cfg room rid) := by
  refine obeys_step trivial ?_
  rintro (_ | _ | n)
  · trivial
  · refine obeys_step trivial fun _ => obeys_step trivial fun _ => ?_
    exact obeys_closeLeft
  · trivial

theorem obeys_updateLeft {left : State.Left} : Obedient cfg j K (updateLeft cfg s left) := by
  refine obeys_then obeys_leftRoomId fun ⟨rid, clears⟩ _ => ?_
  refine obeys_then (obeys_onlyIf (obeys_op trivial)) fun _ _ => ?_
  refine obeys_then (obeys_onlyIf obeys_sweepMirror) fun _ _ => ?_
  exact obeys_step trivial fun _ => trivial

/-- Lines about a leave are the service's own. -/
theorem obeys_completeLeave (hj : j = .leave s room fresh denied) (left : State.Left) :
    Obedient cfg j K (completeLeave cfg s left) := by
  refine obeys_then (obeys_sendAll fun _ _ => needs_system) fun _ _ => ?_
  refine obeys_then (obeys_askIf obeys_updateLeft trivial) fun rid _ => ?_
  refine obeys_step trivial fun targets => ?_
  refine obeys_then (obeys_sendAll fun _ _ => needs_system) fun _ _ => ?_
  refine obeys_then obeys_broadcastRefresh fun _ _ => ?_
  refine obeys_then (obeys_onlyIf obeys_broadcastRefresh) fun _ _ => ?_
  refine obeys_then ?_ fun _ _ => ?_
  · cases rid with
    | none => exact obeys_ensureRoomId.imp fun _ _ _ _ => trivial
    | some rid => trivial
  · exact obeys_showRoom (hj ▸ rfl)

theorem obeys_onLeave :
    Obedient cfg (.leave s room fresh denied) K (onLeave cfg s room fresh denied) := by
  refine obeys_step rfl fun _ => ?_
  refine obeys_step rfl ?_
  rintro (refusal | left)
  · exact obeys_op trivial
  · exact obeys_completeLeave rfl left

theorem obeys_updateClosed : Obedient cfg j K (updateClosed cfg s room name) := by
  refine obeys_step trivial fun uid => ?_
  refine obeys_then (obeys_forSome fun _ _ => ?_) fun _ _ => ?_
  · exact obeys_part obeys_ensureRoomId fun _ _ _ _ => trivial
  · refine obeys_step trivial fun _ => ?_
    split_ifs
    · trivial
    · refine obeys_step trivial fun _ => obeys_step trivial ?_
      rintro (_ | _ | n)
      · trivial
      · exact obeys_op trivial
      · trivial

theorem obeys_onSessionClose : Obedient cfg (.close s fresh) K (onSessionClose cfg s fresh) := by
  refine obeys_step rfl fun _ => ?_
  refine obeys_step trivial fun _ => ?_
  refine obeys_step ⟨fresh, rfl⟩ fun closed => ?_
  cases closed.roomLeft with
  | none => trivial
  | some room =>
    refine obeys_then (obeys_sendAll fun _ _ => needs_system) fun _ _ => ?_
    refine obeys_then (obeys_onlyIf obeys_updateClosed) fun _ _ => ?_
    exact obeys_broadcastRefresh

/-! ### Whispers -/

theorem obeys_whisperFailed {notice : String} :
    Obedient cfg j K (whisperFailed s notice reason) := by
  exact obeys_then obeys_sendNotice fun _ _ => obeys_op trivial

/-- A whisper is published when nobody here is to get it. -/
theorem obeys_routeWhisper (hs : j.session = some s) (n : WhisperNotice)
    (hname : .named s n.sender ∈ K) (hnobody : .hearers (some s) n.sender n.recipient [] ∈ K) :
    Obedient cfg j K (routeWhisper cfg s n) := by
  refine obeys_then ?_ fun routed hL => ?_
  · unfold publishWhisper
    split_ifs
    · exact obeys_op (.inr (.inl ⟨n, rfl, rfl, hs ▸ hnobody⟩))
    · trivial
  · split_ifs
    · exact obeys_step (.inl ⟨rfl, hs, hL hname⟩) fun _ => obeys_op trivial
    · exact obeys_whisperFailed

/-- A whisper goes to those who were found, and back to its sender. -/
theorem obeys_dispatchWhisper (hs : j.session = some s) (target text : String) :
    Obedient cfg j K (dispatchWhisper cfg s target text) := by
  unfold dispatchWhisper
  split_ifs
  · exact obeys_whisperFailed
  refine obeys_step trivial fun authed => ?_
  split_ifs
  · refine obeys_step trivial ?_
    rintro ⟨sender, guest⟩
    dsimp only
    split_ifs
    · exact obeys_then obeys_whisperFailed fun _ _ =>
        obeys_op trivial
    · exact obeys_whisperFailed
    · have hname : Fact.named s sender ∈ K ∪ learned (.lock (.isAuthed s)) authed ∪
            learned (.lock (.whisperSender s)) (sender, guest) :=
        .inr rfl
      refine obeys_step trivial fun found => ?_
      have hhearers : Fact.hearers j.session sender target found.targets ∈
          learned (.lock (.whisperTargets s sender target)) found := by
        rw [hs]
        rfl
      cases htargets : found.targets with
      | nil =>
        dsimp only
        split_ifs
        · exact obeys_whisperFailed
        · exact obeys_whisperFailed
        · refine obeys_routeWhisper hs _ (.inl hname) (.inr ?_)
          rw [← htargets, ← hs]
          exact hhearers
      | cons t ts =>
        refine obeys_then (obeys_each fun p hp _ hL => obeys_op ?_) fun _ hL => ?_
        · exact .inr ⟨found.targets, hL (.inr hhearers), htargets ▸ hp⟩
        · refine obeys_step (.inl ⟨rfl, hs, ?_⟩) fun _ => obeys_op trivial
          exact hL (.inl hname)
  · exact obeys_op trivial

/-! ### Chat -/

theorem obeys_noticeAndStop : Obedient cfg j K (noticeAndStop ts text) :=
  obeys_each fun _ _ _ _ => obeys_then obeys_sendNotice fun _ _ => obeys_op trivial

theorem obeys_kickCommand (hs : j.session = some s) (hj : j.isRefresh = false) (target : String)
    (hroom : room ≠ "lobby") : Obedient cfg j K (kickCommand cfg s target room) := by
  refine obeys_step ⟨hs, hroom⟩ ?_
  rintro (_ | kicked)
  · exact obeys_sendNotice
  · refine obeys_then (obeys_each fun t _ _ _ => ?_) fun _ _ => ?_
    · exact obeys_then obeys_sendNotice fun _ _ => obeys_showRoom hj
    · split_ifs
      · exact obeys_sendNotice
      · refine obeys_then obeys_broadcastRefresh fun _ _ => ?_
        refine obeys_then obeys_broadcastRefresh fun _ _ => ?_
        exact obeys_sendNotice

theorem obeys_removeRoomCommand (hs : j.session = some s) (hj : j.isRefresh = false)
    (hroom : room ≠ "lobby") : Obedient cfg j K (removeRoomCommand cfg s room) := by
  refine obeys_step ⟨hs, hroom⟩ ?_
  rintro (_ | moved)
  · exact obeys_sendNotice
  · refine obeys_then (obeys_each fun t _ _ _ => ?_) fun _ _ => ?_
    · exact obeys_then obeys_sendNotice fun _ _ => obeys_showRoom hj
    · refine obeys_then (obeys_onlyIf ?_) fun _ _ => ?_
      · exact obeys_step trivial fun _ => obeys_step trivial fun _ =>
          obeys_op trivial
      refine obeys_then obeys_broadcastRefresh fun _ _ => ?_
      refine obeys_then obeys_broadcastRefresh fun _ _ => ?_
      exact obeys_sendNotice

theorem obeys_blacklistCommand {op target : String} :
    Obedient cfg j K (blacklistCommand s op target) := by
  refine obeys_step trivial fun name => ?_
  dsimp only
  split_ifs with hactor hlist htarget hself hadd
  · exact obeys_sendNotice
  · exact obeys_step trivial fun _ => obeys_sendNotice
  · exact obeys_sendNotice
  · exact obeys_sendNotice
  · exact obeys_step ⟨htarget, hself⟩ fun _ => obeys_sendNotice
  · exact obeys_step trivial fun _ => obeys_sendNotice
  · exact obeys_sendNotice

/-- A command that manages a room does not manage the lobby. -/
def SparesLobby : Command → Prop
  | .kick _ room => room ≠ "lobby"
  | .removeRoom room => room ≠ "lobby"
  | _ => True

theorem sparesLobby_parseUserRoom (mk : String → String → Command)
    (h : ∀ user room, room ≠ "lobby" → SparesLobby (mk user room)) (args : List Char) :
    SparesLobby (parseUserRoom mk usage currentRoom args) := by
  unfold parseUserRoom
  dsimp only
  generalize (if (nextWord (nextWord args).2).1 = "" then currentRoom
    else (nextWord (nextWord args).2).1) = room
  split_ifs with hroom
  · trivial
  · exact h _ room fun hlobby => hroom (.inr (.inr hlobby))

theorem sparesLobby_parseRemoveRoom (currentRoom text : String) :
    SparesLobby (parseRemoveRoom currentRoom text) := by
  unfold parseRemoveRoom
  dsimp only
  generalize (if (nextWord (after 12 text)).1 = "" then currentRoom
    else (nextWord (after 12 text)).1) = room
  split_ifs with hroom
  · trivial
  · exact fun hlobby => hroom (.inr hlobby)

/-- The commands are tried one after another. -/
theorem sparesLobby_ite {c : Prop} [Decidable c] {rest : Option Command} (h : SparesLobby command)
    (hrest : ∀ y, rest = some y → SparesLobby y) :
    ∀ y, (if c then some command else rest) = some y → SparesLobby y := by
  intro y hy
  split_ifs at hy
  · exact Option.some.inj hy ▸ h
  · exact hrest y hy

theorem sparesLobby_parseWho : SparesLobby (parseWho currentRoom text) := by
  unfold parseWho
  cases (after 4 text).dropWhile (· = ' ') <;> trivial

theorem sparesLobby_parseWhisper (args : List Char) : SparesLobby (parseWhisper args) := by
  unfold parseWhisper
  dsimp only
  cases (args.dropWhile (· = ' ')).dropWhile (· ≠ ' ') with
  | nil => trivial
  | cons c rest =>
    dsimp only
    split_ifs <;> trivial

theorem sparesLobby_parseUser (mk : String → Command) (h : ∀ user, SparesLobby (mk user))
    (args : List Char) :
    SparesLobby (parseUser mk usage args) := by
  unfold parseUser
  dsimp only
  split_ifs
  · trivial
  · exact h _

theorem sparesLobby_parseUserSec (mk : String → ℕ → Command)
    (h : ∀ user sec, SparesLobby (mk user sec)) (fallback minValue maxValue : ℕ)
    (args : List Char) :
    SparesLobby (parseUserSec mk usage fallback minValue maxValue args) := by
  unfold parseUserSec
  dsimp only
  split_ifs
  · trivial
  · exact h _ _

theorem sparesLobby_parseBlacklist : SparesLobby (parseBlacklist text) := by
  unfold parseBlacklist
  dsimp only
  split_ifs <;> trivial

/-- No command is aimed at the lobby. -/
theorem sparesLobby_parseCommand :
    ∀ command, parseCommand cfg currentRoom text = some command → SparesLobby command := by
  refine sparesLobby_ite trivial ?_
  refine sparesLobby_ite sparesLobby_parseWho ?_
  refine sparesLobby_ite (sparesLobby_parseWhisper _) ?_
  refine sparesLobby_ite (sparesLobby_parseWhisper _) ?_
  refine sparesLobby_ite (sparesLobby_parseUserRoom .invite (fun _ _ _ => trivial) _) ?_
  refine sparesLobby_ite (sparesLobby_parseUserRoom .kick (fun _ _ h => h) _) ?_
  refine sparesLobby_ite (sparesLobby_parseRemoveRoom _ _) ?_
  refine sparesLobby_ite (sparesLobby_parseUserSec .mute (fun _ _ => trivial) _ _ _ _) ?_
  refine sparesLobby_ite (sparesLobby_parseUser .unmute (fun _ => trivial) _) ?_
  refine sparesLobby_ite (sparesLobby_parseUserSec .ban (fun _ _ => trivial) _ _ _ _) ?_
  refine sparesLobby_ite (sparesLobby_parseUser .unban (fun _ => trivial) _) ?_
  refine sparesLobby_ite (sparesLobby_parseUser .globalKick (fun _ => trivial) _) ?_
  refine sparesLobby_ite trivial ?_
  refine sparesLobby_ite trivial ?_
  refine sparesLobby_ite sparesLobby_parseBlacklist ?_
  intro command h
  cases h

theorem obeys_runCommand (hs : j.session = some s) (hj : j.isRefresh = false) (now : ℕ)
    (hcommand : SparesLobby command) :
    Obedient cfg j K (runCommand cfg s now command) := by
  cases command with
  | rooms => exact obeys_sendRoomsList
  | who target => exact obeys_sendRoomUsers hs target
  | whisper target text => exact obeys_dispatchWhisper hs target text
  | whisperUsage => exact obeys_whisperFailed
  | invite target room =>
    exact obeys_step trivial fun _ => obeys_sendNotice
  | kick target room => exact obeys_kickCommand hs hj target hcommand
  | removeRoom room => exact obeys_removeRoomCommand hs hj hcommand
  | mute user sec => exact obeys_step trivial fun _ => obeys_sendNotice
  | unmute | unban =>
    refine obeys_step trivial fun changed => ?_
    cases changed <;> exact obeys_sendNotice
  | ban | globalKick =>
    refine obeys_step trivial ?_
    rintro (_ | sessions)
    · exact obeys_sendNotice
    · exact obeys_then obeys_noticeAndStop fun _ _ =>
        obeys_sendNotice
  | blacklist op target => exact obeys_blacklistCommand
  | usage text => exact obeys_sendNotice

/-- A refresh shows its session the room that it was found in. -/
theorem obeys_handleRefresh (hs : j.session = some s) : Obedient cfg j K (handleRefresh cfg s) := by
  refine obeys_step hs fun room => ?_
  refine obeys_then (obeys_sendSnapshot fun _ => ⟨room, .inr rfl, rfl⟩) fun _ _ => ?_
  split_ifs
  · refine obeys_step trivial ?_
    rintro (_ | uid)
    · trivial
    · refine obeys_part obeys_ensureRoomId fun L' rid _ _ => ?_
      cases rid with
      | none => trivial
      | some rid =>
        refine obeys_step trivial ?_
        rintro (_ | _ | id)
        · trivial
        · trivial
        · exact obeys_step trivial fun _ => trivial
  · trivial

/-- A line is stored under the row of its room. -/
theorem obeys_persistLine (hpassed : Passed j K sender) (s : Session) (room text : String) :
    Obeys (discipline cfg) j K (persistLine cfg s room text) fun L r =>
      ∀ m, r = some m → .listed m.1 m.2 ∈ L ∧ .text m.2 text ∈ L := by
  unfold persistLine
  split_ifs
  · refine obeys_part obeys_ensureRoomId fun L rid hL hrid => ?_
    cases rid with
    | none =>
      intro m hm
      cases hm
    | some rid =>
      refine obeys_step trivial fun uid => ?_
      have hstore : MayStore j (L ∪ learned (.lock (.userUuid s)) uid) :=
        .inr ⟨sender, hpassed.mono (hL.trans Set.subset_union_left)⟩
      refine obeys_step ⟨.inl (hrid rid rfl), hstore⟩ ?_
      rintro (_ | id)
      · intro m hm
        cases hm
      · rintro m ⟨⟩
        exact ⟨.inr (.inl rfl), .inr (.inr rfl)⟩
  · intro m hm
    cases hm

/-- A line goes to those who are to hear it, or back to its session. -/
theorem obeys_sendLine (hs : j.session = some s) {line : Broadcast} {targets : List Session}
    (hpassed : Passed j K line.sender)
    (haudience : .audience line.room (some line.sender) targets ∈ K) :
    Obedient cfg j K (sendLine s line targets) := by
  cases htargets : targets with
  | nil => exact obeys_op (.inr (.inl ⟨hpassed, targets, haudience, .inr hs⟩))
  | cons t ts =>
    refine obeys_each fun p hp _ hL => obeys_op ?_
    exact .inr (.inl ⟨hpassed.mono hL, targets, hL haudience, .inl (htargets ▸ hp)⟩)

/-- A line that has passed moderation is delivered. -/
theorem obeys_deliverLine (hs : j.session = some s) (hpassed : Passed j K sender)
    (room text : String) : Obedient cfg j K (deliverLine cfg s room sender text) := by
  refine obeys_step trivial fun targets => ?_
  have haudience : Fact.audience room (some sender) targets ∈
      K ∪ learned (.lock (.roomTargets room (some sender))) targets := .inr rfl
  have hpassed' := hpassed.mono (Set.subset_union_left (t := learned
    (.lock (.roomTargets room (some sender))) targets))
  refine obeys_part (obeys_persistLine hpassed' s room text) fun L₁ stored h₁ hstored => ?_
  refine obeys_then (obeys_forSome fun m hm => ?_) fun _ h₂ => ?_
  · exact obeys_cacheRecentMessage (hstored m hm).1 (hstored m hm).2
  refine obeys_then (obeys_sendLine hs (hpassed'.mono (h₁.trans h₂)) (h₂ (h₁ haudience)))
    fun _ h₃ => ?_
  refine obeys_then (obeys_onlyIf (obeys_step ?_ fun _ => trivial)) fun _ _ => ?_
  · exact .inr (.inr ⟨_, rfl, rfl, hpassed'.mono (h₁.trans (h₂.trans h₃))⟩)
  refine obeys_forSome fun m _ => obeys_step trivial ?_
  rintro (_ | uid)
  · trivial
  · exact obeys_step trivial fun _ => trivial

/-- A line goes out after moderation has let it pass. -/
theorem obeys_chatLine (hs : j.session = some s) (room text : String) (now : ℕ) (hook : ChatHook) :
    Obedient cfg j K (chatLine cfg s room text now hook) := by
  refine obeys_step trivial fun verdict => ?_
  cases verdict with
  | guest => exact obeys_op trivial
  | banned reason =>
    exact obeys_then obeys_sendNotice fun _ _ => obeys_step trivial fun _ =>
      obeys_op trivial
  | muted reason => exact obeys_then obeys_sendNotice fun _ _ => obeys_op trivial
  | penalized reason toStop =>
    exact obeys_then obeys_sendNotice fun _ _ => obeys_step trivial fun _ => obeys_noticeAndStop
  | passes sender =>
    have hpassed : Passed j (K ∪ learned (.lock (.moderate s now)) (.passes sender)) sender :=
      ⟨s, now, hs, .inr rfl⟩
    cases hook with
    | stop => trivial
    | pass => exact obeys_deliverLine hs hpassed room text
    | replace text' => exact obeys_deliverLine hs hpassed room text'

theorem obeys_onChatSend {now : ℕ} (hook : ChatHook) :
    Obedient cfg (.chat s room text now hook) K (onChatSend cfg s room text now hook) := by
  unfold onChatSend
  split_ifs with hrefresh
  · exact obeys_handleRefresh rfl
  refine obeys_step trivial ?_
  rintro (refusal | current)
  · exact obeys_op trivial
  · dsimp only
    cases hcommand : parseCommand cfg current text with
    | none => exact obeys_chatLine rfl current text now hook
    | some command =>
      have hj : Job.isRefresh (.chat s room text now hook) = false := decide_eq_false hrefresh
      exact obeys_runCommand rfl hj now (sparesLobby_parseCommand command hcommand)

/-! ### The other jobs -/

theorem obeys_onRoomUsersRequest (hs : j.session = some s) (requested : String) :
    Obedient cfg j K (onRoomUsersRequest cfg s requested) := by
  unfold onRoomUsersRequest
  split_ifs
  · exact obeys_step hs fun _ => obeys_sendRoomUsers hs _
  · exact obeys_sendRoomUsers hs requested

/-- A whisper from elsewhere goes to its hearers. -/
theorem obeys_deliverRemoteWhisper {n : WhisperNotice} (hj : j.session = none) :
    Obedient cfg j K (deliverRemoteWhisper n) := by
  unfold deliverRemoteWhisper
  split_ifs
  · trivial
  · refine obeys_step trivial fun targets => ?_
    refine obeys_each fun t ht _ hL => obeys_op ?_
    refine .inr ⟨targets, hL (.inr ?_), ht⟩
    rw [hj]
    rfl

theorem obeys_adminModeration {op : State.AdminOp} {users : List String} {now durationSec : ℕ} :
    Obedient cfg j K (adminModeration op users now durationSec reason) := by
  refine obeys_step trivial fun sessions => ?_
  split_ifs
  · exact obeys_noticeAndStop
  · exact obeys_noticeAndStop
  · exact obeys_noticeAndStop
  · trivial

end Handler

open Handler Proc in
/-- **Every handler has learned what its operations need.** -/
theorem obeys_handler : Obedient cfg j K (j.handler cfg) := by
  cases j with
  | login s req => exact obeys_onLogin
  | join s room password fresh denied => exact obeys_onJoin
  | leave s room fresh denied => exact obeys_onLeave
  | close s fresh => exact obeys_onSessionClose
  | chat s room text now hook => exact obeys_onChatSend hook
  | rooms s => exact obeys_sendRoomsList
  | roomUsers s room => exact obeys_onRoomUsersRequest rfl room
  | refresh s => exact obeys_handleRefresh rfl
  | whisper s target text => exact obeys_dispatchWhisper rfl target text
  | remoteLine room b =>
    refine obeys_step trivial fun targets => ?_
    refine obeys_each fun t ht _ hL => obeys_op ?_
    exact .inr (.inr ⟨room, targets, rfl, hL (.inr rfl), ht⟩)
  | remoteRefresh room => exact obeys_broadcastRefreshLocal
  | remoteWhisper n => exact obeys_deliverRemoteWhisper rfl
  | adminDisconnect users notice =>
    refine obeys_step trivial fun sessions => obeys_each fun t _ _ _ => ?_
    exact obeys_then (obeys_onlyIf obeys_sendNotice) fun _ _ =>
      obeys_op trivial
  | adminNotice text =>
    refine obeys_step trivial fun sessions => obeys_each fun t _ _ _ => ?_
    exact obeys_sendNotice
  | adminModeration op users now durationSec reason =>
    exact obeys_adminModeration

end Knights.Chat
