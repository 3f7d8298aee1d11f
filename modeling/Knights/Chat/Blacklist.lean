import Knights.Chat.Nicknames
import Knights.Chat.Sanctions

namespace Knights.Chat

open Lib List Table Instance Machine

/-!
# Blacklists

A user's blacklist is looked at when a task picks the receivers of a line or a whisper.  The
texts are sent later, one session after another, and by then a receiver may have blocked the
sender.  The recent messages of a snapshot are not looked at in this way at all.

* `WellListed` — sessions are listed under their nicknames, and nobody blocks themselves;
* `not_blocks_of_picks` — whoever is picked has not blocked the sender at that moment;
* `not_blocks_of_delivers` — a line or a whisper is not delivered to a session whose user has
  blocked the sender, unless that happened after the task had picked its receivers.
-/

/-! ### Who has blocked whom -/

namespace State

variable {cfg : Config} {live : Session → Bool} {st st' : State} {t : Session} {v r : String}

/-- The user of a session has blocked `v`. -/
def Blocks (st : State) (t : Session) (v : String) : Prop :=
  ∃ r ∈ st.user.lookup t.addr, v ∈ st.blockedBy r

instance (st : State) (t : Session) (v : String) : Decidable (st.Blocks t v) :=
  inferInstanceAs (Decidable (∃ r ∈ st.user.lookup t.addr, v ∈ st.blockedBy r))

theorem blockedBy_congr (h : st'.userBlacklists = st.userBlacklists) (r : String) :
    st'.blockedBy r = st.blockedBy r := by
  unfold blockedBy
  rw [h]

theorem blockedBy_of_records (h : st'.records = st.records) (r : String) :
    st'.blockedBy r = st.blockedBy r := blockedBy_congr (congrArg Records.userBlacklists h) r

/-- Only the actor's list grows. -/
theorem mem_blacklistAdd {actor target : String} :
    v ∈ (st.blacklistAdd actor target).1.blockedBy r ↔
      v ∈ st.blockedBy r ∨ r = actor ∧ v = target := by
  show v ∈ ((st.userBlacklists.insert actor _).lookup r).getD ∅ ↔ _
  rw [lookup_insert_ite]
  by_cases hr : r = actor
  · rw [if_pos hr, hr, Option.getD_some, Finset.mem_insert]
    tauto
  · simp [hr, blockedBy]

/-- A removal blocks nobody. -/
theorem blockedBy_blacklistRemove {actor target : String}
    (h : v ∈ (st.blacklistRemove actor target).1.blockedBy r) : v ∈ st.blockedBy r := by
  unfold blacklistRemove at h
  cases hb : st.userBlacklists.lookup actor with
  | none =>
    rw [hb] at h
    exact h
  | some blocked =>
    rw [hb] at h
    dsimp only at h
    unfold blockedBy at h ⊢
    split_ifs at h
    · rw [lookup_erase_ite] at h
      split_ifs at h with hr
      · cases h
      · exact h
    · rw [lookup_insert_ite] at h
      split_ifs at h with hr
      · rw [hr, hb]
        exact Finset.mem_of_mem_erase h
      · exact h

theorem userBlacklists_countLine {sender : String} {now : ℕ} :
    (st.countLine cfg live sender now).1.userBlacklists = st.userBlacklists := by
  obtain ⟨events, h⟩ | ⟨events, violations, ts, h⟩ | ⟨events, violations, h⟩ :=
    countLine_cases
  · rw [h]
  · rw [h]
    exact congrArg Records.userBlacklists records_pruneUser
  · rw [h]
    rfl

/-- Moderation leaves blacklists alone. -/
theorem userBlacklists_moderate {s : Session} {now : ℕ} :
    (st.moderate cfg live s now).1.userBlacklists = st.userBlacklists := by
  obtain h | ⟨reason, h⟩ | ⟨reason, -, h⟩ | ⟨-, h⟩ := moderate_cases
  · rw [h]
  · rw [h]
    rfl
  · rw [h]
    rfl
  · rw [h]
    exact userBlacklists_countLine

theorem userBlacklists_adminModeration {op : AdminOp} {users : List String} {now durationSec : ℕ}
    {reason : String} :
    (st.adminModeration cfg live op users now durationSec reason).1.userBlacklists =
      st.userBlacklists := by
  have hst : (st, ([] : List Session)).1.userBlacklists = st.userBlacklists := rfl
  refine List.foldlRecOn users (moderateUser cfg live op now durationSec reason)
    (motive := fun acc => acc.1.userBlacklists = st.userBlacklists) hst fun acc hacc user _ => ?_
  have hprune : ∀ (st' : State), (st'.pruneUser live user).userBlacklists = st'.userBlacklists :=
    fun st' => congrArg Records.userBlacklists records_pruneUser
  cases op with
  | ban | kick => exact (hprune _).trans hacc
  | mute | unmute | unban | other => exact hacc

end State

open State in
/-- **Who is blocked.** Whoever is on a blacklist after a section was there before, or the
    section has put them there. -/
theorem blockedBy_exec {cfg : Config} {live : Session → Bool} {st : State} {c : Critical}
    {v r : String} (h : v ∈ (c.exec cfg live st).1.blockedBy r) :
    v ∈ st.blockedBy r ∨ c = .blacklistAdd r v := by
  cases hs : c.sanctions with
  | false =>
    rw [blockedBy_of_records (records_exec hs cfg live st)] at h
    exact .inl h
  | true =>
    cases c
    case blacklistAdd actor target =>
      obtain h | ⟨rfl, rfl⟩ := mem_blacklistAdd.mp h
      · exact .inl h
      · exact .inr rfl
    case blacklistRemove actor target => exact .inl (blockedBy_blacklistRemove h)
    case moderate s now =>
      exact .inl ((blockedBy_congr userBlacklists_moderate r) ▸ h)
    case adminModeration op users now durationSec reason =>
      have hsame : (st.adminModeration cfg live op users now durationSec reason).1.userBlacklists =
          st.userBlacklists := userBlacklists_adminModeration
      exact .inl (blockedBy_congr hsame r ▸ h)
    case banCheck name ip hwidHash now => exact .inl h
    case mute s name now sec =>
      change v ∈ (st.muteBy cfg s name now sec).1.blockedBy r at h
      unfold muteBy at h
      split_ifs at h <;> exact .inl h
    case unmute s name =>
      change v ∈ (st.unmuteBy cfg s name).1.blockedBy r at h
      unfold unmuteBy at h
      split_ifs at h <;> exact .inl h
    case ban s name now sec =>
      change v ∈ (st.banBy cfg live s name now sec).1.blockedBy r at h
      unfold banBy at h
      split_ifs at h
      · rw [blockedBy_of_records records_pruneUser] at h
        exact .inl h
      · exact .inl h
    case unban s name =>
      change v ∈ (st.unbanBy cfg s name).1.blockedBy r at h
      unfold unbanBy at h
      split_ifs at h <;> exact .inl h
    all_goals cases hs

/-! ### Listed sessions and blacklists in order -/

namespace State

variable {cfg : Config} {live : Session → Bool} {st : State} {t : Session} {v user : String}

/-- Living sessions are listed under their own nicknames, and nobody has blocked themselves or
    the empty name. -/
structure WellListed (live : Session → Bool) (st : State) : Prop where
  indexed : ∀ p, live p = true → ∀ n, p ∈ membersOf st.byUser n → st.user.lookup p.addr = some n
  not_self : ∀ r, r ∉ st.blockedBy r
  not_empty : ∀ r, "" ∉ st.blockedBy r

/-- A login moves its session in the reverse index. -/
theorem indexed_loginCommit {s p : Session} {l : Login} (haddr : p.addr = s.addr → p = s)
    (h : ∀ n, p ∈ membersOf st.byUser n → st.user.lookup p.addr = some n) (n : String)
    (hp : p ∈ membersOf (st.loginCommit s l).byUser n) :
    (st.loginCommit s l).user.lookup p.addr = some n := by
  have huser : (st.loginCommit s l).user.lookup p.addr =
      if p.addr = s.addr then some l.name else st.user.lookup p.addr := lookup_insert_ite ..
  rw [huser]
  obtain ⟨rfl, rfl⟩ | ⟨hp, hne⟩ := mem_byUser_loginCommit.mp hp
  · rw [if_pos rfl]
  · have hn := h n hp
    split_ifs with ha
    · obtain rfl := haddr ha
      exact absurd rfl (hne hn)
    · exact hn

theorem indexed_closeSession {s p : Session} (hnamed : Named st) (haddr : p.addr = s.addr → p = s)
    (h : ∀ n, p ∈ membersOf st.byUser n → st.user.lookup p.addr = some n) (n : String)
    (hp : p ∈ membersOf (st.closeSession live s).1.byUser n) :
    (st.closeSession live s).1.user.lookup p.addr = some n := by
  have huser := congrArg Identities.user (identities_closeSession live st s)
  change (st.closeSession live s).1.user = st.user.erase s.addr at huser
  rw [byUser_closeSession, mem_byUser_forgetSession] at hp
  obtain ⟨hp, hne⟩ := hp
  have hn := h n hp
  rw [huser, lookup_erase_ite]
  split_ifs with ha
  · -- the session that closes is taken off the list of its nickname
    obtain rfl := haddr ha
    have hempty : n ≠ "" := fun he => hnamed.ne_empty p.addr (he ▸ hn)
    exact absurd rfl (hne (nameOf_of_lookup hn).symm hempty)
  · exact hn

/-- Sections keep the lists right. -/
theorem wellListed_exec {c : Critical} (hnamed : Named st) (h : WellListed live st)
    (haddr : ∀ s, c.actor = some s → ∀ q, live q = true → q.addr = s.addr → q = s)
    (hadd : ∀ actor target, c = .blacklistAdd actor target → target ≠ "" ∧ target ≠ actor) :
    WellListed live (c.exec cfg live st).1 := by
  refine ⟨fun p hp n hmem => ?_, fun r hr => ?_, fun r hr => ?_⟩
  · by_cases hlogin : ∃ s l, c = .loginCommit s l
    · obtain ⟨s, l, rfl⟩ := hlogin
      exact indexed_loginCommit (haddr s rfl p hp) (h.indexed p hp) n hmem
    by_cases hclose : ∃ s, c = .close s
    · obtain ⟨s, rfl⟩ := hclose
      exact indexed_closeSession hnamed (haddr s rfl p hp) (h.indexed p hp) n hmem
    -- no other section touches nicknames
    have huser : (c.exec cfg live st).1.user = st.user := by
      obtain ⟨st', hst', hids⟩ := identified_exec cfg live st c
      refine (congrArg Identities.user hids).trans ?_
      cases hst' with
      | same | sessionUuid | register | setUserUuid => rfl
      | loginCommit s l => exact absurd ⟨s, l, rfl⟩ hlogin
      | closed s => exact absurd ⟨s, rfl⟩ hclose
    rw [huser]
    obtain hmem | ⟨l, rfl, -⟩ := listed_exec hmem
    · exact h.indexed p hp n hmem
    · exact absurd ⟨p, l, rfl⟩ hlogin
  · obtain hr | rfl := blockedBy_exec hr
    · exact h.not_self r hr
    · exact (hadd r r rfl).2 rfl
  · obtain hr | rfl := blockedBy_exec hr
    · exact h.not_empty r hr
    · exact (hadd r "" rfl).1 rfl

/-- Nobody has blocked the name they go by. -/
theorem WellListed.not_blocks_nameOf (h : WellListed live st) (t : Session) :
    ¬ st.Blocks t (st.nameOf t) := by
  rintro ⟨r, hr, hmem⟩
  rw [nameOf_of_lookup hr] at hmem
  exact h.not_self r hmem

theorem WellListed.not_blocks_empty (h : WellListed live st) (t : Session) : ¬ st.Blocks t "" := by
  rintro ⟨r, -, hmem⟩
  exact h.not_empty r hmem

/-- Whom a line reaches has not blocked its sender. -/
theorem not_blocks_of_mem_reachable {ts : List Session} (h : t ∈ st.reachable v ts) :
    ¬ st.Blocks t v := by
  rintro ⟨r, hr, hmem⟩
  have hfree := (mem_filter.mp h).2
  rw [Option.mem_def.mp hr] at hfree
  exact of_decide_eq_true hfree hmem

/-- The sessions of a user who has not blocked `v`. -/
theorem WellListed.not_blocks_of_mem_sessionsOf (h : WellListed live st)
    (ht : t ∈ st.sessionsOf live user) (hfree : v ∉ st.blockedBy user) : ¬ st.Blocks t v := by
  obtain ⟨hlive, hmem⟩ := RoomSet.mem_prune.mp ht
  rintro ⟨r, hr, hblocked⟩
  have hname := h.indexed t hlive user hmem
  obtain rfl := Option.mem_unique (Option.mem_def.mp hr) hname
  exact hfree hblocked

theorem blocks_congr {st' : State} (huser : st'.user = st.user)
    (hlists : st'.userBlacklists = st.userBlacklists) : st'.Blocks t v ↔ st.Blocks t v := by
  unfold Blocks
  rw [huser]
  simp only [blockedBy_congr hlists]

theorem blocks_pruneUser : (st.pruneUser live user).Blocks t v ↔ st.Blocks t v := by
  refine blocks_congr ?_ (congrArg Records.userBlacklists records_pruneUser)
  unfold pruneUser
  cases st.byUser.lookup user <;> rfl

end State

/-! ### Picking receivers -/

/-- What a task has learned picks session `t` to get a text of `v`. -/
inductive Fact.Picks (t : Session) (v : String) : Fact → Prop
  | passed (now : ℕ) : Picks t v (.passed t v now)
  | named : Picks t v (.named t v)
  | audience (room : String) (ts : List Session) (h : t ∈ ts) :
    Picks t v (.audience room (some v) ts)
  | everyone (room : String) (ts : List Session) (h : t ∈ ts) (hv : v = "") :
    Picks t v (.audience room none ts)
  | hearers (s : Option Session) (recipient : String) (ts : List Session) (h : t ∈ ts) :
    Picks t v (.hearers s v recipient ts)

open State in
/-- **Whoever is picked has not blocked the sender.** -/
theorem not_blocks_of_picks {cfg : Config} {live : Session → Bool} {st : State} {cr : Critical}
    {f : Fact} {t : Session} {v : String} (h : WellListed live st)
    (hf : f ∈ learned (.lock cr) (cr.exec cfg live st).2) (hpick : f.Picks t v) :
    ¬ (cr.exec cfg live st).1.Blocks t v := by
  have htells := tells_of_learned hf
  generalize hans : (cr.exec cfg live st).2 = a at htells
  cases hpick with
  | passed now =>
    cases htells with
    | passed s now sender =>
      show ¬ (st.moderate cfg live t now).1.Blocks t v
      have huser : (st.moderate cfg live t now).1.user = st.user :=
        congrArg Identities.user (identities_exec (c := .moderate t now) rfl cfg live st)
      rw [blocks_congr huser userBlacklists_moderate, (sender_of_passes hans).1]
      exact h.not_blocks_nameOf t
  | named =>
    cases htells with
    | named s name guest =>
      obtain rfl : st.nameOf t = v := congrArg Prod.fst hans
      exact h.not_blocks_nameOf t
  | audience room ts ht =>
    cases htells with
    | audience room sender ts =>
      rw [← hans] at ht
      exact not_blocks_of_mem_reachable ht
  | everyone room ts ht hv =>
    cases htells with
    | audience room sender ts =>
      subst hv
      have hrooms : (st.pruneRoom live room).Blocks t "" ↔ st.Blocks t "" := by
        refine blocks_congr ?_ (congrArg Records.userBlacklists records_pruneRoom)
        unfold pruneRoom
        cases st.rooms.lookup room <;> rfl
      exact hrooms.not.mpr (h.not_blocks_empty t)
  | hearers s recipient ts ht =>
    cases htells with
    | hearers s sender target found =>
      obtain rfl : (st.whisperTargets live s v recipient).2 = found := hans
      show ¬ (st.pruneUser live recipient).Blocks t v
      rw [blocks_pruneUser]
      unfold whisperTargets at ht
      dsimp only at ht
      split_ifs at ht with hblocked
      · cases ht
      · have hmem := mem_of_mem_filter (mem_of_mem_filter ht)
        refine h.not_blocks_of_mem_sessionsOf hmem fun hv => hblocked ?_
        simp [hv]
    | remoteHearers n ts =>
      change (st.remoteWhisperTargets live n).2 = ts at hans
      show ¬ (st.remoteWhisperTargets live n).1.Blocks t n.sender
      unfold remoteWhisperTargets at hans ⊢
      split_ifs at hans ⊢ with hblocked
      · subst hans
        cases ht
      · rw [blocks_pruneUser]
        subst hans
        exact h.not_blocks_of_mem_sessionsOf (mem_of_mem_filter ht) hblocked

/-- An operation brings a text of `v` to session `t`.  The service's own lines do not count. -/
def Op.Delivers (v : String) (t : Session) : Op → Prop
  | .send t' (.broadcast b _) => t' = t ∧ b.sender = v ∧ ¬ b.IsSystem
  | .send t' (.whisper n) => t' = t ∧ n.sender = v
  | .send t' (.snapshot snap) => t' = t ∧ ∃ m ∈ snap.messages, m.sender = v
  | _ => False

instance (v : String) (t : Session) (o : Op) : Decidable (o.Delivers v t) := by
  unfold Op.Delivers Broadcast.IsSystem
  split <;> infer_instance

/-- An operation shows a snapshot. -/
def Op.isSnapshot : Op → Bool
  | .send _ (.snapshot _) => true
  | _ => false

/-- A text is delivered only to a session that was picked, snapshots apart. -/
theorem picks_of_needs {cfg : Config} {j : Job} {K : Set Fact} {o : Op} {v : String} {t : Session}
    (hneed : Needs cfg j K o) (h : o.Delivers v t) (hsnap : o.isSnapshot = false) :
    ∃ f ∈ K, f.Picks t v := by
  cases o with
  | lock | redis | db | stop => cases h
  | send t' m =>
    cases m with
    | broadcast b self =>
      obtain ⟨rfl, rfl, hb⟩ := h
      obtain hsystem | ⟨⟨s, now, hs, hpassed⟩, ts, hts, ht | ht⟩ | ⟨room, ts, -, hts, ht⟩ := hneed
      · exact absurd hsystem hb
      · exact ⟨_, hts, .audience b.room ts ht⟩
      · obtain rfl := Option.mem_unique hs ht
        exact ⟨_, hpassed, .passed now⟩
      · by_cases hempty : b.sender = ""
        · rw [if_pos hempty] at hts
          exact ⟨_, hts, .everyone room ts ht hempty⟩
        · rw [if_neg hempty] at hts
          exact ⟨_, hts, .audience room ts ht⟩
    | whisper n =>
      obtain ⟨rfl, rfl⟩ := h
      obtain ⟨-, -, hname⟩ | ⟨ts, hts, ht⟩ := hneed
      · exact ⟨_, hname, .named⟩
      · exact ⟨_, hts, .hearers j.session n.recipient ts ht⟩
    | snapshot snap => cases hsnap
    | error | loginRes | refreshNotify | roomUsers | whisperResult => cases h

/-! ### Whole runs -/

/-- A section does not make the user of session `t` one who has blocked `v`: neither does the
    user block `v`, nor does somebody log in there who has. -/
def Critical.KeepsOpen (st : State) (t : Session) (v : String) : Critical → Prop
  | .blacklistAdd actor target => st.user.lookup t.addr = some actor → target ≠ v
  | .loginCommit s l => s.addr = t.addr → v ∉ st.blockedBy l.name
  | _ => True

instance (st : State) (t : Session) (v : String) (c : Critical) :
    Decidable (c.KeepsOpen st t v) := by
  unfold Critical.KeepsOpen
  split <;> infer_instance

open State in
/-- After such a section the user has still not blocked `v`. -/
theorem not_blocks_exec {cfg : Config} {live : Session → Bool} {st : State} {t : Session}
    {v : String} (h : ¬ st.Blocks t v) {c : Critical} (hc : c.KeepsOpen st t v) :
    ¬ (c.exec cfg live st).1.Blocks t v := by
  rintro ⟨r, hr, hmem⟩
  obtain hr | ⟨s, l, rfl, ha, rfl⟩ := user_exec hr
  · obtain hmem | rfl := blockedBy_exec hmem
    · exact h ⟨r, hr, hmem⟩
    · exact hc hr rfl
  · exact hc ha.symm hmem

namespace Instance

variable {cfg : Config} {x : Instance} {y : Stores}

theorem wellListed_step (hx : x.Sound cfg) (hnamed : x.st.Named) (h : x.st.WellListed x.live)
    (inp : Input) : (x.step cfg y inp).1.st.WellListed (x.step cfg y inp).1.live := by
  refine holds_step (P := fun st live => st.WellListed live) (A := fun _ => True)
    (B := fun _ => True) (D := fun _ => True) inp h ?_ ?_ ?_
    ⟨fun _ _ _ => trivial, fun _ _ _ => trivial, fun _ _ _ => trivial⟩
  · intro s hacc _
    refine ⟨fun p hp n hmem => ?_, h.not_self, h.not_empty⟩
    obtain rfl | hp := live_connected_iff.mp hp
    · -- a new session is listed nowhere
      exact absurd (hx.known_byUser n p hmem) (not_known_of_mayAccept hacc)
    · exact h.indexed p hp n hmem
  · intro k fate j o p ht _
    refine st_exec (P := State.WellListed x.live) h ?_
    rintro c rfl
    refine State.wellListed_exec hnamed h (fun s hs q hq => ?_) ?_
    · exact hx.addr_inj q s hq (live_of_actor hx ht hs)
    · rintro actor target rfl
      exact needs_of_task hx ht
  · intro s _ _ _
    exact ⟨fun p hp => h.indexed p (live_gone_iff.mp hp).2, h.not_self, h.not_empty⟩

end Instance

namespace Cluster

variable {cfg : ℕ → Config}

/-- **Whole runs.** The lists are right. -/
theorem wellListed_run {n : ℕ} {stores : Stores} {is : List Input} :
    ((cluster cfg).run (fresh n stores) is).All fun _ x => x.st.WellListed x.live := by
  have hall : ((cluster cfg).run (fresh n stores) is).All fun i x =>
      x.Sound (cfg i) ∧ x.st.Named ∧ x.st.WellListed x.live := by
    refine all_run (fun i x y inp hx => ?_) (all_fresh (fun i => ?_) n stores) is
    · exact ⟨sound_step hx.1 inp, named_step hx.1 hx.2.1 inp,
        wellListed_step hx.1 hx.2.1 hx.2.2 inp⟩
    · refine ⟨sound_new (cfg i), State.named_new, ?_⟩
      exact ⟨fun p hp => (nomatch hp), fun r hr => (nomatch hr), fun r hr => (nomatch hr)⟩
  exact fun i x hx => (hall i x hx).2.2

/-- A step of service `i` does not make the user of a session one who has blocked `v`. -/
def KeepsOpen (i : ℕ) (t : Session) (v : String) : Cluster → Input → Prop :=
  OnSections i fun x cr => cr.KeepsOpen x.st t v

instance (i : ℕ) (t : Session) (v : String) (c : Cluster) (inp : Input) :
    Decidable (KeepsOpen i t v c inp) := decidableOnSections i _ c inp

/-- **Blacklists hold for lines and whispers.** A task brings a text of `v` to a session, and not
    as part of a snapshot.  If the session's user has not blocked `v`, and nobody who has
    blocked `v` has logged in there, since the task picked the session as a receiver, then at
    the moment of the delivery the session's user has not blocked `v`. -/
theorem not_blocks_of_delivers (cfg : ℕ → Config) (n : ℕ) (stores : Stores) (is : List Input)
    (inp : Input) (act : Action) (v : String) (t : Session)
    (hact : act ∈ ((cluster cfg).step ((cluster cfg).run (fresh n stores) is) inp).2)
    (hdelivers : act.op.Delivers v t) (hsnap : act.op.isSnapshot = false)
    (hopen : ∀ is₁ inp₁ is₂, is = is₁ ++ inp₁ :: is₂ →
      ∀ pick ∈ ((cluster cfg).step ((cluster cfg).run (fresh n stores) is₁) inp₁).2,
        pick.inst = act.inst → pick.task = act.task →
        (∃ f ∈ learned pick.op pick.ans, f.Picks t v) →
        (cluster cfg).Guarded (KeepsOpen act.inst t v)
          ((cluster cfg).run (fresh n stores) (is₁ ++ [inp₁])) is₂) :
    ∀ x ∈ ((cluster cfg).run (fresh n stores) is).insts[act.inst]?, ¬ x.st.Blocks t v := by
  have hneed := needed_of_step (informed_run cfg n stores is) hact
  obtain ⟨f, ⟨e, he, pick, hpick, hinst, htask, hf⟩, hpicks⟩ :=
    picks_of_needs hneed hdelivers hsnap
  obtain ⟨is₁, is₂, rfl, hpre, hout⟩ := (cluster cfg).mem_trace.mp he
  rw [hpre] at hout
  have hstep := hout.symm.trans hpick
  have hguard := hopen is₁ e.input is₂ rfl pick hstep hinst htask ⟨f, hf, hpicks⟩
  rw [← hinst] at hguard ⊢
  obtain ⟨x, inp', hinp, hx, haction⟩ := action_of_step hstep
  obtain ⟨i, k, j, o, a⟩ := pick
  -- what a task learns about receivers it learns in a section
  obtain ⟨cr, rfl⟩ : ∃ cr, o = .lock cr := by
    cases hpicks <;> cases tells_of_learned hf <;> exact ⟨_, rfl⟩
  obtain ⟨fate, -, -, hans, -⟩ := exec_of_action haction
  have hafter : ∀ z ∈ ((cluster cfg).run (fresh n stores) (is₁ ++ [e.input])).insts[i]?,
      ¬ z.st.Blocks t v := by
    intro z hz
    rw [run_append, hinp] at hz
    rw [st_of_section hx (performs_of_action haction) hz]
    refine not_blocks_of_picks (wellListed_run i x hx) ?_ hpicks
    have hans' : a = (cr.exec (cfg i) x.live x.st).2 := hans
    rw [← hans']
    exact hf
  rw [show is₁ ++ e.input :: is₂ = is₁ ++ [e.input] ++ is₂ by simp, run_append]
  exact guarded_sections (P := fun st => ¬ st.Blocks t v)
    (fun x cr hx hG => not_blocks_exec hx hG) hafter hguard

end Cluster

/-- Alice and bob are logged in and in the lobby. -/
def bothInLobby : List Cluster.Input :=
  logIn 0 0 .one "alice" ++ logIn 0 1 .two "bob"

/-- Alice blocks bob, as task `k`. -/
def aliceBlocks (k : ℕ) : List Cluster.Input :=
  serve 0 k 10 (.chat .one "lobby" "/blacklist add bob" 0 .pass)

/-- Bob says something, as task `k`, of which `n` operations are performed. -/
def bobChats (k n : ℕ) : List Cluster.Input :=
  serve 0 k n (.chat .two "lobby" "hello" 0 .pass)

/-- Carol is in the lobby too, alice blocks bob, and bob says something, up to the moment when
    carol is to hear it. -/
def carolHears : List Cluster.Input :=
  bothInLobby ++ logIn 0 2 ⟨3, 30⟩ "carol" ++ aliceBlocks 3 ++ bobChats 4 9

open Cluster in
/-- Alice has blocked bob.  Carol hears bob's line, and has not. -/
theorem not_blocks_of_delivers_bob :
    (∃ x ∈ (samples.run (.fresh 1 {}) carolHears).insts[0]?, x.st.Blocks .one "bob") ∧
    ∃ act ∈ (samples.step (samples.run (.fresh 1 {}) carolHears) (.inst 0 (.advance 4 .done))).2,
      act.op.Delivers "bob" ⟨3, 30⟩ ∧
      ∀ x ∈ (samples.run (.fresh 1 {}) carolHears).insts[act.inst]?,
        ¬ x.st.Blocks ⟨3, 30⟩ "bob" := by
  refine ⟨by decide +kernel, ?_⟩
  have hsome : ∃ act ∈ (samples.step (samples.run
      (.fresh 1 {}) carolHears) (.inst 0 (.advance 4 .done))).2,
      act.op.Delivers "bob" ⟨3, 30⟩ ∧ act.op.isSnapshot = false ∧ act.inst = 0 := by
    decide +kernel
  have hguard : samples.Guarded (KeepsOpen 0 ⟨3, 30⟩ "bob") (.fresh 1 {}) carolHears := by
    decide +kernel
  obtain ⟨act, hact, hdelivers, hsnap, hinst⟩ := hsome
  refine ⟨act, hact, hdelivers, Cluster.not_blocks_of_delivers (fun _ => .sample) 1 {} _ _ act
    "bob" ⟨3, 30⟩ hact hdelivers hsnap ?_⟩
  intro is₁ inp₁ is₂ his pick _ _ _ _
  have hsplit : is₁ ++ inp₁ :: is₂ = is₁ ++ [inp₁] ++ is₂ := by simp
  rw [hinst]
  rw [his, hsplit] at hguard
  exact ((guarded_append _ _ _ _ _).mp hguard).2

/-- Bob says something, and then alice blocks bob.  The snapshot that alice gets next has the
    line. -/
theorem snapshot_shows_blocked :
    ∃ act ∈ (samples.step (samples.run (.fresh 1 {})
        (bothInLobby ++ bobChats 2 30 ++ aliceBlocks 3 ++ serve 0 4 18 (.refresh .one)))
        (.inst 0 (.advance 4 .done))).2,
      act.op.Delivers "bob" .one ∧
      ∃ x ∈ (samples.run (.fresh 1 {})
        (bothInLobby ++ bobChats 2 30 ++ aliceBlocks 3 ++ serve 0 4 18 (.refresh .one))).insts[
          act.inst]?,
        x.st.Blocks .one "bob" := by
  decide +kernel

end Knights.Chat
