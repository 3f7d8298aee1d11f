import Knights.Chat.Knowledge
import Knights.Chat.Membership
import Knights.Chat.Nicknames

namespace Knights.Chat

open Lib List Table Cluster Instance

/-!
# What is left of a session

When a connection ends, a job takes its session out of the tables.  Two things can go wrong.
The job runs among the other jobs of the session, and one that comes later may put the session
back; and no section ever takes a user row off the record, so that an entry of `userUuid`
outlives its session and its nickname.

* `Unmentioned` — no table mentions the session; `unmentioned_of_clean` — this is so for every
  session whose jobs have ended, if close was its last section that counts;
* `RowsCurrent` — the user rows on record are those of the current nicknames;
* `session_cleanup` — both for whole runs, with the conditions that they need.
-/

/-- The session that an operation makes the tables know. -/
def Op.recorded? : Op → Option Session
  | .lock (.sessionUuid s _) => some s
  | .lock (.register s) => some s
  | .lock (.loginCommit s _) => some s
  | .lock (.setUserUuid s _ _) => some s
  | _ => none

/-- The session that an operation closes. -/
def Op.closed? : Op → Option Session
  | .lock (.close s) => some s
  | _ => none

variable {o : Op} {c : Critical} {f : o.Ans → Handler Unit}

theorem Op.closed?_eq_some {s : Session} : o.closed? = some s ↔ o = .lock (.close s) := by
  constructor
  · intro h
    unfold Op.closed? at h
    split at h
    · cases h
      rfl
    · cases h
  · rintro rfl
    rfl

/-- What is asked of closes only can be decided. -/
instance decidableOnClose (Q : Session → Prop) [∀ s, Decidable (Q s)] (o : Op) :
    Decidable (∀ s, o = .lock (.close s) → Q s) :=
  decidable_of_iff (∀ s ∈ o.closed?, Q s)
    ⟨fun h s ho => h s (Op.closed?_eq_some.mpr ho), fun h s hs => h s (Op.closed?_eq_some.mp hs)⟩

namespace State

variable {cfg : Config} {live : Session → Bool} {st st' : State} {s p : Session} {a : ℕ}

/-- No table keyed by `Session*` has an entry for the address. -/
structure Forgotten (st : State) (a : ℕ) : Prop where
  authed : a ∉ st.authed
  guest : a ∉ st.guest
  user : st.user.lookup a = none
  userUuid : st.userUuid.lookup a = none
  sessionUuid : st.sessionUuid.lookup a = none
  curRoom : st.curRoom.lookup a = none
  sessionIp : st.sessionIp.lookup a = none
  sessionHwidHash : st.sessionHwidHash.lookup a = none

/-- No table mentions the session. -/
structure Unmentioned (st : State) (s : Session) : Prop extends Forgotten st s.addr where
  rooms : ∀ r, s ∉ membersOf st.rooms r
  byUser : ∀ n, s ∉ membersOf st.byUser n
  bySessionId : st.bySessionId.lookup s.id = none

/-- The tables keyed by sessions differ in the rooms only. -/
theorem Forgotten.of_identities (h : Forgotten st a) (hid : st'.identities = st.identities)
    (hcur : st'.curRoom.lookup a = none) : Forgotten st' a := by
  simp only [identities, Identities.mk.injEq] at hid
  obtain ⟨huser, huuid, hsession, hip, hhwid, hauthed, hguest, -⟩ := hid
  exact ⟨hauthed ▸ h.authed, hguest ▸ h.guest, huser ▸ h.user, huuid ▸ h.userUuid,
    hsession ▸ h.sessionUuid, hcur, hip ▸ h.sessionIp, hhwid ▸ h.sessionHwidHash⟩

/-- Entries for another address. -/
theorem lookup_insert_of_ne {V : Type} {t : Table ℕ V} {b : ℕ} {v : V} (h : t.lookup a = none)
    (hne : b ≠ a) : (t.insert b v).lookup a = none := by
  rw [AList.lookup_insert_ne hne.symm]
  exact h

theorem lookup_erase_none {V : Type} {t : Table ℕ V} {b : ℕ} (h : b = a ∨ t.lookup a = none) :
    (t.erase b).lookup a = none := by
  rw [lookup_erase_ite]
  split_ifs with ha
  · rfl
  · exact h.resolve_left fun hb => ha hb.symm

theorem forgotten_loginCommit {l : Login} (h : Forgotten st a) (hne : s.addr ≠ a) :
    Forgotten (st.loginCommit s l) a where
  authed := by
    show a ∉ insert s.addr st.authed
    rw [Finset.mem_insert, not_or]
    exact ⟨hne.symm, h.authed⟩
  guest := by
    show a ∉ if l.guestMode then insert s.addr st.guest else st.guest.erase s.addr
    split_ifs
    · rw [Finset.mem_insert, not_or]
      exact ⟨hne.symm, h.guest⟩
    · exact fun ha => h.guest (Finset.mem_of_mem_erase ha)
  user := lookup_insert_of_ne h.user hne
  userUuid := h.userUuid
  sessionUuid := h.sessionUuid
  curRoom := lookup_insert_of_ne h.curRoom hne
  sessionIp := lookup_insert_of_ne h.sessionIp hne
  sessionHwidHash := lookup_insert_of_ne h.sessionHwidHash hne

/-- A close forgets its session, the user row apart, and nobody else. -/
theorem forgotten_forgetSession (h : s.addr = a ∨ Forgotten st a)
    (huuid : st.userUuid.lookup a = none) :
    Forgotten { st.forgetSession s with curRoom := ∅ } a := by
  refine ⟨?_, ?_, ?_, huuid, ?_, rfl, ?_, ?_⟩
  · show a ∉ st.authed.erase s.addr
    rw [Finset.mem_erase]
    rintro ⟨hne, ha⟩
    exact (h.resolve_left (Ne.symm hne)).authed ha
  · show a ∉ st.guest.erase s.addr
    rw [Finset.mem_erase]
    rintro ⟨hne, ha⟩
    exact (h.resolve_left (Ne.symm hne)).guest ha
  · exact lookup_erase_none (h.imp id Forgotten.user)
  · exact lookup_erase_none (h.imp id Forgotten.sessionUuid)
  · exact lookup_erase_none (h.imp id Forgotten.sessionIp)
  · exact lookup_erase_none (h.imp id Forgotten.sessionHwidHash)

/-- **What is forgotten stays forgotten**, unless a section records the session or moves it out
    of a room. -/
theorem forgotten_exec (h : Forgotten st a)
    (hrec : ∀ p, (Op.lock c).recorded? = some p → p.addr ≠ a)
    (hrooms : ∀ r, ∀ p ∈ membersOf st.rooms r, p.addr ≠ a) :
    Forgotten (c.exec cfg live st).1 a := by
  have hcur : (c.exec cfg live st).1.curRoom.lookup a = none := by
    by_contra hnew
    obtain hold | ⟨p, rfl, ⟨-, ⟨l, rfl⟩ | hauthed⟩ | ⟨-, r, hp⟩⟩ := located_exec hnew
    · exact hold h.curRoom
    · exact hrec p rfl rfl
    · exact h.authed hauthed
    · exact hrooms r p hp rfl
  obtain ⟨st', hst', hids⟩ := identified_exec cfg live st c
  have hforgot : Forgotten { st' with curRoom := ∅ } a := by
    cases hst' with
    | same | register => exact { h with curRoom := rfl }
    | sessionUuid s fresh =>
      have hsession := lookup_insert_of_ne (v := fresh) h.sessionUuid (hrec s rfl)
      exact { h with sessionUuid := hsession, curRoom := rfl }
    | loginCommit s l => exact { forgotten_loginCommit h (hrec s rfl) with curRoom := rfl }
    | setUserUuid s name uid =>
      have huuid := lookup_insert_of_ne (v := uid) h.userUuid (hrec s rfl)
      exact { h with userUuid := huuid, curRoom := rfl }
    | closed s => exact forgotten_forgetSession (.inr h) h.userUuid
  exact hforgot.of_identities hids hcur

/-- Sessions are found by their ids only after they were registered. -/
theorem bySessionId_exec {id : ℕ} (h : (c.exec cfg live st).1.bySessionId.lookup id = some p) :
    (st.bySessionId.lookup id = some p ∧ ∀ s, c = .close s → id ≠ s.id) ∨
      c = .register p ∧ id = p.id := by
  obtain ⟨st', hst', hids⟩ := identified_exec cfg live st c
  have heq := congrArg Identities.bySessionId hids
  change (c.exec cfg live st).1.bySessionId = st'.bySessionId at heq
  rw [heq] at h
  cases hst' with
  | same hclose => exact .inl ⟨h, fun s hs => absurd hs (hclose s)⟩
  | sessionUuid | loginCommit | setUserUuid => exact .inl ⟨h, nofun⟩
  | register s =>
    change (st.bySessionId.insert s.id s).lookup id = some p at h
    rw [lookup_insert_ite] at h
    split_ifs at h with hs
    · cases h
      exact .inr ⟨rfl, hs⟩
    · exact .inl ⟨h, nofun⟩
  | closed s =>
    change (st.bySessionId.erase s.id).lookup id = some p at h
    rw [lookup_erase_ite] at h
    split_ifs at h with hs
    refine .inl ⟨h, ?_⟩
    rintro t ⟨⟩
    exact hs

end State

/-! ### Whole services -/

namespace Instance

open State

variable {cfg : Config} {x x' : Instance} {y : Stores} {D : Set Session} {s : Session} {j : Job}

/-- A job of the session is still to close it. -/
def owesClose (x : Instance) (s : Session) : Prop :=
  ∃ (k : ℕ) (j : Job) (p : Handler Unit), x.tasks[k]? = some (j, p) ∧ j.session = some s ∧
    p.Inevitable (.lock (.close s))

/-- The sessions that an input closes. -/
def closes (x : Instance) (inp : Input) : Set Session :=
  {s | ∃ j, x.performs inp = some (j, .lock (.close s))}

/-- The tables mention only sessions that were not closed yet; `D` are those that were. -/
structure Clean (cfg : Config) (D : Set Session) (x : Instance) : Prop where
  sound : x.Sound cfg
  named : x.st.Named
  placed : ∀ p, x.live p = true → x.st.Placed p
  listed : ∀ p, x.live p = true → x.st.Listed p
  id_inj : ∀ p q, x.known p → x.known q → p.id = q.id → p = q
  known : ∀ s ∈ D, x.known s
  closing : ∀ s, x.sessions.lookup s = some .closing → s ∈ D ∨ x.owesClose s
  gone : ∀ s, x.sessions.lookup s = some .gone → s ∈ D
  rooms : ∀ r, ∀ p ∈ membersOf x.st.rooms r, p ∉ D
  byUser : ∀ n, ∀ p ∈ membersOf x.st.byUser n, p ∉ D
  byId : ∀ id p, x.st.bySessionId.lookup id = some p → p.id = id ∧ x.known p ∧ p ∉ D
  forgotten : ∀ a, (∀ p, x.known p → p ∉ D → p.addr ≠ a) → x.st.Forgotten a

/-- A session that was not closed is alive. -/
theorem Clean.live (h : x.Clean cfg D) (hs : x.known s) (hD : s ∉ D) : x.live s = true := by
  unfold Instance.live
  cases hph : x.sessions.lookup s with
  | none => exact absurd hph hs
  | some ph =>
    cases ph with
    | connected => rfl
    | closing => rfl
    | gone => exact absurd (h.gone s hph) hD

/-- Of a session that was closed the tables know nothing, unless another living one has its
    address. -/
theorem Clean.unmentioned (h : x.Clean cfg D) (hs : s ∈ D)
    (haddr : ∀ t, x.live t = true → t.addr = s.addr → t = s) : x.st.Unmentioned s where
  toForgotten := by
    refine h.forgotten s.addr fun p hp hpD ha => hpD ?_
    rw [haddr p (h.live hp hpD) ha]
    exact hs
  rooms := fun r hr => h.rooms r s hr hs
  byUser := fun n hn => h.byUser n s hn hs
  bySessionId := by
    cases hid : x.st.bySessionId.lookup s.id with
    | none => rfl
    | some p =>
      obtain ⟨hps, hp, hpD⟩ := h.byId s.id p hid
      exact absurd (h.id_inj p s hp (h.known s hs) hps ▸ hs) hpD

/-- A session that the tables know was not closed. -/
theorem Clean.not_closed (h : x.Clean cfg D) (hs : x.live s = true)
    (hst : ¬ x.st.Forgotten s.addr) : s ∉ D := by
  intro hD
  refine hst (h.forgotten s.addr fun p hp hpD ha => hpD ?_)
  rw [h.sound.addr_inj p s (h.live hp hpD) hs ha]
  exact hD

/-- A session without a job under way that is no longer connected was closed. -/
theorem Clean.closed_of_idle (h : x.Clean cfg D) (hs : x.known s)
    (hph : x.sessions.lookup s ≠ some .connected) (hidle : x.idle s = true) : s ∈ D := by
  cases hlookup : x.sessions.lookup s with
  | none => exact absurd hlookup hs
  | some ph =>
    cases ph with
    | connected => exact absurd hlookup hph
    | gone => exact h.gone s hlookup
    | closing =>
      obtain hD | ⟨k, j, p, hk, hj, hp⟩ := h.closing s hlookup
      · exact hD
      · have hdone := all_eq_true.mp hidle _ (mem_of_getElem? hk)
        simp [hj, hp.isDone_eq_false] at hdone

/-- Logins take effect in the lobby or outside of rooms, and no user row is on record for a
    session that is closed. -/
def ClosesClean (x : Instance) (inp : Input) : Prop :=
  x.OnStep (fun _ => True) (fun o => (∀ s l, o = .lock (.loginCommit s l) →
        ∀ room, x.st.curRoom.lookup s.addr = some room → room = "lobby") ∧
      ∀ s, o = .lock (.close s) → x.st.userUuid.lookup s.addr = none)
    (fun _ => True) inp

instance (x : Instance) (inp : Input) : Decidable (x.ClosesClean inp) :=
  have : ∀ (s : Session) (_ : State.Login), Decidable (∀ room,
      x.st.curRoom.lookup s.addr = some room → room = "lobby") := fun s _ =>
    inferInstanceAs (Decidable (∀ room ∈ x.st.curRoom.lookup s.addr, room = "lobby"))
  inferInstanceAs (Decidable (x.OnStep _ _ _ inp))

/-! ### One step -/

theorem known_setPhase_iff {t : Session} {ph : Phase} :
    (x.setPhase s ph).known t ↔ t = s ∨ x.known t := by
  unfold known setPhase
  rw [lookup_insert_ite]
  split_ifs with hts
  · exact ⟨fun _ => .inl hts, fun _ => Option.some_ne_none _⟩
  · exact ⟨.inr, fun h => h.resolve_left hts⟩

/-- A new session: nobody alive has its address, so the tables know nothing of it. -/
theorem clean_accept (h : x.Clean cfg D) (hacc : x.mayAccept s = true)
    (hsound : (x.setPhase s .connected).Sound cfg) : (x.setPhase s .connected).Clean cfg D := by
  have hnew := mayAccept_iff.mp hacc
  have hforgot : x.st.Forgotten s.addr :=
    h.forgotten s.addr fun p hp hpD => (hnew p hp).2 (h.live hp hpD)
  have hlookup : ∀ t ph, ph ≠ .connected →
      (x.setPhase s .connected).sessions.lookup t = some ph → x.sessions.lookup t = some ph := by
    intro t ph hph ht
    change (x.sessions.insert s .connected).lookup t = some ph at ht
    rw [lookup_insert_ite] at ht
    split_ifs at ht with hts
    · exact absurd (Option.some.inj ht).symm hph
    · exact ht
  refine ⟨hsound, h.named, ?_, ?_, ?_, ?_, ?_, ?_, h.rooms, h.byUser, ?_, ?_⟩
  · have hs := (placed_of_mayAccept h.sound hacc).mpr hforgot.curRoom
    exact forall_live_connected.mpr ⟨hs, h.placed⟩
  · have hs := (listed_of_mayAccept h.sound hacc).mpr hforgot.user
    exact forall_live_connected.mpr ⟨hs, h.listed⟩
  · intro p q hp hq hpq
    rw [known_setPhase_iff] at hp hq
    obtain rfl | hp := hp
    · obtain rfl | hq := hq
      · rfl
      · exact absurd hpq.symm (hnew q hq).1
    · obtain rfl | hq := hq
      · exact absurd hpq (hnew p hp).1
      · exact h.id_inj p q hp hq hpq
  · exact fun t ht => known_setPhase (h.known t ht)
  · exact fun t ht => h.closing t (hlookup t .closing (by decide) ht)
  · exact fun t ht => h.gone t (hlookup t .gone (by decide) ht)
  · intro id p hid
    obtain ⟨hpid, hp, hpD⟩ := h.byId id p hid
    exact ⟨hpid, known_setPhase hp, hpD⟩
  · exact fun a ha => h.forgotten a fun p hp => ha p (known_setPhase hp)

theorem owesClose_enqueue (h : x.owesClose s) : (x.enqueue cfg j).owesClose s := by
  obtain ⟨k, j', p, hk, hj, hp⟩ := h
  obtain ⟨hlt, -⟩ := List.getElem?_eq_some_iff.mp hk
  exact ⟨k, j', p, (List.getElem?_append_left hlt).trans hk, hj, hp⟩

/-- Tasks may change, as long as they still close whom they have to. -/
theorem Clean.of_tasks (h : x.Clean cfg D) (hsound : x'.Sound cfg) (hst : x'.st = x.st)
    (hsessions : x'.sessions = x.sessions) (howes : ∀ s, x.owesClose s → x'.owesClose s) :
    x'.Clean cfg D := by
  obtain ⟨st, sessions, tasks, sent⟩ := x'
  cases hst
  cases hsessions
  exact ⟨hsound, h.named, h.placed, h.listed, h.id_inj, h.known,
    fun s hs => (h.closing s hs).imp id (howes s), h.gone, h.rooms, h.byUser, h.byId, h.forgotten⟩

/-- A known session goes on to another phase, for which there is the reason that it takes. -/
theorem Clean.of_phase (h : x.Clean cfg D) {ph : Phase} (hsound : x'.Sound cfg) (hst : x'.st = x.st)
    (hsessions : x'.sessions = x.sessions.insert s ph) (hs : x.known s)
    (hlive : ∀ t, x'.live t = true → x.live t = true) (hclosing : ph = .closing → x'.owesClose s)
    (hgone : ph = .gone → s ∈ D) (howes : ∀ t, x.owesClose t → x'.owesClose t) :
    x'.Clean cfg D := by
  have hknown : ∀ t, x'.known t ↔ x.known t := by
    intro t
    unfold Instance.known
    rw [hsessions, lookup_insert_ite]
    split_ifs with hts
    · exact iff_of_true (Option.some_ne_none _) (hts ▸ hs)
    · rfl
  have hlookup : ∀ t ph', x'.sessions.lookup t = some ph' →
      t = s ∧ ph = ph' ∨ x.sessions.lookup t = some ph' := by
    intro t ph' ht
    rw [hsessions, lookup_insert_ite] at ht
    split_ifs at ht with hts
    · exact .inl ⟨hts, Option.some.inj ht⟩
    · exact .inr ht
  refine ⟨hsound, hst ▸ h.named, fun p hp => hst ▸ h.placed p (hlive p hp),
    fun p hp => hst ▸ h.listed p (hlive p hp), ?_, ?_, ?_, ?_, hst ▸ h.rooms, hst ▸ h.byUser,
    ?_, ?_⟩
  · exact fun p q hp hq => h.id_inj p q ((hknown p).mp hp) ((hknown q).mp hq)
  · exact fun t ht => (hknown t).mpr (h.known t ht)
  · intro t ht
    obtain ⟨rfl, hph⟩ | ht := hlookup t _ ht
    · exact .inr (hclosing hph)
    · exact (h.closing t ht).imp id (howes t)
  · intro t ht
    obtain ⟨rfl, hph⟩ | ht := hlookup t _ ht
    · exact hgone hph
    · exact h.gone t ht
  · intro id p hid
    obtain ⟨hpid, hp, hpD⟩ := h.byId id p (hst ▸ hid)
    exact ⟨hpid, (hknown p).mpr hp, hpD⟩
  · exact fun a ha => hst ▸ h.forgotten a fun p hp => ha p ((hknown p).mpr hp)

/-- A connection ends: its session is no longer connected, and a job is to close it. -/
theorem clean_disconnect (h : x.Clean cfg D) {fresh : String}
    (hs : x.sessions.lookup s = some .connected)
    (hsound : ((x.setPhase s .closing).enqueue cfg (.close s fresh)).Sound cfg) :
    ((x.setPhase s .closing).enqueue cfg (.close s fresh)).Clean cfg D := by
  refine h.of_phase hsound rfl rfl (known_of_live (live_of_connected hs))
    (fun t ht => live_closing hs ▸ ht) (fun _ => ?_) nofun
    fun t ht => owesClose_enqueue (x := x.setPhase s .closing) ht
  refine ⟨x.tasks.length, .close s fresh, Handler.onSessionClose cfg s fresh, ?_, rfl, ?_⟩
  · exact List.getElem?_concat_length
  · exact .inr fun _ => .inr fun _ => .inl rfl

/-- A session object goes: all its jobs have ended, so it was closed. -/
theorem clean_destroy (h : x.Clean cfg D) (hs : x.sessions.lookup s = some .closing)
    (hidle : x.idle s = true) (hsound : (x.setPhase s .gone).Sound cfg) :
    (x.setPhase s .gone).Clean cfg D := by
  have hsknown : x.known s := fun hnone => Option.some_ne_none _ (hs.symm.trans hnone)
  refine h.of_phase hsound rfl rfl hsknown (fun t ht => (live_gone_iff.mp ht).2) nofun
    (fun _ => h.closed_of_idle hsknown ?_ hidle) fun _ ht => ht
  rw [hs]
  decide

section Perform

variable {k : ℕ} {j : Job} {c : Critical} {f : c.Ans → Handler Unit}
  (h : x.Clean cfg D) (ht : x.tasks[k]? = some (j, .act (.lock c) f))
  (hlate : ∀ s, (Op.lock c).recorded? = some s → s ∉ D)
include h ht hlate

theorem clean_rooms_exec (r : String) (p : Session)
    (hp : p ∈ membersOf (c.exec cfg x.live x.st).1.rooms r) : p ∉ D ∪ {s | c = .close s} := by
  rw [Set.mem_union, not_or]
  by_cases hclose : ∃ s, c = .close s
  · obtain ⟨s, rfl⟩ := hclose
    obtain ⟨hold, hstays⟩ := mem_rooms_closeSession.mp hp
    refine ⟨h.rooms r p hold, ?_⟩
    rintro ⟨⟩
    -- the session was in the room that it is taken out of
    have hs : x.live p = true := live_of_actor h.sound ht rfl
    exact (hstays ((h.placed p hs r).mp hold)).1 rfl
  · refine ⟨?_, fun hc => hclose ⟨p, hc⟩⟩
    obtain hold | ⟨-, ⟨l, rfl⟩ | ⟨room, denied, rfl, hauthed⟩ | ⟨-, n, hn⟩ | ⟨r', hr'⟩⟩ |
      ⟨req, rfl, -, hauthed, -⟩ := entered_exec hp
    · exact h.rooms r p hold
    · exact hlate p rfl
    · exact h.not_closed (live_of_actor h.sound ht rfl) fun hf => hf.authed hauthed
    · exact h.byUser n p hn
    · exact h.rooms r' p hr'
    · exact h.not_closed (live_of_actor h.sound ht rfl) fun hf => hf.authed hauthed

theorem clean_byUser_exec (n : String) (p : Session)
    (hp : p ∈ membersOf (c.exec cfg x.live x.st).1.byUser n) : p ∉ D ∪ {s | c = .close s} := by
  rw [Set.mem_union, not_or]
  by_cases hclose : ∃ s, c = .close s
  · obtain ⟨s, rfl⟩ := hclose
    change p ∈ membersOf (x.st.closeSession x.live s).1.byUser n at hp
    rw [byUser_closeSession] at hp
    obtain ⟨hold, hstays⟩ := mem_byUser_forgetSession.mp hp
    refine ⟨h.byUser n p hold, ?_⟩
    rintro ⟨⟩
    -- the session was listed under the nickname that it is taken off from
    have hs : x.live p = true := live_of_actor h.sound ht rfl
    have hname : x.st.user.lookup p.addr = some n := (h.listed p hs n).mp hold
    have hne : n ≠ "" := fun hn => h.named.ne_empty p.addr (hn ▸ hname)
    exact hstays (nameOf_of_lookup hname).symm hne rfl
  · refine ⟨?_, fun hc => hclose ⟨p, hc⟩⟩
    obtain hold | ⟨l, rfl, -⟩ := listed_exec hp
    · exact h.byUser n p hold
    · exact hlate p rfl

theorem clean_byId_exec (id : ℕ) (p : Session)
    (hp : (c.exec cfg x.live x.st).1.bySessionId.lookup id = some p) :
    p.id = id ∧ x.known p ∧ p ∉ D ∪ {s | c = .close s} := by
  rw [Set.mem_union, not_or]
  obtain ⟨hold, hclose⟩ | ⟨rfl, rfl⟩ := bySessionId_exec hp
  · obtain ⟨hid, hknown, hpD⟩ := h.byId id p hold
    exact ⟨hid, hknown, hpD, fun hc => hclose p hc hid.symm⟩
  · refine ⟨rfl, known_of_live (live_of_actor h.sound ht rfl), hlate p rfl, ?_⟩
    exact nofun

theorem clean_forgotten_exec (hclose : ∀ s, c = .close s → x.st.userUuid.lookup s.addr = none)
    (a : ℕ) (ha : ∀ p, x.known p → p ∉ D ∪ {s | c = .close s} → p.addr ≠ a) :
    (c.exec cfg x.live x.st).1.Forgotten a := by
  by_cases hc : ∃ s, c = .close s ∧ s.addr = a
  · obtain ⟨s, rfl, rfl⟩ := hc
    refine (forgotten_forgetSession (.inl rfl) (hclose s rfl)).of_identities
      (identities_closeSession x.live x.st s) ?_
    show (x.st.closeSession x.live s).1.curRoom.lookup s.addr = none
    rw [curRoom_closeSession]
    exact lookup_erase_none (.inl rfl)
  · have hother : ∀ p, x.known p → p ∉ D → p.addr ≠ a := by
      intro p hp hpD hpa
      refine ha p hp ?_ hpa
      rw [Set.mem_union, not_or]
      exact ⟨hpD, fun hcp => hc ⟨p, hcp, hpa⟩⟩
    refine forgotten_exec (h.forgotten a hother) (fun p hrec => ?_) fun r p hp => ?_
    · have hactor : c.actor = some p := by
        cases c <;> first | exact hrec | cases hrec
      exact hother p (known_of_live (live_of_actor h.sound ht hactor)) (hlate p hrec)
    · exact hother p (h.sound.known_rooms r p hp) (h.rooms r p hp)

end Perform

/-- Closing a session is what is owed until it is done. -/
theorem owesClose_perform {k : ℕ} {w : World} {ans : o.Ans} (ht : x.tasks[k]? = some (j, .act o f))
    (h : x.owesClose s) :
    o = .lock (.close s) ∨ (x.after (x.tasks.set k (j, f ans)) w).1.owesClose s := by
  obtain ⟨k', j', p, hk', hj, hp⟩ := h
  by_cases hkk : k = k'
  · subst hkk
    obtain ⟨rfl, rfl⟩ := Prod.mk.inj (Option.mem_unique ht hk')
    obtain ⟨hlt, -⟩ := List.getElem?_eq_some_iff.mp ht
    obtain ho | hrest := hp
    · exact .inl ho
    · exact .inr ⟨k, j, f ans, List.getElem?_set_self hlt, hj, hrest ans⟩
  · exact .inr ⟨k', j', p, (List.getElem?_set_ne hkk).trans hk', hj, hp⟩

/-- An operation, in particular a section. -/
theorem clean_perform {k : ℕ} {fate : Fate} (h : x.Clean cfg D)
    (ht : x.tasks[k]? = some (j, .act o f))
    (hsound : (x.after (x.tasks.set k (j, f (o.exec cfg fate (x.world y)).2))
      (o.exec cfg fate (x.world y)).1).1.Sound cfg) (hlate : ∀ s, o.recorded? = some s → s ∉ D)
    (hlogin : ∀ s l, o = .lock (.loginCommit s l) →
      ∀ room, x.st.curRoom.lookup s.addr = some room → room = "lobby")
    (hclose : ∀ s, o = .lock (.close s) → x.st.userUuid.lookup s.addr = none) :
    (x.after (x.tasks.set k (j, f (o.exec cfg fate (x.world y)).2))
      (o.exec cfg fate (x.world y)).1).1.Clean cfg (D ∪ {s | o = .lock (.close s)}) := by
  have hno : (∀ s, o ≠ .lock (.close s)) → D ∪ {s | o = .lock (.close s)} = D :=
    fun hne => Set.union_eq_left.mpr fun s hs => absurd hs (hne s)
  cases o with
  | lock c =>
    have hset : {s | Op.lock c = .lock (.close s)} = {s | c = .close s} := by
      ext s
      simp only [Set.mem_ofPred_eq, Op.lock.injEq]
    rw [hset]
    have hactor : ∀ s, c.actor = some s → x.live s = true := fun s hs =>
      live_of_actor h.sound ht hs
    have hplaced : ∀ p, x.live p = true → ((Op.lock c).exec cfg fate (x.world y)).1.st.Placed p :=
      (consistent_perform_iff h.sound h.placed ht).mpr hlogin
    refine ⟨hsound, ?_, hplaced, ?_, h.id_inj, ?_, ?_, fun s hs => .inl (h.gone s hs),
      clean_rooms_exec h ht hlate, clean_byUser_exec h ht hlate, clean_byId_exec h ht hlate,
      clean_forgotten_exec h ht hlate fun s hs => hclose s (congrArg Op.lock hs)⟩
    · refine named_exec h.named ?_
      rintro s l rfl
      exact (needs_of_task h.sound ht).2.1
    · intro p hp
      refine listed_exec_of_live h.named (h.listed p hp) hp fun s hs => ?_
      exact h.sound.addr_inj p s hp (hactor s hs)
    · rintro s (hs | rfl)
      · exact h.known s hs
      · exact known_of_live (hactor s rfl)
    · intro s hs
      obtain hD | howes := h.closing s hs
      · exact .inl (.inl hD)
      · exact (owesClose_perform ht howes).imp (fun ho => .inr (Op.lock.inj ho)) id
  | redis | db | send | stop =>
    rw [hno nofun]
    refine h.of_tasks hsound rfl rfl fun s howes => ?_
    exact (owesClose_perform ht howes).resolve_left nofun

/-- **One step** keeps a service clean, if it records no session that was closed. -/
theorem clean_step (h : x.Clean cfg D) (inp : Input) (hG : x.ClosesClean inp)
    (hlate : ∀ j o, x.performs inp = some (j, o) → ∀ s, o.recorded? = some s → s ∉ D) :
    (x.step cfg y inp).1.Clean cfg (D ∪ x.closes inp) := by
  have hsound := sound_step (y := y) h.sound inp
  have hmoves := x.moves_step cfg y inp
  have hquiet : x.performs inp = none → D ∪ x.closes inp = D := by
    intro hnone
    refine Set.union_eq_left.mpr ?_
    rintro s ⟨j, hj⟩
    rw [hnone] at hj
    cases hj
  generalize (x.step cfg y inp).1 = x' at hmoves hsound ⊢
  generalize (x.step cfg y inp).2 = y' at hmoves
  cases hmoves with
  | idle _ hno =>
    rw [hquiet (performs_of_not_allows hno)]
    exact h
  | accept s hacc =>
    rw [hquiet rfl]
    exact clean_accept h hacc hsound
  | submit j hj =>
    rw [hquiet rfl]
    exact h.of_tasks hsound rfl rfl fun _ => owesClose_enqueue
  | disconnect s fresh hs =>
    rw [hquiet rfl]
    exact clean_disconnect h hs hsound
  | perform k fate j o f ht =>
    have hperf : x.performs (.advance k fate) = some (j, o) := performs_of_task ht
    have hcloses : x.closes (.advance k fate) = {s | o = .lock (.close s)} := by
      ext s
      simp only [closes, Set.mem_ofPred_eq, hperf, Option.some.injEq, Prod.mk.injEq,
        exists_and_right, exists_eq', true_and]
    rw [hcloses]
    obtain ⟨hlogin, hclose⟩ := hG.perform j o hperf
    exact clean_perform h ht hsound (hlate j o hperf) hlogin hclose
  | destroy s hs hidle =>
    rw [hquiet rfl]
    exact clean_destroy h hs hidle hsound

theorem clean_new (cfg : Config) : ({} : Instance).Clean cfg ∅ where
  sound := sound_new cfg
  named := named_new
  placed := nofun
  listed := nofun
  id_inj := fun _ _ h => absurd rfl h
  known := fun _ h => h.elim
  closing := nofun
  gone := nofun
  rooms := nofun
  byUser := nofun
  byId := nofun
  forgotten := fun a _ => ⟨Finset.notMem_empty a, Finset.notMem_empty a, rfl, rfl, rfl, rfl, rfl,
    rfl⟩

end Instance

/-! ### The history of closes -/

/-- The sessions that service `i` has closed. -/
def closedIn (tr : List ClusterEvent) (i : ℕ) : Set Session :=
  {s | ∃ e ∈ tr, ∃ act ∈ e.output, act.inst = i ∧ act.op = .lock (.close s)}

/-- A session that the first event closes is not recorded by the second. -/
def ClosedForGood (e e' : ClusterEvent) : Prop :=
  ∀ act ∈ e.output, ∀ act' ∈ e'.output, act.inst = act'.inst →
    ∀ s ∈ act.op.closed?, act'.op.recorded? ≠ some s

instance : DecidableRel ClosedForGood := fun e e' =>
  inferInstanceAs (Decidable (∀ act ∈ e.output, ∀ act' ∈ e'.output, act.inst = act'.inst →
    ∀ s ∈ act.op.closed?, act'.op.recorded? ≠ some s))

theorem closedIn_concat (tr : List ClusterEvent)
    (e : ClusterEvent) (i : ℕ) : closedIn (tr ++ [e]) i =
      closedIn tr i ∪ {s | ∃ act ∈ e.output, act.inst = i ∧ act.op = .lock (.close s)} := by
  ext s
  simp only [closedIn, Set.mem_union, Set.mem_ofPred_eq, mem_append, mem_singleton,
    or_and_right, exists_or, exists_eq_left]

variable {tr : List ClusterEvent}
  {e : ClusterEvent} {is : List Cluster.Input} {i : ℕ}

/-- What another service does is no matter here. -/
theorem closedIn_concat_of_ne (h : ∀ act ∈ e.output, act.inst ≠ i) :
    closedIn (tr ++ [e]) i = closedIn tr i := by
  rw [closedIn_concat, Set.union_eq_left]
  rintro s ⟨act, hact, hi, -⟩
  exact absurd hi (h act hact)

theorem closedIn_concat_of_quiet (h : e.output = none) :
    closedIn (tr ++ [e]) i = closedIn tr i := by
  refine closedIn_concat_of_ne fun act hact => ?_
  rw [h] at hact
  cases hact

/-- What an input closes at a service, seen from outside. -/
theorem closes_eq {cfg : Config} {x : Instance} {y : Stores} {inp : Input} :
    {s | ∃ act ∈ x.action cfg i y inp, act.inst = i ∧ act.op = .lock (.close s)} =
      x.closes inp := by
  ext s
  constructor
  · rintro ⟨act, hact, -, hop⟩
    exact ⟨act.job, hop ▸ performs_of_action hact⟩
  · rintro ⟨j, hj⟩
    obtain ⟨k, ans, hact⟩ := exists_action hj
    exact ⟨_, hact, rfl, rfl⟩

/-- **Clean runs.** -/
theorem clean_run (cfg : ℕ → Config) (n : ℕ) (stores : Stores)
    (hG : (cluster cfg).Guarded (Cluster.Each Instance.ClosesClean) (.fresh n stores) is)
    (hlast : ((cluster cfg).trace (.fresh n stores) is).Pairwise ClosedForGood) :
    ((cluster cfg).run (.fresh n stores) is).All fun i x =>
      x.Clean (cfg i) (closedIn ((cluster cfg).trace (.fresh n stores) is) i) := by
  refine (cluster cfg).guarded_trace_invariant
    (fun tr c => tr.Pairwise ClosedForGood → c.All fun i x => x.Clean (cfg i) (closedIn tr i))
    (Cluster.Each Instance.ClosesClean) ?_ ?_ hG hlast
  · intro tr c inp ih hG hpw
    obtain ⟨hpw, -, hnew⟩ := pairwise_append.mp hpw
    have hall := ih hpw
    cases inp with
    | inst i inp =>
      cases hx : c.insts[i]? with
      | none =>
        rw [next_inst_none hx, step_inst_none hx]
        intro j z hz
        rw [closedIn_concat_of_quiet rfl]
        exact hall j z hz
      | some x =>
        rw [step_inst hx] at hnew ⊢
        intro j z hz
        by_cases hij : i = j
        · subst hij
          rw [next_inst_self hx] at hz
          obtain rfl := Option.some.inj hz
          rw [closedIn_concat, closes_eq]
          refine clean_step (hall i x hx) inp (hG x hx) ?_
          rintro j o hperf s hrec ⟨e, he, act, hact, rfl, hop⟩
          obtain ⟨k, ans, hans⟩ := exists_action hperf
          exact hnew e he _ (mem_singleton.mpr rfl) act hact _ hans rfl s
            (Op.closed?_eq_some.mpr hop) hrec
        · rw [next_inst hx, List.getElem?_set_ne hij] at hz
          rw [closedIn_concat_of_ne fun act hact => ?_]
          · exact hall j z hz
          · obtain ⟨-, -, -, hact, -⟩ := action_eq_some hact
            exact hact ▸ hij
    | expirePassword | expireMessage =>
      intro j z hz
      rw [closedIn_concat_of_quiet rfl]
      exact hall j z hz
  · intro _
    refine all_fresh (fun i => ?_) n stores
    have hempty : closedIn [] i = ∅ := by
      refine Set.eq_empty_iff_forall_notMem.mpr ?_
      rintro s ⟨e, he, -⟩
      cases he
    rw [hempty]
    exact clean_new (cfg i)

/-! ### User rows -/

namespace State

variable {cfg : Config} {live : Session → Bool} {lower : String → String} {d d' : Db} {st : State}

/-- The user rows on record are those of the current nicknames. -/
def RowsCurrent (lower : String → String) (d : Db) (st : State) : Prop :=
  ∀ a uid, st.userUuid.lookup a = some uid →
    ∃ name, st.user.lookup a = some name ∧ (Fact.userRow name uid).Holds lower d

theorem RowsCurrent.mono (h : RowsCurrent lower d st) (hd : d.Grows d') :
    RowsCurrent lower d' st := by
  intro a uid huid
  obtain ⟨name, hname, hrow⟩ := h a uid huid
  exact ⟨name, hname, hrow.mono hd⟩

/-- Sections keep the user rows current, if logins find none or that of their own name, rows
    are recorded for the current name, and nobody is closed who has one. -/
theorem rowsCurrent_exec (h : RowsCurrent lower d st)
    (hlogin : ∀ s l, c = .loginCommit s l → st.userUuid.lookup s.addr ≠ none →
      st.user.lookup s.addr = some l.name) (hset : ∀ s name uid, c = .setUserUuid s name uid →
      st.user.lookup s.addr = some name ∧ (Fact.userRow name uid).Holds lower d)
    (hclose : ∀ s, c = .close s → st.userUuid.lookup s.addr = none) :
    RowsCurrent lower d (c.exec cfg live st).1 := by
  obtain ⟨st', hst', hids⟩ := identified_exec cfg live st c
  have huser := congrArg Identities.user hids
  change (c.exec cfg live st).1.user = st'.user at huser
  have huuid := congrArg Identities.userUuid hids
  change (c.exec cfg live st).1.userUuid = st'.userUuid at huuid
  unfold RowsCurrent
  rw [huser, huuid]
  cases hst' with
  | same | sessionUuid | register => exact h
  | loginCommit s l =>
    intro a uid huid
    obtain ⟨name, hname, hrow⟩ := h a uid huid
    show ∃ name, (st.user.insert s.addr l.name).lookup a = some name ∧ _
    rw [lookup_insert_ite]
    split_ifs with ha
    · subst ha
      have hown := hlogin s l rfl fun hnone => by
        rw [show st.userUuid.lookup s.addr = some uid from huid] at hnone
        cases hnone
      obtain rfl : name = l.name := Option.mem_unique hname hown
      exact ⟨l.name, rfl, hrow⟩
    · exact ⟨name, hname, hrow⟩
  | setUserUuid s name uid =>
    intro a uid' huid
    obtain ⟨rfl, rfl⟩ | ⟨-, huid⟩ := lookup_insert_eq_some.mp huid
    · exact ⟨name, hset s name uid rfl⟩
    · exact h a uid' huid
  | closed s =>
    intro a uid ha
    obtain ⟨name, hname, hrow⟩ := h a uid ha
    refine ⟨name, ?_, hrow⟩
    show (st.user.erase s.addr).lookup a = some name
    rw [lookup_erase_ite, if_neg]
    · exact hname
    · rintro rfl
      cases ha.symm.trans (hclose s rfl)

end State

/-- The operation makes the row of a user. -/
def Op.createsGuest : Op → Bool
  | .db (.createGuest _) => true
  | _ => false

/-- The transaction of an operation is not committed. -/
def Input.aborts : Input → Bool
  | .advance _ .aborted => true
  | _ => false

/-- A login finds no user row on record or has the name of the one there is, a row is recorded
    while its name is the session's nickname, no session is closed that has one, and a user's new
    row is committed. -/
def Instance.KeepsRows (x : Instance) (inp : Input) : Prop :=
  x.OnStep (fun _ => True)
    (fun o => (∀ s l, o = .lock (.loginCommit s l) → x.st.userUuid.lookup s.addr ≠ none →
        x.st.user.lookup s.addr = some l.name) ∧
      (∀ s name uid, o = .lock (.setUserUuid s name uid) → x.st.user.lookup s.addr = some name) ∧
      (∀ s, o = .lock (.close s) → x.st.userUuid.lookup s.addr = none) ∧
      (o.createsGuest = true → inp.aborts = false))
    (fun _ => True) inp

/-- The user row that an operation records, with the session and the name it is for. -/
def Op.userRow? : Op → Option (Session × String × UserId)
  | .lock (.setUserUuid s name uid) => some (s, name, uid)
  | _ => none

theorem Op.userRow?_eq_some {s : Session} {name : String} {uid : UserId} :
    o.userRow? = some (s, name, uid) ↔ o = .lock (.setUserUuid s name uid) := by
  constructor
  · intro h
    unfold Op.userRow? at h
    split at h
    · cases h
      rfl
    · cases h
  · rintro rfl
    rfl

instance (x : Instance) (inp : Input) : Decidable (x.KeepsRows inp) :=
  have : DecidablePred fun o : Op => ∀ s name uid, o = .lock (.setUserUuid s name uid) →
      x.st.user.lookup s.addr = some name := fun o =>
    decidable_of_iff (∀ r ∈ o.userRow?, x.st.user.lookup r.1.addr = some r.2.1)
      ⟨fun h s name uid ho => h (s, name, uid) (Op.userRow?_eq_some.mpr ho),
        fun h r hr => h r.1 r.2.1 r.2.2 (Op.userRow?_eq_some.mp hr)⟩
  inferInstanceAs (Decidable (x.OnStep _ _ _ inp))

/-- What is known of user rows is true. -/
def rowFacts (lower : String → String) (d : Db) : Set Fact :=
  {f | ∀ name uid, f = .userRow name uid → f.Holds lower d}

/-- User rows are learned from the database only. -/
theorem exists_db_of_userRow {name : String} {uid : UserId} {a : o.Ans}
    (h : .userRow name uid ∈ learned o a) : ∃ c, o = .db c := by
  cases tells_of_learned h with
  | foundUser | createdUser => exact ⟨_, rfl⟩

/-- What is learned of user rows in a step is true after it. -/
theorem learned_subset_rowFacts {cfg : ℕ → Config} {c : Cluster} {inp : Cluster.Input}
    {act : Action} (hact : ((cluster cfg).step c inp).2 = some act) :
    learned act.op act.ans ⊆
      rowFacts (cfg act.inst).lower ((cluster cfg).next c inp).stores.db := by
  rintro f hf name uid rfl
  obtain ⟨cmd, hcmd⟩ := exists_db_of_userRow hf
  obtain ⟨x, fate, -, hans, hstores⟩ := exec_of_step hact
  rw [hstores]
  rw [hans] at hf
  generalize act.op = o at hcmd hf ⊢
  subst hcmd
  exact holds_of_learned_db hf

/-- **Current rows along runs.** -/
theorem rowsCurrent_run (cfg : ℕ → Config) (n : ℕ) (stores : Stores)
    (hG : (cluster cfg).Guarded (Cluster.Each Instance.KeepsRows) (.fresh n stores) is) :
    ((cluster cfg).run (.fresh n stores) is).All fun i x =>
      x.st.RowsCurrent (cfg i).lower ((cluster cfg).run (.fresh n stores) is).stores.db := by
  refine ((cluster cfg).guarded_invariant
    (fun c => c.Informed cfg (fun i _ => rowFacts (cfg i).lower c.stores.db) ∧
      c.All fun i x => x.st.RowsCurrent (cfg i).lower c.stores.db)
    (Cluster.Each Instance.KeepsRows) ?_ ⟨informed_fresh _ n stores, ?_⟩ hG).2
  · rintro c inp ⟨hK, hrows⟩ hG
    have hgrows := grows_next cfg c inp
    refine ⟨informed_next hK ?_ fun act hact => learned_subset_rowFacts hact, ?_⟩
    · exact fun i _ f hf name uid heq => (hf name uid heq).mono hgrows
    intro i z hz
    obtain ⟨x, hx, hsame | ⟨inp', j, cr, rfl, hperforms, hst⟩⟩ := st_next hz
    · rw [hsame]
      exact (hrows i x hx).mono hgrows
    obtain ⟨hlogin, hset, hclose, -⟩ := (hG x hx).perform j (.lock cr) hperforms
    rw [hst]
    refine State.rowsCurrent_exec ((hrows i x hx).mono hgrows) ?_ ?_ ?_
    · rintro s l rfl
      exact hlogin s l rfl
    · rintro s name uid rfl
      -- the job has learned that the row is one of the name
      obtain ⟨k, hneeds⟩ := needed_of_section hK hx hperforms
      exact ⟨hset s name uid rfl, (hneeds.2 name uid rfl).mono hgrows⟩
    · rintro s rfl
      exact hclose s rfl
  · exact all_fresh (fun i a uid h => nomatch h) n stores

theorem mem_users_apply {committed : Bool} {c : Db.Cmd} {d : Db} {u : UserRow}
    (hu : u ∈ (d.apply committed c).users) :
    u ∈ d.users ∨ u.committed = committed ∧ (Op.db c).createsGuest = true := by
  cases c
  case createGuest name =>
    refine (mem_append.mp hu).imp_right fun hu => ?_
    rw [mem_singleton.mp hu]
    exact ⟨rfl, rfl⟩
  case upsertJoin uid rid =>
    obtain ⟨seen, hseen⟩ := d.upsertJoin_eq uid rid
    exact .inl ((congrArg (u ∈ ·.users) hseen).mp hu)
  case updateLastSeen uid rid id =>
    obtain ⟨seen, hseen⟩ := d.setLastSeen_eq uid rid id
    exact .inl ((congrArg (u ∈ ·.users) hseen).mp hu)
  all_goals exact .inl hu

/-- A row of `users` is an old one, or committed, or of a transaction that was not. -/
theorem mem_users_exec {lower : String → String} {c : Db.Cmd} {fate : Fate} {d : Db} {u : UserRow}
    (hu : u ∈ (Db.exec lower c fate d).1.users) :
    u ∈ d.users ∨ u.committed = true ∨ fate = .aborted ∧ (Op.db c).createsGuest = true := by
  obtain hsame | ⟨committed, hdb, haborted⟩ := Db.exec_cases lower c fate d
  · exact .inl (hsame ▸ hu)
  · refine (mem_users_apply (hdb ▸ hu)).imp_right fun ⟨hu, hguest⟩ => ?_
    cases committed with
    | true => exact .inl hu
    | false => exact .inr ⟨haborted rfl, hguest⟩

/-- Users stay committed, as long as new ones are. -/
theorem committed_next {cfg : ℕ → Config} {c : Cluster} {inp : Cluster.Input}
    (h : ∀ u ∈ c.stores.db.users, u.committed = true) (hG : c.Each Instance.KeepsRows inp) :
    ∀ u ∈ ((cluster cfg).next c inp).stores.db.users, u.committed = true := by
  intro u hu
  cases hact : ((cluster cfg).step c inp).2 with
  | none =>
    obtain hsame | ⟨room, rfl⟩ | ⟨id, rfl⟩ := stores_of_no_action hact
    · exact h u (hsame ▸ hu)
    · exact h u hu
    · exact h u hu
  | some act =>
    obtain ⟨x, inp', rfl, hx, hact⟩ := action_of_step hact
    obtain ⟨fate, p, -, -, hstep, rfl⟩ := exec_of_action hact
    obtain ⟨-, -, -, hcommit⟩ := (hG x hx).perform _ _ (performs_of_action hact)
    rw [next_inst hx, hstep] at hu
    obtain ⟨i, k, j, o, a⟩ := act
    cases o with
    | db cmd =>
      obtain hold | hnew | ⟨rfl, hguest⟩ := mem_users_exec hu
      · exact h u hold
      · exact hnew
      · cases hcommit hguest
    | lock | redis | send | stop => exact h u hu

/-! ### Both -/

open Instance in
/-- **Cleanup.** Runs of services from their start, whatever the stores hold:

    1. Suppose that logins take effect in the lobby or outside of rooms, that no user row is on
       record for a session when it is closed, and that no session is recorded after it was
       closed.  Then no table mentions a session whose connection has ended and whose jobs
       have, unless a later session has its address.
    2. Suppose that logins find no user row on record or that of their own name, that rows are
       recorded while the nickname is the one they belong to, that no user row is on record for
       a session when it is closed, and that the rows of users are committed.  Then every user row
       on record is a committed one of the nickname that its session has. -/
theorem session_cleanup (cfg : ℕ → Config) (n : ℕ) (stores : Stores) (is : List Cluster.Input) :
    ((cluster cfg).Guarded (Cluster.Each ClosesClean) (.fresh n stores) is →
      ((cluster cfg).trace (.fresh n stores) is).Pairwise ClosedForGood →
      ((cluster cfg).run (.fresh n stores) is).All fun _ x =>
        ∀ s, x.known s → x.sessions.lookup s ≠ some .connected → x.idle s = true →
          (∀ t, x.live t = true → t.addr = s.addr → t = s) → x.st.Unmentioned s) ∧
    ((∀ u ∈ stores.db.users, u.committed = true) →
      (cluster cfg).Guarded (Cluster.Each KeepsRows) (.fresh n stores) is →
      ((cluster cfg).run (.fresh n stores) is).All fun i x =>
        ∀ a uid, x.st.userUuid.lookup a = some uid → ∃ name, x.st.user.lookup a = some name ∧
          ∃ u ∈ ((cluster cfg).run (.fresh n stores) is).stores.db.users, u.committed = true ∧
            u.id = uid ∧ (cfg i).lower u.name = (cfg i).lower name) := by
  refine ⟨fun hG hlast i x hx s hs hph hidle haddr => ?_, fun hstart hG i x hx a uid huid => ?_⟩
  · have hclean := clean_run cfg n stores hG hlast i x hx
    exact hclean.unmentioned (hclean.closed_of_idle hs hph hidle) haddr
  · obtain ⟨name, hname, u, hu, hrow⟩ := rowsCurrent_run cfg n stores hG i x hx a uid huid
    have hcommitted := (cluster cfg).guarded_invariant
      (fun c => ∀ u ∈ c.stores.db.users, u.committed = true) (Cluster.Each KeepsRows)
      (fun _ _ h hG => committed_next h hG) hstart hG
    exact ⟨name, hname, u, hu, hcommitted u hu, hrow⟩

/-- A session logs in. -/
def oneLogin : List Cluster.Input := logIn 0 0 .one "alice"

/-- Its connection ends, and it is closed. -/
def oneClose : List Cluster.Input := .inst 0 (.disconnect .one "") :: work 0 1 30

/-- A service without a database forgets the session, and one with a database has its row on
    record until then. -/
theorem session_cleanup_oneLogin :
    (∃ x, ((cluster fun _ => { Config.sample with hasDb := false }).run (.fresh 1 {})
        (oneLogin ++ oneClose)).insts[0]? = some x ∧ x.st.Unmentioned .one) ∧
    ∃ x, (samples.run (.fresh 1 {}) oneLogin).insts[0]? = some x ∧
      x.st.userUuid.lookup Session.one.addr = some 0 ∧
      ∃ name, x.st.user.lookup Session.one.addr = some name ∧
        ∃ u ∈ (samples.run (.fresh 1 {}) oneLogin).stores.db.users,
          u.committed = true ∧ u.id = 0 ∧ toLowerAscii u.name = toLowerAscii name := by
  constructor
  · obtain ⟨x, hx, hph, hidle, hkeys⟩ : ∃ x ∈ ((cluster fun _ => { Config.sample with
        hasDb := false }).run (.fresh 1 {}) (oneLogin ++ oneClose)).insts[0]?,
          x.sessions.lookup .one = some .closing ∧ x.idle .one ∧ x.sessions.keys = [.one] := by
      decide +kernel
    have hone : ∀ t, x.live t = true → t = .one := by
      intro t ht
      have hmem : t ∈ x.sessions.keys := by
        by_contra hnot
        exact known_of_live ht (AList.lookup_eq_none.mpr hnot)
      rw [hkeys] at hmem
      exact mem_singleton.mp hmem
    refine ⟨x, hx, (session_cleanup (fun _ => { Config.sample with hasDb := false }) 1 {}
      (oneLogin ++ oneClose)).1 (by decide +kernel) (by decide +kernel) 0 x hx .one ?_ ?_ hidle
      fun t ht _ => hone t ht⟩
    · exact fun hnone => by
        rw [hph] at hnone
        cases hnone
    · rw [hph]
      decide
  · obtain ⟨x, hx, huid⟩ : ∃ x ∈ (samples.run (.fresh 1 {}) oneLogin).insts[0]?,
        x.st.userUuid.lookup Session.one.addr = some 0 := by
      decide +kernel
    unfold samples at hx ⊢
    have hrows := (session_cleanup (fun _ => .sample) 1 {} oneLogin).2 (by decide)
      (by decide +kernel) 0 x hx
    exact ⟨x, hx, huid, hrows _ 0 huid⟩

/-- With a database the row stays on record after the session was closed and has no nickname
    any more. -/
theorem userRow_outlives_session :
    ∃ x, (samples.run (.fresh 1 {}) (oneLogin ++ oneClose)).insts[0]? = some x ∧
      x.sessions.lookup .one = some .closing ∧ x.idle .one = true ∧
      x.st.userUuid.lookup Session.one.addr = some 0 ∧
      x.st.user.lookup Session.one.addr = none := by
  show ∃ x ∈ (_ : Option Instance), _
  decide +kernel

end Knights.Chat
