import Knights.Chat.Soundness

namespace Knights.Chat

open Lib Table Cluster

/-!
# Nicknames

`user` gives sessions their nicknames and `byUser` lists the sessions of a nickname.  A login
looks for a holder of its name in one section and takes the name in a later one, so two logins
can take one name between them.

* `Listed` — the two tables agree on a session;
* `NamesAgree` — they agree on all sessions that are alive, and no two of those that are
  logged in have one nickname;
* `namesAgree_iff_guarded` — this is so after every prefix of a run exactly when every login
  finds its name free at the moment it takes it, and new sessions get addresses that have no
  nickname any more (`FreshNames`).
-/

namespace State

variable {cfg : Config} {live : Session → Bool} {st st' : State} {s p : Session} {n : String}
  {a : ℕ} {c : Critical} {l : Login}

/-- The reverse index agrees with a session's nickname. -/
def Listed (st : State) (p : Session) : Prop :=
  ∀ n, p ∈ membersOf st.byUser n ↔ st.user.lookup p.addr = some n

/-- Nicknames are not empty, and whoever is logged in has one. -/
structure Named (st : State) : Prop where
  ne_empty : ∀ a, st.user.lookup a ≠ some ""
  authed_iff : ∀ a, a ∈ st.authed ↔ st.user.lookup a ≠ none

theorem Named.authed_of_lookup (h : Named st) (hn : st.user.lookup a = some n) : a ∈ st.authed := by
  rw [h.authed_iff, hn]
  exact Option.some_ne_none n

theorem nameOf_of_lookup (h : st.user.lookup s.addr = some n) : st.nameOf s = n := by
  unfold nameOf
  rw [h]
  rfl

/-- What the tables say about who sessions are is the same. -/
theorem Named.of_identities (h : Named st) (heq : st'.identities = st.identities) : Named st' := by
  have huser : st'.user = st.user := congrArg Identities.user heq
  have hauthed : st'.authed = st.authed := congrArg Identities.authed heq
  constructor
  · rw [huser]
    exact h.ne_empty
  · rw [huser, hauthed]
    exact h.authed_iff

theorem named_new : Named {} :=
  ⟨fun _ h => (nomatch h),
    fun a => ⟨fun h => absurd h (Finset.notMem_empty a), fun h => absurd rfl h⟩⟩

theorem named_loginCommit (h : Named st) (hname : l.name ≠ "") : Named (st.loginCommit s l) := by
  have huser : ∀ a, (st.loginCommit s l).user.lookup a =
      if a = s.addr then some l.name else st.user.lookup a := fun a => lookup_insert_ite ..
  constructor
  · intro a
    rw [huser]
    split_ifs
    · exact fun h => hname (Option.some.inj h)
    · exact h.ne_empty a
  · intro a
    show a ∈ insert s.addr st.authed ↔ _
    rw [huser, Finset.mem_insert, h.authed_iff]
    split_ifs with ha <;> simp [ha]

theorem named_forgetSession (h : Named st) : Named (st.forgetSession s) := by
  have huser : ∀ a, (st.forgetSession s).user.lookup a =
      if a = s.addr then none else st.user.lookup a := fun a => lookup_erase_ite ..
  constructor
  · intro a
    rw [huser]
    split_ifs
    · exact nofun
    · exact h.ne_empty a
  · intro a
    show a ∈ st.authed.erase s.addr ↔ _
    rw [huser, Finset.mem_erase, h.authed_iff]
    split_ifs with ha <;> simp [ha]

/-- Sections keep nicknames in order, logins with a name included. -/
theorem named_exec (h : Named st) (hname : ∀ s l, c = .loginCommit s l → l.name ≠ "") :
    Named (c.exec cfg live st).1 := by
  obtain ⟨st', hst', hids⟩ := identified_exec cfg live st c
  suffices hnamed : Named st' from hnamed.of_identities hids
  cases hst' with
  | same => exact h
  | loginCommit s l => exact named_loginCommit h (hname s l rfl)
  | closed s => exact named_forgetSession h
  | sessionUuid | register | setUserUuid => exact ⟨h.ne_empty, h.authed_iff⟩

/-- Only a login gives nicknames. -/
theorem user_exec (h : (c.exec cfg live st).1.user.lookup a = some n) :
    st.user.lookup a = some n ∨ ∃ s l, c = .loginCommit s l ∧ a = s.addr ∧ n = l.name := by
  obtain ⟨st', hst', hids⟩ := identified_exec cfg live st c
  have huser := congrArg Identities.user hids
  change (c.exec cfg live st).1.user = st'.user at huser
  rw [huser] at h
  cases hst' with
  | same | sessionUuid | register | setUserUuid => exact .inl h
  | loginCommit s l =>
    obtain ⟨rfl, rfl⟩ | ⟨-, h⟩ := lookup_insert_eq_some.mp h
    · exact .inr ⟨s, l, rfl, rfl, rfl⟩
    · exact .inl h
  | closed s =>
    change (st.user.erase s.addr).lookup a = some n at h
    rw [lookup_erase_ite] at h
    split_ifs at h
    exact .inl h

/-! ### The reverse index -/

theorem listed_loginCommit (h : Listed st p) (haddr : p.addr = s.addr → p = s) :
    Listed (st.loginCommit s l) p := by
  intro n
  have huser : (st.loginCommit s l).user.lookup p.addr =
      if p.addr = s.addr then some l.name else st.user.lookup p.addr := lookup_insert_ite ..
  rw [mem_byUser_loginCommit, huser, h n]
  by_cases hps : p = s
  · subst hps
    rw [if_pos rfl]
    constructor
    · rintro (⟨hn, -⟩ | ⟨hn, hne⟩)
      · rw [hn]
      · exact absurd rfl (hne hn)
    · intro hn
      exact .inl ⟨(Option.some.inj hn).symm, rfl⟩
  · have hne : p.addr ≠ s.addr := fun ha => hps (haddr ha)
    rw [if_neg hne]
    simp [hps]

theorem listed_closeSession (hnamed : Named st) (h : Listed st p)
    (haddr : p.addr = s.addr → p = s) : Listed (st.closeSession live s).1 p := by
  intro n
  have huser := congrArg Identities.user (identities_closeSession live st s)
  change (st.closeSession live s).1.user = st.user.erase s.addr at huser
  rw [byUser_closeSession, mem_byUser_forgetSession, huser, lookup_erase_ite, h n]
  by_cases hps : p = s
  · subst hps
    rw [if_pos rfl]
    constructor
    · rintro ⟨hn, hne⟩
      -- a session listed under its nickname is taken off there
      have hname : n = st.nameOf p := (nameOf_of_lookup hn).symm
      have hempty : n ≠ "" := fun he => hnamed.ne_empty p.addr (he ▸ hn)
      exact absurd rfl (hne hname hempty)
    · intro hn
      cases hn
  · have hne : p.addr ≠ s.addr := fun ha => hps (haddr ha)
    rw [if_neg hne]
    simp [hps]

/-- The tables about nicknames are the same. -/
theorem Listed.of_eq (h : Listed st p) (hby : st'.byUser = st.byUser)
    (huser : st'.user = st.user) : Listed st' p := by
  unfold Listed
  rw [hby, huser]
  exact h

theorem Listed.of_people (h : Listed st p) (heq : st'.people = st.people) : Listed st' p :=
  h.of_eq (byUser_of_people heq) (user_of_people heq)

/-- Sections keep the reverse index in order. -/
theorem listed_exec_of_live (hnamed : Named st) (h : Listed st p) (hp : live p = true)
    (haddr : ∀ s, c.actor = some s → p.addr = s.addr → p = s) :
    Listed (c.exec cfg live st).1 p := by
  have hout := outcome_exec cfg live st c
  generalize (c.exec cfg live st).1 = st' at hout ⊢
  cases hout with
  | tidied _ ht =>
    intro n
    rw [ht.byUser.mem_iff hp, ht.user]
    exact h n
  | sessionUuid | register | setUserUuid | forgotten | idCached | invited => exact h
  | loginCommit s l => exact listed_loginCommit h (haddr s rfl)
  | notJoined s req => exact h.of_people same_cachePassword.1
  | joined s req hash _ _ _ =>
    have hpeople := people_joined live st s req hash
    have hby := congrArg State.byUser hpeople
    have huser := congrArg State.user hpeople
    exact h.of_eq hby huser
  | left s room denied cur _ _ => exact (h.of_people people_vacate :)
  | closed s => exact listed_closeSession hnamed h (haddr s rfl)
  | kicked s target room set _ hset =>
    have huser : (st.moveKicked live set target room).user = st.user :=
      congrArg Identities.user identities_moveKicked
    intro n
    rw [byUser_of_people people_afterKick, byUser_moveKicked, user_of_people people_afterKick,
      huser, ← h n]
    exact (pruned_prune hset).mem_iff hp n
  | removed s room _ =>
    have hmoved := apart_enterLobby st ((membersOf st.rooms room).prune live)
    have hby := congrArg State.byUser hmoved
    have huser := congrArg State.user hmoved
    exact h.of_eq hby huser

/-- No two sessions that are alive and logged in have one nickname, and the reverse index
    lists a living session under its nickname and nowhere else. -/
structure NamesAgree (live : Session → Bool) (st : State) : Prop where
  unique : ∀ p q n, live p = true → live q = true → p.addr ∈ st.authed → q.addr ∈ st.authed →
    st.user.lookup p.addr = some n → st.user.lookup q.addr = some n → p = q
  listed : ∀ p, live p = true → ∀ n,
    p ∈ membersOf st.byUser n ↔ st.user.lookup p.addr = some n

/-- A login keeps names apart exactly when nobody else alive has the name. -/
theorem namesAgree_loginCommit_iff (hnamed : Named st) (hname : l.name ≠ "")
    (h : NamesAgree live st) (hs : live s = true)
    (haddr : ∀ q, live q = true → q.addr = s.addr → q = s) :
    NamesAgree live (st.loginCommit s l) ↔
      ∀ q, live q = true → st.user.lookup q.addr = some l.name → q = s := by
  have hafter := named_loginCommit (s := s) hnamed hname
  have huser : ∀ a, (st.loginCommit s l).user.lookup a =
      if a = s.addr then some l.name else st.user.lookup a := fun a => lookup_insert_ite ..
  constructor
  · intro hagree q hq hqname
    by_contra hqs
    have hne : q.addr ≠ s.addr := fun ha => hqs (haddr q hq ha)
    have hq' : (st.loginCommit s l).user.lookup q.addr = some l.name := by
      rw [huser, if_neg hne, hqname]
    have hs' : (st.loginCommit s l).user.lookup s.addr = some l.name := by rw [huser, if_pos rfl]
    exact hqs (hagree.unique q s l.name hq hs (hafter.authed_of_lookup hq')
      (hafter.authed_of_lookup hs') hq' hs')
  · intro hfree
    refine ⟨fun p q n hp hq _ _ hpn hqn => ?_, fun p hp => ?_⟩
    · rw [huser] at hpn hqn
      split_ifs at hpn hqn with hps hqs hqs
      · rw [haddr p hp hps, haddr q hq hqs]
      · rw [haddr p hp hps, hfree q hq (hpn ▸ hqn)]
      · rw [haddr q hq hqs, hfree p hp (hqn ▸ hpn)]
      · exact h.unique p q n hp hq (hnamed.authed_of_lookup hpn) (hnamed.authed_of_lookup hqn)
          hpn hqn
    · exact listed_loginCommit (h.listed p hp) (haddr p hp)

/-- Every other section keeps names apart. -/
theorem namesAgree_exec (hnamed : Named st) (h : NamesAgree live st)
    (haddr : ∀ s, c.actor = some s → ∀ q, live q = true → q.addr = s.addr → q = s)
    (hc : ∀ s l, c ≠ .loginCommit s l) : NamesAgree live (c.exec cfg live st).1 := by
  refine ⟨fun p q n hp hq _ _ hpn hqn => ?_, fun p hp => ?_⟩
  · have hold : ∀ a, (c.exec cfg live st).1.user.lookup a = some n → st.user.lookup a = some n :=
      fun a ha => (user_exec ha).resolve_right fun ⟨s, l, hs, _⟩ => hc s l hs
    have hpn := hold p.addr hpn
    have hqn := hold q.addr hqn
    exact h.unique p q n hp hq (hnamed.authed_of_lookup hpn) (hnamed.authed_of_lookup hqn) hpn hqn
  · exact listed_exec_of_live hnamed (h.listed p hp) hp fun s hs => haddr s hs p hp

end State

/-! ### Whole services -/

namespace Instance

variable {cfg : Config} {x : Instance} {y : Stores}

/-- A login takes a name that no other living session has, and a new session gets an address
    that has no nickname any more. -/
def FreshNames (x : Instance) (inp : Input) : Prop :=
  x.OnStep (fun s => x.st.user.lookup s.addr = none)
    (fun o => ∀ s l, o = .lock (.loginCommit s l) →
      ∀ q, x.live q = true → x.st.user.lookup q.addr = some l.name → q = s)
    (fun _ => True) inp

theorem named_step (hx : x.Sound cfg) (h : x.st.Named) (inp : Input) :
    (x.step cfg y inp).1.st.Named := by
  refine holds_step (P := fun st _ => st.Named) (A := fun _ => True) (B := fun _ => True)
    (D := fun _ => True) inp h (fun _ _ _ => h) (fun k fate j o p ht _ => ?_) (fun _ _ _ _ => h)
    ⟨fun _ _ _ => trivial, fun _ _ _ => trivial, fun _ _ _ => trivial⟩
  refine st_exec (P := State.Named) h ?_
  rintro c rfl
  refine State.named_exec h ?_
  rintro s l rfl
  exact (needs_of_task hx ht).2.1

/-- A session that was just accepted is listed nowhere. -/
theorem listed_of_mayAccept (hx : x.Sound cfg) {s : Session} (h : x.mayAccept s = true) :
    x.st.Listed s ↔ x.st.user.lookup s.addr = none := by
  have hnot : ∀ n, s ∉ membersOf x.st.byUser n :=
    fun n hs => not_known_of_mayAccept h (hx.known_byUser n s hs)
  simp only [State.Listed, hnot, false_iff]
  exact Option.eq_none_iff_forall_ne_some.symm

theorem namesAgree_perform_iff (hx : x.Sound cfg) (hnamed : x.st.Named)
    (h : x.st.NamesAgree x.live) {k : ℕ} {fate : Fate} {j : Job} {o : Op}
    {p : o.Ans → Handler Unit} (ht : x.tasks[k]? = some (j, .act o p)) :
    (o.exec cfg fate (x.world y)).1.st.NamesAgree x.live ↔
      ∀ s l, o = .lock (.loginCommit s l) →
        ∀ q, x.live q = true → x.st.user.lookup q.addr = some l.name → q = s := by
  by_cases hlogin : ∃ s l, o = .lock (.loginCommit s l)
  · obtain ⟨s, l, rfl⟩ := hlogin
    have hs : x.live s = true := live_of_actor hx ht rfl
    have hiff := State.namesAgree_loginCommit_iff (l := l) hnamed (needs_of_task hx ht).2.1 h hs
      fun q hq => hx.addr_inj q s hq hs
    constructor
    · rintro hagree s' l' ⟨⟩
      exact hiff.mp hagree
    · exact fun hfree => hiff.mpr (hfree s l rfl)
  · refine ⟨fun _ s l ho => absurd ⟨s, l, ho⟩ hlogin, fun _ => ?_⟩
    refine st_exec (P := State.NamesAgree x.live) h ?_
    rintro c rfl
    refine State.namesAgree_exec hnamed h (fun s hs q hq => ?_) ?_
    · exact hx.addr_inj q s hq (live_of_actor hx ht hs)
    · rintro s l rfl
      exact hlogin ⟨s, l, rfl⟩

/-- **One step.** Where names agree, a step keeps them so exactly when it is free to take the
    names it takes. -/
theorem namesAgree_step_iff (hx : x.Sound cfg) (hnamed : x.st.Named)
    (h : x.st.NamesAgree x.live) (inp : Input) :
    (x.step cfg y inp).1.st.NamesAgree (x.step cfg y inp).1.live ↔ x.FreshNames inp := by
  refine holds_step_iff (P := fun st live => st.NamesAgree live) inp h ?_ ?_ ?_
  · intro s hacc
    rw [← listed_of_mayAccept hx hacc]
    constructor
    · exact fun hagree => hagree.listed s (live_connected_iff.mpr (.inl rfl))
    · intro hs
      have hnone := (listed_of_mayAccept hx hacc).mp hs
      -- the new session has no nickname, so it can clash with nobody
      have hold : ∀ q n, (x.setPhase s .connected).live q = true →
          x.st.user.lookup q.addr = some n → x.live q = true := by
        intro q n hq hqn
        obtain rfl | hq := live_connected_iff.mp hq
        · rw [hnone] at hqn
          cases hqn
        · exact hq
      refine ⟨fun p q n hp hq hpa hqa hpn hqn => ?_, forall_live_connected.mpr ⟨hs, h.listed⟩⟩
      exact h.unique p q n (hold p n hp hpn) (hold q n hq hqn) hpa hqa hpn hqn
  · exact fun k fate j o p ht => namesAgree_perform_iff hx hnamed h ht
  · refine fun s _ _ => ⟨fun _ => trivial, fun _ => ?_⟩
    have hold : ∀ q, (x.setPhase s .gone).live q = true → x.live q = true :=
      fun q hq => (live_gone_iff.mp hq).2
    exact ⟨fun p q n hp hq => h.unique p q n (hold p hp) (hold q hq),
      fun p hp => h.listed p (hold p hp)⟩

end Instance

open Instance in
/-- **Nicknames.** In a run of services from their start, names agree after every prefix
    exactly when every login takes a name that is free at that moment, and new sessions get
    addresses without a nickname. -/
theorem namesAgree_iff_guarded (cfg : ℕ → Config) (n : ℕ) (stores : Stores)
    (is : List Cluster.Input) :
    (∀ pre, pre <+: is →
      ((cluster cfg).run (.fresh n stores) pre).All fun _ x => x.st.NamesAgree x.live) ↔
    (cluster cfg).Guarded (Cluster.Each FreshNames) (.fresh n stores) is := by
  refine forall_prefix_iff_guarded (J := fun i x => x.Sound (cfg i) ∧ x.st.Named)
    (fun i x y inp hx => ⟨sound_step hx.1 inp, named_step hx.1 hx.2 inp⟩)
    (fun i x y inp hx h => namesAgree_step_iff hx.1 hx.2 h inp) ?_ ?_ is
  · exact all_fresh (fun i => ⟨sound_new (cfg i), State.named_new⟩) n stores
  · exact all_fresh (fun i => ⟨fun p q n hp => (nomatch hp), fun p hp => (nomatch hp)⟩) n stores

/-- Two sessions log in under one name.  The second takes it after the first has found it
    free. -/
def racingLogins : List Cluster.Input :=
  [.inst 0 (.accept .one), .inst 0 (.accept .two),
    .inst 0 (.submit (.login .one { user := "alice" })),
    .inst 0 (.submit (.login .two { user := "alice" }))] ++
    work 0 0 4 ++ work 0 1 30 ++ work 0 0 30

/-- Both get it. -/
theorem racingLogins_share_name :
    ∃ x, (samples.run (.fresh 1 {}) racingLogins).insts[0]? = some x ∧
      x.live .one = true ∧ x.live .two = true ∧ Session.one.addr ∈ x.st.authed ∧
      Session.two.addr ∈ x.st.authed ∧ x.st.user.lookup Session.one.addr = some "alice" ∧
      x.st.user.lookup Session.two.addr = some "alice" ∧ ¬ x.st.NamesAgree x.live := by
  obtain ⟨x, hx, hone, htwo, haone, hatwo, huone, hutwo⟩ :
      ∃ x ∈ (samples.run (.fresh 1 {}) racingLogins).insts[0]?, x.live .one ∧ x.live .two ∧
      Session.one.addr ∈ x.st.authed ∧ Session.two.addr ∈ x.st.authed ∧
      x.st.user.lookup Session.one.addr = some "alice" ∧
      x.st.user.lookup Session.two.addr = some "alice" := by
    decide +kernel
  refine ⟨x, hx, hone, htwo, haone, hatwo, huone, hutwo, fun hagree => ?_⟩
  have heq := hagree.unique .one .two "alice" hone htwo haone hatwo huone hutwo
  exact absurd heq (by decide)

end Knights.Chat
