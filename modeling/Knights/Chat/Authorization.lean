import Knights.Chat.Soundness
import Knights.Chat.Knowledge

namespace Knights.Chat

open Lib Cluster Instance

/-!
# Who may join a room

A join reads the password of its room from Redis, and later decides in one section.  The
decision mixes what Redis had with what the service knows of the room.  `join_authorization`
says what it comes to for whole runs:

* whoever comes into a room other than the lobby does so by a join that found no trace of the
  room, or was made by an administrator, the owner, somebody invited, or with a password that
  the stored hash accepts;
* a password that was accepted is accepted by the hash that is stored afterwards, in memory and
  in Redis, also when a legacy hash was replaced.
-/

namespace State

variable {cfg : Config} {live : Session → Bool} {st : State} {s : Session} {req : JoinRequest}
  {h hash : String} {joined : Joined}

/-- There is no trace of the room: not in the tables, and `found` in Redis is no password. -/
structure Absent (st : State) (room : String) (found : Option String) : Prop where
  rooms : st.rooms.lookup room = none
  owner : st.roomOwners.lookup room = none
  password : st.roomPasswords.lookup room = none
  found : found = none

/-- The stored hash of a room: what was found in Redis, or else what the service has. -/
def StoredHash (st : State) (room : String) (found : Option String) (h : String) : Prop :=
  found = some h ∨ found = none ∧ st.roomPasswords.lookup room = some h

/-- The stored hash of a room accepts the password. -/
def Accepts (cfg : Config) (st : State) (room : String) (found : Option String)
    (password : String) : Prop :=
  ∃ h, st.StoredHash room found h ∧ cfg.verifyRoomPassword password h = true

/-- What lets somebody who is no administrator into a room other than the lobby. -/
def Authorized (cfg : Config) (st : State) (user : String) (req : JoinRequest) : Prop :=
  st.Absent req.room req.redisPassword ∨ st.roomOwners.lookup req.room = some user ∨
    user ∈ st.invitedTo req.room ∨ st.Accepts cfg req.room req.redisPassword req.password

/-- After the password from Redis was kept, the stored hash is in the table. -/
theorem storedHash_iff : st.StoredHash req.room req.redisPassword h ↔
    (st.cachePassword req).roomPasswords.lookup req.room = some h := by
  unfold StoredHash cachePassword
  cases req.redisPassword with
  | none => simp
  | some pw => simp

/-- The hash that counts in the section of a join is the one in the table then. -/
theorem expectedPassword_cachePassword : (st.cachePassword req).expectedPassword req =
    ((st.cachePassword req).roomPasswords.lookup req.room).getD "" := by
  unfold expectedPassword cachePassword
  cases req.redisPassword with
  | none => simp
  | some pw =>
    by_cases hpw : pw = ""
    · simp [hpw]
    · simp [hpw]

theorem absent_of_not_roomExists (h : (st.cachePassword req).roomExists req = false) :
    st.Absent req.room req.redisPassword := by
  unfold roomExists at h
  simp only [Bool.or_eq_false_iff, same_cachePassword.2.1, same_cachePassword.2.2.1] at h
  obtain ⟨⟨⟨hrooms, howner⟩, hpassword⟩, -⟩ := h
  rw [Option.isSome_eq_false_iff, Option.isNone_iff_eq_none] at hrooms howner hpassword
  have hfound : req.redisPassword = none := by
    cases hf : req.redisPassword with
    | none => rfl
    | some pw =>
      have hstored := storedHash_iff.mp (.inl hf : st.StoredHash req.room req.redisPassword pw)
      rw [hpassword] at hstored
      cases hstored
  refine ⟨hrooms, howner, ?_, hfound⟩
  unfold cachePassword at hpassword
  rw [hfound] at hpassword
  exact hpassword

/-- **The decision.** Whom a join lets into a room other than the lobby is authorized, or an
    administrator. -/
theorem authorized_of_admits {user : String} (hroom : req.room ≠ "lobby")
    (h : (st.cachePassword req).admits cfg user req = true) (hadmin : user ∉ cfg.adminUsers) :
    st.Authorized cfg user req := by
  unfold admits at h
  simp only [Bool.or_eq_true, decide_eq_true_eq, Bool.not_eq_true'] at h
  obtain ((((hlobby | habsent) | hadm) | howner) | hinvite) | hpassword := h
  · exact absurd hlobby hroom
  · exact .inl (absent_of_not_roomExists habsent)
  · exact absurd hadm hadmin
  · have hown := of_decide_eq_true (Bool.and_eq_true_iff.mp howner).2
    rw [same_cachePassword.2.2.1] at hown
    exact .inr (.inl hown)
  · have hinv : user ∈ (st.cachePassword req).invitedTo req.room :=
      of_decide_eq_true (Bool.and_eq_true_iff.mp hinvite).2
    unfold invitedTo at hinv
    rw [same_cachePassword.2.2.2] at hinv
    exact .inr (.inr (.inl hinv))
  · unfold passwordOk at hpassword
    simp only [Bool.and_eq_true, decide_eq_true_eq] at hpassword
    obtain ⟨⟨hne, -⟩, hverify⟩ := hpassword
    rw [expectedPassword_cachePassword] at hne hverify
    cases hstored : (st.cachePassword req).roomPasswords.lookup req.room with
    | none =>
      rw [hstored] at hne
      exact absurd rfl hne
    | some pw =>
      rw [hstored] at hverify
      exact .inr (.inr (.inr ⟨pw, storedHash_iff.mpr hstored, hverify⟩))

/-! ### Hashes -/

/-- A hash that a join stores accepts the join's password. -/
theorem verify_newPassword (h : st.newPassword cfg req = .ok (some hash)) :
    cfg.verifyRoomPassword req.password hash = true := by
  have hfresh : cfg.hashRoomPassword req.password = hash → cfg.hashRoomPassword req.password ≠ "" →
      cfg.verifyRoomPassword req.password hash = true := by
    rintro rfl hne
    exact cfg.verify_hashRoomPassword hne
  unfold newPassword at h
  by_cases hok : st.passwordOk cfg req = true
  · rw [if_pos hok] at h
    have h := Except.ok.inj h
    split_ifs at h with hkeep
    exact hfresh (Option.some.inj h) fun hempty => hkeep (.inr hempty)
  · rw [if_neg hok] at h
    split_ifs at h with hnew hempty
    · exact hfresh (Option.some.inj (Except.ok.inj h)) hempty
    · cases Except.ok.inj h

/-- **Upgrades.** A password that the stored hash accepts when a join is let in is accepted
    afterwards, whether Redis still has what the join found there, has nothing, or has what the
    join stores. -/
theorem accepts_join (h : st.Accepts cfg req.room req.redisPassword req.password)
    (hjoin : (st.join cfg live s req).2 = .ok joined) {found : Option String}
    (hfound : found = req.redisPassword ∨ found = none ∨ found = joined.newHash) :
    (st.join cfg live s req).1.Accepts cfg req.room found req.password := by
  obtain ⟨old, hstored, hverify⟩ := h
  obtain ⟨e, hj⟩ | ⟨e, hj⟩ | ⟨new, -, -, hnew, hj⟩ := join_cases
  · rw [hj] at hjoin
    cases hjoin
  · rw [hj] at hjoin
    cases hjoin
  · -- the table has a hash afterwards that accepts the password
    have htable : ∃ h', (st.join cfg live s req).1.roomPasswords.lookup req.room = some h' ∧
        cfg.verifyRoomPassword req.password h' = true := by
      rw [hj, lookup_roomPasswords_completeJoin]
      cases new with
      | none => exact ⟨old, storedHash_iff.mp hstored, hverify⟩
      | some hash =>
        refine ⟨hash, ?_, verify_newPassword hnew⟩
        show ((st.cachePassword req).roomPasswords.insert req.room hash).lookup req.room = some hash
        rw [AList.lookup_insert]
    obtain ⟨h', hlookup, hverify'⟩ := htable
    cases found with
    | none => exact ⟨h', .inr ⟨rfl, hlookup⟩, hverify'⟩
    | some pw =>
      refine ⟨pw, .inl rfl, ?_⟩
      obtain hold | hnone | hhash := hfound
      · obtain hsome | ⟨hnone, -⟩ := hstored
        · rw [← hold] at hsome
          exact Option.some.inj hsome ▸ hverify
        · rw [← hold] at hnone
          cases hnone
      · cases hnone
      · rw [hj] at hjoin
        obtain rfl := Except.ok.inj hjoin
        have hpw : new = some pw := hhash.symm
        exact verify_newPassword (hpw ▸ hnew)

/-- What a join is to store in Redis accepts its password. -/
theorem verify_newHash (hjoin : (st.join cfg live s req).2 = .ok joined)
    (hhash : joined.newHash = some hash) : cfg.verifyRoomPassword req.password hash = true := by
  obtain ⟨e, hj⟩ | ⟨e, hj⟩ | ⟨new, -, -, hnew, hj⟩ := join_cases
  · rw [hj] at hjoin
    cases hjoin
  · rw [hj] at hjoin
    cases hjoin
  · rw [hj] at hjoin
    obtain rfl := Except.ok.inj hjoin
    obtain rfl : new = some hash := hhash
    exact verify_newPassword hnew

end State

/-! ### Whole runs -/

/-- The task has read this value as the password of the room in Redis. -/
def ReadPassword (tr : List ClusterEvent) (i k : ℕ) (room : String)
    (value : Option String) : Prop :=
  ∃ e ∈ tr, ∃ j, e.output = some ⟨i, k, j, .redis (.getPassword room), value⟩

/-- Passwords are learned from Redis only. -/
theorem readPassword_of_learned {tr : List ClusterEvent} {i k : ℕ}
    {room : String} {value : Option String} (h : .password room value ∈ Cluster.learnedIn tr i k) :
    ReadPassword tr i k room value := by
  obtain ⟨e, he, ⟨i', k', j, o, a⟩, hact, rfl, rfl, hf⟩ := h
  refine ⟨e, he, j, ?_⟩
  cases tells_of_learned hf
  exact hact

/-- Hashes are learned from joins only, and accept their passwords. -/
theorem verify_of_learned {cfg : ℕ → Config} {c : Cluster} {is : List Cluster.Input} {i k : ℕ}
    {password hash : String}
    (h : .hash password hash ∈ Cluster.learnedIn ((cluster cfg).trace c is) i k) :
    (cfg i).verifyRoomPassword password hash = true := by
  obtain ⟨e, he, ⟨i', k', j, o, a⟩, hact, rfl, rfl, hf⟩ := h
  obtain ⟨x, fate, -, hans⟩ := exec_of_mem_trace he hact
  cases tells_of_learned hf with
  | joined s req joined _ hhash => exact State.verify_newHash hans.symm hhash

/-- Who comes into a room other than the lobby has joined it. -/
theorem joined_of_entered {cfg : Config} {x : Instance} {y : Stores} {inp : Input}
    {p : Session} {r : String} (hr : r ≠ "lobby") (hbefore : p ∉ membersOf x.st.rooms r)
    (hafter : p ∈ membersOf (x.step cfg y inp).1.st.rooms r) :
    ∃ j req, x.performs inp = some (j, .lock (.join p req)) ∧ req.room = r ∧
      (x.st.cachePassword req).admits cfg (x.st.nameOf p) req = true := by
  have hmoves := x.moves_step cfg y inp
  generalize (x.step cfg y inp).1 = x' at hmoves hafter
  generalize (x.step cfg y inp).2 = y' at hmoves
  cases hmoves with
  | idle | accept | submit | disconnect | destroy => exact absurd hafter hbefore
  | perform k fate j o q ht =>
    cases o with
    | lock c =>
      obtain h | ⟨hlobby, -⟩ | ⟨req, rfl, rfl, -, hadmits⟩ := entered_exec hafter
      · exact absurd h hbefore
      · exact absurd hlobby hr
      · exact ⟨j, req, performs_of_task ht, rfl, hadmits⟩
    | redis | db | send | stop => exact absurd hafter hbefore

/-- **Join authorization.** Take any run of services on any stores, one more step, and a service
    before and after the step.

    Whoever is in a room other than the lobby only afterwards, and is no administrator, has come
    in by a join that is authorized by what its task found in Redis and by the tables at that
    moment.  If a join was let in with a password that the stored hash accepted, that password is
    accepted afterwards.  The hashes that go to Redis come from joins and accept the passwords
    of these. -/
theorem join_authorization (cfg : ℕ → Config) (n : ℕ) (stores : Stores) (is : List Cluster.Input)
    (inp : Cluster.Input) (i : ℕ) (x x' : Instance)
    (hx : ((cluster cfg).run (.fresh n stores) is).insts[i]? = some x)
    (hx' : ((cluster cfg).run (.fresh n stores) (is ++ [inp])).insts[i]? = some x') :
    let tr := (cluster cfg).trace (.fresh n stores) is
    let out := ((cluster cfg).step ((cluster cfg).run (.fresh n stores) is) inp).2
    (∀ p r, r ≠ "lobby" → p ∉ membersOf x.st.rooms r → p ∈ membersOf x'.st.rooms r →
      x.st.nameOf p ∉ (cfg i).adminUsers →
      ∃ k room fresh denied req ans,
        out = some ⟨i, k, .join p room req.password fresh denied, .lock (.join p req), ans⟩ ∧
        req.room = r ∧ r = Handler.roomToJoin room ∧
        (if (cfg i).hasRedis then ReadPassword tr i k r req.redisPassword
          else req.redisPassword = none) ∧
        x.st.Authorized (cfg i) (x.st.nameOf p) req) ∧
    (∀ k j p req joined, out = some ⟨i, k, j, .lock (.join p req), .ok joined⟩ →
      x.st.Accepts (cfg i) req.room req.redisPassword req.password →
      ∀ found, found = req.redisPassword ∨ found = none ∨ found = joined.newHash →
        x'.st.Accepts (cfg i) req.room found req.password) ∧
    ∀ k j room hash ans, out = some ⟨i, k, j, .redis (.setexPassword room hash), ans⟩ →
      ∃ s room' password fresh denied, j = .join s room' password fresh denied ∧
        room = Handler.roomToJoin room' ∧
        (cfg i).verifyRoomPassword password hash = true := by
  have hinformed := informed_run cfg n stores is
  rw [(cluster cfg).run_append] at hx'
  generalize hc : (cluster cfg).run (.fresh n stores) is = c at hx hx' hinformed
  change ((cluster cfg).next c inp).insts[i]? = some x' at hx'
  refine ⟨?_, ?_, ?_⟩
  · intro p r hr hbefore hafter hadmin
    -- the step is one of this service, since otherwise nobody has come in
    obtain ⟨z, hz, hstep⟩ := inst_next hx'
    obtain rfl := Option.mem_unique hx hz
    obtain rfl | ⟨inp, rfl, rfl⟩ := hstep
    · exact absurd hafter hbefore
    obtain ⟨j, req, hperf, rfl, hadmits⟩ := joined_of_entered hr hbefore hafter
    have hact : ∃ k ans,
        x.action (cfg i) i c.stores inp = some ⟨i, k, j, .lock (.join p req), ans⟩ :=
      exists_action hperf
    obtain ⟨k, ans, hact⟩ := hact
    have hout : ((cluster cfg).step c (.inst i inp)).2 =
        some ⟨i, k, j, .lock (.join p req), ans⟩ := by
      rw [step_inst hx]
      exact hact
    obtain ⟨room, fresh, denied, rfl, hreq, hpw⟩ := needed_of_step hinformed hout
    refine ⟨k, room, fresh, denied, req, ans, hout, rfl, hreq, ?_,
      State.authorized_of_admits hr hadmits hadmin⟩
    split_ifs at hpw ⊢
    · exact readPassword_of_learned hpw
    · exact hpw
  · intro k j p req joined hout hacc found hfound
    obtain ⟨z, inp, rfl, hz, hact⟩ := action_of_step hout
    obtain rfl := Option.mem_unique hz hx
    obtain ⟨fate, q, -, hans, hstep, -⟩ := exec_of_action hact
    have hst : x'.st = (z.st.join (cfg i) z.live p req).1 := by
      rw [next_inst_self hx, hstep] at hx'
      exact congrArg Instance.st (Option.some.inj hx').symm
    rw [hst]
    exact State.accepts_join hacc hans.symm hfound
  · intro k j room hash ans hout
    obtain ⟨s, room', pw, fresh, denied, hj, hroom, hhash⟩ :=
      needed_of_step hinformed hout
    exact ⟨s, room', pw, fresh, denied, hj, hroom, verify_of_learned hhash⟩

/-- Stores in which a room has a password that was hashed the old way. -/
def legacyRoom : Stores :=
  { redis := { password := (∅ : Table String String).insert "x" "legacy:pw" } }

/-- A session logs in and asks to join that room with its password, and the job has come as far
    as the section that decides. -/
def legacyJoin : List Cluster.Input :=
  logIn 0 0 .one "alice" ++ serve 0 1 2 (.join .one "x" "pw" "" none)

/-- The section lets it in, as authorized by what was found in Redis, and replaces the hash. -/
theorem join_authorization_legacyJoin : ∃ x x',
    (samples.run (.fresh 1 legacyRoom) legacyJoin).insts[0]? = some x ∧
    (samples.run (.fresh 1 legacyRoom)
      (legacyJoin ++ [.inst 0 (.advance 1 .done)])).insts[0]? = some x' ∧
    x'.st.roomPasswords.lookup "x" = some "sha256:pw" ∧
    ∃ k req, ReadPassword (samples.trace (.fresh 1 legacyRoom) legacyJoin) 0 k "x"
        req.redisPassword ∧
      req.room = "x" ∧ x.st.Authorized .sample (x.st.nameOf .one) req := by
  obtain ⟨x, hx, hout⟩ : ∃ x ∈ (samples.run (.fresh 1 legacyRoom) legacyJoin).insts[0]?,
      .one ∉ membersOf x.st.rooms "x" := by
    decide +kernel
  obtain ⟨x', hx', hmem, hhash⟩ : ∃ x ∈ (samples.run (.fresh 1 legacyRoom)
      (legacyJoin ++ [.inst 0 (.advance 1 .done)])).insts[0]?,
      .one ∈ membersOf x.st.rooms "x" ∧ x.st.roomPasswords.lookup "x" = some "sha256:pw" := by
    decide +kernel
  have hauth := (join_authorization (fun _ => .sample) 1 legacyRoom legacyJoin
    (.inst 0 (.advance 1 .done)) 0 x x' hx hx').1
  obtain ⟨k, room, fresh, denied, req, ans, -, hroom, -, hread, hauthorized⟩ :=
    hauth .one "x" (by decide) hout hmem (Finset.notMem_empty _)
  exact ⟨x, x', hx, hx', hhash, k, req, hread, hroom, hauthorized⟩

end Knights.Chat
