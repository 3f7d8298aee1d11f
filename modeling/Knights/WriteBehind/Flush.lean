import Knights.WriteBehind.Worker

namespace Knights.WriteBehind

open Knights.Lib

/-!
# Write-behind — what a `Flush` call guarantees

A call makes attempts until one commits, and the effects of an attempt on Redis stay when its
transaction is rolled back.  Three guarantees of the whole call, each with a condition on the
answers of Postgres and Redis under which it holds:

* `Call.acked_safely_iff` — every acknowledged entry is committed or in the DLQ;
* `Call.moved_once` — no entry is moved to the DLQ twice, or moved and committed;
* `Call.retry_commits_iff` — a retry against a healthy database succeeds.

`Call.acked_unsafely`, `Call.moved_twice` and `Call.retry_without_connection` are calls that
break them.
-/

namespace Call

variable {c : Call} {k i : ℕ}

/-- The connection that attempt `k` finds. -/
def dbAt (c : Call) (k : ℕ) : Db := Retry.stateAt c.attempt c.db k

/-- Attempt `k` is made. -/
def Made (c : Call) (k : ℕ) : Prop := k ≤ c.cfg.retryMax ∧ Retry.Reached c.attempt c.db k

/-- Attempt `k` is made and gets to entry `i`. -/
def Tries (c : Call) (k i : ℕ) : Prop :=
  c.Made k ∧ Begins (c.env k) (c.dbAt k) ∧ Gets (c.env k) c.buf i

/-- In attempt `k`, entry `i` fails alone and is appended to the DLQ. -/
def Moves (c : Call) (k i : ℕ) : Prop :=
  c.Tries k i ∧ FailsAlone (c.env k) i ∧ c.cfg.dlqEnabled = true ∧ (c.env k).xadd i = .appended

/-- In attempt `k`, entry `i` fails alone, and the `xadd` that should append it to the DLQ
    returns `false`. -/
def Refuses (c : Call) (k i : ℕ) : Prop :=
  c.Tries k i ∧ FailsAlone (c.env k) i ∧ c.cfg.dlqEnabled = true ∧ (c.env k).xadd i = .refused

/-- Attempt `k` inserts entry `i` and commits. -/
def Commits (c : Call) (k i : ℕ) : Prop :=
  c.Tries k i ∧ (c.env k).insert i = .ok ∧ Completes (c.env k) c.buf

/-- **What the call does** to an entry is what its attempts do. -/
theorem exists_flush_iff {p : Effect → Bool} {P : ℕ → Prop}
    (hp : ∀ k, (∃ f ∈ (c.attempt k (c.dbAt k)).effects, p f = true) ↔
      Begins (c.env k) (c.dbAt k) ∧ Gets (c.env k) c.buf i ∧ P k) :
    (∃ f ∈ c.flush.2, p f = true) ↔ ∃ k, c.Tries k i ∧ P k := by
  unfold flush
  by_cases hbuf : c.buf.isEmpty
  · -- an empty batch is not even looked at
    rw [if_pos hbuf]
    have hnil := List.isEmpty_iff.mp hbuf
    constructor
    · rintro ⟨f, hf, -⟩
      exact absurd hf (by simp)
    · rintro ⟨k, ⟨-, -, hget, -⟩, -⟩
      rw [hnil] at hget
      exact absurd hget (by simp)
  · rw [if_neg hbuf]
    constructor
    · rintro ⟨f, hf, hpf⟩
      obtain ⟨k, hk, hreach, hmem⟩ := Retry.mem_run_iff.mp hf
      obtain ⟨hb, hget, hP⟩ := (hp k).mp ⟨f, hmem, hpf⟩
      exact ⟨k, ⟨⟨by omega, hreach⟩, hb, hget⟩, hP⟩
    · rintro ⟨k, ⟨⟨hk, hreach⟩, hb, hget⟩, hP⟩
      obtain ⟨f, hmem, hpf⟩ := (hp k).mpr ⟨hb, hget, hP⟩
      exact ⟨f, Retry.mem_run_iff.mpr ⟨k, by omega, hreach, hmem⟩, hpf⟩

/-- An entry is appended to the DLQ exactly when some attempt moves it there. -/
theorem appends_flush : (∃ f ∈ c.flush.2, f.appends i = true) ↔ ∃ k, c.Moves k i :=
  exists_flush_iff fun _ => appends_flushAttempt

/-- An entry is in a committed transaction exactly when some attempt commits it. -/
theorem commits_flush : (∃ f ∈ c.flush.2, f.commits i = true) ↔ ∃ k, c.Commits k i :=
  exists_flush_iff fun _ => commits_flushAttempt

/-- An entry is acknowledged exactly when some attempt commits it, or it fails alone in some
    attempt and is handled. -/
theorem acks_flush : (∃ f ∈ c.flush.2, f.acks i = true) ↔ ∃ k, c.Tries k i ∧
    (FailsAlone (c.env k) i ∧ (c.cfg.dlqEnabled = true ∧ (c.env k).xadd i ≠ .threw ∨
        c.cfg.ackOnError = true) ∨
      (c.env k).insert i = .ok ∧ Completes (c.env k) c.buf) :=
  exists_flush_iff fun _ => acks_flushAttempt

/-- An attempt that commits an entry is the last one. -/
theorem Commits.done (h : c.Commits k i) : (Retry.attemptAt c.attempt c.db k).done = true :=
  done_flushAttempt.mpr ⟨h.1.2.1, h.2.2⟩

/-- No attempt is made after one that commits. -/
theorem Commits.le_of_made {j : ℕ} (h : c.Commits k i) (hj : c.Made j) : j ≤ k := by
  by_contra hlt
  have hno := hj.2 k (by omega)
  rw [h.done] at hno
  exact absurd hno (by simp)

/-! ### Acknowledged entries are stored -/

/-- Every acknowledged entry is in a committed transaction or in the DLQ. -/
def AckedSafely (effects : List Effect) : Prop :=
  ∀ i, (∃ f ∈ effects, f.acks i = true) →
    (∃ f ∈ effects, f.commits i = true) ∨ ∃ f ∈ effects, f.appends i = true

/-- **When every acknowledged entry is stored.** With failing entries going to the DLQ and not
    acknowledged otherwise: exactly when every entry whose DLQ append was refused is committed
    or appended by another attempt of the call. -/
theorem acked_safely_iff (c : Call) (hdlq : c.cfg.dlqOnError = true)
    (hstream : c.cfg.dlqStream ≠ "") (hack : c.cfg.ackOnError = false) :
    AckedSafely c.flush.2 ↔ ∀ k i, c.Refuses k i → (∃ k', c.Commits k' i) ∨ ∃ k', c.Moves k' i := by
  have henabled : c.cfg.dlqEnabled = true := by
    unfold WorkerConfig.dlqEnabled
    rw [hdlq]
    simp [hstream]
  constructor
  · intro hsafe k i hrefuse
    rw [← commits_flush, ← appends_flush]
    -- a refused append is acknowledged all the same
    apply hsafe
    rw [acks_flush]
    obtain ⟨htry, hfail, -, hx⟩ := hrefuse
    exact ⟨k, htry, Or.inl ⟨hfail, Or.inl ⟨henabled, by simp [hx]⟩⟩⟩
  · intro hcond i hacked
    rw [commits_flush, appends_flush]
    obtain ⟨k, htry, ⟨hfail, hcase⟩ | hcommit⟩ := acks_flush.mp hacked
    · rcases hcase with ⟨-, hx⟩ | hon
      · -- the append went through, or it was refused
        cases hxadd : (c.env k).xadd i with
        | appended => exact Or.inr ⟨k, htry, hfail, henabled, hxadd⟩
        | refused => exact hcond k i ⟨htry, hfail, henabled, hxadd⟩
        | threw => exact absurd hxadd hx
      · rw [hack] at hon
        exact absurd hon (by simp)
    · exact Or.inl ⟨k, htry, hcommit⟩

/-- One entry that fails alone, with its DLQ append answered by `r`. -/
def oneFailing (r : XaddResult) : Call where
  cfg := { ackOnError := false }
  env := fun _ => { insert := fun _ => .failed "invalid input syntax", xadd := fun _ => r }
  buf := [{ id := "1-0", fields := [("type", "login")] }]

/-- The case of an append that goes through. -/
theorem acked_safely_iff_appended :
    (oneFailing .appended).cfg.dlqOnError = true ∧ (oneFailing .appended).cfg.dlqStream ≠ "" ∧
      (oneFailing .appended).cfg.ackOnError = false ∧
      (AckedSafely (oneFailing .appended).flush.2 ↔ ∀ k i, (oneFailing .appended).Refuses k i →
        (∃ k', (oneFailing .appended).Commits k' i) ∨ ∃ k', (oneFailing .appended).Moves k' i) :=
  ⟨rfl, by decide, rfl, acked_safely_iff _ rfl (by decide) rfl⟩

/-- **An entry is acknowledged and lost.** Its DLQ append returns `false`, which `SendToDlq`
    ignores. -/
theorem acked_unsafely :
    ¬ ∀ c : Call, c.cfg.dlqOnError = true → c.cfg.dlqStream ≠ "" → c.cfg.ackOnError = false →
      AckedSafely c.flush.2 := by
  intro hall
  have hsafe := hall (oneFailing .refused) rfl (by decide) rfl 0 (by decide +kernel)
  revert hsafe
  decide +kernel

/-! ### The connection -/

/-- The attempt breaks its connection: opening the transaction, an insert or the commit throws
    `pqxx::broken_connection`. -/
def Breaks (c : Call) (k : ℕ) : Prop :=
  (ensureDbPrepared (c.env k) (c.dbAt k)).2 = true ∧ ((c.env k).beginTx = .broken ∨
    (c.env k).beginTx = .ok ∧ ((∃ i < c.buf.length, (c.env k).insert i = .broken) ∨
      (c.env k).commit = .broken))

/-- There is an open connection for attempt `k`. -/
def Usable (c : Call) (k : ℕ) : Prop := (c.dbAt k).connected = true ∧ (c.dbAt k).isOpen = true

/-- An attempt that gets to its transaction has an open connection. -/
theorem usable_of_begins (h : Begins (c.env k) (c.dbAt k)) : c.Usable k := by
  obtain ⟨hready, -⟩ := h
  unfold ensureDbPrepared at hready
  unfold Usable
  cases hconn : (c.dbAt k).connected <;> cases hopen : (c.dbAt k).isOpen <;>
    simp [hconn, hopen] at hready ⊢

/-- Preparing the statement does not touch the connection itself. -/
theorem ensureDbPrepared_connection (env : AttemptEnv) (db : Db) :
    (ensureDbPrepared env db).1.connected = db.connected ∧
      (ensureDbPrepared env db).1.isOpen = db.isOpen := by
  unfold ensureDbPrepared
  split
  · exact ⟨rfl, rfl⟩
  · split
    · exact ⟨rfl, rfl⟩
    · split <;> exact ⟨rfl, rfl⟩

/-- **The connection after an attempt.** It stays open exactly when the attempt does not break
    it and it is not found closed. -/
theorem usable_succ_iff : c.Usable (k + 1) ↔
    c.Usable k ∧ ¬ c.Breaks k ∧ (c.env k).lost = false := by
  have hnext : c.dbAt (k + 1) = (flushAttempt c.cfg (c.env k) c.buf (c.dbAt k)).state := rfl
  have hbroken : (∃ i < c.buf.length, (c.env k).insert i = .broken) ↔
      (processBatch c.cfg (c.env k) 0 c.buf).broken = true := by
    rw [← Bool.not_eq_false, broken_eq_false_iff]
    simp
  unfold Usable Breaks
  rw [hnext, hbroken]
  unfold flushAttempt
  have hconn := ensureDbPrepared_connection (c.env k) (c.dbAt k)
  generalize ensureDbPrepared (c.env k) (c.dbAt k) = prep at hconn
  generalize processBatch c.cfg (c.env k) 0 c.buf = r
  obtain ⟨db', ready⟩ := prep
  obtain ⟨effects, ackIds, broken⟩ := r
  obtain ⟨hc, ho⟩ := hconn
  rw [← hc, ← ho]
  -- a kept connection is open unless it is found closed
  have hkeep : (keepDb (c.env k) db').connected = true ∧ (keepDb (c.env k) db').isOpen = true ↔
      (db'.connected = true ∧ db'.isOpen = true) ∧ (c.env k).lost = false := by
    simp [keepDb, and_assoc]
  cases ready with
  | false => simpa using hkeep
  | true =>
    cases hbegin : (c.env k).beginTx with
    | broken => simp [resetDb]
    | failed what => simpa using hkeep
    | ok =>
      cases broken with
      | true => simp [resetDb]
      | false =>
        cases hcommit : (c.env k).commit with
        | broken => simp [resetDb]
        | failed | ok => simpa using hkeep

/-- **The connection that attempt `k` finds** is open exactly when the call started with an open
    one and no earlier attempt lost it. -/
theorem usable_iff : c.Usable k ↔ (c.db.connected = true ∧ c.db.isOpen = true) ∧
    ∀ j < k, ¬ c.Breaks j ∧ (c.env j).lost = false := by
  induction k with
  | zero =>
    show (c.db.connected = true ∧ c.db.isOpen = true) ↔ _
    simp
  | succ k ih =>
    rw [usable_succ_iff, ih, and_assoc]
    refine and_congr_right fun _ => ?_
    constructor
    · rintro ⟨hall, hlast⟩ j hj
      rcases Nat.lt_succ_iff_lt_or_eq.mp hj with hlt | rfl
      · exact hall j hlt
      · exact hlast
    · intro hall
      exact ⟨fun j hj => hall j (by omega), hall k (by omega)⟩

/-! ### No entry is moved twice -/

/-- No entry is appended to the DLQ twice, or appended and committed. -/
def MovedOnce (effects : List Effect) : Prop :=
  ∀ i, effects.countP (Effect.appends i) ≤ 1 ∧
    ¬ ((∃ f ∈ effects, f.appends i = true) ∧ ∃ f ∈ effects, f.commits i = true)

/-- An entry is appended at most once if no two attempts move it. -/
theorem countP_appends_flush_le_one (h : ∀ k k', k < k' → c.Moves k i → ¬ c.Moves k' i) :
    c.flush.2.countP (Effect.appends i) ≤ 1 := by
  unfold flush
  by_cases hbuf : c.buf.isEmpty
  · rw [if_pos hbuf]
    exact Nat.zero_le 1
  · rw [if_neg hbuf]
    -- for an attempt that is made, moving an entry is a matter of its answers
    have hmoves : ∀ k, c.Made k → (∃ f ∈ (Retry.attemptAt c.attempt c.db k).effects,
        f.appends i = true) → c.Moves k i := by
      intro k hmade happ
      obtain ⟨hb, hget, hfail, hd, hx⟩ := appends_flushAttempt.mp happ
      exact ⟨⟨hmade, hb, hget⟩, hfail, hd, hx⟩
    refine Retry.countP_run_le_one (fun k => countP_appends_flushAttempt) ?_
    intro k k' hlt hlim hreach hk hk'
    exact h k k' hlt (hmoves k ⟨by omega, hreach.mono (by omega)⟩ hk)
      (hmoves k' ⟨by omega, hreach⟩ hk')

/-- After an attempt that moves an entry and whose commit does not fail alone, no transaction is
    begun: the attempt is the last one, or it has broken the connection. -/
theorem Moves.not_begins {k' : ℕ} (h : c.Moves k i)
    (hcommit : ∀ what, (c.env k).commit ≠ .failed what) (hlt : k < k') (hmade : c.Made k') :
    ¬ Begins (c.env k') (c.dbAt k') := by
  intro hbegins
  obtain ⟨hready, hbegin⟩ := h.1.2.1
  have hkept := ((usable_iff.mp (usable_of_begins hbegins)).2 k hlt).1
  have hinsert : ∀ j < c.buf.length, (c.env k).insert j ≠ .broken :=
    fun j hj hbroken => hkept ⟨hready, Or.inr ⟨hbegin, Or.inl ⟨j, hj, hbroken⟩⟩⟩
  cases hcase : (c.env k).commit with
  | ok =>
    have hdone : (Retry.attemptAt c.attempt c.db k).done = true :=
      done_flushAttempt.mpr ⟨h.1.2.1, hinsert, hcase⟩
    rw [hmade.2 k hlt] at hdone
    exact absurd hdone (by simp)
  | broken => exact hkept ⟨hready, Or.inr ⟨hbegin, Or.inr hcase⟩⟩
  | failed what => exact hcommit what hcase

/-- **When no entry is moved twice.** If every attempt but the last in which an entry fails alone
    and is appended to the DLQ commits or breaks the connection: its commit does not fail with
    another error, after which the whole batch would be tried again. -/
theorem moved_once (c : Call)
    (h : ∀ k < c.cfg.retryMax, ∀ i, Gets (c.env k) c.buf i → FailsAlone (c.env k) i →
      (c.env k).xadd i = .appended → ∀ what, (c.env k).commit ≠ .failed what) :
    MovedOnce c.flush.2 := by
  -- an entry that was moved is not reached again
  have hlast : ∀ k k' i, k < k' → c.Moves k i → ¬ c.Tries k' i := by
    intro k k' i hlt hmove htry
    have hlim : k < c.cfg.retryMax := Nat.lt_of_lt_of_le hlt htry.1.1
    exact hmove.not_begins (h k hlim i hmove.1.2.2 hmove.2.1 hmove.2.2.2) hlt htry.1 htry.2.1
  intro i
  refine ⟨countP_appends_flush_le_one fun k k' hlt hmove hmove' =>
    hlast k k' i hlt hmove hmove'.1, ?_⟩
  rintro ⟨happ, hcom⟩
  obtain ⟨k, hmove⟩ := appends_flush.mp happ
  obtain ⟨k', hcommit⟩ := commits_flush.mp hcom
  -- a commit ends the call, and no attempt both fails on an entry and inserts it
  rcases Nat.eq_or_lt_of_le (hcommit.le_of_made hmove.1.1) with rfl | hlt
  · obtain ⟨what, hfail⟩ := hmove.2.1
    rw [hcommit.2.1] at hfail
    exact absurd hfail (by simp)
  · exact hlast k k' i hlt hmove hcommit.1

/-- One entry that fails alone, in a call whose first commit ends as `r`. -/
def firstMoved (r : DbResult) : Call where
  env := fun k =>
    { insert := fun _ => .failed "invalid input syntax", commit := if k = 0 then r else .ok }
  buf := [{ id := "1-0", fields := [("type", "login")] }]

/-- The case of a first commit that breaks the connection: the entry is moved, and only once. -/
theorem moved_once_broken : (∃ f ∈ (firstMoved .broken).flush.2, f.appends 0 = true) ∧
    MovedOnce (firstMoved .broken).flush.2 := by
  refine ⟨by decide +kernel, moved_once _ fun k _ i _ _ _ what => ?_⟩
  by_cases hk : k = 0 <;> simp [firstMoved, hk]

/-- **An entry is moved twice.** The append to the DLQ is not undone when the transaction is
    rolled back, and the retry starts over from the whole batch. -/
theorem moved_twice : ¬ ∀ c : Call, (c.buf.map StreamEntry.id).Nodup → MovedOnce c.flush.2 := by
  intro hall
  have honce := (hall (firstMoved (.failed "could not serialize access")) (by decide) 0).1
  revert honce
  decide +kernel

/-! ### Retrying against a healthy database -/

/-- The whole batch is committed and acknowledged. -/
def AllStored (c : Call) : Prop :=
  ∀ i < c.buf.length, (∃ f ∈ c.flush.2, f.commits i = true) ∧ ∃ f ∈ c.flush.2, f.acks i = true

/-- From attempt `k` on the database takes everything. -/
def HealthyFrom (c : Call) (k : ℕ) : Prop :=
  ∀ j, k ≤ j → (c.env j).prepare = .ok ∧ (c.env j).beginTx = .ok ∧
    (∀ i, (c.env j).insert i = .ok) ∧ (c.env j).commit = .ok

/-- On an open connection, a healthy attempt commits every entry. -/
theorem commits_of_healthy (hmade : c.Made k) (husable : c.Usable k) (hk : c.HealthyFrom k)
    (hi : i < c.buf.length) : c.Commits k i := by
  obtain ⟨hprep, hbegin, hins, hcommit⟩ := hk k (Nat.le_refl k)
  obtain ⟨hconn, hopen⟩ := husable
  have hready : (ensureDbPrepared (c.env k) (c.dbAt k)).2 = true := by
    unfold ensureDbPrepared
    rw [hconn, hopen, hprep]
    cases (c.dbAt k).prepared <;> rfl
  refine ⟨⟨hmade, ⟨hready, hbegin⟩, hi, fun j _ => ?_⟩, hins i, fun j _ => ?_, hcommit⟩
  · rw [hins j]
    simp
  · rw [hins j]
    simp

/-- **When a retry succeeds.** If the attempts before `k` fail and the database is healthy from
    attempt `k` on, the batch ends up committed and acknowledged exactly when it is empty or the
    call started with an open connection that no failed attempt lost: `Flush` does not connect
    again. -/
theorem retry_commits_iff (c : Call) (k : ℕ) (hk : k ≤ c.cfg.retryMax)
    (hfail : ∀ j < k, (Retry.attemptAt c.attempt c.db j).done = false)
    (hhealthy : c.HealthyFrom k) :
    c.AllStored ↔ c.buf = [] ∨ ((c.db.connected = true ∧ c.db.isOpen = true) ∧
      ∀ j < k, ¬ c.Breaks j ∧ (c.env j).lost = false) := by
  rw [← usable_iff]
  constructor
  · intro hall
    cases hbuf : c.buf with
    | nil => exact Or.inl rfl
    | cons e es =>
      obtain ⟨k', hcommit⟩ := commits_flush.mp (hall 0 (by rw [hbuf]; simp)).1
      -- the attempt that commits is not one of those that failed
      have hle : k ≤ k' := by
        by_contra hlt
        have hno := hfail k' (by omega)
        rw [hcommit.done] at hno
        exact absurd hno (by simp)
      have husable := usable_iff.mp (usable_of_begins hcommit.1.2.1)
      exact Or.inr (usable_iff.mpr ⟨husable.1, fun j hj => husable.2 j (by omega)⟩)
  · rintro (hnil | husable) i hi
    · rw [hnil] at hi
      exact absurd hi (by simp)
    · have hcommit := commits_of_healthy ⟨hk, hfail⟩ husable hhealthy hi
      refine ⟨commits_flush.mpr ⟨k, hcommit⟩, acks_flush.mpr ⟨k, hcommit.1, Or.inr hcommit.2⟩⟩

/-- One entry, in a call whose first commit ends as `r` and all others go through. -/
def firstCommit (r : DbResult) : Call where
  env := fun k => if k = 0 then { commit := r } else {}
  buf := [{ id := "1-0", fields := [("type", "login")] }]

theorem firstCommit_healthyFrom {r : DbResult} : (firstCommit r).HealthyFrom 1 := by
  intro j hj
  have hj0 : j ≠ 0 := by omega
  simp [firstCommit, hj0]

/-- After a commit that fails alone, the retry succeeds. -/
theorem retry_commits_iff_failed :
    let c := firstCommit (.failed "could not serialize access")
    (∀ j < 1, (Retry.attemptAt c.attempt c.db j).done = false) ∧
      (c.AllStored ↔ c.buf = [] ∨ ((c.db.connected = true ∧ c.db.isOpen = true) ∧
        ∀ j < 1, ¬ c.Breaks j ∧ (c.env j).lost = false)) :=
  ⟨by decide +kernel, retry_commits_iff _ 1 (by decide) (by decide +kernel) firstCommit_healthyFrom⟩

/-- **A retry that cannot succeed.** The first commit breaks the connection; all later attempts
    would go through, but find no connection. -/
theorem retry_without_connection : ¬ ∀ (c : Call) (k : ℕ), 1 ≤ k → k ≤ c.cfg.retryMax →
      (∀ j < k, (Retry.attemptAt c.attempt c.db j).done = false) → c.HealthyFrom k →
      c.AllStored := by
  intro hall
  have hstored := hall (firstCommit .broken) 1 (by decide) (by decide) (by decide +kernel)
    firstCommit_healthyFrom 0 (by decide)
  revert hstored
  decide +kernel

end Call

end Knights.WriteBehind
