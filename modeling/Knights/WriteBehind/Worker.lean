import Knights.Lib.Retry
import Knights.WriteBehind.Stream

namespace Knights.WriteBehind

open Knights.Lib List

/-!
# Write-behind — the worker's `Flush`

`Flush` writes a batch of stream entries to the database in one transaction, entry by entry in
savepoints, and acknowledges them (`tools/wb_worker/main.cpp`).  An entry that fails alone is
moved to the DLQ; an attempt that fails as a whole is made again from the full batch, up to
`retry_max` times.  What Postgres and Redis answer is an input, one table per attempt
(`AttemptEnv`), and everything done to them is recorded as a list of effects.

* `mem_effects_processBatch`, `mem_ackIds_processBatch` — the loop over the batch, read off the
  table;
* `flushAttempt_cases` — the three ways an attempt can go;
* `appends_flushAttempt`, `acks_flushAttempt`, `commits_flushAttempt` — what an attempt does to
  one entry;
* `countP_appends_flushAttempt` — it appends it to the DLQ at most once.
-/

/-! ### The model -/

/-- The part of `WorkerConfig` that `Flush` reads. -/
structure WorkerConfig where
  dlqOnError : Bool := true
  dlqStream : String := "session_events_dlq"
  ackOnError : Bool := true
  retryMax : ℕ := 5
  deriving DecidableEq, Repr

/-- What Postgres and Redis answer in one attempt.  `prepare` is asked only if the statement is
    not prepared yet; `insert i` stands for the savepoint, the insert and the release of entry
    number `i`, `xadd i` for its append to the DLQ.  `lost` says that a connection the attempt
    keeps is found closed after it. -/
structure AttemptEnv where
  prepare : DbResult := .ok
  beginTx : DbResult := .ok
  insert : ℕ → DbResult := fun _ => .ok
  xadd : ℕ → XaddResult := fun _ => .appended
  commit : DbResult := .ok
  lost : Bool := false

/-- The worker's connection: `db_` is set, `db_->is_open()`, `db_prepared_`. -/
structure Db where
  connected : Bool
  isOpen : Bool
  prepared : Bool
  deriving DecidableEq, Repr

/-- Something `Flush` does to the outside, for the entry at position `pos` of the batch. -/
inductive Effect where
  | xadd (pos : ℕ) (stream : String) (fields : Fields) (result : XaddResult)
  | xack (pos : ℕ) (id : String)
  | commit (inserted : List (ℕ × String))
  deriving DecidableEq, Repr

/-- `SendToDlq`: whether it reports success, and its call.  The value of `xadd` is ignored, only
    an exception counts as failure. -/
def sendToDlq (cfg : WorkerConfig) (pos : ℕ) (e : StreamEntry) (errorMsg : String)
    (r : XaddResult) : Bool × List Effect :=
  (r != .threw, [.xadd pos cfg.dlqStream (dlqFields e errorMsg) r])

/-- The handler of an error on one entry. -/
def onEntryError (cfg : WorkerConfig) (pos : ℕ) (e : StreamEntry) (what : String)
    (r : XaddResult) : List Effect :=
  if cfg.dlqOnError && !cfg.dlqStream.isEmpty then
    let sent := sendToDlq cfg pos e what r
    if sent.1 then sent.2 ++ [.xack pos e.id]
    else if cfg.ackOnError then sent.2 ++ [.xack pos e.id]
    else sent.2
  else if cfg.ackOnError then [.xack pos e.id]
  else []

/-- What the loop over the batch leaves: its effects, the entries inserted in the open
    transaction, and whether the connection broke. -/
structure BatchResult where
  effects : List Effect := []
  ackIds : List (ℕ × String) := []
  broken : Bool := false
  deriving DecidableEq, Repr

/-- The loop over the batch, from position `pos` on. -/
def processBatch (cfg : WorkerConfig) (env : AttemptEnv) : ℕ → List StreamEntry → BatchResult
  | _, [] => {}
  | pos, e :: es =>
    match env.insert pos with
    | .ok =>
      let rest := processBatch cfg env (pos + 1) es
      { rest with ackIds := (pos, e.id) :: rest.ackIds }
    | .broken => { broken := true }
    | .failed what =>
      let rest := processBatch cfg env (pos + 1) es
      { rest with effects := onEntryError cfg pos e what (env.xadd pos) ++ rest.effects }

/-- `EnsureDbPrepared`.  That the name is already prepared counts as success and is part of
    `prepare = ok`. -/
def ensureDbPrepared (env : AttemptEnv) (db : Db) : Db × Bool :=
  if !db.connected || !db.isOpen then (db, false)
  else if db.prepared then (db, true)
  else if env.prepare = .ok then ({ db with prepared := true }, true)
  else ({ db with prepared := false }, false)

/-- The connection after a broken-connection error: `db_.reset()`. -/
def resetDb : Db := { connected := false, isOpen := false, prepared := false }

/-- The connection after any other error. -/
def keepDb (env : AttemptEnv) (db : Db) : Db := { db with isOpen := db.isOpen && !env.lost }

/-- One attempt of `Flush`. -/
def flushAttempt (cfg : WorkerConfig) (env : AttemptEnv) (buf : List StreamEntry) (db : Db) :
    Attempt Db Effect :=
  let prep := ensureDbPrepared env db
  let db := prep.1
  if !prep.2 then { state := keepDb env db, effects := [], done := false }
  else
    match env.beginTx with
    | .broken => { state := resetDb, effects := [], done := false }
    | .failed _ => { state := keepDb env db, effects := [], done := false }
    | .ok =>
      -- what the loop did to Redis stays done, whatever becomes of the transaction
      let r := processBatch cfg env 0 buf
      if r.broken then { state := resetDb, effects := r.effects, done := false }
      else
        match env.commit with
        | .broken => { state := resetDb, effects := r.effects, done := false }
        | .failed _ => { state := keepDb env db, effects := r.effects, done := false }
        | .ok =>
          { state := keepDb env db
            effects := r.effects ++ .commit r.ackIds :: r.ackIds.map fun a => .xack a.1 a.2
            done := true }

/-- One call of `Flush`: the configuration, the answers of every attempt, the batch and the
    connection it starts with. -/
structure Call where
  cfg : WorkerConfig := {}
  env : ℕ → AttemptEnv
  buf : List StreamEntry
  db : Db := { connected := true, isOpen := true, prepared := true }

namespace Call

/-- Attempt `k` of the call. -/
def attempt (c : Call) (k : ℕ) (db : Db) : Attempt Db Effect :=
  flushAttempt c.cfg (c.env k) c.buf db

/-- `Flush`: the connection it leaves and its effects. -/
def flush (c : Call) : Db × List Effect :=
  if c.buf.isEmpty then (c.db, [])
  else Retry.run c.attempt (c.cfg.retryMax + 1) c.db

end Call

/-! ### One attempt -/

variable {cfg : WorkerConfig} {env : AttemptEnv} {buf : List StreamEntry} {db : Db} {f : Effect}

/-- The loop over the entries `es`, which starts at position `pos`, reaches an entry with the
    property `Q` before the connection breaks. -/
def Reaches (env : AttemptEnv) (pos : ℕ) (es : List StreamEntry) (Q : ℕ → StreamEntry → Prop) :
    Prop :=
  ∃ k e, es[k]? = some e ∧ (∀ j < k, env.insert (pos + j) ≠ .broken) ∧ Q (pos + k) e

variable {pos : ℕ} {es : List StreamEntry} {Q : ℕ → StreamEntry → Prop}

@[simp] theorem not_reaches_nil : ¬ Reaches env pos [] Q := by
  rintro ⟨k, e, he, -⟩
  exact absurd he (by simp)

/-- The first entry is reached, and the others if it does not break the connection. -/
theorem reaches_cons {e : StreamEntry} : Reaches env pos (e :: es) Q ↔
      Q pos e ∨ (env.insert pos ≠ .broken ∧ Reaches env (pos + 1) es Q) := by
  have hadd : ∀ k, pos + 1 + k = pos + (k + 1) := fun k => by omega
  constructor
  · rintro ⟨k, e', he, hno, hQ⟩
    cases k with
    -- the entry reached is the first one, or its position is counted from the next
    | zero =>
      rw [List.getElem?_cons_zero] at he
      cases he
      exact Or.inl hQ
    | succ k =>
      refine Or.inr ⟨hno 0 (by omega), k, e', he, fun j hj => ?_, ?_⟩
      · rw [hadd]
        exact hno (j + 1) (by omega)
      · rw [hadd]
        exact hQ
  · rintro (hQ | ⟨hpos, k, e', he, hno, hQ⟩)
    · exact ⟨0, e, rfl, fun j hj => absurd hj (by omega), hQ⟩
    · refine ⟨k + 1, e', he, fun j hj => ?_, by rw [← hadd]; exact hQ⟩
      cases j with
      | zero => exact hpos
      | succ j =>
        rw [← hadd]
        exact hno j (by omega)

/-- **The effects of the loop over the batch** are those of the entries that fail. -/
theorem mem_effects_processBatch :
    f ∈ (processBatch cfg env pos es).effects ↔ Reaches env pos es fun i e =>
      ∃ what, env.insert i = .failed what ∧ f ∈ onEntryError cfg i e what (env.xadd i) := by
  induction es generalizing pos with
  | nil => simp [processBatch]
  | cons e es ih =>
    unfold processBatch
    rw [reaches_cons, ← ih]
    cases hins : env.insert pos <;> simp

/-- **The entries that the loop inserts.** -/
theorem mem_ackIds_processBatch {a : ℕ × String} :
    a ∈ (processBatch cfg env pos es).ackIds ↔ Reaches env pos es fun i e =>
      env.insert i = .ok ∧ a = (i, e.id) := by
  induction es generalizing pos with
  | nil => simp [processBatch]
  | cons e es ih =>
    unfold processBatch
    rw [reaches_cons, ← ih]
    cases hins : env.insert pos <;> simp

/-- The loop ends early exactly when it meets a broken connection. -/
theorem broken_processBatch :
    (processBatch cfg env pos es).broken = true ↔ Reaches env pos es fun i _ =>
      env.insert i = .broken := by
  induction es generalizing pos with
  | nil => simp [processBatch]
  | cons e es ih =>
    unfold processBatch
    rw [reaches_cons, ← ih]
    cases hins : env.insert pos <;> simp

/-- The attempt opens its transaction. -/
def Begins (env : AttemptEnv) (db : Db) : Prop :=
  (ensureDbPrepared env db).2 = true ∧ env.beginTx = .ok

/-- The attempt gets through the batch and commits. -/
def Completes (env : AttemptEnv) (buf : List StreamEntry) : Prop :=
  (∀ i < buf.length, env.insert i ≠ .broken) ∧ env.commit = .ok

/-- The loop over the whole batch is not cut short exactly when no entry breaks the
    connection. -/
theorem broken_eq_false_iff :
    (processBatch cfg env 0 buf).broken = false ↔ ∀ i < buf.length, env.insert i ≠ .broken := by
  rw [← Bool.not_eq_true, broken_processBatch]
  constructor
  · -- the first entry that breaks the connection is reached
    intro hno i
    induction i using Nat.strongRecOn with
    | ind i ih =>
      intro hi hbr
      refine hno ⟨i, buf[i], List.getElem?_eq_getElem hi, fun j hj => ?_, ?_⟩
      · rw [Nat.zero_add]
        exact ih j hj (by omega)
      · rw [Nat.zero_add]
        exact hbr
  · rintro hall ⟨k, e, he, -, hbr⟩
    rw [Nat.zero_add] at hbr
    exact hall k (List.getElem?_eq_some_iff.mp he).1 hbr

/-- **Inversion of an attempt.** It does not get to its transaction, or it fails in it, or it
    commits. -/
theorem flushAttempt_cases (cfg : WorkerConfig) (env : AttemptEnv) (buf : List StreamEntry)
    (db : Db) :
    (¬ Begins env db ∧ (flushAttempt cfg env buf db).effects = [] ∧
        (flushAttempt cfg env buf db).done = false) ∨
      (Begins env db ∧ ¬ Completes env buf ∧
        (flushAttempt cfg env buf db).effects = (processBatch cfg env 0 buf).effects ∧
        (flushAttempt cfg env buf db).done = false) ∨
      (Begins env db ∧ Completes env buf ∧
        (flushAttempt cfg env buf db).effects = (processBatch cfg env 0 buf).effects ++
          .commit (processBatch cfg env 0 buf).ackIds ::
            (processBatch cfg env 0 buf).ackIds.map (fun a => .xack a.1 a.2) ∧
        (flushAttempt cfg env buf db).done = true) := by
  unfold flushAttempt Begins Completes
  rw [← @broken_eq_false_iff cfg]
  -- the attempt depends on the connection and the loop through their results alone
  generalize ensureDbPrepared env db = prep
  generalize processBatch cfg env 0 buf = r
  obtain ⟨db', ready⟩ := prep
  obtain ⟨effects, ackIds, broken⟩ := r
  cases ready with
  | false => exact Or.inl ⟨by simp, rfl, rfl⟩
  | true =>
    cases env.beginTx with
    | broken | failed => exact Or.inl ⟨by simp, rfl, rfl⟩
    | ok =>
      cases broken with
      | true => exact Or.inr (Or.inl ⟨⟨rfl, rfl⟩, by simp, rfl, rfl⟩)
      | false =>
        cases env.commit with
        | broken | failed => exact Or.inr (Or.inl ⟨⟨rfl, rfl⟩, by simp, rfl, rfl⟩)
        | ok => exact Or.inr (Or.inr ⟨⟨rfl, rfl⟩, ⟨rfl, rfl⟩, rfl, rfl⟩)

/-- **What one attempt does.** -/
theorem mem_flushAttempt : f ∈ (flushAttempt cfg env buf db).effects ↔ Begins env db ∧
      (f ∈ (processBatch cfg env 0 buf).effects ∨ (Completes env buf ∧
        (f = .commit (processBatch cfg env 0 buf).ackIds ∨
          ∃ a ∈ (processBatch cfg env 0 buf).ackIds, .xack a.1 a.2 = f))) := by
  rcases flushAttempt_cases cfg env buf db with ⟨hb, he, -⟩ | ⟨hb, hc, he, -⟩ | ⟨hb, hc, he, -⟩
  · simp [he, hb]
  · simp [he, hb, hc]
  · rw [he, mem_append, mem_cons, mem_map]
    simp [hb, hc]

/-- **When an attempt is the last one.** -/
theorem done_flushAttempt :
    (flushAttempt cfg env buf db).done = true ↔ Begins env db ∧ Completes env buf := by
  rcases flushAttempt_cases cfg env buf db with ⟨hb, -, hd⟩ | ⟨hb, hc, -, hd⟩ | ⟨hb, hc, -, hd⟩
  · simp [hd, hb]
  · simp [hd, hc]
  · simp [hd, hb, hc]

/-! ### What happens to an entry -/

/-- The effect appends entry `i` to the DLQ. -/
def Effect.appends (i : ℕ) : Effect → Bool
  | .xadd pos _ _ .appended => pos == i
  | _ => false

/-- The effect acknowledges entry `i`. -/
def Effect.acks (i : ℕ) : Effect → Bool
  | .xack pos _ => pos == i
  | _ => false

/-- The effect commits a transaction that contains entry `i`. -/
def Effect.commits (i : ℕ) : Effect → Bool
  | .commit inserted => inserted.any fun a => a.1 == i
  | _ => false

/-- Failing entries go to the DLQ. -/
def WorkerConfig.dlqEnabled (cfg : WorkerConfig) : Bool := cfg.dlqOnError && !cfg.dlqStream.isEmpty

variable {i : ℕ} {e : StreamEntry} {what : String} {r : XaddResult}

/-- A failing entry is appended to the DLQ if `xadd` appends. -/
theorem exists_appends_onEntryError : (∃ f ∈ onEntryError cfg pos e what r, f.appends i = true) ↔
      cfg.dlqEnabled = true ∧ r = .appended ∧ pos = i := by
  unfold onEntryError WorkerConfig.dlqEnabled sendToDlq
  cases cfg.dlqOnError && !cfg.dlqStream.isEmpty <;> cases cfg.ackOnError <;> cases r <;>
    simp [Effect.appends]

/-- A failing entry is acknowledged unless `xadd` throws. -/
theorem exists_acks_onEntryError : (∃ f ∈ onEntryError cfg pos e what r, f.acks i = true) ↔
      (cfg.dlqEnabled = true ∧ r ≠ .threw ∨ cfg.ackOnError = true) ∧ pos = i := by
  unfold onEntryError WorkerConfig.dlqEnabled sendToDlq
  cases cfg.dlqOnError && !cfg.dlqStream.isEmpty <;> cases cfg.ackOnError <;> cases r <;>
    simp [Effect.acks]

/-- A failing entry commits nothing. -/
theorem not_commits_onEntryError (hf : f ∈ onEntryError cfg pos e what r) :
    f.commits i = false := by
  unfold onEntryError sendToDlq at hf
  cases hd : (cfg.dlqOnError && !cfg.dlqStream.isEmpty) <;> cases ha : cfg.ackOnError <;>
    cases r <;> simp [hd, ha] at hf
  all_goals rcases hf with rfl | rfl <;> rfl

/-- The loop over the batch gets to entry `i`. -/
def Gets (env : AttemptEnv) (buf : List StreamEntry) (i : ℕ) : Prop :=
  i < buf.length ∧ ∀ j < i, env.insert j ≠ .broken

/-- Reaching an entry by its position. -/
theorem reaches_at {P : ℕ → Prop} :
    (Reaches env 0 buf fun j _ => P j ∧ j = i) ↔ Gets env buf i ∧ P i := by
  unfold Reaches Gets
  simp only [Nat.zero_add]
  constructor
  · rintro ⟨k, e, he, hno, hP, rfl⟩
    exact ⟨⟨(List.getElem?_eq_some_iff.mp he).1, hno⟩, hP⟩
  · rintro ⟨⟨hi, hno⟩, hP⟩
    exact ⟨i, buf[i], List.getElem?_eq_getElem hi, hno, hP, rfl⟩

/-- The entry fails alone. -/
def FailsAlone (env : AttemptEnv) (i : ℕ) : Prop := ∃ what, env.insert i = .failed what

/-- What the handler of a failing entry does depends on its `xadd` alone, so the loop does it for
    entry `i` exactly when it gets there and the entry fails. -/
theorem exists_effect_processBatch {p : Effect → Bool} {P : XaddResult → Prop}
    (hp : ∀ pos e what r, (∃ f ∈ onEntryError cfg pos e what r, p f = true) ↔ P r ∧ pos = i) :
    (∃ f ∈ (processBatch cfg env 0 buf).effects, p f = true) ↔
      Gets env buf i ∧ FailsAlone env i ∧ P (env.xadd i) := by
  rw [← @reaches_at env buf i fun j => FailsAlone env j ∧ P (env.xadd j)]
  constructor
  · rintro ⟨f, hf, hpf⟩
    obtain ⟨k, e, he, hno, what, hfail, hmem⟩ := mem_effects_processBatch.mp hf
    obtain ⟨hP, hpos⟩ := (hp _ _ _ _).mp ⟨f, hmem, hpf⟩
    exact ⟨k, e, he, hno, ⟨⟨what, hfail⟩, hP⟩, hpos⟩
  · rintro ⟨k, e, he, hno, ⟨⟨what, hfail⟩, hP⟩, hpos⟩
    obtain ⟨f, hmem, hpf⟩ := (hp (0 + k) e what _).mpr ⟨hP, hpos⟩
    exact ⟨f, mem_effects_processBatch.mpr ⟨k, e, he, hno, what, hfail, hmem⟩, hpf⟩

/-- **An attempt appends an entry to the DLQ.** -/
theorem appends_flushAttempt : (∃ f ∈ (flushAttempt cfg env buf db).effects, f.appends i = true) ↔
      Begins env db ∧ Gets env buf i ∧ FailsAlone env i ∧ cfg.dlqEnabled = true ∧
        env.xadd i = .appended := by
  have hbatch := @exists_effect_processBatch cfg env buf i (Effect.appends i)
    (fun r => cfg.dlqEnabled = true ∧ r = .appended) (fun pos e what r => by
      rw [exists_appends_onEntryError, and_assoc])
  rw [← hbatch]
  constructor
  · rintro ⟨f, hf, happ⟩
    obtain ⟨hb, hf | ⟨-, rfl | ⟨a, -, rfl⟩⟩⟩ := mem_flushAttempt.mp hf
    · exact ⟨hb, f, hf, happ⟩
    · exact absurd happ (by simp [Effect.appends])
    · exact absurd happ (by simp [Effect.appends])
  · rintro ⟨hb, f, hf, happ⟩
    exact ⟨f, mem_flushAttempt.mpr ⟨hb, Or.inl hf⟩, happ⟩

/-- The entries inserted by a loop over the whole batch. -/
theorem exists_ackIds_iff :
    (∃ a ∈ (processBatch cfg env 0 buf).ackIds, a.1 = i) ↔ Gets env buf i ∧ env.insert i = .ok := by
  rw [← @reaches_at env buf i fun j => env.insert j = .ok]
  constructor
  · rintro ⟨a, ha, rfl⟩
    obtain ⟨k, e, he, hno, hok, rfl⟩ := mem_ackIds_processBatch.mp ha
    exact ⟨k, e, he, hno, hok, rfl⟩
  · rintro ⟨k, e, he, hno, hok, hpos⟩
    exact ⟨(0 + k, e.id), mem_ackIds_processBatch.mpr ⟨k, e, he, hno, hok, rfl⟩, hpos⟩

/-- **An attempt commits an entry.** -/
theorem commits_flushAttempt : (∃ f ∈ (flushAttempt cfg env buf db).effects, f.commits i = true) ↔
      Begins env db ∧ Gets env buf i ∧ env.insert i = .ok ∧ Completes env buf := by
  have hany : (Effect.commit (processBatch cfg env 0 buf).ackIds).commits i = true ↔
      Gets env buf i ∧ env.insert i = .ok := by
    rw [← @exists_ackIds_iff cfg]
    simp [Effect.commits]
  constructor
  · rintro ⟨f, hf, hcom⟩
    obtain ⟨hb, hf | ⟨hc, rfl | ⟨a, -, rfl⟩⟩⟩ := mem_flushAttempt.mp hf
    · obtain ⟨k, e, -, -, what, -, hmem⟩ := mem_effects_processBatch.mp hf
      rw [not_commits_onEntryError hmem] at hcom
      exact absurd hcom (by simp)
    · obtain ⟨hget, hok⟩ := hany.mp hcom
      exact ⟨hb, hget, hok, hc⟩
    · exact absurd hcom (by simp [Effect.commits])
  · rintro ⟨hb, hget, hok, hc⟩
    exact ⟨_, mem_flushAttempt.mpr ⟨hb, Or.inr ⟨hc, Or.inl rfl⟩⟩, hany.mpr ⟨hget, hok⟩⟩

/-- **An attempt acknowledges an entry**: because it committed it, or because it failed alone
    and was taken care of. -/
theorem acks_flushAttempt : (∃ f ∈ (flushAttempt cfg env buf db).effects, f.acks i = true) ↔
      Begins env db ∧ Gets env buf i ∧
        (FailsAlone env i ∧ (cfg.dlqEnabled = true ∧ env.xadd i ≠ .threw ∨ cfg.ackOnError = true) ∨
          env.insert i = .ok ∧ Completes env buf) := by
  have hbatch := @exists_effect_processBatch cfg env buf i (Effect.acks i)
    (fun r => cfg.dlqEnabled = true ∧ r ≠ .threw ∨ cfg.ackOnError = true)
    (fun _ _ _ _ => exists_acks_onEntryError)
  constructor
  · rintro ⟨f, hf, hack⟩
    obtain ⟨hb, hf | ⟨hc, rfl | ⟨a, ha, rfl⟩⟩⟩ := mem_flushAttempt.mp hf
    · obtain ⟨hget, hfail⟩ := hbatch.mp ⟨f, hf, hack⟩
      exact ⟨hb, hget, Or.inl hfail⟩
    · exact absurd hack (by simp [Effect.acks])
    · obtain ⟨hget, hok⟩ := exists_ackIds_iff.mp ⟨a, ha, by simpa [Effect.acks] using hack⟩
      exact ⟨hb, hget, Or.inr ⟨hok, hc⟩⟩
  · rintro ⟨hb, hget, hfail | ⟨hok, hc⟩⟩
    · obtain ⟨f, hf, hack⟩ := hbatch.mpr ⟨hget, hfail⟩
      exact ⟨f, mem_flushAttempt.mpr ⟨hb, Or.inl hf⟩, hack⟩
    · obtain ⟨a, ha, hpos⟩ := (@exists_ackIds_iff cfg env buf i).mpr ⟨hget, hok⟩
      exact ⟨_, mem_flushAttempt.mpr ⟨hb, Or.inr ⟨hc, Or.inr ⟨a, ha, rfl⟩⟩⟩,
        by simp [Effect.acks, hpos]⟩

/-! ### At most one append per attempt -/

/-- The handler of a failing entry appends it at most once, and no other. -/
theorem countP_appends_onEntryError :
    (onEntryError cfg pos e what r).countP (Effect.appends i) ≤ if pos = i then 1 else 0 := by
  unfold onEntryError sendToDlq
  cases cfg.dlqOnError && !cfg.dlqStream.isEmpty <;> cases cfg.ackOnError <;> cases r <;>
    simp [Effect.appends, countP_cons]

/-- The loop over the batch appends an entry at most once, and none that it has passed. -/
theorem countP_appends_processBatch :
    (processBatch cfg env pos es).effects.countP (Effect.appends i) ≤ if pos ≤ i then 1 else 0 := by
  induction es generalizing pos with
  | nil => simp [processBatch]
  | cons e es ih =>
    have hrest := @ih (pos + 1)
    have hweak : (if pos + 1 ≤ i then 1 else 0) ≤ if pos ≤ i then 1 else 0 := by
      split <;> split <;> omega
    unfold processBatch
    cases env.insert pos with
    | ok => exact Nat.le_trans hrest hweak
    | broken => simp
    | failed what =>
      -- at position `i` itself the rest contributes nothing
      have hhere := @countP_appends_onEntryError cfg pos i e what (env.xadd pos)
      simp only [countP_append]
      by_cases hpos : pos = i
      · rw [if_pos hpos] at hhere
        rw [if_neg (by omega)] at hrest
        rw [if_pos (by omega)]
        omega
      · rw [if_neg hpos] at hhere
        omega

/-- **An attempt appends an entry at most once.** -/
theorem countP_appends_flushAttempt :
    (flushAttempt cfg env buf db).effects.countP (Effect.appends i) ≤ 1 := by
  have hbatch : (processBatch cfg env 0 buf).effects.countP (Effect.appends i) ≤ 1 :=
    @countP_appends_processBatch cfg env 0 buf i
  rcases flushAttempt_cases cfg env buf db with ⟨-, he, -⟩ | ⟨-, -, he, -⟩ | ⟨-, -, he, -⟩
  · simp [he]
  · rw [he]
    exact hbatch
  · have htail : ((processBatch cfg env 0 buf).ackIds.map fun a => Effect.xack a.1 a.2).countP
        (Effect.appends i) = 0 := by
      rw [countP_eq_zero]
      intro f hf
      obtain ⟨a, -, rfl⟩ := mem_map.mp hf
      simp [Effect.appends]
    rw [he, countP_append, countP_cons_of_neg (by simp [Effect.appends]), htail]
    exact hbatch

end Knights.WriteBehind
