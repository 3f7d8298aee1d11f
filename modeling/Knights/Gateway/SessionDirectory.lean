import Knights.Lib.Assoc
import Knights.Lib.Machine

namespace Knights.Gateway

open Knights.Lib Finmap Machine

/-!
# Gateway — the session directory

Every gateway has a `SessionDirectory` (`gateway/src/session_directory.cpp`) that remembers which
backend a client belongs to: a local cache in front of one Redis that all gateways share.  A call
is a small program: it takes the mutex, releases it, sends a command to Redis, and other calls, on
this gateway or another one, may run in between.  So a call is modelled by the *stage* it has
reached, and one step of the system is one critical section or one Redis command of one call.

* `SessionDirectory.advance` — what a call does in one step;
* `Cluster.machine` — any number of directories and calls around one Redis.  Keys expire when the
  input says so, and every step of a call brings its own reading of the clock;
* `Settled` — the invariant behind agreement: until a key is set nothing is known of a client,
  and from then on every cache and every call agrees with the key;
* `ensure_agreement` — where nothing expires or is released, all calls of `ensure_backend` for a
  client return one backend, and it is what every later `find_backend` returns.
-/

/-! ### Redis -/

/-- The string keys of Redis.  Times to live are not part of it: see `Cluster.Input.expire`. -/
abbrev Redis := FMap String String

namespace Redis

/-- `SET` unless the key exists; whether it was set. -/
def setIfNotExists (redis : Redis) (key value : String) : Redis × Bool :=
  if redis.lookup key = none then (redis.insert key value, true) else (redis, false)

/-- `SET` if the key has the expected value; whether it was set. -/
def setIfEquals (redis : Redis) (key expected value : String) : Redis × Bool :=
  if redis.lookup key = some expected then (redis.insert key value, true) else (redis, false)

/-- `DEL` if the key has the expected value; whether it was deleted. -/
def delIfEquals (redis : Redis) (key expected : String) : Redis × Bool :=
  if redis.lookup key = some expected then (redis.erase key, true) else (redis, false)

/-- Writing the value that is expected changes nothing. -/
theorem lookup_setIfEquals_self (redis : Redis) (key value k : String) :
    (redis.setIfEquals key value value).1.lookup k = redis.lookup k := by
  unfold setIfEquals
  split
  case isTrue h =>
    by_cases hk : k = key
    · rw [hk, h]
      exact lookup_insert redis
    · exact lookup_insert_of_ne redis hk
  case isFalse => rfl

end Redis

/-! ### One directory -/

/-- A cached backend and the time until which it may be used. -/
structure CacheEntry where
  backend : String
  expires : ℕ
  deriving DecidableEq, Repr

/-- The fields of a directory.  `hasRedis` is `redis_ != nullptr`. -/
structure SessionDirectory where
  hasRedis : Bool
  keyPrefix : String
  ttl : ℕ
  cache : FMap String CacheEntry

namespace SessionDirectory

/-- The constructor: a key prefix that is not empty and ends in a slash, a positive time to
    live, an empty cache. -/
def create (hasRedis : Bool) (keyPrefix : String) (ttl : ℤ) : SessionDirectory :=
  let keyPrefix := if keyPrefix = "" then "gateway/session/" else keyPrefix
  { hasRedis := hasRedis
    keyPrefix := if keyPrefix.toList.getLast? = some '/' then keyPrefix else keyPrefix ++ "/"
    ttl := if ttl ≤ 0 then 30 else ttl.toNat
    cache := ∅ }

variable (d : SessionDirectory) (client : String)

/-- The Redis key of a client. -/
def makeKey : String := d.keyPrefix ++ client

/-- Put a backend into the cache. -/
def remember (client backend : String) (now : ℕ) : SessionDirectory :=
  { d with cache := d.cache.insert client ⟨backend, now + d.ttl⟩ }

/-- Take a client out of the cache. -/
def forget : SessionDirectory :=
  { d with cache := d.cache.erase client }

/-- The calls, with the backend they name. -/
inductive Op where
  | find
  | ensure (desired : String)
  | refresh (backend : String)
  | release (backend : String)
  deriving DecidableEq, Repr

/-- How far a call has come: what it does next. -/
inductive Stage where
  /-- `find_backend`: look into the cache. -/
  | lookup
  /-- `find_backend`: ask Redis. -/
  | get
  /-- `find_backend`: cache what Redis said. -/
  | store (value : String)
  /-- `ensure_backend`: renew the time to live of the binding that was found. -/
  | touch (existing : String)
  /-- `ensure_backend`: set the key if it does not exist. -/
  | claim
  /-- `ensure_backend`: the key existed, read it again. -/
  | reread
  /-- `ensure_backend`: cache a backend and return it. -/
  | keep (value : String)
  /-- `refresh_backend`: renew the time to live. -/
  | renew (backend : String)
  /-- `refresh_backend`: cache the backend. -/
  | cache (backend : String)
  /-- `release_backend`: drop the backend from the cache. -/
  | drop (backend : String)
  /-- `release_backend`: delete the key. -/
  | del (backend : String)
  /-- The call has returned. -/
  | done (result : Option String)
  deriving DecidableEq, Repr

/-- Where a call starts. -/
def start : Op → Stage
  | .find => if client = "" then .done none else .lookup
  | .ensure desired =>
    if client = "" ∨ desired = "" then .done none
    else if d.hasRedis then .lookup else .keep desired
  | .refresh backend =>
    if client = "" ∨ backend = "" then .done none
    else if d.hasRedis then .renew backend else .cache backend
  | .release backend => if client = "" ∨ backend = "" then .done none else .drop backend

/-- What happens to the result of `find_backend`: it is returned, or used by `ensure_backend`. -/
def found : Op → Option String → Stage
  | .ensure desired, some existing =>
    if existing = desired then .touch existing else .done (some existing)
  | .ensure _, none => .claim
  | _, result => .done result

/-- `find_backend` after a miss in the cache. -/
def afterMiss (op : Op) : Stage :=
  if d.hasRedis then .get else found op none

/-- The backend that `ensure_backend` wants. -/
def Op.desired : Op → String
  | .ensure desired => desired
  | _ => ""

/-- One critical section, or one Redis command, of a call. -/
def advance (redis : Redis) (d : SessionDirectory) (client : String) (op : Op) (now : ℕ) :
    Stage → Redis × SessionDirectory × Stage
  | .lookup =>
    match d.cache.lookup client with
    | some entry =>
      if now < entry.expires then (redis, d, found op (some entry.backend))
      else (redis, d.forget client, d.afterMiss op)
    | none => (redis, d, d.afterMiss op)
  | .get =>
    match redis.lookup (d.makeKey client) with
    | some value => if value = "" then (redis, d, found op none) else (redis, d, .store value)
    | none => (redis, d, found op none)
  | .store value => (redis, d.remember client value now, found op (some value))
  | .touch existing =>
    ((redis.setIfEquals (d.makeKey client) existing existing).1, d, .done (some existing))
  | .claim =>
    let (redis, set) := redis.setIfNotExists (d.makeKey client) op.desired
    (redis, d, if set then .keep op.desired else .reread)
  | .reread =>
    match redis.lookup (d.makeKey client) with
    | some current => (redis, d, .keep (if current = "" then op.desired else current))
    | none => (redis, d, .keep op.desired)
  | .keep value => (redis, d.remember client value now, .done (some value))
  | .renew backend =>
    ((redis.setIfEquals (d.makeKey client) backend backend).1, d, .cache backend)
  | .cache backend => (redis, d.remember client backend now, .done none)
  | .drop backend =>
    let d' := match d.cache.lookup client with
      | some entry => if entry.backend = backend then d.forget client else d
      | none => d
    (redis, d', if d.hasRedis then .del backend else .done none)
  | .del backend => ((redis.delIfEquals (d.makeKey client) backend).1, d, .done none)
  | .done result => (redis, d, .done result)

end SessionDirectory

/-! ### Any number of directories and calls -/

open SessionDirectory (Op Stage)

/-- A call under way. -/
structure Task (δ : Type) where
  dir : δ
  client : String
  op : Op
  stage : Stage
  deriving DecidableEq, Repr

/-- Directories `δ` and calls `ι` around one Redis. -/
structure Cluster (δ ι : Type) where
  redis : Redis
  dir : δ → SessionDirectory
  task : ι → Option (Task δ)

namespace Cluster

variable {δ ι : Type} [DecidableEq δ] [DecidableEq ι]

/-- What can happen: a call begins, a call does its next step at some reading of the clock,
    Redis drops a key whose time is over. -/
inductive Input (δ ι : Type) where
  | call (id : ι) (dir : δ) (client : String) (op : Op)
  | step (id : ι) (now : ℕ)
  | expire (key : String)
  deriving DecidableEq, Repr

/-- The next step of a call. -/
def advance (s : Cluster δ ι) (id : ι) (t : Task δ) (now : ℕ) : Cluster δ ι :=
  let r := SessionDirectory.advance s.redis (s.dir t.dir) t.client t.op now t.stage
  { redis := r.1
    dir := Function.update s.dir t.dir r.2.1
    task := Function.update s.task id (some { t with stage := r.2.2 }) }

/-- The beginning of a call. -/
def start (s : Cluster δ ι) (id : ι) (dir : δ) (client : String) (op : Op) : Cluster δ ι :=
  { s with
    task := Function.update s.task id (some ⟨dir, client, op, (s.dir dir).start client op⟩) }

/-- The system.  A call has its own name, so a name that is taken cannot be used again. -/
def step (s : Cluster δ ι) : Input δ ι → Cluster δ ι
  | .call id dir client op =>
    match s.task id with
    | some _ => s
    | none => s.start id dir client op
  | .step id now =>
    match s.task id with
    | some t => s.advance id t now
    | none => s
  | .expire key => { s with redis := s.redis.erase key }

/-- The system as a machine. -/
def machine (δ ι : Type) [DecidableEq δ] [DecidableEq ι] :
    Machine (Cluster δ ι) (Input δ ι) Unit where
  step s i := (s.step i, ())

@[simp] theorem machine_next (s : Cluster δ ι) (i : Input δ ι) :
    (machine δ ι).next s i = s.step i := rfl

section Fields

variable (s : Cluster δ ι) (id : ι) (t : Task δ) (now : ℕ)

@[simp] theorem dir_advance_self : (s.advance id t now).dir t.dir =
    (SessionDirectory.advance s.redis (s.dir t.dir) t.client t.op now t.stage).2.1 :=
  Function.update_self ..

@[simp] theorem task_advance_self : (s.advance id t now).task id = some { t with stage :=
    (SessionDirectory.advance s.redis (s.dir t.dir) t.client t.op now t.stage).2.2 } :=
  Function.update_self ..

omit [DecidableEq δ] in
@[simp] theorem task_start_self (dir : δ) (client : String) (op : Op) :
    (s.start id dir client op).task id = some ⟨dir, client, op, (s.dir dir).start client op⟩ :=
  Function.update_self ..

variable {s id t now}

theorem dir_advance_of_ne {j : δ} (h : j ≠ t.dir) : (s.advance id t now).dir j = s.dir j :=
  Function.update_of_ne h ..

theorem task_advance_of_ne {id' : ι} (h : id' ≠ id) : (s.advance id t now).task id' = s.task id' :=
  Function.update_of_ne h ..

omit [DecidableEq δ] in
theorem task_start_of_ne {id' : ι} (h : id' ≠ id) (dir : δ) (client : String) (op : Op) :
    (s.start id dir client op).task id' = s.task id' :=
  Function.update_of_ne h ..

end Fields

/-- What a call has returned, if it has. -/
def result (s : Cluster δ ι) (id : ι) : Option (Option String) :=
  match s.task id with
  | some ⟨_, _, _, .done result⟩ => some result
  | _ => none

/-- The call `id` has returned `result`. -/
def Returned (s : Cluster δ ι) (id : ι) (client : String) (op : Op) (result : Option String) :
    Prop :=
  ∃ dir, s.task id = some ⟨dir, client, op, .done result⟩

end Cluster

/-! ### What one step of a call can do -/

variable {other b : String} {held' : Option String} {op : Op}

namespace SessionDirectory

variable {redis : Redis} {d : SessionDirectory} {client value : String} {op : Op} {now : ℕ}
  {stage stage' : Stage} {held : Option String}

@[simp] theorem lookup_remember (backend : String) :
    (d.remember client backend now).cache.lookup client = some ⟨backend, now + d.ttl⟩ :=
  lookup_insert d.cache

/-- Keys of different clients differ. -/
theorem makeKey_injective : Function.Injective d.makeKey := by
  intro a b h
  exact String.append_right_inj d.keyPrefix |>.mp h

/-- The backend that the next step of a call puts into the cache. -/
def Stage.writes : Stage → Option String
  | .store value | .keep value | .cache value => some value
  | _ => none

/-- What a step does to a directory: only so does something get into its cache. -/
theorem dir_advance (redis : Redis) (d : SessionDirectory) (client : String) (op : Op) (now : ℕ)
    (stage : Stage) :
    (∃ value ∈ stage.writes,
        (advance redis d client op now stage).2.1 = d.remember client value now) ∨
      (advance redis d client op now stage).2.1 = d ∨
      (advance redis d client op now stage).2.1 = d.forget client := by
  cases stage with
  | store value | keep value | cache value => exact .inl ⟨value, rfl, rfl⟩
  | lookup | drop =>
    right
    simp only [advance]
    split
    · split_ifs <;> simp
    · simp
  | get | reread =>
    right
    simp only [advance]
    split <;> (try split_ifs) <;> simp
  | touch | claim | renew | del | done => exact .inr (.inl rfl)

/-- No step touches the configuration. -/
theorem config_advance : (advance redis d client op now stage).2.1.hasRedis = d.hasRedis ∧
      (advance redis d client op now stage).2.1.keyPrefix = d.keyPrefix := by
  obtain ⟨value, -, h⟩ | h | h := dir_advance redis d client op now stage <;> rw [h]
  · exact ⟨rfl, rfl⟩
  · exact ⟨rfl, rfl⟩
  · exact ⟨rfl, rfl⟩

/-- A call touches neither the key nor the cache entry of another client. -/
theorem advance_of_ne (h : client ≠ other) (redis : Redis) (d : SessionDirectory) (op : Op)
    (now : ℕ) (stage : Stage) :
    (advance redis d other op now stage).1.lookup (d.makeKey client) =
        redis.lookup (d.makeKey client) ∧
      (advance redis d other op now stage).2.1.cache.lookup client = d.cache.lookup client := by
  have hkey : d.makeKey client ≠ d.makeKey other := fun he => h (d.makeKey_injective he)
  constructor
  · cases stage with
    | lookup | get | reread =>
      simp only [advance]
      split <;> (try split_ifs) <;> rfl
    | touch value | renew value => exact Redis.lookup_setIfEquals_self ..
    | claim =>
      simp only [advance, Redis.setIfNotExists]
      split
      · exact lookup_insert_of_ne redis hkey
      · rfl
    | del backend =>
      simp only [advance, Redis.delIfEquals]
      split
      · exact lookup_erase_ne hkey
      · rfl
    | store | keep | cache | drop | done => rfl
  · obtain ⟨value, -, hd⟩ | hd | hd := dir_advance redis d other op now stage <;> rw [hd]
    · exact lookup_insert_of_ne d.cache h
    · exact lookup_erase_ne h

/-! ### Every call returns -/

/-- How many steps a call still takes, at most. -/
def Stage.rank : Stage → ℕ
  | .lookup => 6
  | .get => 5
  | .store _ => 4
  | .claim => 3
  | .reread | .renew _ | .drop _ => 2
  | .keep _ | .touch _ | .cache _ | .del _ => 1
  | .done _ => 0

theorem rank_found_none (op : Op) : (found op none).rank ≤ 3 := by
  cases op <;> simp [found, Stage.rank]

theorem rank_found_some : (found op (some value)).rank ≤ 1 := by
  cases op with
  | ensure desired =>
    simp only [found]
    split <;> simp [Stage.rank]
  | find | refresh _ | release _ => simp [found, Stage.rank]

theorem rank_afterMiss (d : SessionDirectory) (op : Op) : (d.afterMiss op).rank ≤ 5 := by
  have := rank_found_none op
  unfold afterMiss
  split
  · exact le_refl _
  · omega

theorem rank_start (d : SessionDirectory) (client : String) (op : Op) :
    (d.start client op).rank ≤ 6 := by
  cases op <;> simp only [start] <;> repeat' split
  all_goals simp [Stage.rank]

/-- Every step brings a call closer to its end. -/
theorem rank_advance : (advance redis d client op now stage).2.2.rank ≤ stage.rank - 1 := by
  have hnone := rank_found_none op
  have hmiss := rank_afterMiss d op
  cases stage with
  | lookup =>
    simp only [advance]
    split
    case h_1 entry _ =>
      split
      · exact rank_found_some.trans (by decide)
      · exact hmiss
    case h_2 => exact hmiss
  | get =>
    simp only [advance]
    split
    · split
      · exact hnone.trans (by decide)
      · exact le_refl 4
    · exact hnone.trans (by decide)
  | store value => exact rank_found_some.trans (show 1 ≤ 3 by decide)
  | claim =>
    simp only [advance]
    split <;> simp [Stage.rank]
  | reread => simp only [advance]; split <;> exact le_refl 1
  | drop backend => simp only [advance]; split <;> simp [Stage.rank]
  | renew _ => exact le_refl 1
  | touch _ | keep _ | cache _ | del _ | done _ => exact le_refl 0

theorem eq_done_of_rank (h : stage.rank = 0) : ∃ result, stage = .done result := by
  cases stage with
  | done result => exact ⟨result, rfl⟩
  | _ => simp [Stage.rank] at h

/-! ### What a call may hold -/

/-- The calls that neither refresh nor release, and name a backend if they need one. -/
def Op.Binds : Op → Prop
  | .find => True
  | .ensure desired => desired ≠ ""
  | .refresh _ | .release _ => False

/-- What a call for a client may be doing while Redis holds `held` for that client. -/
def Stage.Agrees (held : Option String) (op : Op) : Stage → Prop
  | .lookup | .get => True
  | .store value | .touch value | .keep value | .done (some value) => held = some value
  | .claim => op = .ensure op.desired
  | .reread => held ≠ none
  | .done none => op = .find
  | .renew _ | .cache _ | .drop _ | .del _ => False

/-- A key that is set for the first time contradicts no call. -/
theorem Stage.Agrees.mono (h : stage.Agrees held op) (hheld : held' = held ∨ held = none) :
    stage.Agrees held' op := by
  rcases hheld with rfl | rfl
  · exact h
  · cases stage with
    | lookup | get => trivial
    | store _ | touch _ | keep _ => cases h
    | claim => exact h
    | reread => exact absurd rfl h
    | done result =>
      cases result with
      | none => exact h
      | some _ => cases h
    | renew _ | cache _ | drop _ | del _ => exact h.elim

theorem agrees_start (hop : op.Binds) (hredis : d.hasRedis = true) (hclient : client ≠ "") :
    (d.start client op).Agrees held op := by
  cases op with
  | find => simp [start, hclient, Stage.Agrees]
  | ensure desired =>
    have hdesired : desired ≠ "" := hop
    simp [start, hclient, hdesired, hredis, Stage.Agrees]
  | refresh _ | release _ => exact hop.elim

theorem agrees_found_none (hop : op.Binds) : (found op none).Agrees held op := by
  cases op with
  | find | ensure _ => rfl
  | refresh _ | release _ => exact hop.elim

theorem agrees_found_some (hop : op.Binds) : (found op (some value)).Agrees (some value) op := by
  cases op with
  | find => rfl
  | ensure desired =>
    simp only [found]
    split <;> rfl
  | refresh _ | release _ => exact hop.elim

/-- A directory and a call in it agree with the key of the client, which holds `held`. -/
structure Consistent (redis : Redis) (d : SessionDirectory) (client : String) (op : Op)
    (stage : Stage) (held : Option String) : Prop where
  key : redis.lookup (d.makeKey client) = held
  cached : ∀ entry, d.cache.lookup client = some entry → held = some entry.backend
  agrees : stage.Agrees held op

/-- Caching what Redis holds. -/
theorem Consistent.remember (h : Consistent redis d client op stage held)
    (hvalue : held = some value) (hstage : stage'.Agrees held op) :
    Consistent redis (d.remember client value now) client op stage' held where
  key := h.key
  cached := by
    intro entry hentry
    rw [lookup_remember] at hentry
    obtain rfl := Option.some.inj hentry
    exact hvalue
  agrees := hstage

/-- Going on without touching the directory. -/
theorem Consistent.goto (h : Consistent redis d client op stage held)
    (hstage : stage'.Agrees held op) : Consistent redis d client op stage' held :=
  ⟨h.key, h.cached, hstage⟩

/-- **One step of a call.** If the cache and the call agree with the key of the client, they
    still do after the step, and the step sets the key only if it was not set, to the backend
    that the call wants. -/
theorem advance_consistent (hop : op.Binds) (hredis : d.hasRedis = true) (hne : held ≠ some "")
    (h : Consistent redis d client op stage held) (now : ℕ) :
    ∃ held', (held' = held ∨ held = none ∧ held' = some op.desired ∧ op = .ensure op.desired) ∧
      Consistent (advance redis d client op now stage).1 (advance redis d client op now stage).2.1
        client op (advance redis d client op now stage).2.2 held' := by
  have hmiss : (d.afterMiss op).Agrees held op := by
    rw [afterMiss, if_pos hredis]
    trivial
  cases stage with
  | lookup =>
    refine ⟨held, .inl rfl, ?_⟩
    cases hentry : d.cache.lookup client with
    | none =>
      simp only [advance, hentry]
      exact h.goto hmiss
    | some entry =>
      simp only [advance, hentry]
      split
      · apply h.goto
        rw [h.cached entry hentry]
        exact agrees_found_some hop
      · -- An entry whose time is over is dropped, whatever it said.
        refine ⟨h.key, fun entry' hentry' => ?_, hmiss⟩
        have hgone : (d.forget client).cache.lookup client = none := lookup_erase _ _
        rw [hgone] at hentry'
        cases hentry'
  | get =>
    refine ⟨held, .inl rfl, ?_⟩
    cases held with
    | none =>
      simp only [advance, h.key]
      exact h.goto (agrees_found_none hop)
    | some value =>
      have hvalue : value ≠ "" := fun he => hne (congrArg some he)
      simp only [advance, h.key, if_neg hvalue]
      exact h.goto rfl
  | store value =>
    have hvalue : held = some value := h.agrees
    refine ⟨held, .inl rfl, h.remember hvalue ?_⟩
    rw [hvalue]
    exact agrees_found_some hop
  | touch value =>
    have hsame := Redis.lookup_setIfEquals_self redis (d.makeKey client) value
    exact ⟨held, .inl rfl, (hsame _).trans h.key, h.cached, h.agrees⟩
  | claim =>
    have hensure : op = .ensure op.desired := h.agrees
    cases held with
    | none =>
      refine ⟨some op.desired, .inr ⟨rfl, rfl, hensure⟩, ?_⟩
      simp only [advance, Redis.setIfNotExists, h.key]
      refine ⟨lookup_insert redis, fun entry hentry => ?_, rfl⟩
      cases h.cached entry hentry
    | some value =>
      refine ⟨some value, .inl rfl, ?_⟩
      simp only [advance, Redis.setIfNotExists, h.key]
      exact h.goto (Option.some_ne_none value)
  | reread =>
    refine ⟨held, .inl rfl, ?_⟩
    cases held with
    | none => exact absurd rfl h.agrees
    | some value =>
      have hvalue : value ≠ "" := fun he => hne (congrArg some he)
      simp only [advance, h.key, if_neg hvalue]
      exact h.goto rfl
  | keep value =>
    have hvalue : held = some value := h.agrees
    exact ⟨held, .inl rfl, h.remember hvalue hvalue⟩
  | renew _ | cache _ | drop _ | del _ => exact h.agrees.elim
  | done result => exact ⟨held, .inl rfl, h⟩

/-- A lookup that runs while the key is set does not come back empty. -/
theorem advance_find_answers (hredis : d.hasRedis = true) (hvalue : value ≠ "")
    (h : Consistent redis d client .find stage (some value)) (hstage : stage ≠ .done none) :
    (advance redis d client .find now stage).2.2 ≠ .done none := by
  cases stage with
  | lookup =>
    simp only [advance]
    split
    · split
      · simp [found]
      · simp [afterMiss, hredis]
    · simp [afterMiss, hredis]
  | get => simp [advance, h.key, hvalue]
  | store _ | touch _ | keep _ => simp [advance, found]
  | claim => cases h.agrees
  | reread => simp only [advance]; split <;> simp
  | renew _ | cache _ | drop _ | del _ => exact h.agrees.elim
  | done result => exact hstage

/-! ### What a call may cache -/

/-- Redis answers as a call expects: a binding that is renewed is there, and so is one that
    another call has set. -/
def Stage.Answered (held : Option String) : Stage → Prop
  | .renew backend => held = some backend
  | .reread => ∃ value ∈ held, value ≠ ""
  | _ => True

theorem writes_start (hredis : d.hasRedis = true) : (d.start client op).writes = none := by
  cases op <;> simp only [start, hredis] <;> split_ifs <;> rfl

@[simp] theorem writes_found (result : Option String) : (found op result).writes = none := by
  cases op <;> cases result <;> simp only [found] <;> (try split_ifs) <;> rfl

/-- What a call is to cache next, Redis holds. -/
theorem held_of_writes (hredis : d.hasRedis = true)
    (hanswer : stage.Answered (redis.lookup (d.makeKey client)))
    (h : (advance redis d client op now stage).2.2.writes = some value) :
    (advance redis d client op now stage).1.lookup (d.makeKey client) = some value := by
  cases stage with
  | lookup =>
    simp only [advance, afterMiss, hredis, if_true] at h
    split at h
    · split_ifs at h
      · simp at h
      · cases h
    · cases h
  | get =>
    simp only [advance] at h ⊢
    cases hkey : redis.lookup (d.makeKey client) with
    | none => simp [hkey] at h
    | some held =>
      by_cases hheld : held = ""
      · simp [hkey, hheld] at h
      · simpa [hkey, hheld, Stage.writes] using h
  | claim =>
    by_cases hkey : redis.lookup (d.makeKey client) = none
    · simp only [advance, Redis.setIfNotExists, if_pos hkey] at h ⊢
      exact (lookup_insert redis).trans h
    · simp [advance, Redis.setIfNotExists, hkey, Stage.writes] at h
  | reread =>
    obtain ⟨current, hcurrent, hne⟩ := hanswer
    simp only [advance, Option.mem_def.mp hcurrent, if_neg hne] at h ⊢
    exact h
  | renew backend => exact (Redis.lookup_setIfEquals_self ..).trans (hanswer.trans h)
  | store => simp [advance] at h
  | drop => simp [advance, hredis, Stage.writes] at h
  | touch | keep | cache | del | done => cases h

end SessionDirectory

/-! ### Runs -/

namespace Cluster

variable {δ ι : Type} [DecidableEq δ] [DecidableEq ι] {s : Cluster δ ι} {p client : String}
  {held result : Option String} {id : ι} {i : Input δ ι} {t : Task δ} {is : List (Input δ ι)}

/-- What a step does to a call: nothing, unless it is a step of this very call. -/
theorem task_step_cases (h : s.task id = some t) (i : Input δ ι) :
    (∀ now, i ≠ .step id now) ∧ (s.step i).task id = some t ∨
      ∃ now, i = .step id now ∧ s.step i = s.advance id t now := by
  cases i with
  | call id' dir client op =>
    refine .inl ⟨nofun, ?_⟩
    cases hid : s.task id' with
    | some t' => simp only [step, hid, h]
    | none =>
      have hne : id ≠ id' := by rintro rfl; rw [h] at hid; cases hid
      simp only [step, hid, task_start_of_ne hne, h]
  | step id' now =>
    by_cases hne : id' = id
    · subst hne
      exact .inr ⟨now, rfl, by simp only [step, h]⟩
    · refine .inl ⟨fun now' he => hne (by cases he; rfl), ?_⟩
      cases hid : s.task id' with
      | none => simp only [step, hid, h]
      | some t' => simp only [step, hid, task_advance_of_ne (Ne.symm hne), h]
  | expire key => exact .inl ⟨nofun, h⟩

/-- A call keeps its directory, its client and its operation. -/
theorem task_step (h : s.task id = some t) (i : Input δ ι) :
    ∃ stage, (s.step i).task id = some { t with stage := stage } := by
  rcases task_step_cases h i with ⟨-, hsame⟩ | ⟨now, -, hstep⟩
  · exact ⟨t.stage, hsame⟩
  · rw [hstep]
    exact ⟨_, task_advance_self ..⟩

/-- Where a call comes from: it was there, or it begins with this step. -/
theorem task_of_step (h : (s.step i).task id = some t) :
    (∃ t₀, s.task id = some t₀ ∧ t = { t₀ with stage := t.stage }) ∨
      i = .call id t.dir t.client t.op ∧ s.task id = none ∧
        t.stage = (s.dir t.dir).start t.client t.op := by
  cases hid : s.task id with
  | some t₀ =>
    obtain ⟨stage, hstage⟩ := task_step hid i
    obtain rfl := Option.some.inj (hstage.symm.trans h)
    exact .inl ⟨t₀, rfl, rfl⟩
  | none =>
    right
    cases i with
    | call id' dir client op =>
      cases hid' : s.task id' with
      | some t' =>
        simp only [step, hid', hid] at h
        cases h
      | none =>
        simp only [step, hid'] at h
        by_cases hne : id = id'
        · subst hne
          obtain rfl := Option.some.inj ((task_start_self ..).symm.trans h)
          exact ⟨rfl, rfl, rfl⟩
        · rw [task_start_of_ne hne, hid] at h
          cases h
    | step id' now =>
      cases hid' : s.task id' with
      | none =>
        simp only [step, hid', hid] at h
        cases h
      | some t' =>
        have hne : id ≠ id' := by rintro rfl; rw [hid] at hid'; cases hid'
        simp only [step, hid', task_advance_of_ne hne, hid] at h
        cases h
    | expire key =>
      rw [show (s.step (.expire key)).task id = s.task id from rfl, hid] at h
      cases h

theorem task_call_of_ne {id' : ι} (h : id' ≠ id) (dir : δ) (client : String) (op : Op) :
    (s.step (.call id dir client op)).task id' = s.task id' := by
  cases hid : s.task id with
  | some t => simp only [step, hid]
  | none => simp only [step, hid, task_start_of_ne h]

theorem task_call_self (h : s.task id = none) (dir : δ) (client : String) (op : Op) :
    (s.step (.call id dir client op)).task id =
      some ⟨dir, client, op, (s.dir dir).start client op⟩ := by
  simp only [step, h, task_start_self]

omit [DecidableEq δ] [DecidableEq ι] in
/-- A call that has returned is at its last stage. -/
theorem stage_of_result (ht : s.task id = some t) (h : s.result id = some result) :
    t.stage = .done result := by
  obtain ⟨dir, client, op, stage⟩ := t
  simp only [Cluster.result, ht] at h
  split at h
  case h_1 heq => cases heq; cases h; rfl
  case h_2 => cases h

/-- Nothing has happened for the client yet: no key, no cache entry, no call.  All directories
    use one Redis under one prefix. -/
structure Fresh (s : Cluster δ ι) (p client : String) : Prop where
  shared : ∀ j, (s.dir j).hasRedis = true ∧ (s.dir j).keyPrefix = p
  unset : s.redis.lookup (p ++ client) = none
  cold : ∀ j, (s.dir j).cache.lookup client = none
  idle : ∀ id, s.task id = none

/-- The key of the client holds `held`, and everything else agrees with it: the caches, the
    calls under way, and some call that wanted this backend. -/
structure Settled (s : Cluster δ ι) (p client : String) (held : Option String) : Prop where
  shared : ∀ j, (s.dir j).hasRedis = true ∧ (s.dir j).keyPrefix = p
  key : s.redis.lookup (p ++ client) = held
  cached : ∀ j entry, (s.dir j).cache.lookup client = some entry → held = some entry.backend
  agrees : ∀ id t, s.task id = some t → t.client = client → t.op.Binds ∧ t.stage.Agrees held t.op
  wanted : ∀ b, held = some b →
    b ≠ "" ∧ ∃ id dir stage, s.task id = some ⟨dir, client, .ensure b, stage⟩

omit [DecidableEq δ] [DecidableEq ι] in
theorem Fresh.settled (h : s.Fresh p client) : s.Settled p client none where
  shared := h.shared
  key := h.unset
  cached j entry hentry := by rw [h.cold j] at hentry; cases hentry
  agrees id t ht := by rw [h.idle id] at ht; cases ht
  wanted b hb := by cases hb

/-- The inputs of a run in which nothing of the client is refreshed, released or expires. -/
def Plain (p client : String) : Input δ ι → Prop
  | .call _ _ other op => other = client → op.Binds
  | .step _ _ => True
  | .expire key => key ≠ p ++ client

namespace Settled

variable (h : s.Settled p client held)
include h

section

omit [DecidableEq δ] [DecidableEq ι]

theorem ne_empty : held ≠ some "" := by
  rintro rfl
  exact (h.wanted "" rfl).1 rfl

theorem makeKey (j : δ) : (s.dir j).makeKey client = p ++ client := by
  rw [SessionDirectory.makeKey, (h.shared j).2]

theorem consistent (ht : s.task id = some t) (hclient : t.client = client) :
    SessionDirectory.Consistent s.redis (s.dir t.dir) client t.op t.stage held where
  key := by rw [h.makeKey, h.key]
  cached := h.cached t.dir
  agrees := (h.agrees id t ht hclient).2

/-- A call of `ensure_backend` returns what the key holds. -/
theorem ensured {desired : String} (hret : s.Returned id client (.ensure desired) result) :
    ∃ b, result = some b ∧ held = some b := by
  obtain ⟨dir, ht⟩ := hret
  have hagrees := (h.agrees id _ ht rfl).2
  cases result with
  | none => cases hagrees
  | some b => exact ⟨b, rfl, hagrees⟩

end

/-- The call that wanted the backend is still there after a step. -/
theorem wanted_step (i : Input δ ι) (b : String) (hb : held = some b) :
    b ≠ "" ∧ ∃ id dir stage, (s.step i).task id = some ⟨dir, client, .ensure b, stage⟩ := by
  obtain ⟨hne, id, dir, stage, ht⟩ := h.wanted b hb
  obtain ⟨stage', ht'⟩ := task_step ht i
  exact ⟨hne, id, dir, stage', ht'⟩

theorem start (hclient : client ≠ "") (hid : s.task id = none) (dir : δ)
    (hop : other = client → op.Binds) :
    (s.start id dir other op).Settled p client held where
  shared := h.shared
  key := h.key
  cached := h.cached
  agrees := by
    intro id' t ht hown
    by_cases hne : id' = id
    · subst hne
      obtain rfl := Option.some.inj ((task_start_self ..).symm.trans ht)
      obtain rfl : other = client := hown
      exact ⟨hop rfl, SessionDirectory.agrees_start (hop rfl) (h.shared dir).1 hclient⟩
    · rw [task_start_of_ne hne] at ht
      exact h.agrees id' t ht hown
  wanted := by
    have := h.wanted_step (.call id dir other op)
    simpa only [step, hid] using this

theorem call (hclient : client ≠ "") (id : ι) (dir : δ) (hop : other = client → op.Binds) :
    (s.step (.call id dir other op)).Settled p client held := by
  cases hid : s.task id with
  | none =>
    simp only [Cluster.step, hid]
    exact h.start hclient hid dir hop
  | some t =>
    simp only [Cluster.step, hid]
    exact h

/-- What is left to show for a step of a call: what became of the key, of the directory it ran
    in and of the call itself. -/
theorem advance {now : ℕ} (ht : s.task id = some t) (hheld : held' = held ∨ held = none)
    (hkey : (s.advance id t now).redis.lookup (p ++ client) = held')
    (hcached : ∀ entry, ((s.advance id t now).dir t.dir).cache.lookup client = some entry →
      held' = some entry.backend)
    (hstage : t.client = client → (SessionDirectory.advance s.redis (s.dir t.dir) t.client t.op
      now t.stage).2.2.Agrees held' t.op)
    (hnew : ∀ b, held' = some b → held = some b ∨ t.client = client ∧ t.op = .ensure b) :
    (s.advance id t now).Settled p client held' where
  shared := by
    intro j
    by_cases hj : j = t.dir
    · subst hj
      rw [dir_advance_self, SessionDirectory.config_advance.1, SessionDirectory.config_advance.2]
      exact h.shared t.dir
    · rw [dir_advance_of_ne hj]
      exact h.shared j
  key := hkey
  cached := by
    intro j entry hentry
    by_cases hj : j = t.dir
    · subst hj
      exact hcached entry hentry
    · rw [dir_advance_of_ne hj] at hentry
      have hold := h.cached j entry hentry
      rcases hheld with rfl | rfl
      · exact hold
      · cases hold
  agrees := by
    intro id' t' ht' hown
    by_cases hid : id' = id
    · subst hid
      obtain rfl := Option.some.inj ((task_advance_self ..).symm.trans ht')
      exact ⟨(h.agrees id' t ht hown).1, hstage hown⟩
    · rw [task_advance_of_ne hid] at ht'
      obtain ⟨hop, hst⟩ := h.agrees id' t' ht' hown
      exact ⟨hop, hst.mono hheld⟩
  wanted := by
    intro b hb
    rcases hnew b hb with hold | ⟨hown, hop⟩
    · have := h.wanted_step (.step id now) b hold
      simpa only [Cluster.step, ht] using this
    · -- The key is new: the call that set it wanted this backend.
      have hbinds := (h.agrees id t ht hown).1
      rw [hop] at hbinds
      have hself := task_advance_self s id t now
      rw [hown, hop] at hself
      exact ⟨hbinds, id, t.dir, _, hself⟩

/-- A step of a call for another client. -/
theorem advance_other (ht : s.task id = some t) (hother : t.client ≠ client) (now : ℕ) :
    (s.advance id t now).Settled p client held := by
  obtain ⟨hkey, hcache⟩ := SessionDirectory.advance_of_ne hother.symm s.redis (s.dir t.dir) t.op
    now t.stage
  rw [h.makeKey, h.key] at hkey
  refine h.advance ht (.inl rfl) hkey ?_ (fun hown => absurd hown hother) fun b hb => .inl hb
  intro entry hentry
  rw [dir_advance_self, hcache] at hentry
  exact h.cached t.dir entry hentry

/-- A step of a call for the client: the key may be set now, if it was not. -/
theorem advance_own (ht : s.task id = some t) (hown : t.client = client) (now : ℕ) :
    ∃ held', (held' = held ∨ held = none) ∧ (s.advance id t now).Settled p client held' := by
  subst hown
  obtain ⟨held', hset, hcons⟩ := SessionDirectory.advance_consistent (h.agrees id t ht rfl).1
    (h.shared t.dir).1 h.ne_empty (h.consistent ht rfl) now
  have hheld : held' = held ∨ held = none := hset.imp_right And.left
  refine ⟨held', hheld, h.advance ht hheld ?_ ?_ (fun _ => hcons.agrees) ?_⟩
  · have hkey := hcons.key
    rw [SessionDirectory.makeKey, SessionDirectory.config_advance.2, (h.shared t.dir).2] at hkey
    exact hkey
  · intro entry hentry
    rw [dir_advance_self] at hentry
    exact hcons.cached entry hentry
  · intro b hb
    rcases hset with rfl | ⟨-, rfl, hensure⟩
    · exact .inl hb
    · obtain rfl := Option.some.inj hb
      exact .inr ⟨rfl, hensure⟩

/-- **One step of the system.** -/
theorem step (hclient : client ≠ "") (hi : Plain p client i) :
    ∃ held', (held' = held ∨ held = none) ∧ (s.step i).Settled p client held' := by
  cases i with
  | call id dir other op => exact ⟨held, .inl rfl, h.call hclient id dir hi⟩
  | step id now =>
    cases ht : s.task id with
    | none =>
      simp only [Cluster.step, ht]
      exact ⟨held, .inl rfl, h⟩
    | some t =>
      simp only [Cluster.step, ht]
      by_cases hown : t.client = client
      · exact h.advance_own ht hown now
      · exact ⟨held, .inl rfl, h.advance_other ht hown now⟩
  | expire key =>
    refine ⟨held, .inl rfl, h.shared, ?_, h.cached, h.agrees, h.wanted⟩
    exact (lookup_erase_ne (Ne.symm hi)).trans h.key

/-- **Whole runs.** -/
theorem run (hclient : client ≠ "") (hplain : ∀ i ∈ is, Plain p client i) :
    ∃ held', (held' = held ∨ held = none) ∧ ((machine δ ι).run s is).Settled p client held' := by
  refine (machine δ ι).guarded_invariant
    (fun s => ∃ held', (held' = held ∨ held = none) ∧ s.Settled p client held')
    (fun _ => Plain p client) ?_ ⟨held, .inl rfl, h⟩
    ((machine δ ι).guarded_of_forall_mem (fun i hi _ => hplain i hi) s)
  rintro s i ⟨mid, hmid, hs⟩ hi
  obtain ⟨held', rfl | rfl, hstep⟩ := hs.step hclient hi
  · exact ⟨held', hmid, hstep⟩
  · exact ⟨held', .inr (hmid.elim Eq.symm id), hstep⟩

omit h

/-- Once set, a key stays. -/
theorem run_some (h : s.Settled p client (some b)) (hclient : client ≠ "")
    (hplain : ∀ i ∈ is, Plain p client i) :
    ((machine δ ι).run s is).Settled p client (some b) := by
  obtain ⟨held', hheld', hrun⟩ := h.run hclient hplain
  rcases hheld' with rfl | hnone
  · exact hrun
  · cases hnone

/-- **Later lookups, one step.** A lookup that has not come back empty while the key was set
    does not after the next step either. -/
theorem finding_step (h : s.Settled p client (some b))
    (hfind : ∃ dir stage, s.task id = some ⟨dir, client, .find, stage⟩ ∧ stage ≠ .done none)
    (i : Input δ ι) :
    ∃ dir stage, (s.step i).task id = some ⟨dir, client, .find, stage⟩ ∧ stage ≠ .done none := by
  obtain ⟨dir, stage, ht, hstage⟩ := hfind
  rcases task_step_cases ht i with ⟨-, hsame⟩ | ⟨now, -, hstep⟩
  · exact ⟨dir, stage, hsame, hstage⟩
  · rw [hstep]
    refine ⟨dir, _, task_advance_self .., ?_⟩
    exact SessionDirectory.advance_find_answers (h.shared dir).1 (h.wanted b rfl).1
      (h.consistent ht rfl) hstage

/-- **Later lookups.** A lookup that begins while the key is set returns what it holds. -/
theorem found_run {dir : δ} (h : s.Settled p client (some b)) (hclient : client ≠ "")
    (hfree : s.task id = none) (hplain : ∀ i ∈ is, Plain p client i)
    (hret : ((machine δ ι).run s (.call id dir client .find :: is)).Returned id client .find
      result) : result = some b := by
  have hcall : s.step (.call id dir client .find) = s.start id dir client .find := by
    simp only [Cluster.step, hfree]
  have hstart : (s.start id dir client .find).Settled p client (some b) :=
    h.start hclient hfree dir fun _ => trivial
  rw [run_cons, machine_next, hcall] at hret
  obtain ⟨hrun, dir₁, stage, ht, hstage⟩ := (machine δ ι).guarded_invariant
    (fun s => s.Settled p client (some b) ∧
      ∃ dir stage, s.task id = some ⟨dir, client, .find, stage⟩ ∧ stage ≠ .done none)
    (fun _ => Plain p client) (fun s i ⟨hs, hfind⟩ hi => by
      obtain ⟨held', rfl | hnone, hstep⟩ := hs.step hclient hi
      · exact ⟨hstep, hs.finding_step hfind i⟩
      · cases hnone)
    ⟨hstart, dir, .lookup, by simp [SessionDirectory.start, hclient], by simp⟩
    ((machine δ ι).guarded_of_forall_mem (fun i hi _ => hplain i hi) _)
  obtain ⟨dir₂, hdone⟩ := hret
  have hagrees := (hrun.agrees id _ hdone rfl).2
  cases result with
  | none => simp_all
  | some value => exact hagrees.symm

end Settled

/-! ### The empty client id -/

/-- Calls for the empty client id do nothing. -/
theorem empty_returns_none (hidle : ∀ id, s.task id = none)
    (ht : ((machine δ ι).run s is).task id = some t) (hclient : t.client = "") :
    t.stage = .done none := by
  have hinv : ∀ id t, ((machine δ ι).run s is).task id = some t → t.client = "" →
      t.stage = .done none := by
    apply run_invariant (machine δ ι)
      (fun s => ∀ id t, s.task id = some t → t.client = "" → t.stage = .done none)
    · intro s i hs id t ht hclient
      rcases task_of_step ht with ⟨t₀, ht₀, -⟩ | ⟨-, -, hnew⟩
      · rcases task_step_cases ht₀ i with ⟨-, hsame⟩ | ⟨now, -, hstep⟩
        · obtain rfl := Option.some.inj (hsame.symm.trans ht)
          exact hs id t₀ ht₀ hclient
        · rw [machine_next, hstep, task_advance_self] at ht
          obtain rfl := Option.some.inj ht
          rw [hs id t₀ ht₀ hclient]
          rfl
      · rw [hnew, hclient]
        cases t.op <;> simp [SessionDirectory.start]
    · intro id t ht
      rw [hidle id] at ht
      cases ht
  exact hinv id t ht hclient

/-! ### Calls return -/

/-- The steps that a run gives to a call. -/
def stepsOf (id : ι) (is : List (Input δ ι)) : ℕ :=
  is.countP fun
    | .step id' _ => id' = id
    | _ => false

/-- **Progress.** A call is over after six steps of its own, whatever the others do. -/
theorem returned_of_steps (ht : s.task id = some t) (is : List (Input δ ι))
    (hsteps : t.stage.rank ≤ stepsOf id is) :
    ∃ result, ((machine δ ι).run s is).task id = some { t with stage := .done result } := by
  have hrun : ∀ (is : List (Input δ ι)) (s : Cluster δ ι) (t : Task δ), s.task id = some t →
      ∃ stage, ((machine δ ι).run s is).task id = some { t with stage := stage } ∧
        stage.rank ≤ t.stage.rank - stepsOf id is := by
    intro is
    induction is with
    | nil => exact fun s t ht => ⟨t.stage, ht, le_refl _⟩
    | cons i is ih =>
      intro s t ht
      have hstep : ∃ stage, (s.step i).task id = some { t with stage := stage } ∧
          stage.rank ≤ t.stage.rank - stepsOf id [i] := by
        rcases task_step_cases ht i with ⟨hother, hsame⟩ | ⟨now, rfl, hadv⟩
        · refine ⟨t.stage, hsame, ?_⟩
          have hzero : stepsOf id [i] = 0 := by
            cases i with
            | step id' now =>
              have hne : id' ≠ id := fun h => hother now (by rw [h])
              simp [stepsOf, hne]
            | call _ _ _ _ | expire _ => rfl
          omega
        · rw [hadv]
          have hone : stepsOf id [(.step id now : Input δ ι)] = 1 := by simp [stepsOf]
          rw [hone]
          exact ⟨_, task_advance_self .., SessionDirectory.rank_advance⟩
      obtain ⟨stage, hstage, hrank⟩ := hstep
      obtain ⟨stage', hstage', hrank'⟩ := ih (s.step i) _ hstage
      refine ⟨stage', hstage', hrank'.trans ?_⟩
      have hcount : stepsOf id (i :: is) = stepsOf id [i] + stepsOf id is := by
        simp [stepsOf, List.countP_cons, add_comm]
      show stage.rank - _ ≤ _
      omega
  obtain ⟨stage, hstage, hrank⟩ := hrun is s t ht
  have hzero : stage.rank = 0 := by omega
  obtain ⟨result, rfl⟩ := SessionDirectory.eq_done_of_rank hzero
  exact ⟨result, hstage⟩

/-- A call returns after six steps of its own. -/
theorem returned_of_call {dir : δ} {post : List (Input δ ι)} (hfree : s.task id = none)
    (hsteps : 6 ≤ stepsOf id post) :
    ∃ result, ((machine δ ι).run s (.call id dir client op :: post)).Returned id client op
      result := by
  have hcall : s.step (.call id dir client op) = s.start id dir client op := by
    simp only [step, hfree]
  rw [run_cons, machine_next, hcall]
  obtain ⟨result, hresult⟩ := returned_of_steps (task_start_self s id dir client op) post
    ((SessionDirectory.rank_start ..).trans hsteps)
  exact ⟨result, dir, hresult⟩

/-! ### The directory agrees -/

/-- **Agreement.** Any number of directories share one Redis, calls of `find_backend` and
    `ensure_backend` run in any interleaving, and nothing of the client expires, is refreshed or
    released.  Then there is one result that all its calls of `ensure_backend` return.  It is the
    backend that one of them wanted (and nothing for the empty client id, which every call
    refuses), every lookup that begins after one of them has returned gives it too, and every
    call is over after six steps of its own. -/
theorem ensure_agreement (hfresh : s.Fresh p client) {is : List (Input δ ι)}
    (hplain : ∀ i ∈ is, Plain p client i) :
    ∃ agreed : Option String, (∀ id desired result,
        ((machine δ ι).run s is).Returned id client (.ensure desired) result → result = agreed ∧
          (client = "" ∧ agreed = none ∨ ∃ b id' dir stage, agreed = some b ∧
              ((machine δ ι).run s is).task id' = some ⟨dir, client, .ensure b, stage⟩)) ∧
      (∀ pre id dir post, is = pre ++ .call id dir client .find :: post →
        ((machine δ ι).run s pre).task id = none →
        (∃ id' desired result,
          ((machine δ ι).run s pre).Returned id' client (.ensure desired) result) →
        ∀ result, ((machine δ ι).run s is).Returned id client .find result → result = agreed) ∧
      (∀ pre id dir op post, is = pre ++ .call id dir client op :: post →
        ((machine δ ι).run s pre).task id = none → 6 ≤ stepsOf id post →
        ∃ result, ((machine δ ι).run s is).Returned id client op result) := by
  have hreturns : ∀ pre id dir op post, is = pre ++ .call id dir client op :: post →
      ((machine δ ι).run s pre).task id = none → 6 ≤ stepsOf id post →
      ∃ result, ((machine δ ι).run s is).Returned id client op result := by
    rintro pre id dir op post rfl hfree hsteps
    rw [run_append]
    exact returned_of_call hfree hsteps
  by_cases hclient : client = ""
  · refine ⟨none, ?_, ?_, hreturns⟩
    · rintro id desired result ⟨dir, ht⟩
      have hnone := empty_returns_none hfresh.idle ht hclient
      exact ⟨Stage.done.inj hnone, .inl ⟨hclient, rfl⟩⟩
    · rintro pre id dir post - - - result ⟨dir', ht⟩
      exact Stage.done.inj (empty_returns_none hfresh.idle ht hclient)
  · obtain ⟨held, -, hsettled⟩ := hfresh.settled.run hclient hplain
    refine ⟨held, ?_, ?_, hreturns⟩
    · intro id desired result hret
      obtain ⟨b, rfl, rfl⟩ := hsettled.ensured hret
      obtain ⟨-, id', dir, stage, ht⟩ := hsettled.wanted b rfl
      exact ⟨rfl, .inr ⟨b, id', dir, stage, rfl, ht⟩⟩
    · rintro pre id dir post rfl hfree ⟨id', desired, result', hensured⟩ result hret
      -- The call that has returned saw the key set, so it is set when the lookup begins.
      obtain ⟨held₀, -, hpre⟩ := hfresh.settled.run hclient
        fun i hi => hplain i (List.mem_append_left _ hi)
      obtain ⟨b, -, rfl⟩ := hpre.ensured hensured
      have hpost : ∀ i ∈ post, Plain p client i := fun i hi =>
        hplain i (List.mem_append_right _ (List.mem_cons_of_mem _ hi))
      have hlater := hpre.run_some hclient fun i hi => hplain i (List.mem_append_right pre hi)
      rw [run_append] at hret hsettled
      rw [hpre.found_run hclient hfree hpost hret]
      exact hlater.key.symm.trans hsettled.key

/-- Two gateways, nothing known. -/
def idle : Cluster Bool ℕ where
  redis := ∅
  dir _ := SessionDirectory.create true "" 30
  task _ := none

/-- Both gateways look up the client and miss; then the first one sets the key, and the claim of
    the second one fails. -/
def race : List (Input Bool ℕ) :=
  [.call 0 false "client-1" (.ensure "backend-a"), .call 1 true "client-1" (.ensure "backend-b"),
    .step 0 0, .step 1 0, .step 0 0, .step 1 0, .step 0 0, .step 1 0, .step 0 0, .step 1 0,
    .step 1 0]

/-- In the race the first gateway gets the backend it wanted, and so does everybody else. -/
theorem ensure_agreement_race :
    ((machine Bool ℕ).run idle race).Returned 0 "client-1" (.ensure "backend-a")
        (some "backend-a") ∧
      ∀ id desired result,
        ((machine Bool ℕ).run idle race).Returned id "client-1" (.ensure desired) result →
          result = some "backend-a" := by
  have hkey : (SessionDirectory.create true "" 30).keyPrefix = "gateway/session/" := by
    decide +kernel
  have hfresh : idle.Fresh "gateway/session/" "client-1" :=
    ⟨fun _ => ⟨rfl, hkey⟩, rfl, fun _ => rfl, fun _ => rfl⟩
  have hplain : ∀ i ∈ race, Plain "gateway/session/" "client-1" i := by
    simp [race, Plain, SessionDirectory.Op.Binds]
  have hfirst : ((machine Bool ℕ).run idle race).Returned 0 "client-1" (.ensure "backend-a")
      (some "backend-a") := ⟨false, by decide +kernel⟩
  obtain ⟨agreed, hall, -, -⟩ := ensure_agreement hfresh hplain
  obtain ⟨rfl, -⟩ := hall 0 "backend-a" _ hfirst
  exact ⟨hfirst, fun id desired result hret => (hall id desired result hret).1⟩

/-! ### What is cached was held -/

/-- Redis answers a step as the call expects. -/
def Answered (s : Cluster δ ι) : Input δ ι → Prop
  | .step id _ => ∀ t ∈ s.task id,
    t.stage.Answered (s.redis.lookup ((s.dir t.dir).makeKey t.client))
  | _ => True

/-- No run touches the configuration of a directory. -/
theorem config_run (s : Cluster δ ι) (is : List (Input δ ι)) (j : δ) :
    (((machine δ ι).run s is).dir j).hasRedis = (s.dir j).hasRedis ∧
      (((machine δ ι).run s is).dir j).keyPrefix = (s.dir j).keyPrefix := by
  refine (machine δ ι).run_invariant (fun s' => (s'.dir j).hasRedis = (s.dir j).hasRedis ∧
    (s'.dir j).keyPrefix = (s.dir j).keyPrefix) (fun s' i h => ?_) ⟨rfl, rfl⟩ is
  cases i with
  | call id dir client op => cases hid : s'.task id <;> simpa [step, hid, start] using h
  | step id now =>
    cases hid : s'.task id with
    | none => simpa [step, hid] using h
    | some t =>
      simp only [machine_next, step, hid]
      by_cases hj : j = t.dir
      · subst hj
        rw [dir_advance_self]
        exact ⟨SessionDirectory.config_advance.1.trans h.1,
          SessionDirectory.config_advance.2.trans h.2⟩
      · rw [dir_advance_of_ne hj]
        exact h
  | expire key => exact h

/-- **Cached backends were held.** Directories share one Redis that works, in any run in which
    Redis answers as the calls expect.  A step of a call leaves its directory as it is, forgets
    the client, or caches a backend that Redis held for the client at some moment of the call. -/
theorem cached_held (hidle : ∀ id, s.task id = none) (hredis : ∀ j, (s.dir j).hasRedis = true)
    {is : List (Input δ ι)} (hanswers : (machine δ ι).Guarded Answered s is) {id : ι} {t : Task δ}
    (ht : ((machine δ ι).run s is).task id = some t) (now : ℕ) {d d' : SessionDirectory}
    (hd : ((machine δ ι).run s is).dir t.dir = d)
    (hd' : (((machine δ ι).run s is).step (.step id now)).dir t.dir = d') :
    d' = d ∨ d' = d.forget t.client ∨ ∃ value past moment rest,
      d' = d.remember t.client value now ∧
      is = past ++ .call id t.dir t.client t.op :: (moment ++ rest) ∧
      ((machine δ ι).run s past).task id = none ∧
      ((machine δ ι).run s (past ++ .call id t.dir t.client t.op :: moment)).redis.lookup
        ((s.dir t.dir).makeKey t.client) = some value := by
  have hheld : ∃ past during, is = past ++ .call id t.dir t.client t.op :: during ∧
      ((machine δ ι).run s past).task id = none ∧ ∀ value ∈ t.stage.writes,
        ∃ moment rest, during = moment ++ rest ∧
        ((machine δ ι).run s (past ++ .call id t.dir t.client t.op :: moment)).redis.lookup
          ((s.dir t.dir).makeKey t.client) = some value := by
    clear hd hd'
    induction is using List.reverseRecOn generalizing t with
    | nil =>
      rw [run_nil, hidle] at ht
      cases ht
    | append_singleton is i ih =>
      obtain ⟨hbefore, hlast, -⟩ := (guarded_append ..).mp hanswers
      obtain ⟨hhas, hkeys⟩ := config_run s is t.dir
      rw [run_append] at ht
      change (((machine δ ι).run s is).step i).task id = _ at ht
      obtain ⟨t₀, ht₀, heq⟩ | ⟨rfl, hnone, hstart⟩ := task_of_step ht
      · obtain ⟨past, during, his, hnew, hheld⟩ := ih hbefore ht₀
        rw [heq]
        refine ⟨past, during ++ [i], by simp [his], hnew, fun value hvalue => ?_⟩
        obtain ⟨-, hsame⟩ | ⟨now, rfl, hstep⟩ := task_step_cases ht₀ i
        · obtain rfl := Option.some.inj (hsame.symm.trans ht)
          obtain ⟨moment, rest, rfl, hkey⟩ := hheld value hvalue
          exact ⟨moment, rest ++ [i], by simp, hkey⟩
        · -- what the call is to cache next, Redis holds now
          rw [hstep, task_advance_self] at ht
          obtain rfl := Option.some.inj ht
          refine ⟨_, [], (List.append_nil _).symm, ?_⟩
          rw [← List.cons_append, ← List.append_assoc, ← his, run_append]
          change (((machine δ ι).run s is).step (.step id now)).redis.lookup _ = _
          rw [hstep, SessionDirectory.makeKey, ← hkeys]
          exact SessionDirectory.held_of_writes (hhas.trans (hredis _)) (hlast _ ht₀) hvalue
      · refine ⟨is, [], rfl, hnone, fun value hvalue => ?_⟩
        rw [hstart, SessionDirectory.writes_start (hhas.trans (hredis _))] at hvalue
        cases hvalue
  obtain ⟨past, during, his, hnew, hheld⟩ := hheld
  simp only [step, ht] at hd'
  rw [dir_advance_self, hd] at hd'
  obtain ⟨value, hvalue, h⟩ | h | h := SessionDirectory.dir_advance
    ((machine δ ι).run s is).redis d t.client t.op now t.stage
  · obtain ⟨moment, rest, rfl, hkey⟩ := hheld value hvalue
    exact .inr (.inr ⟨value, past, moment, rest, hd'.symm.trans h, his, hnew, hkey⟩)
  · exact .inl (hd'.symm.trans h)
  · exact .inr (.inl (hd'.symm.trans h))

/-- A call of `ensure_backend`, up to the step in which it caches what it has set. -/
def claims : List (Input Bool ℕ) :=
  [.call 0 false "client-1" (.ensure "backend-a"), .step 0 0, .step 0 0, .step 0 0]

/-- The step caches the backend, which Redis held during the call. -/
theorem cached_held_claimed :
    (((machine Bool ℕ).run idle claims).step (.step 0 0)).dir false =
      (((machine Bool ℕ).run idle claims).dir false).remember "client-1" "backend-a" 0 ∧
    ∃ moment rest, claims = moment ++ rest ∧ ((machine Bool ℕ).run idle moment).redis.lookup
      ((idle.dir false).makeKey "client-1") = some "backend-a" := by
  have hentry : ((((machine Bool ℕ).run idle claims).step (.step 0 0)).dir false).cache.lookup
      "client-1" = some ⟨"backend-a", 30⟩ := by decide +kernel
  obtain h | h | ⟨value, past, moment, rest, h, his, -, hkey⟩ := @cached_held Bool ℕ _ _ idle
    (fun _ => rfl) (fun _ => rfl) claims
    ⟨trivial, by rintro t ⟨⟩; trivial, by rintro t ⟨⟩; trivial, by rintro t ⟨⟩; trivial, trivial⟩
    0 ⟨false, "client-1", .ensure "backend-a", .keep "backend-a"⟩ (by decide +kernel) 0 _ _ rfl rfl
  · exact absurd (congrArg (·.cache.lookup "client-1") h) (by decide +kernel)
  · exact absurd (congrArg (·.cache.lookup "client-1") h) (by decide +kernel)
  · rw [h, SessionDirectory.lookup_remember] at hentry
    obtain ⟨rfl, -⟩ := CacheEntry.mk.inj (Option.some.inj hentry)
    exact ⟨h, _, rest, by rw [his, ← List.cons_append, ← List.append_assoc], hkey⟩

/-- Without the condition a backend is cached that Redis never held: the renewal fails, and the
    backend is cached all the same. -/
theorem cached_unheld : let is : List (Input Bool ℕ) :=
      [.call 0 false "client-1" (.refresh "backend-b"), .step 0 0, .step 0 0]
    (((machine Bool ℕ).run idle is).dir false).cache.lookup "client-1" =
        some ⟨"backend-b", 30⟩ ∧
      ∀ moment ∈ is.inits, ((machine Bool ℕ).run idle moment).redis.lookup
        ((idle.dir false).makeKey "client-1") = none := by
  decide +kernel

end Cluster

end Knights.Gateway
