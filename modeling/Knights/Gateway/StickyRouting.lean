import Knights.Gateway.SessionDirectory
import Mathlib.Data.List.MinMax

namespace Knights.Gateway

open Knights.Lib List Cluster

/-!
# Gateway — sticky routing

A login goes through three steps that other logins, on this gateway or another one, may interleave
with (`gateway/src/gateway_app.cpp`): `select_best_server` looks the client up in the session
directory and otherwise takes the backend with the fewest sessions; the gateway connects to it; and
when it is connected `on_backend_connected` calls `ensure_backend`.  What that call returns is
compared with the backend for a warning, and the connection stays where it is.

* `leastConnections`, `selectSticky` — the two ways to choose a backend;
* `selectBestServer_spec_iff` — when one call of `select_best_server` selects well;
* `Gateways.machine` — any number of gateways and logins over the directories of
  `Cluster.machine`;
* `Routed` — the invariant: logins of a client that have chosen a backend have chosen the same
  one, and the directory holds no other;
* `bridged_recorded` — where no login that found nothing chooses against another one, everything
  bridged for a client goes to the backend that the directory records;
* `bridged_apart` — two logins that both find nothing end on different backends.
-/

/-! ### Choosing a backend -/

/-- The fields of a registered backend that routing reads. -/
structure InstanceRecord where
  instanceId : String
  host : String
  port : UInt16
  activeSessions : UInt32 := 0
  ready : Bool := true
  deriving DecidableEq, Repr

/-- A record that a new session may be sent to. -/
def InstanceRecord.usable (r : InstanceRecord) : Bool :=
  r.ready && r.instanceId ≠ "" && r.host ≠ "" && r.port ≠ 0

/-- One round of the loop over the instances: keep the record with fewer sessions. -/
def lessLoaded (selected : Option InstanceRecord) (r : InstanceRecord) : Option InstanceRecord :=
  if !r.usable then selected
  else match selected with
    | none => some r
    | some best => if r.activeSessions < best.activeSessions then some r else some best

/-- The usable record with the fewest sessions; the first one among equals. -/
def leastConnections (instances : List InstanceRecord) : Option InstanceRecord :=
  instances.foldl lessLoaded none

/-- The record of the backend that the client is bound to, if it is ready. -/
def selectSticky (instances : List InstanceRecord) (backend : String) : Option InstanceRecord :=
  instances.find? fun r => r.instanceId = backend && r.ready

/-- What `select_best_server` returns. -/
structure SelectedBackend where
  record : InstanceRecord
  stickyHit : Bool
  deriving DecidableEq, Repr

theorem InstanceRecord.usable_iff {r : InstanceRecord} : r.usable = true ↔
    r.ready = true ∧ r.instanceId ≠ "" ∧ r.host ≠ "" ∧ r.port ≠ 0 := by
  simp only [usable, Bool.and_eq_true, decide_eq_true_eq, and_assoc]

/-- The loop finds the first usable record with the fewest sessions. -/
theorem leastConnections_eq (instances : List InstanceRecord) : leastConnections instances =
    (instances.filter (·.usable)).argmin (·.activeSessions.toNat) := by
  rw [leastConnections, List.argmin, foldl_filter]
  congr 1
  funext selected r
  unfold lessLoaded
  cases r.usable with
  | false => rfl
  | true => cases selected <;> rfl

variable {instances : List InstanceRecord}

/-- Every record the loop keeps is a usable one of the list. -/
theorem mem_of_leastConnections {r : InstanceRecord} (h : leastConnections instances = some r) :
    r ∈ instances ∧ r.usable = true := by
  rw [leastConnections_eq] at h
  exact mem_filter.mp (argmin_mem h)

/-- It is one with the fewest sessions. -/
theorem le_of_leastConnections {r r' : InstanceRecord} (h : leastConnections instances = some r)
    (hr' : r' ∈ instances) (huse : r'.usable = true) :
    r.activeSessions ≤ r'.activeSessions := by
  rw [leastConnections_eq] at h
  have hle := le_of_mem_argmin (mem_filter.mpr ⟨hr', huse⟩) h
  exact UInt32.le_iff_toNat_le.mpr hle

/-- The loop finds one if there is one. -/
theorem usable_of_leastConnections (h : leastConnections instances = none) :
    ∀ r ∈ instances, r.usable = false := by
  rw [leastConnections_eq, argmin_eq_none, filter_eq_nil_iff] at h
  exact fun r hr => Bool.eq_false_iff.mpr (h r hr)

/-- What `find_backend` returns when nothing comes in between: six steps are enough
    (`Cluster.returned_of_call`). -/
def SessionDirectory.findBackend (redis : Redis) (d : SessionDirectory) (client : String)
    (now : ℕ) : Option String :=
  let alone : Cluster Unit Unit := ⟨redis, fun _ => d, fun _ => none⟩
  let steps := .call () () client .find :: List.replicate 6 (.step () now)
  (((Cluster.machine Unit Unit).run alone steps).result ()).join

/-! ### Logins -/

/-- The directory calls of one login. -/
inductive Purpose where
  | find
  | release
  | ensure
  deriving DecidableEq, Repr

/-- How far a login has come. -/
inductive LoginPhase where
  /-- `select_best_server` waits for `find_backend`. -/
  | finding (instances : List InstanceRecord)
  /-- The backend that was found is gone; `release_backend` runs. -/
  | releasing (instances : List InstanceRecord)
  /-- A backend is selected, the connection to it is not established. -/
  | connecting (selected : SelectedBackend)
  /-- Connected; `on_backend_connected` waits for `ensure_backend`. -/
  | ensuring (selected : SelectedBackend)
  /-- The client and the backend are bridged. -/
  | bridged (selected : SelectedBackend)
  /-- No backend, the connection failed, or one side left. -/
  | closed
  deriving DecidableEq, Repr

/-- The backend that a login is on its way to. -/
def LoginPhase.target : LoginPhase → Option String
  | .connecting selected | .ensuring selected => some selected.record.instanceId
  | .finding _ | .releasing _ | .bridged _ | .closed => none

/-- A login on a gateway. -/
structure Login (δ : Type) where
  gateway : δ
  client : String
  phase : LoginPhase
  deriving DecidableEq, Repr

/-- Gateways `δ` with their directories, and the logins, by number. -/
structure Gateways (δ : Type) where
  cluster : Cluster δ (ℕ × Purpose)
  login : ℕ → Option (Login δ)

namespace Gateways

variable {δ : Type} [DecidableEq δ]

/-- What can happen. -/
inductive Input (δ : Type) where
  /-- A login begins on a gateway whose registry lists these instances. -/
  | login (n : ℕ) (gateway : δ) (client : String) (instances : List InstanceRecord)
  /-- A directory call does its next step. -/
  | directory (id : ℕ × Purpose) (now : ℕ)
  /-- A login whose directory call has returned goes on. -/
  | proceed (n : ℕ)
  /-- The connection to the backend is established. -/
  | connected (n : ℕ)
  /-- The connection fails or ends. -/
  | disconnect (n : ℕ)
  /-- Redis drops a key whose time is over. -/
  | expire (key : String)
  deriving DecidableEq, Repr

section

variable (s : Gateways δ) (n : ℕ) (l : Login δ) (instances : List InstanceRecord)

/-- A login enters a phase. -/
def setPhase (phase : LoginPhase) : Gateways δ :=
  { s with login := Function.update s.login n (some { l with phase := phase }) }

/-- A directory call begins. -/
def call (purpose : Purpose) (l : Login δ) (op : SessionDirectory.Op) : Gateways δ :=
  { s with cluster := s.cluster.step (.call (n, purpose) l.gateway l.client op) }

/-- The second part of `select_best_server`. -/
def pick : LoginPhase :=
  match leastConnections instances with
  | some r => .connecting ⟨r, false⟩
  | none => .closed

/-- The clients without a session binding. -/
def unbound (client : String) : Prop := client = "" ∨ client = "anonymous"

instance (client : String) : Decidable (unbound client) :=
  inferInstanceAs (Decidable (client = "" ∨ client = "anonymous"))

/-- The start of `select_best_server`. -/
def begin : Gateways δ :=
  if instances = [] then s.setPhase n l .closed
  else if unbound l.client then s.setPhase n l (pick instances)
  else (s.call n .find l .find).setPhase n l (.finding instances)

/-- `select_best_server` after `find_backend`. -/
def afterFind : Option String → Gateways δ
  | none => s.setPhase n l (pick instances)
  | some backend =>
    match selectSticky instances backend with
    | some r => s.setPhase n l (.connecting ⟨r, true⟩)
    | none => (s.call n .release l (.release backend)).setPhase n l (.releasing instances)

/-- `on_backend_connected`. -/
def onBackendConnected (selected : SelectedBackend) : Gateways δ :=
  if unbound l.client ∨ selected.record.instanceId = "" then s.setPhase n l (.bridged selected)
  else (s.call n .ensure l (.ensure selected.record.instanceId)).setPhase n l (.ensuring selected)

/-- A login goes on, if its call has returned. -/
def proceed : Gateways δ :=
  match l.phase with
  | .finding instances =>
    match s.cluster.result (n, .find) with
    | some result => s.afterFind n l instances result
    | none => s
  | .releasing instances =>
    match s.cluster.result (n, .release) with
    | some _ => s.setPhase n l (pick instances)
    | none => s
  | .ensuring selected =>
    match s.cluster.result (n, .ensure) with
    | some _ => s.setPhase n l (.bridged selected)
    | none => s
  | .connecting _ | .bridged _ | .closed => s

/-- The system. -/
def step : Input δ → Gateways δ
  | .login n gateway client instances =>
    match s.login n with
    | none => s.begin n ⟨gateway, client, .closed⟩ instances
    | some _ => s
  | .directory id now => { s with cluster := s.cluster.step (.step id now) }
  | .proceed n =>
    match s.login n with
    | some l => s.proceed n l
    | none => s
  | .connected n =>
    match s.login n with
    | some ⟨gateway, client, .connecting selected⟩ =>
      s.onBackendConnected n ⟨gateway, client, .connecting selected⟩ selected
    | _ => s
  | .disconnect n =>
    match s.login n with
    | some ⟨gateway, client, .connecting selected⟩ =>
      s.setPhase n ⟨gateway, client, .connecting selected⟩ .closed
    | some ⟨gateway, client, .bridged selected⟩ =>
      s.setPhase n ⟨gateway, client, .bridged selected⟩ .closed
    | _ => s
  | .expire key => { s with cluster := s.cluster.step (.expire key) }

/-- The system as a machine. -/
def machine (δ : Type) [DecidableEq δ] : Machine (Gateways δ) (Input δ) Unit where
  step s i := (s.step i, ())

@[simp] theorem machine_next (i : Input δ) : (machine δ).next s i = s.step i := rfl

/-- The state after a login has changed, perhaps with a call of its own that begins. -/
def put (cluster : Cluster δ (ℕ × Purpose)) (n : ℕ) (l : Login δ) : Gateways δ :=
  ⟨cluster, Function.update s.login n (some l)⟩

end

omit [DecidableEq δ] in
theorem login_put_self (s : Gateways δ) (cluster : Cluster δ (ℕ × Purpose)) (n : ℕ)
    (l : Login δ) : (s.put cluster n l).login n = some l := Function.update_self ..

omit [DecidableEq δ] in
theorem login_put_of_ne {m n : ℕ} (h : m ≠ n) (s : Gateways δ)
    (cluster : Cluster δ (ℕ × Purpose)) (l : Login δ) :
    (s.put cluster n l).login m = s.login m := Function.update_of_ne h ..

variable {s : Gateways δ} {p client b : String} {backends : List String}
  {held held' : Option String} {n : ℕ} {l : Login δ} {i : Input δ}
  {cluster : Cluster δ (ℕ × Purpose)} {purpose : Purpose}

omit [DecidableEq δ] in
theorem login_put_eq_some {m : ℕ} {l' : Login δ} (h : (s.put cluster n l).login m = some l') :
    m = n ∧ l' = l ∨ m ≠ n ∧ s.login m = some l' := by
  by_cases hmn : m = n
  · subst hmn
    exact .inl ⟨rfl, Option.mem_unique h (login_put_self ..)⟩
  · exact .inr ⟨hmn, (login_put_of_ne hmn ..).symm.trans h⟩

/-! ### One call of `select_best_server` -/

/-- `select_best_server`, by the backend that the directory has found for the client. -/
def selectBestServer (instances : List InstanceRecord) (client : String)
    (found : Option String) : Option SelectedBackend :=
  let sticky := (if unbound client then none else found).bind (selectSticky instances)
  (sticky.map (⟨·, true⟩)).or ((leastConnections instances).map (⟨·, false⟩))

/-- What a selection should be: a usable record of the list, one of the recorded backend if it has
    a usable one and otherwise one with the fewest sessions, and none only if none is usable. -/
structure Selects (instances : List InstanceRecord) (found : Option String)
    (chosen : Option SelectedBackend) : Prop where
  usable : ∀ sel ∈ chosen, sel.record ∈ instances ∧ sel.record.usable = true
  sticky : ∀ b ∈ found, ∀ r ∈ instances, r.usable = true → r.instanceId = b →
    ∃ sel ∈ chosen, sel.record.instanceId = b
  least : (∀ b ∈ found, ∀ r ∈ instances, r.usable = true → r.instanceId ≠ b) →
    ∀ sel ∈ chosen, ∀ r ∈ instances, r.usable = true →
      sel.record.activeSessions ≤ r.activeSessions
  some : chosen = none → ∀ r ∈ instances, r.usable = false

section Selection

variable {instances : List InstanceRecord} {found : Option String}

/-- The minimum search selects well where it comes to the recorded backend, if that is usable. -/
theorem selects_least (h : ∀ b ∈ found, ∀ r ∈ instances, r.usable = true → r.instanceId = b →
      ∃ least ∈ leastConnections instances, least.instanceId = b) :
    Selects instances found ((leastConnections instances).map (⟨·, false⟩)) where
  usable := by
    intro sel hsel
    obtain ⟨r, hr, rfl⟩ := Option.map_eq_some_iff.mp hsel
    exact mem_of_leastConnections hr
  sticky := by
    intro b hb r hr huse hid
    obtain ⟨least, hleast, hid⟩ := h b hb r hr huse hid
    exact ⟨_, Option.mem_map_of_mem _ hleast, hid⟩
  least := by
    intro _ sel hsel r' hr' huse
    obtain ⟨r, hr, rfl⟩ := Option.map_eq_some_iff.mp hsel
    exact le_of_leastConnections hr hr' huse
  some := by
    rw [Option.map_eq_none_iff]
    exact usable_of_leastConnections

/-- The first ready record of the recorded backend is a good selection if it is usable. -/
theorem selects_sticky_iff {b : String} {r : InstanceRecord}
    (hr : selectSticky instances b = some r) :
    Selects instances (some b) (some ⟨r, true⟩) ↔ r.usable = true := by
  have hmem : r ∈ instances := mem_of_find?_eq_some hr
  have hid : r.instanceId = b := by
    have hrec : r.instanceId = b ∧ r.ready = true := by simpa using List.find?_some hr
    exact hrec.1
  refine ⟨fun h => (h.usable _ rfl).2, fun husable => ⟨?_, ?_, fun hno => ?_, nofun⟩⟩
  · rintro sel ⟨⟩
    exact ⟨hmem, husable⟩
  · rintro b' ⟨⟩ _ _ _ _
    exact ⟨_, rfl, hid⟩
  · exact absurd hid (hno b rfl r hmem husable)

/-- **Selection.** A call selects well exactly if the first ready record of the recorded backend,
    if there is one, is usable.  The directory is not asked for `anonymous`, where it has to be
    the minimum search that comes to a usable recorded backend. -/
theorem selectBestServer_spec_iff (instances : List InstanceRecord) (client : String)
    (redis : Redis) (d : SessionDirectory) (now : ℕ) :
    let found := d.findBackend redis client now
    Selects instances found (selectBestServer instances client found) ↔
      if client = "anonymous" then
        ∀ b ∈ found, ∀ r ∈ instances, r.usable = true → r.instanceId = b →
          ∃ least ∈ leastConnections instances, least.instanceId = b
      else ∀ b ∈ found, ∀ r ∈ selectSticky instances b, r.usable = true := by
  intro found
  by_cases hanon : client = "anonymous"
  · have hchosen : selectBestServer instances client found
        = (leastConnections instances).map (⟨·, false⟩) := by
      rw [selectBestServer, if_pos (.inr hanon)]
      rfl
    rw [if_pos hanon, hchosen]
    refine ⟨fun h b hb r hr huse hid => ?_, selects_least⟩
    obtain ⟨sel, hsel, hid⟩ := h.sticky b hb r hr huse hid
    obtain ⟨least, hleast, rfl⟩ := Option.map_eq_some_iff.mp hsel
    exact ⟨least, hleast, hid⟩
  have hfound : (if unbound client then none else found) = found := by
    split_ifs with hun
    · obtain rfl := hun.resolve_right hanon
      rfl
    · rfl
  rw [if_neg hanon, selectBestServer, hfound]
  cases hb : found with
  | none => exact iff_of_true (selects_least nofun) nofun
  | some b =>
    rw [Option.bind_some]
    cases hsticky : selectSticky instances b with
    | some r =>
      refine (selects_sticky_iff hsticky).trans ⟨?_, fun h => h b rfl r hsticky⟩
      rintro husable _ ⟨⟩ _ hr
      exact Option.mem_unique hsticky hr ▸ husable
    | none =>
      refine iff_of_true (selects_least ?_) ?_
      · rintro _ ⟨⟩ r hr huse hid
        have hmiss := List.find?_eq_none.mp hsticky r hr
        simp [hid, (InstanceRecord.usable_iff.mp huse).1] at hmiss
      · rintro _ ⟨⟩ r hr
        exact absurd (hsticky.symm.trans hr) nofun

end Selection

/-- Redis with `backend-a` on record for a client. -/
def recording (client : String) : Redis :=
  (∅ : Redis).insert ("gateway/session/" ++ client) "backend-a"

/-- Two backends, the first with more sessions and the address given. -/
def twoBackends (host : String) (port : UInt16) : List InstanceRecord :=
  [⟨"backend-a", host, port, 5, true⟩, ⟨"backend-b", "10.0.0.2", 9000, 3, true⟩]

/-- Without the conditions a client is sent to a record without an address, and `anonymous` is
    sent away from its recorded backend. -/
theorem selectBestServer_astray :
    let found := fun client =>
      (SessionDirectory.create true "" 30).findBackend (recording client) client 0
    selectBestServer (twoBackends "" 0) "client-1" (found "client-1") =
        some ⟨⟨"backend-a", "", 0, 5, true⟩, true⟩ ∧
      found "anonymous" = some "backend-a" ∧
      selectBestServer (twoBackends "10.0.0.1" 9000) "anonymous" (found "anonymous") =
        some ⟨⟨"backend-b", "10.0.0.2", 9000, 3, true⟩, false⟩ := by
  decide +kernel

/-- How a login goes on with what was selected. -/
def selecting : Option SelectedBackend → LoginPhase
  | some selected => .connecting selected
  | none => .closed

theorem pick_eq (instances : List InstanceRecord) :
    pick instances = selecting ((leastConnections instances).map (⟨·, false⟩)) := by
  unfold pick
  cases leastConnections instances <;> rfl

/-- A login without a binding selects at once. -/
theorem begin_eq_select (s : Gateways δ) (n : ℕ) (h : unbound l.client)
    (instances : List InstanceRecord) (found : Option String) :
    s.begin n l instances =
      s.setPhase n l (selecting (selectBestServer instances l.client found)) := by
  unfold begin
  unfold selectBestServer
  rw [if_pos h, if_pos h]
  split_ifs with hnil
  · rw [hnil]
    rfl
  · rw [pick_eq]
    rfl

/-- Other logins select when the directory has answered, or when the binding is released. -/
theorem afterFind_eq_select (s : Gateways δ) (n : ℕ) (h : ¬unbound l.client)
    (instances : List InstanceRecord) (found : Option String) :
    s.afterFind n l instances found =
        s.setPhase n l (selecting (selectBestServer instances l.client found)) ∨
      ((s.afterFind n l instances found).login n = some { l with phase := .releasing instances } ∧
        pick instances = selecting (selectBestServer instances l.client found)) := by
  unfold selectBestServer
  rw [if_neg h, pick_eq]
  cases found with
  | none => exact .inl (congrArg (s.setPhase n l) (pick_eq instances))
  | some b =>
    dsimp only [afterFind, Option.bind_some]
    cases selectSticky instances b with
    | some r => exact .inl rfl
    | none => exact .inr ⟨Function.update_self .., rfl⟩

/-! ### The invariant -/

/-- A list in which all backends are ready. -/
def Steady (backends : List String) (instances : List InstanceRecord) : Prop :=
  (∀ r ∈ instances, r.ready = true ∧ r.instanceId ∈ backends) ∧
    ∀ b ∈ backends, ∃ r ∈ instances, r.instanceId = b

/-- A login on its way to a backend: the directory holds no other. -/
structure Bound (backends : List String) (held : Option String) (b : String) : Prop where
  named : b ≠ ""
  listed : b ∈ backends
  unrivalled : held = none ∨ held = some b

/-- What holds in each phase of a login of the client. -/
def PhaseOk (cluster : Cluster δ (ℕ × Purpose)) (client : String) (backends : List String)
    (held : Option String) (n : ℕ) : LoginPhase → Prop
  | .finding instances =>
    Steady backends instances ∧ cluster.task (n, .ensure) = none ∧
      ∃ dir stage, cluster.task (n, .find) = some ⟨dir, client, .find, stage⟩
  | .releasing _ => False
  | .connecting selected =>
    Bound backends held selected.record.instanceId ∧ cluster.task (n, .ensure) = none
  | .ensuring selected =>
    Bound backends held selected.record.instanceId ∧ ∃ dir stage, cluster.task (n, .ensure) =
      some ⟨dir, client, .ensure selected.record.instanceId, stage⟩
  | .bridged selected => held = some selected.record.instanceId
  | .closed => True

/-- The invariant for a client: its key agrees with everything in the directories, logins that are
    on their way go to one backend, and the key holds no other. -/
structure Routed (s : Gateways δ) (p client : String) (backends : List String)
    (held : Option String) : Prop where
  settled : s.cluster.Settled p client held
  listed : ∀ b, held = some b → b ∈ backends
  unborn : ∀ n purpose, s.login n = none → s.cluster.task (n, purpose) = none
  owner : ∀ n purpose t l, s.cluster.task (n, purpose) = some t → s.login n = some l →
    t.client = l.client
  phases : ∀ n l, s.login n = some l → l.client = client →
    PhaseOk s.cluster client backends held n l.phase
  together : ∀ n l b m l' b', s.login n = some l → l.client = client → l.phase.target = some b →
    s.login m = some l' → l'.client = client → l'.phase.target = some b' → b = b'
  claiming : held = none → ∀ n purpose dir b stage,
    s.cluster.task (n, purpose) = some ⟨dir, client, .ensure b, stage⟩ →
    ∃ l selected, s.login n = some l ∧ l.phase = .ensuring selected ∧ selected.record.instanceId = b

/-- The inputs of a run in which all backends stay ready for the client and its key does not
    expire. -/
def Allowed (p client : String) (backends : List String) : Input δ → Prop
  | .login _ _ other instances => other = client → Steady backends instances
  | .expire key => key ≠ p ++ client
  | _ => True

/-- **The condition.** When a login of the client that found nothing in the directory takes a
    backend, the directory holds no other backend by now, and no other login of the client is on
    its way to another one. -/
def NoRival (p client : String) (s : Gateways δ) : Input δ → Prop
  | .proceed n => ∀ l instances, s.login n = some l → l.client = client →
    l.phase = .finding instances → s.cluster.result (n, .find) = some none →
    ∀ r, leastConnections instances = some r →
      (∀ b, s.cluster.redis.lookup (p ++ client) = some b → b = r.instanceId) ∧
        ∀ m l' b, m ≠ n → s.login m = some l' → l'.client = client →
          l'.phase.target = some b → b = r.instanceId
  | _ => True

/-! ### Steps of the directory -/

omit [DecidableEq δ] in
theorem Bound.of_held (h : Bound backends held b)
    (hheld : held' = held ∨ held = none ∧ ∀ b', held' = some b' → b' = b) :
    Bound backends held' b := by
  refine ⟨h.named, h.listed, ?_⟩
  rcases hheld with rfl | ⟨-, hb⟩
  · exact h.unrivalled
  · cases held' with
    | none => exact .inl rfl
    | some b' => exact .inr (congrArg some (hb b' rfl))

namespace Routed

section

omit [DecidableEq δ]

/-- A key that is set for the first time is set to the backend that all logins on their way go
    to. -/
theorem target_of_claimed (h : Routed s p client backends none) {m : ℕ} {dir : δ}
    {stage : SessionDirectory.Stage}
    (htask : s.cluster.task (m, purpose) = some ⟨dir, client, .ensure b, stage⟩) :
    b ∈ backends ∧ ∀ n l b', s.login n = some l → l.client = client →
      l.phase.target = some b' → b = b' := by
  obtain ⟨l₀, selected, hl₀, hphase, rfl⟩ := h.claiming rfl m purpose dir b stage htask
  have hclient : l₀.client = client := (h.owner m purpose _ l₀ htask hl₀).symm
  have hok := h.phases m l₀ hl₀ hclient
  rw [hphase] at hok
  refine ⟨hok.1.listed, fun n l b' hl hlc hb' => ?_⟩
  exact h.together m l₀ _ n l b' hl₀ hclient (by rw [hphase]; rfl) hl hlc hb'

/-- A login keeps its client. -/
theorem client_of_login (hn : s.login n = some l) (phase : LoginPhase) :
    ∀ l₀, s.login n = some l₀ → l₀.client = { l with phase := phase }.client := by
  intro l₀ hl₀
  obtain rfl := Option.mem_unique hn hl₀
  rfl

theorem not_ensuring_of_login (hn : s.login n = some l)
    (hphase : ∀ selected, l.phase ≠ .ensuring selected) :
    ∀ l₀ selected, s.login n = some l₀ → l₀.phase ≠ .ensuring selected := by
  intro l₀ selected hl₀
  obtain rfl := Option.mem_unique hn hl₀
  exact hphase selected

/-- A backend that the directory holds is found in a list where all backends are ready. -/
theorem selectSticky_of_held (h : Routed s p client backends (some b))
    (hsteady : Steady backends instances) :
    ∃ r, selectSticky instances b = some r ∧ r.instanceId = b := by
  obtain ⟨r, hr, hrb⟩ := hsteady.2 b (h.listed b rfl)
  have hfound : (selectSticky instances b).isSome := by
    rw [selectSticky, List.find?_isSome]
    exact ⟨r, hr, by simp [hrb, (hsteady.1 r hr).1]⟩
  obtain ⟨r', hr'⟩ := Option.isSome_iff_exists.mp hfound
  have hprop := List.find?_some hr'
  simp only [Bool.and_eq_true, decide_eq_true_eq] at hprop
  exact ⟨r', hr', hprop.1⟩

variable (h : Routed s p client backends held)
include h

/-- A login of the client that is on its way goes to no other backend than the directory
    holds. -/
theorem bound_of_target (hn : s.login n = some l) (hown : l.client = client)
    (hb : l.phase.target = some b) :
    Bound backends held b := by
  have hok := h.phases n l hn hown
  cases hphase : l.phase with
  | connecting selected | ensuring selected =>
    rw [hphase] at hok hb
    obtain rfl := Option.some.inj hb
    exact hok.1
  | finding _ | releasing _ | bridged _ | closed => rw [hphase] at hb; cases hb

/-- What is left to show when a login enters a phase, perhaps with a call of its own that
    begins. -/
theorem update (hset : cluster.Settled p client held)
    (hothers : ∀ m purpose, m ≠ n → cluster.task (m, purpose) = s.cluster.task (m, purpose))
    (howner : ∀ purpose t, cluster.task (n, purpose) = some t → t.client = l.client)
    (hok : l.client = client → PhaseOk cluster client backends held n l.phase)
    (htogether : l.client = client → ∀ b, l.phase.target = some b → ∀ m l' b', m ≠ n →
      s.login m = some l' → l'.client = client → l'.phase.target = some b' → b = b')
    (hclaiming : held = none → l.client = client → ∀ purpose dir b stage,
      cluster.task (n, purpose) = some ⟨dir, client, .ensure b, stage⟩ →
      ∃ selected, l.phase = .ensuring selected ∧ selected.record.instanceId = b) :
    Routed (s.put cluster n l) p client backends held where
  settled := hset
  listed := h.listed
  unborn := by
    intro m purpose hm
    by_cases hmn : m = n
    · subst hmn
      rw [login_put_self] at hm
      cases hm
    · rw [login_put_of_ne hmn] at hm
      exact (hothers m purpose hmn).trans (h.unborn m purpose hm)
  owner := by
    intro m purpose t l' ht hl'
    rcases login_put_eq_some hl' with ⟨rfl, rfl⟩ | ⟨hmn, hl'⟩
    · exact howner purpose t ht
    · exact h.owner m purpose t l' ((hothers m purpose hmn).symm.trans ht) hl'
  phases := by
    intro m l' hl' hlc
    rcases login_put_eq_some hl' with ⟨rfl, rfl⟩ | ⟨hmn, hl'⟩
    · exact hok hlc
    · have hold := h.phases m l' hl' hlc
      cases hphase : l'.phase with
      | finding _ | connecting _ | ensuring _ =>
        rw [hphase] at hold
        show PhaseOk cluster client backends held m _
        simpa only [PhaseOk, hothers m _ hmn] using hold
      | releasing _ | bridged _ | closed => rw [hphase] at hold; exact hold
  together := by
    intro m l₁ b m' l₂ b' h₁ hc₁ hb h₂ hc₂ hb'
    rcases login_put_eq_some h₁ with ⟨rfl, rfl⟩ | ⟨hm, hl₁⟩ <;>
      rcases login_put_eq_some h₂ with ⟨hm', rfl⟩ | ⟨hm', hl₂⟩
    · exact Option.mem_unique hb hb'
    · exact htogether hc₁ b hb m' l₂ b' hm' hl₂ hc₂ hb'
    · exact (htogether hc₂ b' hb' m l₁ b hm hl₁ hc₁ hb).symm
    · exact h.together m l₁ b m' l₂ b' hl₁ hc₁ hb hl₂ hc₂ hb'
  claiming := by
    intro hnone m purpose dir b stage ht
    by_cases hmn : m = n
    · subst hmn
      obtain ⟨selected, hphase, hb⟩ :=
        hclaiming hnone (howner purpose _ ht).symm purpose dir b stage ht
      exact ⟨l, selected, login_put_self .., hphase, hb⟩
    · obtain ⟨l', selected, hl', hphase, hb⟩ :=
        h.claiming hnone m purpose dir b stage ((hothers m purpose hmn).symm.trans ht)
      exact ⟨l', selected, (login_put_of_ne hmn ..).trans hl', hphase, hb⟩

section

variable (hwas : ∀ l₀, s.login n = some l₀ → l₀.client = l.client)
include hwas

/-- The calls of a login are for its client. -/
theorem owner_of {t : Task δ}
    (ht : s.cluster.task (n, purpose) = some t) : t.client = l.client := by
  cases hl : s.login n with
  | none =>
    rw [h.unborn n purpose hl] at ht
    cases ht
  | some l₀ => exact (h.owner n purpose t l₀ ht hl).trans (hwas l₀ hl)

/-- A login enters a phase without a call. -/
theorem move (hok : l.client = client → PhaseOk s.cluster client backends held n l.phase)
    (htogether : l.client = client → ∀ b, l.phase.target = some b → ∀ m l' b', m ≠ n →
      s.login m = some l' → l'.client = client → l'.phase.target = some b' → b = b')
    (hquiet : l.client = client → held = none → ∀ l₀ selected, s.login n = some l₀ →
      l₀.phase ≠ .ensuring selected) :
    Routed (s.put s.cluster n l) p client backends held := by
  refine h.update h.settled (fun _ _ _ => rfl) (fun _ _ => h.owner_of hwas) hok htogether ?_
  intro hnone hown purpose dir b stage ht
  obtain ⟨l₀, selected, hl₀, hphase, -⟩ := h.claiming hnone n purpose dir b stage ht
  exact absurd hphase (hquiet hown hnone l₀ selected hl₀)

/-- A login of another client enters a phase: nothing of it concerns this one. -/
theorem move_other (hother : l.client ≠ client) :
    Routed (s.put s.cluster n l) p client backends held :=
  h.move hwas (fun he => absurd he hother) (fun he => absurd he hother) (fun he => absurd he hother)

end

theorem close (hn : s.login n = some l) (hphase : ∀ selected, l.phase ≠ .ensuring selected) :
    Routed (s.setPhase n l .closed) p client backends held := by
  exact h.move (l := { l with phase := .closed }) (client_of_login hn _) (fun _ => trivial) nofun
    (fun _ _ => not_ensuring_of_login hn hphase)

end

variable (h : Routed s p client backends held) {j : Cluster.Input δ (ℕ × Purpose)}
include h

/-- What a step of the directory does to the key, as far as the logins can tell. -/
theorem held_step (hheld : held' = held ∨ held = none)
    (hset : (s.cluster.step j).Settled p client held')
    (hold : ∀ id, s.cluster.task id = none → (s.cluster.step j).task id = none) :
    held' = held ∨ held = none ∧ ∀ b, held' = some b → b ∈ backends ∧
      ∀ n l b', s.login n = some l → l.client = client → l.phase.target = some b' → b = b' := by
  rcases hheld with heq | rfl
  · exact .inl heq
  · refine .inr ⟨rfl, fun b hb => ?_⟩
    obtain ⟨-, ⟨m, purpose⟩, dir, stage, htask⟩ := hset.wanted b hb
    rcases task_of_step htask with ⟨⟨_, _, _, stage₀⟩, ht₀, hsame⟩ | ⟨-, hnone, -⟩
    · cases hsame
      exact h.target_of_claimed ht₀
    · rw [hold _ hnone] at htask
      cases htask

theorem directory (hclient : client ≠ "") (hj : Cluster.Plain p client j)
    (hold : ∀ id, s.cluster.task id = none → (s.cluster.step j).task id = none) :
    ∃ held', Routed { s with cluster := s.cluster.step j } p client backends held' := by
  obtain ⟨held', hheld, hset⟩ := h.settled.step hclient hj
  have hnew := h.held_step hheld hset hold
  have hbefore : ∀ id t, (s.cluster.step j).task id = some t →
      ∃ t₀, s.cluster.task id = some t₀ ∧ t = { t₀ with stage := t.stage } := by
    intro id t ht
    rcases task_of_step ht with hold' | ⟨-, hnone, -⟩
    · exact hold'
    · rw [hold id hnone] at ht
      cases ht
  refine ⟨held', hset, ?_, fun n purpose hn => hold _ (h.unborn n purpose hn), ?_, ?_, h.together,
    ?_⟩
  · intro b hb
    rcases hnew with rfl | ⟨-, hlisted⟩
    · exact h.listed b hb
    · exact (hlisted b hb).1
  · intro n purpose t l ht hl
    obtain ⟨t₀, ht₀, hsame⟩ := hbefore _ t ht
    rw [hsame]
    exact h.owner n purpose t₀ l ht₀ hl
  · intro n l hl hlc
    have hok := h.phases n l hl hlc
    have hbound : ∀ b, l.phase.target = some b → Bound backends held b →
        Bound backends held' b := by
      intro b hb hbound
      refine hbound.of_held (hnew.imp_right fun ⟨hnone, hb'⟩ => ⟨hnone, fun b' he => ?_⟩)
      exact (hb' b' he).2 n l b hl hlc hb
    cases hphase : l.phase with
    | finding instances =>
      rw [hphase] at hok
      obtain ⟨hsteady, hnone, dir, stage, hfind⟩ := hok
      obtain ⟨stage', hfind'⟩ := task_step hfind j
      exact ⟨hsteady, hold _ hnone, dir, stage', hfind'⟩
    | releasing instances => rw [hphase] at hok; exact hok
    | connecting selected =>
      rw [hphase] at hok
      exact ⟨hbound _ (by rw [hphase]; rfl) hok.1, hold _ hok.2⟩
    | ensuring selected =>
      rw [hphase] at hok
      obtain ⟨hb, dir, stage, hens⟩ := hok
      obtain ⟨stage', hens'⟩ := task_step hens j
      exact ⟨hbound _ (by rw [hphase]; rfl) hb, dir, stage', hens'⟩
    | bridged selected =>
      rw [hphase] at hok
      have hheldb : held = some selected.record.instanceId := hok
      rcases hheld with rfl | hnone
      · exact hheldb
      · rw [hnone] at hheldb
        cases hheldb
    | closed => trivial
  · intro hnone n purpose dir b stage ht
    have hheldnone : held = none := by
      rcases hheld with rfl | hnone'
      · exact hnone
      · exact hnone'
    obtain ⟨⟨_, _, _, stage₀⟩, ht₀, hsame⟩ := hbefore _ _ ht
    cases hsame
    exact h.claiming hheldnone n purpose _ b _ ht₀

/-- A login enters a phase and begins a call. -/
theorem enter (hclient : client ≠ "") (purpose : Purpose)
    (hwas : ∀ l₀, s.login n = some l₀ → l₀.client = l.client) {op : SessionDirectory.Op}
    (hop : l.client = client → op.Binds)
    (hok : l.client = client → PhaseOk
      (s.cluster.step (.call (n, purpose) l.gateway l.client op)) client backends held n l.phase)
    (htogether : l.client = client → ∀ b, l.phase.target = some b → ∀ m l' b', m ≠ n →
      s.login m = some l' → l'.client = client → l'.phase.target = some b' → b = b')
    (hquiet : l.client = client → held = none → ∀ l₀ selected, s.login n = some l₀ →
      l₀.phase ≠ .ensuring selected)
    (hensure : l.client = client → ∀ b, op = .ensure b →
      ∃ selected, l.phase = .ensuring selected ∧ selected.record.instanceId = b) :
    Routed (s.put (s.cluster.step (.call (n, purpose) l.gateway l.client op)) n l) p client
      backends held := by
  refine h.update (h.settled.call hclient _ _ hop) ?_ ?_ hok htogether ?_
  · intro m purpose' hm
    exact task_call_of_ne (fun he => hm (congrArg Prod.fst he)) ..
  · intro purpose' t ht
    rcases task_of_step ht with ⟨t₀, ht₀, hsame⟩ | ⟨hcall, -, -⟩
    · have hown := h.owner_of hwas ht₀
      rw [hsame]
      exact hown
    · injection hcall with _ _ hown _
      exact hown.symm
  · intro hnone hown purpose' dir b stage ht
    rcases task_of_step ht with ⟨⟨_, _, _, stage₀⟩, ht₀, hsame⟩ | ⟨hcall, -, -⟩
    · cases hsame
      obtain ⟨l₀, selected, hl₀, hphase, -⟩ := h.claiming hnone n purpose' _ b _ ht₀
      exact absurd hphase (hquiet hown hnone l₀ selected hl₀)
    · injection hcall with _ _ _ hopb
      exact hensure hown b hopb

@[inherit_doc move_other]
theorem enter_other (hclient : client ≠ "")
    (purpose : Purpose) (hwas : ∀ l₀, s.login n = some l₀ → l₀.client = l.client)
    (op : SessionDirectory.Op) (hother : l.client ≠ client) :
    Routed (s.put (s.cluster.step (.call (n, purpose) l.gateway l.client op)) n l) p client
      backends held :=
  h.enter hclient purpose hwas (fun he => absurd he hother) (fun he => absurd he hother)
    (fun he => absurd he hother) (fun he => absurd he hother) (fun he => absurd he hother)

/-! ### Steps of a login -/

theorem begin (hbound : ¬unbound client) (hn : s.login n = none)
    (hsteady : l.client = client → Steady backends instances) :
    Routed (s.begin n l instances) p client backends held := by
  have hwas : ∀ phase l₀, s.login n = some l₀ → l₀.client = { l with phase := phase }.client := by
    intro phase l₀ hl₀
    rw [hn] at hl₀
    cases hl₀
  have hquiet : ∀ l₀ selected, s.login n = some l₀ → l₀.phase ≠ .ensuring selected := by
    intro l₀ selected hl₀
    rw [hn] at hl₀
    cases hl₀
  unfold Gateways.begin
  split
  · exact h.move (l := { l with phase := .closed }) (hwas _) (fun _ => trivial) nofun
      (fun _ _ => hquiet)
  · split
    case isTrue hunbound =>
      have hne : l.client ≠ client := fun he => hbound (he ▸ hunbound)
      exact h.move_other (hwas _) hne
    case isFalse =>
      refine h.enter (fun he => hbound (.inl he)) .find (hwas (.finding instances))
        (fun _ => trivial) ?_ nofun (fun _ _ => hquiet) (fun _ => nofun)
      intro hown
      obtain rfl : l.client = client := hown
      refine ⟨hsteady rfl, ?_, l.gateway, _, task_call_self (h.unborn n .find hn) ..⟩
      rw [task_call_of_ne (by simp)]
      exact h.unborn n .ensure hn

theorem afterFind (hbound : ¬unbound client) (hn : s.login n = some l)
    (hphase : l.phase = .finding instances) {result : Option String}
    (hresult : s.cluster.result (n, .find) = some result)
    (hrival : NoRival p client s (.proceed n)) :
    Routed (s.afterFind n l instances result) p client backends held := by
  have hwas := client_of_login hn
  have hquiet := not_ensuring_of_login hn (by rw [hphase]; nofun)
  have hnotempty : client ≠ "" := fun he => hbound (.inl he)
  by_cases hown : l.client = client
  case neg =>
    cases result with
    | none => exact h.move_other (hwas _) hown
    | some backend =>
      simp only [Gateways.afterFind]
      split
      · exact h.move_other (hwas _) hown
      · exact h.enter_other hnotempty .release (hwas (.releasing instances)) _ hown
  case pos =>
    have hok := h.phases n l hn hown
    rw [hphase] at hok
    obtain ⟨hsteady, hnone, dir, stage, hfind⟩ := hok
    have hstage : stage = .done result := stage_of_result hfind hresult
    have hagrees := (h.settled.agrees _ _ hfind rfl).2
    rw [hstage] at hagrees
    cases result with
    | some backend =>
      -- The directory holds a backend: it is in the list, and whoever is on the way goes there.
      obtain rfl : held = some backend := hagrees
      obtain ⟨r, hr, hrb⟩ := h.selectSticky_of_held hsteady
      simp only [Gateways.afterFind, hr]
      refine h.move (hwas (.connecting ⟨r, true⟩)) (fun _ => ⟨⟨?_, ?_, ?_⟩, hnone⟩) ?_
        (fun _ _ => hquiet)
      · rw [hrb]
        exact (h.settled.wanted backend rfl).1
      · rw [hrb]
        exact h.listed backend rfl
      · exact .inr (congrArg some hrb.symm)
      · intro _ b hb m l' b' _ hl' hlc hb'
        obtain rfl : r.instanceId = b := Option.some.inj hb
        have hsame : some backend = some b' :=
          (h.bound_of_target hl' hlc hb').unrivalled.resolve_left nofun
        exact hrb.trans (Option.some.inj hsame)
    | none =>
      simp only [Gateways.afterFind, pick]
      cases hpick : leastConnections instances with
      | none => exact h.move (hwas .closed) (fun _ => trivial) nofun (fun _ _ => hquiet)
      | some r =>
        obtain ⟨hheld, hothers⟩ := hrival l instances hn hown hphase hresult r hpick
        obtain ⟨hmem, husable⟩ := mem_of_leastConnections hpick
        refine h.move (hwas (.connecting ⟨r, false⟩)) (fun _ => ⟨⟨?_, ?_, ?_⟩, hnone⟩) ?_
          (fun _ _ => hquiet)
        · exact (InstanceRecord.usable_iff.mp husable).2.1
        · exact (hsteady.1 r hmem).2
        · rw [h.settled.key] at hheld
          cases held with
          | none => exact .inl rfl
          | some b => exact .inr (congrArg some (hheld b rfl))
        · intro _ b hb m l' b' hm hl' hlc hb'
          obtain rfl : r.instanceId = b := Option.some.inj hb
          exact (hothers m l' b' hm hl' hlc hb').symm

theorem proceed (hbound : ¬unbound client)
    (hn : s.login n = some l) (hrival : NoRival p client s (.proceed n)) :
    Routed (s.proceed n l) p client backends held := by
  have hwas := client_of_login hn
  unfold Gateways.proceed
  split
  case h_1 instances hphase =>
    split
    case h_1 result hresult => exact h.afterFind hbound hn hphase hresult hrival
    case h_2 => exact h
  case h_2 instances hphase =>
    split
    case h_2 => exact h
    case h_1 result hresult =>
      have hne : l.client ≠ client := by
        intro hown
        have hok := h.phases n l hn hown
        rw [hphase] at hok
        exact hok
      exact h.move_other (hwas _) hne
  case h_3 selected hphase =>
    split
    case h_2 => exact h
    case h_1 result hresult =>
      by_cases hown : l.client = client
      case neg => exact h.move_other (hwas _) hown
      case pos =>
        -- `ensure_backend` has returned, so the key is set, and it holds no other backend.
        have hok := h.phases n l hn hown
        rw [hphase] at hok
        obtain ⟨hb, dir, stage, hens⟩ := hok
        have hstage : stage = .done result := stage_of_result hens hresult
        subst hstage
        obtain ⟨b, -, rfl⟩ := h.settled.ensured ⟨dir, hens⟩
        exact h.move (hwas (.bridged selected)) (fun _ => hb.unrivalled.resolve_left nofun) nofun
          (fun _ => nofun)
  case h_4 | h_5 | h_6 => exact h

theorem connected (hbound : ¬unbound client) {selected : SelectedBackend} (hn : s.login n = some l)
    (hphase : l.phase = .connecting selected) :
    Routed (s.onBackendConnected n l selected) p client backends held := by
  have hwas := client_of_login hn
  have hquiet := not_ensuring_of_login hn (by rw [hphase]; nofun)
  by_cases hown : l.client = client
  case neg =>
    unfold onBackendConnected
    split
    · exact h.move_other (hwas _) hown
    · exact h.enter_other (fun he => hbound (.inl he)) .ensure (hwas (.ensuring selected)) _ hown
  case pos =>
    have hok := h.phases n l hn hown
    rw [hphase] at hok
    have hgo : ¬(unbound l.client ∨ selected.record.instanceId = "") := by
      rintro (hu | hempty)
      · exact hbound (hown ▸ hu)
      · exact hok.1.named hempty
    rw [onBackendConnected, if_neg hgo]
    refine h.enter (fun he => hbound (.inl he)) .ensure (hwas (.ensuring selected))
      (fun _ => hok.1.named) (fun _ => ⟨hok.1, ?_⟩) ?_ (fun _ _ => hquiet)
      (fun _ b hb => ⟨selected, rfl, by injection hb⟩)
    · subst hown
      exact ⟨l.gateway, _, task_call_self hok.2 ..⟩
    · intro _ b hb m l' b' _ hl' hlc hb'
      exact h.together n l b m l' b' hn hown (by rw [hphase]; exact hb) hl' hlc hb'

/-- **One step of the system.** -/
theorem step (hbound : ¬unbound client)
    (hallowed : Allowed p client backends i) (hrival : NoRival p client s i) :
    ∃ held', Routed (s.step i) p client backends held' := by
  have hnotempty : client ≠ "" := fun he => hbound (.inl he)
  cases i with
  | login n gateway other instances =>
    refine ⟨held, ?_⟩
    cases hn : s.login n with
    | some l => simpa only [Gateways.step, hn] using h
    | none =>
      simp only [Gateways.step, hn]
      exact h.begin hbound hn hallowed
  | directory id now =>
    refine h.directory hnotempty trivial ?_
    intro id' hid'
    by_contra hsome
    obtain ⟨t, ht⟩ := Option.ne_none_iff_exists'.mp hsome
    rcases task_of_step ht with ⟨t₀, ht₀, -⟩ | ⟨hcall, -, -⟩
    · rw [hid'] at ht₀
      cases ht₀
    · cases hcall
  | proceed n =>
    refine ⟨held, ?_⟩
    cases hn : s.login n with
    | none => simpa only [Gateways.step, hn] using h
    | some l =>
      simp only [Gateways.step, hn]
      exact h.proceed hbound hn hrival
  | connected n =>
    refine ⟨held, ?_⟩
    simp only [Gateways.step]
    split
    case h_1 gateway other selected hn => exact h.connected hbound hn rfl
    case h_2 => exact h
  | disconnect n =>
    refine ⟨held, ?_⟩
    simp only [Gateways.step]
    split
    case h_1 gateway other selected hn => exact h.close hn nofun
    case h_2 gateway other selected hn => exact h.close hn nofun
    case h_3 => exact h
  | expire key => exact h.directory hnotempty hallowed fun _ hid => hid

end Routed

/-! ### Sticky routing -/

omit [DecidableEq δ] in
/-- Before the first login. -/
theorem routed_of_fresh (hfresh : s.cluster.Fresh p client) (hidle : ∀ n, s.login n = none) :
    Routed s p client backends none where
  settled := hfresh.settled
  listed := nofun
  unborn n purpose _ := hfresh.idle (n, purpose)
  owner n purpose t l ht := by rw [hfresh.idle] at ht; cases ht
  phases n l hn := by rw [hidle n] at hn; cases hn
  together n l b m l' b' hn := by rw [hidle n] at hn; cases hn
  claiming _ n purpose dir b stage ht := by rw [hfresh.idle] at ht; cases ht

/-- **Sticky routing.** Any number of gateways share one Redis and one list of backends that stay
    ready, and nothing of the client expires.  If no login of the client that found nothing takes
    a backend against the directory or against another login on its way, then at any time every
    connection that is bridged for the client goes to the backend that the directory records. -/
theorem bridged_recorded (hclient : client ≠ "" ∧ client ≠ "anonymous")
    (hfresh : s.cluster.Fresh p client) (hidle : ∀ n, s.login n = none) {is : List (Input δ)}
    (hallowed : ∀ i ∈ is, Allowed p client backends i)
    (hrival : (machine δ).Guarded (NoRival p client) s is) :
    ∀ n l selected, ((machine δ).run s is).login n = some l → l.client = client →
      l.phase = .bridged selected →
      ((machine δ).run s is).cluster.redis.lookup (p ++ client) =
        some selected.record.instanceId := by
  have hbound : ¬unbound client := fun h => h.elim hclient.1 hclient.2
  have hrouted : ∀ (is : List (Input δ)) (s : Gateways δ) (held : Option String),
      Routed s p client backends held → (∀ i ∈ is, Allowed p client backends i) →
      (machine δ).Guarded (NoRival p client) s is →
      ∃ held', Routed ((machine δ).run s is) p client backends held' := by
    intro is
    induction is with
    | nil => exact fun s held h _ _ => ⟨held, h⟩
    | cons i is ih =>
      intro s held h hallowed hrival
      obtain ⟨held', h'⟩ := h.step hbound (hallowed i mem_cons_self) hrival.1
      exact ih (s.step i) held' h' (fun j hj => hallowed j (mem_cons_of_mem i hj)) hrival.2
  obtain ⟨held, h⟩ := hrouted is s none (routed_of_fresh hfresh hidle) hallowed hrival
  intro n l selected hn hown hphase
  have hok := h.phases n l hn hown
  rw [hphase] at hok
  exact h.settled.key.trans hok

/-! ### Runs -/

/-- Two gateways before the first login. -/
def idle : Gateways Bool where
  cluster :=
    { redis := ∅
      dir := fun _ => SessionDirectory.create true "" 30
      task := fun _ => none }
  login _ := none

/-- What a gateway lists, by the sessions of its two backends. -/
def listed (a b : UInt32) : List InstanceRecord :=
  [⟨"backend-a", "10.0.0.1", 9000, a, true⟩, ⟨"backend-b", "10.0.0.2", 9000, b, true⟩]

/-- The steps of the directory call of a login. -/
def calling (n : ℕ) (purpose : Purpose) (steps : ℕ) : List (Input Bool) :=
  List.replicate steps (.directory (n, purpose) 0) ++ [.proceed n]

/-- A login on its own: it looks up, connects and binds. -/
def loginAlone (n : ℕ) (gateway : Bool) (instances : List InstanceRecord) : List (Input Bool) :=
  [.login n gateway "client-1" instances] ++ calling n .find 3 ++ [.connected n] ++
    calling n .ensure 4

/-- Two logins of the client on two gateways, one after the other. -/
def loginsApart : List (Input Bool) :=
  loginAlone 0 false (listed 0 1) ++ loginAlone 1 true (listed 1 0)

/-- Two logins of the client on two gateways.  Both find nothing before either is connected, and
    the gateways count different numbers of sessions. -/
def loginsTogether : List (Input Bool) :=
  [.login 0 false "client-1" (listed 0 1), .login 1 true "client-1" (listed 1 0)] ++
    calling 0 .find 3 ++ calling 1 .find 3 ++ [.connected 0, .connected 1] ++
    calling 0 .ensure 4 ++ calling 1 .ensure 5

/-- The backend that a login is bridged to. -/
def bridgedTo (s : Gateways δ) (n : ℕ) : Option String :=
  match s.login n with
  | some ⟨_, _, .bridged selected⟩ => some selected.record.instanceId
  | _ => none

theorem fresh_idle : idle.cluster.Fresh "gateway/session/" "client-1" := by
  have hkey : (SessionDirectory.create true "" 30).keyPrefix = "gateway/session/" := by
    decide +kernel
  exact ⟨fun _ => ⟨rfl, hkey⟩, rfl, fun _ => rfl, fun _ => rfl⟩

/-- When the first login picks its backend there is no other login, and the second one finds
    what the first one has bound. -/
theorem noRival_loginsApart :
    (machine Bool).Guarded (NoRival "gateway/session/" "client-1") idle loginsApart := by
  have hfirst : NoRival "gateway/session/" "client-1"
      ((machine Bool).run idle (loginsApart.take 4)) (.proceed 0) := by
    have hlogin : ((machine Bool).run idle (loginsApart.take 4)).login =
        Function.update (fun _ => none) 0 (some ⟨false, "client-1", .finding (listed 0 1)⟩) := rfl
    have hkey : ((machine Bool).run idle (loginsApart.take 4)).cluster.redis.lookup
        ("gateway/session/" ++ "client-1") = none := by decide +kernel
    intro l instances _ _ _ _ r _
    refine ⟨fun b hb => ?_, fun m l' b hm hl' => ?_⟩
    · cases hb
    · rw [hlogin, Function.update_of_ne hm] at hl'
      cases hl'
  have hother : ∀ k n l, ((machine Bool).run idle (loginsApart.take k)).login n = some l →
      (∀ instances, l.phase = .finding instances →
        ((machine Bool).run idle (loginsApart.take k)).cluster.result (n, .find) ≠ some none) →
      NoRival "gateway/session/" "client-1" ((machine Bool).run idle (loginsApart.take k))
        (.proceed n) := by
    intro k n l hn hphase l' instances hl' _ hfinding hnone
    obtain rfl := Option.mem_unique hn hl'
    exact absurd hnone (hphase instances hfinding)
  have hbind : NoRival "gateway/session/" "client-1"
      ((machine Bool).run idle (loginsApart.take 10)) (.proceed 0) := hother 10 0 _ rfl nofun
  have hfound : NoRival "gateway/session/" "client-1"
      ((machine Bool).run idle (loginsApart.take 15)) (.proceed 1) :=
    hother 15 1 _ rfl fun _ _ => by decide +kernel
  have hbindagain : NoRival "gateway/session/" "client-1"
      ((machine Bool).run idle (loginsApart.take 21)) (.proceed 1) := hother 21 1 _ rfl nofun
  exact ⟨trivial, trivial, trivial, trivial, hfirst, trivial, trivial, trivial, trivial, trivial,
    hbind, trivial, trivial, trivial, trivial, hfound, trivial, trivial, trivial, trivial, trivial,
    hbindagain, trivial⟩

/-- Without the condition one client is bridged to two backends at once: both logins pick before
    either binds, and the one that binds second learns of the other backend and stays. -/
theorem bridged_apart : (∀ i ∈ loginsTogether,
        Allowed "gateway/session/" "client-1" ["backend-a", "backend-b"] i) ∧
      ((machine Bool).run idle loginsTogether).bridgedTo 0 = some "backend-a" ∧
      ((machine Bool).run idle loginsTogether).bridgedTo 1 = some "backend-b" ∧
      ((machine Bool).run idle loginsTogether).cluster.redis.lookup
        ("gateway/session/" ++ "client-1") = some "backend-a" :=
  ⟨by simp [loginsTogether, calling, listed, Allowed, Steady], by decide +kernel,
    by decide +kernel, by decide +kernel⟩

/-- A second login after the first one is bridged goes to the same backend. -/
theorem bridged_recorded_apart :
    ((machine Bool).run idle loginsApart).bridgedTo 1 = some "backend-a" ∧
      ((machine Bool).run idle loginsApart).cluster.redis.lookup
        ("gateway/session/" ++ "client-1") = some "backend-a" := by
  have hallowed : ∀ i ∈ loginsApart,
      Allowed "gateway/session/" "client-1" ["backend-a", "backend-b"] i := by
    simp [loginsApart, loginAlone, calling, listed, Allowed, Steady]
  have hbridged : ((machine Bool).run idle loginsApart).login 1 = some
      ⟨true, "client-1", .bridged ⟨⟨"backend-a", "10.0.0.1", 9000, 1, true⟩, true⟩⟩ := by
    decide +kernel
  refine ⟨by decide +kernel, ?_⟩
  exact bridged_recorded (by decide) fresh_idle (fun _ => rfl) hallowed noRival_loginsApart 1 _ _
    hbridged rfl rfl

end Gateways

end Knights.Gateway
