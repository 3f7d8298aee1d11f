import Knights.Lib.Machine
import Knights.WriteBehind.Rows

namespace Knights.WriteBehind

open Knights.Lib List

/-!
# Write-behind — the DLQ replayer

The replayer (`tools/wb_dlq_replayer/main.cpp`) reads the DLQ as a consumer group and handles one
entry at a time: it writes its row and acknowledges it, or appends it to the DLQ again with a
higher `retry_count`, or moves it to the dead stream.  Here it is a machine on the DLQ, the
database and the dead stream, driven by any sequence of calls, arrivals and connection changes.
Whatever a call does to an entry, it leaves one copy of the event, unless the connection is lost
during a commit that went through: the call then fails although the row is there.

* `handled_processEntry` — the four ways another call of `ProcessEntry` can go;
* `countP_ackSlots` — an acknowledgement takes one copy away;
* `tracked_step`, `tracked_run` — an event stays in one place, keeps its id and counts its
  retries;
* `event_in_one_place` — the same for an event that arrives, with its number of requeues;
* `event_in_two_places` — a commit in doubt, and an event that is brought twice.
-/

/-! ### The model -/

/-- An entry of the DLQ as the consumer group sees it.  `event` is history that no step reads: the
    stream id of the entry that brought the event first. -/
structure DlqSlot where
  entry : StreamEntry
  event : String
  acked : Bool := false
  deriving DecidableEq

/-- An entry of the dead stream, with the same history. -/
structure DeadSlot where
  fields : Fields
  event : String
  deriving DecidableEq

/-- The replayer and what it works on: whether `db_` is an open connection, the DLQ, the table
    `session_events` by `event_id`, and the dead stream. -/
structure Replayer where
  isOpen : Bool
  dlq : List DlqSlot
  rows : FMap String Row
  dead : List DeadSlot

/-- What the outside answers during one call of `ProcessEntry`: the transaction, the one `xadd`
    the call can make, and the id that Redis gives the entry if it is appended to the DLQ.  A
    transaction that fails is in doubt if the connection was lost during its commit and the server
    had committed: `pqxx::in_doubt_error`, which is not a `pqxx::broken_connection`. -/
structure ReplayEnv where
  insert : DbResult := .ok
  inDoubt : Bool := false
  xadd : XaddResult := .appended
  newId : String
  deriving DecidableEq

/-- An append to the DLQ by the replayer: the entry it handled and the new one. -/
structure Requeue where
  event : String
  handled : StreamEntry
  appended : StreamEntry
  deriving DecidableEq

/-- `xack` on the DLQ. -/
def ackSlots (dlq : List DlqSlot) (id : String) : List DlqSlot :=
  dlq.map fun t => if t.entry.id = id then { t with acked := true } else t

/-- The fields of the entry that `MoveToDeadStream` appends. -/
def deadFields (d : StreamEntry) (errorMsg : String) : Fields :=
  ("orig_event_id", origId d) :: d.fields.filter (fun f => f.1 ≠ "retry_count") ++
    [("error", errorMsg)]

namespace Replayer

/-- Acknowledge an entry. -/
def xack (s : Replayer) (id : String) : Replayer := { s with dlq := ackSlots s.dlq id }

/-- The row of an entry, written with `on conflict (event_id) do nothing`. -/
def insertRow (s : Replayer) (d : StreamEntry) : Replayer :=
  { s with rows := emplace s.rows ((replayRow d).eventId, replayRow d) }

/-- `TryInsertToDb`. -/
def tryInsertToDb (s : Replayer) (d : StreamEntry) (env : ReplayEnv) : Replayer × DbResult :=
  if !s.isOpen then (s, .failed "DB connection not open")
  else
    match env.insert with
    | .ok => (s.insertRow d, .ok)
    | .broken => (s, .broken)
    | .failed what => (if env.inDoubt then s.insertRow d else s, .failed what)

/-- `MoveToDeadStream`: the state and the result. -/
def moveToDeadStream (s : Replayer) (t : DlqSlot) (errorMsg : String) (env : ReplayEnv) :
    Replayer × Bool :=
  match env.xadd with
  | .appended =>
    ({ s with dead := s.dead ++ [{ fields := deadFields t.entry errorMsg, event := t.event }] },
      true)
  | .refused => (s, false)
  | .threw => (s, false)

/-- `RetryLater`.  It also sleeps, which changes nothing here. -/
def retryLater (s : Replayer) (t : DlqSlot) (errorMsg : String) (env : ReplayEnv) :
    Replayer × Option Requeue :=
  let copy : StreamEntry := { id := env.newId, fields := retryFields t.entry errorMsg }
  match env.xadd with
  | .appended =>
    (xack { s with dlq := s.dlq ++ [{ entry := copy, event := t.event }] } t.entry.id,
      some { event := t.event, handled := t.entry, appended := copy })
  | .refused => (s, none)
  | .threw => (s, none)

/-- `HandleFailure`.  The limit is an `unsigned int` that the comparison casts to `int`. -/
def handleFailure (retryMax : UInt32) (s : Replayer) (t : DlqSlot) (errorMsg : String)
    (env : ReplayEnv) : Replayer × Option Requeue :=
  if retryCount t.entry + 1 ≥ retryMax.toInt32.toInt then
    let moved := s.moveToDeadStream t errorMsg env
    if moved.2 then (moved.1.xack t.entry.id, none) else (moved.1, none)
  else s.retryLater t errorMsg env

/-- `ProcessEntry`. -/
def processEntry (retryMax : UInt32) (s : Replayer) (t : DlqSlot) (env : ReplayEnv) :
    Replayer × Option Requeue :=
  match s.tryInsertToDb t.entry env with
  | (s, .ok) => (s.xack t.entry.id, none)
  | (s, .broken) => ({ s with isOpen := false }, none)
  | (s, .failed what) => s.handleFailure retryMax t what env

end Replayer

/-- What happens around the replayer: the worker appends an entry to the DLQ, the connection is
    made or lost, or an entry that is not acknowledged is handed to `ProcessEntry`. -/
inductive ReplayAction where
  | arrive (d : StreamEntry)
  | connection (isOpen : Bool)
  | process (id : String) (env : ReplayEnv)
  deriving DecidableEq

/-- The entry with this id, if it waits in the DLQ. -/
def Replayer.waiting (s : Replayer) (id : String) : Option DlqSlot :=
  s.dlq.find? fun t => t.entry.id == id && !t.acked

/-- The replayer as a machine. -/
def replayer (retryMax : UInt32) : Machine Replayer ReplayAction (Option Requeue) where
  step s a :=
    match a with
    | .arrive d => ({ s with dlq := s.dlq ++ [{ entry := d, event := d.id }] }, none)
    | .connection isOpen => ({ s with isOpen := isOpen }, none)
    | .process id env =>
      match s.waiting id with
      | none => (s, none)
      | some t => s.processEntry retryMax t env

/-! ### What a call can do -/

/-- The ways a call of `ProcessEntry` can go whose commit is not in doubt: the row is written,
    everything stays (the connection may be given up), the entry goes to the dead stream, or it is
    requeued. -/
inductive Handled (retryMax : UInt32) (s : Replayer) (t : DlqSlot) (env : ReplayEnv) :
    Replayer × Option Requeue → Prop
  | inserted : Handled retryMax s t env
      ({ s with rows := emplace s.rows (origId t.entry, replayRow t.entry)
                dlq := ackSlots s.dlq t.entry.id }, none)
  | kept (isOpen : Bool) : Handled retryMax s t env ({ s with isOpen := isOpen }, none)
  | buried (errorMsg : String) : Handled retryMax s t env
      ({ s with dead := s.dead ++ [{ fields := deadFields t.entry errorMsg, event := t.event }]
                dlq := ackSlots s.dlq t.entry.id }, none)
  | requeued (errorMsg : String) (hlimit : retryCount t.entry + 1 < retryMax.toInt32.toInt) :
      Handled retryMax s t env
        ({ s with dlq := ackSlots (s.dlq ++ [{ entry := ⟨env.newId, retryFields t.entry errorMsg⟩
                                               event := t.event }]) t.entry.id },
          some { event := t.event
                 handled := t.entry
                 appended := ⟨env.newId, retryFields t.entry errorMsg⟩ })

variable {t : DlqSlot} {s : Replayer} {errorMsg : String} {retryMax : UInt32}

/-- A failed insert is handled in one of the last three ways. -/
theorem handled_handleFailure {env : ReplayEnv} :
    Handled retryMax s t env (s.handleFailure retryMax t errorMsg env) := by
  unfold Replayer.handleFailure
  by_cases hlimit : retryCount t.entry + 1 ≥ retryMax.toInt32.toInt
  · rw [if_pos hlimit]
    unfold Replayer.moveToDeadStream
    cases env.xadd with
    | appended => exact .buried errorMsg
    | refused | threw => exact .kept s.isOpen
  · rw [if_neg hlimit]
    unfold Replayer.retryLater
    cases env.xadd with
    | appended => exact .requeued errorMsg (not_le.mp hlimit)
    | refused | threw => exact .kept s.isOpen

/-- **Inversion of `ProcessEntry`.** -/
theorem handled_processEntry (retryMax : UInt32) (s : Replayer) (t : DlqSlot) {env : ReplayEnv}
    (hcertain : env.inDoubt = false) :
    Handled retryMax s t env (s.processEntry retryMax t env) := by
  unfold Replayer.processEntry Replayer.tryInsertToDb
  rw [hcertain]
  obtain ⟨isOpen, dlq, rows, dead⟩ := s
  cases isOpen with
  | false => exact handled_handleFailure
  | true =>
    cases env.insert with
    | ok => exact .inserted
    | broken => exact .kept false
    | failed what => exact handled_handleFailure

/-! ### Acknowledging -/

/-- A copy of the event that waits in the DLQ. -/
def DlqSlot.live (event : String) (t : DlqSlot) : Bool := t.event == event && !t.acked

variable {dlq : List DlqSlot} {d : StreamEntry} {id o event : String} {new : DlqSlot} {n : ℕ}

/-- What a slot of the DLQ was before an acknowledgement. -/
theorem mem_ackSlots (ht : t ∈ ackSlots dlq id) :
    ∃ t' ∈ dlq, t.entry = t'.entry ∧ t.event = t'.event ∧ (t.acked = false → t'.acked = false) := by
  obtain ⟨t', ht', heq⟩ := mem_map.mp ht
  refine ⟨t', ht', ?_⟩
  by_cases hid : t'.entry.id = id
  · rw [if_pos hid] at heq
    subst heq
    exact ⟨rfl, rfl, by simp⟩
  · rw [if_neg hid] at heq
    subst heq
    exact ⟨rfl, rfl, fun hacked => hacked⟩

@[simp] theorem ids_ackSlots (dlq : List DlqSlot) (id : String) :
    (ackSlots dlq id).map (fun t => t.entry.id) = dlq.map fun t => t.entry.id := by
  unfold ackSlots
  rw [map_map]
  refine map_congr_left fun t _ => ?_
  by_cases hid : t.entry.id = id <;> simp [hid]

/-- A slot with a new id keeps the ids apart. -/
theorem nodup_ids_append (hids : (dlq.map fun t => t.entry.id).Nodup)
    (hnew : new.entry.id ∉ dlq.map fun t => t.entry.id) :
    ((dlq ++ [new]).map fun t => t.entry.id).Nodup := by
  rw [map_append]
  refine nodup_append.mpr ⟨hids, nodup_singleton _, ?_⟩
  intro a ha b hb heq
  rw [heq, mem_singleton.mp hb] at ha
  exact hnew ha

/-- Acknowledging an id that no slot has changes nothing. -/
theorem ackSlots_of_not_mem (hid : id ∉ dlq.map fun t => t.entry.id) : ackSlots dlq id = dlq := by
  conv_rhs => rw [← map_id dlq]
  refine map_congr_left fun t ht => if_neg fun heq => hid ?_
  exact heq ▸ mem_map_of_mem ht

/-- **One copy less.** Acknowledging a waiting entry takes one copy of its event away and none of
    another. -/
theorem countP_ackSlots (event : String) (hids : (dlq.map fun t => t.entry.id).Nodup) (ht : t ∈ dlq)
    (hwait : t.acked = false) :
    (ackSlots dlq t.entry.id).countP (DlqSlot.live event) + (if t.event = event then 1 else 0)
      = dlq.countP (DlqSlot.live event) := by
  induction dlq with
  | nil => exact absurd ht not_mem_nil
  | cons u dlq ih =>
    rw [map_cons, nodup_cons] at hids
    obtain ⟨hu, hids⟩ := hids
    show ((if u.entry.id = t.entry.id then _ else u) :: ackSlots dlq t.entry.id).countP _ + _ = _
    rw [countP_cons, countP_cons]
    rcases mem_cons.mp ht with rfl | ht
    · -- the acknowledged slot itself; the ids of the others are different
      rw [if_pos rfl, ackSlots_of_not_mem hu]
      by_cases hevent : t.event = event <;> simp [DlqSlot.live, hevent, hwait]
    · have hne : u.entry.id ≠ t.entry.id := fun heq =>
        hu (heq ▸ mem_map_of_mem ht)
      rw [if_neg hne, ← ih hids ht]
      omega

/-! ### Where an event is -/

/-- In how many places an event is: its copies that wait in the DLQ, its row, its copies in the
    dead stream. -/
def Replayer.places (s : Replayer) (event o : String) : ℕ :=
  s.dlq.countP (DlqSlot.live event) + (if (s.rows.lookup o).isSome then 1 else 0) +
    s.dead.countP fun d => d.event == event

/-- A copy of the event carries `o` as its original id and, while it waits, the number of
    requeues; other entries are not about `o`. -/
def DlqSlot.Follows (event o : String) (n : ℕ) (t : DlqSlot) : Prop :=
  if t.event = event then
    t.entry.fields.lookup "orig_event_id" = some o ∧ (t.acked = false → retryCount t.entry = n)
  else origId t.entry ≠ o

/-- The event that entry `event` brought, with original id `o`, after `n` requeues. -/
structure Tracked (retryMax : UInt32) (event o : String) (n : ℕ) (s : Replayer) : Prop where
  ids : (s.dlq.map fun t => t.entry.id).Nodup
  first : event ∈ s.dlq.map fun t => t.entry.id
  place : s.places event o = 1
  slots : ∀ t ∈ s.dlq, t.Follows event o n
  dead : ∀ d ∈ s.dead, d.event = event → d.fields.lookup "orig_event_id" = some o
  row : ∀ row, s.rows.lookup o = some row → row.eventId = o
  limit : n < retryMax.toNat

/-- An entry with the field has its value as original id. -/
theorem origId_of_lookup (h : d.fields.lookup "orig_event_id" = some o) : origId d = o := by
  unfold origId
  rw [lookup_emplaceAll, h]
  rfl

/-- **The count of retries is read back.** -/
theorem retryCount_retryFields (hn : retryCount d = n) (hrange : n + 1 < 2 ^ 31) :
    retryCount { id := id, fields := retryFields d errorMsg } = n + 1 := by
  have hnone : (d.fields.filter fun f => f.1 ≠ "retry_count").lookup "retry_count" = none := by
    rw [lookup_eq_none_iff]
    intro f hf
    simpa using Ne.symm (by simpa using of_mem_filter hf)
  have hlookup : (retryFields d errorMsg).lookup "retry_count"
      = some (toString (((n + 1 : ℕ) : ℤ))) := by
    unfold retryFields
    have hne : ("retry_count" == "orig_event_id") = false := rfl
    rw [cons_append, lookup_cons, hne, lookup_append, hnone, Option.none_or,
      lookup_cons_self, hn]
    rfl
  -- `std::to_string` and back, within the range of `int`
  have hread : stoi (toString (((n + 1 : ℕ) : ℤ))) = some ((n + 1 : ℕ) : ℤ) :=
    parseInt_toString (by omega) (by omega)
  show (((emplaceAll (retryFields d errorMsg)).lookup "retry_count").bind stoi).getD 0 = _
  rw [lookup_emplaceAll, hlookup, Option.bind_some, hread]
  rfl

/-- The cast to `int` only lowers the limit. -/
theorem toInt_toInt32_le (x : UInt32) : x.toInt32.toInt ≤ x.toNat ∧ x.toInt32.toInt < 2 ^ 31 := by
  have hx : x.toInt32.toInt = x.toBitVec.toInt := rfl
  have hnat : x.toNat = x.toBitVec.toNat := rfl
  rw [hx, hnat, BitVec.toInt_eq_toNat_cond]
  split <;> omega

/-- Acknowledging keeps what the slots carry. -/
theorem follows_ackSlots (h : ∀ t ∈ dlq, t.Follows event o n) :
    ∀ t ∈ ackSlots dlq id, t.Follows event o n := by
  intro t ht
  obtain ⟨t', ht', hentry, hevent, hacked⟩ := mem_ackSlots ht
  have hfollows := h t' ht'
  unfold DlqSlot.Follows at hfollows ⊢
  rw [hentry, hevent]
  by_cases hmine : t'.event = event
  · rw [if_pos hmine] at hfollows ⊢
    exact ⟨hfollows.1, fun hwait => hfollows.2 (hacked hwait)⟩
  · rw [if_neg hmine] at hfollows ⊢
    exact hfollows

/-- Where no copy of the event waits, its number of requeues does not matter. -/
theorem follows_of_none_live (h : ∀ t ∈ dlq, t.Follows event o n)
    (hnone : dlq.countP (DlqSlot.live event) = 0) (m : ℕ) : ∀ t ∈ dlq, t.Follows event o m := by
  intro t ht
  have hnot := countP_eq_zero.mp hnone t ht
  have hfollows := h t ht
  unfold DlqSlot.Follows at hfollows ⊢
  by_cases hmine : t.event = event
  · rw [if_pos hmine] at hfollows ⊢
    refine ⟨hfollows.1, fun hwait => absurd ?_ hnot⟩
    simp [DlqSlot.live, hmine, hwait]
  · rw [if_neg hmine] at hfollows ⊢
    exact hfollows

/-- A waiting copy is the only one, and the event is nowhere else. -/
theorem Replayer.places_eq_one (hplace : s.places event o = 1) (ht : t ∈ s.dlq)
    (hlive : t.live event = true) :
    s.dlq.countP (DlqSlot.live event) = 1 ∧ s.rows.lookup o = none ∧
      s.dead.countP (fun d => d.event == event) = 0 := by
  have hpos : 0 < s.dlq.countP (DlqSlot.live event) := countP_pos_iff.mpr ⟨t, ht, hlive⟩
  unfold places at hplace
  cases hrow : s.rows.lookup o with
  | none =>
    exact ⟨by omega, rfl, by omega⟩
  | some row =>
    rw [hrow] at hplace
    simp only [Option.isSome_some, if_true] at hplace
    omega

/-! ### One call -/

section Step

variable {retryMax : UInt32} {event o : String} {n : ℕ} {s : Replayer} {t : DlqSlot}

/-- A new slot is not touched by the acknowledgement of an old one. -/
theorem ackSlots_append (hnew : new.entry.id ∉ s.dlq.map fun t => t.entry.id) (ht : t ∈ s.dlq) :
    ackSlots (s.dlq ++ [new]) t.entry.id = ackSlots s.dlq t.entry.id ++ [new] := by
  have hne : new.entry.id ≠ t.entry.id := fun heq =>
    hnew (mem_map.mpr ⟨t, ht, heq.symm⟩)
  unfold ackSlots
  rw [map_append, map_singleton, if_neg hne]

/-- **Arrival of another event.** -/
theorem tracked_arrive (h : Tracked retryMax event o n s)
    (hid : d.id ∉ s.dlq.map fun t => t.entry.id) (horig : origId d ≠ o) :
    Tracked retryMax event o n { s with dlq := s.dlq ++ [{ entry := d, event := d.id }] } := by
  have hne : d.id ≠ event := fun heq => hid (heq ▸ h.first)
  refine ⟨?_, ?_, ?_, ?_, h.dead, h.row, h.limit⟩
  · exact nodup_ids_append h.ids hid
  · rw [map_append]
    exact mem_append_left _ h.first
  · have hplace := h.place
    simp only [Replayer.places, countP_append, countP_singleton, DlqSlot.live,
      Bool.not_false, Bool.and_true, beq_iff_eq, if_neg hne] at hplace ⊢
    omega
  · intro t ht
    rcases mem_append.mp ht with ht | ht
    · exact h.slots t ht
    · rw [mem_singleton.mp ht]
      unfold DlqSlot.Follows
      rw [if_neg hne]
      exact horig

section

variable (h : Tracked retryMax event o n s) (ht : t ∈ s.dlq)
include h ht

/-- What a slot of the event carries. -/
theorem Tracked.own (hmine : t.event = event) :
    t.entry.fields.lookup "orig_event_id" = some o ∧
      (t.acked = false → retryCount t.entry = n) := by
  have hslot := h.slots t ht
  unfold DlqSlot.Follows at hslot
  rwa [if_pos hmine] at hslot

/-- What other slots are about. -/
theorem Tracked.other (hother : t.event ≠ event) : origId t.entry ≠ o := by
  have hslot := h.slots t ht
  unfold DlqSlot.Follows at hslot
  rwa [if_neg hother] at hslot

variable (hwait : t.acked = false)
include hwait

/-- **Writing a row** moves the event from the DLQ to the database. -/
theorem tracked_inserted :
    Tracked retryMax event o n
      { s with rows := emplace s.rows (origId t.entry, replayRow t.entry)
               dlq := ackSlots s.dlq t.entry.id } where
  ids := by rw [ids_ackSlots]; exact h.ids
  first := by rw [ids_ackSlots]; exact h.first
  place := by
    have hcount := countP_ackSlots event h.ids ht hwait
    simp only [Replayer.places, lookup_emplace]
    by_cases hmine : t.event = event
    -- the event's own copy: it leaves the DLQ, and the database has no row of it yet
    · obtain ⟨hone, hrow, hdead⟩ :=
        Replayer.places_eq_one h.place ht (by simp [DlqSlot.live, hmine, hwait])
      rw [if_pos hmine] at hcount
      rw [hrow, origId_of_lookup (h.own ht hmine).1, if_pos rfl, Option.none_or]
      simp only [Option.isSome_some, if_true]
      omega
    · have hplace := h.place
      unfold Replayer.places at hplace
      rw [if_neg hmine] at hcount
      rw [if_neg (Ne.symm (h.other ht hmine)), Option.or_none]
      omega
  slots := follows_ackSlots h.slots
  dead := h.dead
  row := by
    intro row hrow
    rw [lookup_emplace] at hrow
    cases hold : s.rows.lookup o with
    -- `on conflict do nothing` keeps an old row
    | some old =>
      rw [hold, Option.some_or, Option.some.injEq] at hrow
      exact hrow ▸ h.row old hold
    | none =>
      rw [hold, Option.none_or] at hrow
      by_cases horig : o = origId t.entry
      · rw [if_pos horig, Option.some.injEq] at hrow
        subst hrow
        exact horig.symm
      · rw [if_neg horig] at hrow
        exact absurd hrow (by simp)
  limit := h.limit

/-- **Giving up** moves the event from the DLQ to the dead stream. -/
theorem tracked_buried (errorMsg : String) :
    Tracked retryMax event o n
      { s with dead := s.dead ++ [{ fields := deadFields t.entry errorMsg, event := t.event }]
               dlq := ackSlots s.dlq t.entry.id } where
  ids := by rw [ids_ackSlots]; exact h.ids
  first := by rw [ids_ackSlots]; exact h.first
  place := by
    have hcount := countP_ackSlots event h.ids ht hwait
    have hplace := h.place
    simp only [Replayer.places, countP_append, countP_singleton, beq_iff_eq] at hplace ⊢
    omega
  slots := follows_ackSlots h.slots
  dead := by
    intro d hd hevent
    rcases mem_append.mp hd with hd | hd
    · exact h.dead d hd hevent
    · rw [mem_singleton.mp hd] at hevent ⊢
      rw [deadFields, cons_append, lookup_cons_self, origId_of_lookup (h.own ht hevent).1]
  row := h.row
  limit := h.limit

/-- **Requeueing** puts a new copy in the place of the old one.  If it is the event's, the new
    copy has counted one more retry. -/
theorem tracked_requeued {newId : String} (hnew : newId ∉ s.dlq.map fun t => t.entry.id)
    (hlimit : retryCount t.entry + 1 < retryMax.toInt32.toInt) (errorMsg : String) :
    Tracked retryMax event o (if t.event = event then n + 1 else n)
      { s with dlq := ackSlots (s.dlq ++ [{ entry := ⟨newId, retryFields t.entry errorMsg⟩
                                            event := t.event }]) t.entry.id } := by
  obtain ⟨hcast, hint⟩ := toInt_toInt32_le retryMax
  have hcount := countP_ackSlots event h.ids ht hwait
  have hplace := h.place
  rw [ackSlots_append hnew ht]
  refine ⟨?_, ?_, ?_, ?_, h.dead, h.row, ?_⟩
  · rw [← ackSlots_append hnew ht, ids_ackSlots]
    exact nodup_ids_append h.ids hnew
  · simp only [map_append, ids_ackSlots, mem_append]
    exact Or.inl h.first
  · simp only [Replayer.places, countP_append, countP_singleton, DlqSlot.live,
      Bool.not_false, Bool.and_true, beq_iff_eq] at hcount hplace ⊢
    omega
  · -- what the slots carry
    intro u hu
    rcases mem_append.mp hu with hu | hu
    · by_cases hmine : t.event = event
      · -- no old copy of the event waits any more
        obtain ⟨hone, -, -⟩ :=
          Replayer.places_eq_one h.place ht (by simp [DlqSlot.live, hmine, hwait])
        rw [if_pos hmine] at hcount
        exact follows_of_none_live (follows_ackSlots h.slots) (by omega) _ u hu
      · rw [if_neg hmine]
        exact follows_ackSlots h.slots u hu
    · rw [mem_singleton.mp hu]
      unfold DlqSlot.Follows
      by_cases hmine : t.event = event
      · obtain ⟨horig, hretry⟩ := h.own ht hmine
        have hn := hretry hwait
        rw [if_pos hmine, if_pos hmine]
        refine ⟨?_, fun _ => ?_⟩
        · rw [retryFields, cons_append, lookup_cons_self, origId_of_lookup horig]
        · exact retryCount_retryFields hn (by omega)
      · rw [if_neg hmine, origId_retryFields]
        exact h.other ht hmine
  · have hold := h.limit
    by_cases hmine : t.event = event
    · have hn := (h.own ht hmine).2 hwait
      rw [if_pos hmine]
      omega
    · rw [if_neg hmine]
      exact hold

end

/-! ### Whole runs -/

/-- The requeues of an event among the outputs. -/
def requeuesOf (event : String) (out : Option Requeue) : List Requeue :=
  out.toList.filter fun q => q.event == event

theorem requeuesOf_some {q : Requeue} :
    requeuesOf event (some q) = if q.event = event then [q] else [] := by
  unfold requeuesOf
  by_cases hq : q.event = event <;> simp [hq]

/-- The requeues of an event during a run. -/
def requeues (retryMax : UInt32) (s : Replayer) (acts : List ReplayAction) (event : String) :
    List Requeue :=
  ((replayer retryMax).trace s acts).flatMap fun e => requeuesOf event e.output

/-- Redis gives new ids, and the worker does not bring the event with original id `o` again. -/
def Allowed (o : String) (s : Replayer) : ReplayAction → Prop
  | .arrive d => d.id ∉ s.dlq.map (fun t => t.entry.id) ∧ origId d ≠ o
  | .connection _ => True
  | .process _ env => env.newId ∉ s.dlq.map fun t => t.entry.id

instance (o : String) (s : Replayer) : ∀ a, Decidable (Allowed o s a)
  | .arrive d => inferInstanceAs
      (Decidable (d.id ∉ s.dlq.map (fun t => t.entry.id) ∧ origId d ≠ o))
  | .connection _ => isTrue trivial
  | .process _ env => inferInstanceAs (Decidable (env.newId ∉ s.dlq.map fun t => t.entry.id))

/-- The step is a call whose commit is in doubt. -/
def ReplayAction.inDoubt : ReplayAction → Bool
  | .process _ env => env.inDoubt
  | _ => false

/-- **One step** keeps the event in one place, and a requeue of it raises its count by one. -/
theorem tracked_step (h : Tracked retryMax event o n s) {a : ReplayAction} (ha : Allowed o s a)
    (hcertain : a.inDoubt = false) :
    Tracked retryMax event o (n + (requeuesOf event ((replayer retryMax).step s a).2).length)
        ((replayer retryMax).next s a) ∧
      ∀ q ∈ requeuesOf event ((replayer retryMax).step s a).2,
        retryCount q.appended = retryCount q.handled + 1 := by
  -- a step without a requeue leaves the count
  have hnone : ∀ s', Tracked retryMax event o n s' →
      Tracked retryMax event o (n + (requeuesOf event none).length) s' ∧
        ∀ q ∈ requeuesOf event none, retryCount q.appended = retryCount q.handled + 1 :=
    fun s' h' => ⟨h', fun q hq => absurd hq not_mem_nil⟩
  cases a with
  | arrive d => exact hnone _ (tracked_arrive h ha.1 ha.2)
  | connection isOpen =>
    exact hnone _ ⟨h.ids, h.first, h.place, h.slots, h.dead, h.row, h.limit⟩
  | process id env =>
    simp only [Machine.next, replayer]
    cases hfind : s.waiting id with
    | none => exact hnone _ h
    | some t =>
      have ht : t ∈ s.dlq := mem_of_find?_eq_some hfind
      have hwait : t.acked = false := by
        have hp := List.find?_some hfind
        simp only [Bool.and_eq_true, Bool.not_eq_true'] at hp
        exact hp.2
      have hcall := handled_processEntry retryMax s t hcertain
      simp only
      generalize s.processEntry retryMax t env = r at hcall ⊢
      cases hcall with
      | inserted => exact hnone _ (tracked_inserted h ht hwait)
      | kept isOpen => exact hnone _ ⟨h.ids, h.first, h.place, h.slots, h.dead, h.row, h.limit⟩
      | buried errorMsg => exact hnone _ (tracked_buried h ht hwait errorMsg)
      | requeued errorMsg hlimit =>
        have hnext := tracked_requeued h ht hwait ha hlimit errorMsg
        rw [requeuesOf_some]
        by_cases hmine : t.event = event
        · have hn := (h.own ht hmine).2 hwait
          have hint := (toInt_toInt32_le retryMax).2
          rw [if_pos hmine] at hnext ⊢
          refine ⟨hnext, fun q hq => ?_⟩
          rw [mem_singleton.mp hq, hn]
          exact retryCount_retryFields hn (by omega)
        · rw [if_neg hmine] at hnext ⊢
          exact ⟨hnext, fun q hq => absurd hq not_mem_nil⟩

/-- **Every run** without a commit in doubt does, whatever the database and Redis answer. -/
theorem tracked_run (h : Tracked retryMax event o n s) {acts : List ReplayAction}
    (hacts : (replayer retryMax).Guarded (Allowed o) s acts)
    (hcertain : ∀ a ∈ acts, a.inDoubt = false) :
    Tracked retryMax event o (n + (requeues retryMax s acts event).length)
        ((replayer retryMax).run s acts) ∧
      ∀ q ∈ requeues retryMax s acts event, retryCount q.appended = retryCount q.handled + 1 := by
  induction acts generalizing s n with
  | nil => exact ⟨h, fun q hq => absurd hq not_mem_nil⟩
  | cons a acts ih =>
    obtain ⟨ha, hacts⟩ := hacts
    obtain ⟨hfirst, hrest⟩ := forall_mem_cons.mp hcertain
    obtain ⟨hstep, hcount⟩ := tracked_step h ha hfirst
    obtain ⟨hrun, hcounts⟩ := ih hstep hacts hrest
    have hcons : requeues retryMax s (a :: acts) event
        = requeuesOf event ((replayer retryMax).step s a).2 ++
          requeues retryMax ((replayer retryMax).next s a) acts event := rfl
    rw [hcons, length_append, ← Nat.add_assoc]
    refine ⟨hrun, fun q hq => ?_⟩
    rcases mem_append.mp hq with hq | hq
    · exact hcount q hq
    · exact hcounts q hq

end Step

/-- Entry `d` has just brought an event with original id `o`: it waits in the DLQ, and nothing else
    in the DLQ, the database or the dead stream is about that event. -/
structure Arrived (d : StreamEntry) (o : String) (s : Replayer) : Prop where
  ids : (s.dlq.map fun t => t.entry.id).Nodup
  waits : { entry := d, event := d.id } ∈ s.dlq
  carries : d.fields.lookup "orig_event_id" = some o
  others : ∀ t ∈ s.dlq, t.entry.id ≠ d.id → t.event ≠ d.id ∧ origId t.entry ≠ o
  rows : s.rows.lookup o = none
  dead : ∀ e ∈ s.dead, e.event ≠ d.id

/-- An acknowledged id is acknowledged. -/
theorem acked_of_mem_ackSlots (ht : t ∈ ackSlots dlq id) (hid : t.entry.id = id) :
    t.acked = true := by
  obtain ⟨t', -, heq⟩ := mem_map.mp ht
  by_cases hid' : t'.entry.id = id
  · rw [if_pos hid'] at heq
    rw [← heq]
  · rw [if_neg hid'] at heq
    exact absurd (heq ▸ hid) hid'

/-- Such an event is tracked, with no requeue so far. -/
theorem Arrived.tracked (h : Arrived d o s) (hretry : ∀ f ∈ d.fields, f.1 ≠ "retry_count")
    (hmax : 1 ≤ retryMax) :
    Tracked retryMax d.id o 0 s where
  ids := h.ids
  first := mem_map.mpr ⟨_, h.waits, rfl⟩
  place := by
    have hcount := countP_ackSlots d.id h.ids h.waits rfl
    -- take the entry itself away: nothing else in the DLQ is about its event
    have hrest : (ackSlots s.dlq d.id).countP (DlqSlot.live d.id) = 0 := by
      refine countP_eq_zero.mpr fun t ht hlive => ?_
      simp only [DlqSlot.live, Bool.and_eq_true, beq_iff_eq, Bool.not_eq_true'] at hlive
      obtain ⟨t', ht', hentry, hevent, -⟩ := mem_ackSlots ht
      by_cases hid : t.entry.id = d.id
      · rw [acked_of_mem_ackSlots ht hid] at hlive
        exact absurd hlive.2 (by simp)
      · exact (h.others t' ht' (hentry ▸ hid)).1 (hevent ▸ hlive.1)
    have hdead : s.dead.countP (fun e => e.event == d.id) = 0 :=
      countP_eq_zero.mpr fun e he hevent => h.dead e he (by simpa using hevent)
    simp only [Replayer.places, h.rows, hdead, ← hcount, hrest, if_true, Option.isSome_none,
      Bool.false_eq_true, if_false]
  slots := by
    intro t ht
    unfold DlqSlot.Follows
    by_cases hid : t.entry.id = d.id
    · have heq : t = { entry := d, event := d.id } :=
        inj_on_of_nodup_map h.ids ht h.waits hid
      have hnone : d.fields.lookup "retry_count" = none :=
        lookup_eq_none_iff.mpr fun f hf => by simpa using Ne.symm (hretry f hf)
      rw [heq, if_pos rfl]
      refine ⟨h.carries, fun _ => ?_⟩
      unfold retryCount
      rw [lookup_emplaceAll, hnone]
      rfl
    · obtain ⟨hevent, horig⟩ := h.others t ht hid
      rw [if_neg hevent]
      exact horig
  dead := fun e he hevent => absurd hevent (h.dead e he)
  row := fun row hrow => absurd (h.rows ▸ hrow) (by simp)
  limit := UInt32.le_iff_toNat_le.mp hmax

/-- **One place, one id, counted retries.** An event arrives in the DLQ with its original id and
    no retry count.  After every sequence of calls, whatever the database and Redis answer, if no
    commit is in doubt: the event is in exactly one of the DLQ, the database and the dead stream;
    every copy of it and its row carry the original id; each requeue raised the count by one, so
    that the waiting copy has the number of requeues; and there are at most `retry_max - 1`. -/
theorem event_in_one_place (retryMax : UInt32) (hmax : 1 ≤ retryMax) (d : StreamEntry) (o : String)
    (s : Replayer) (harrived : Arrived d o s) (hretry : ∀ f ∈ d.fields, f.1 ≠ "retry_count")
    (acts : List ReplayAction) (hacts : (replayer retryMax).Guarded (Allowed o) s acts)
    (hcertain : ∀ a ∈ acts, a.inDoubt = false) :
    ((replayer retryMax).run s acts).places d.id o = 1 ∧
      (∀ t ∈ ((replayer retryMax).run s acts).dlq, t.event = d.id →
        t.entry.fields.lookup "orig_event_id" = some o) ∧
      (∀ e ∈ ((replayer retryMax).run s acts).dead, e.event = d.id →
        e.fields.lookup "orig_event_id" = some o) ∧
      (∀ row, ((replayer retryMax).run s acts).rows.lookup o = some row → row.eventId = o) ∧
      (∀ q ∈ requeues retryMax s acts d.id, retryCount q.appended = retryCount q.handled + 1) ∧
      (∀ t ∈ ((replayer retryMax).run s acts).dlq, t.live d.id = true →
        retryCount t.entry = (requeues retryMax s acts d.id).length) ∧
      (requeues retryMax s acts d.id).length ≤ retryMax.toNat - 1 := by
  obtain ⟨h, hcounts⟩ := tracked_run (harrived.tracked hretry hmax) hacts hcertain
  rw [Nat.zero_add] at h
  refine ⟨h.place, fun t ht hevent => (h.own ht hevent).1, h.dead, h.row, hcounts, ?_, ?_⟩
  · intro t ht hlive
    simp only [DlqSlot.live, Bool.and_eq_true, beq_iff_eq, Bool.not_eq_true'] at hlive
    exact (h.own ht hlive.1).2 hlive.2
  · have hlimit := h.limit
    omega

/-- An event that the worker moved to the DLQ. -/
def movedEvent : StreamEntry :=
  { id := "5-0", fields := [("orig_event_id", "1-0"), ("type", "login"), ("error", "timeout")] }

/-- It waits, and nothing else is there. -/
def movedStart : Replayer :=
  { isOpen := true, dlq := [{ entry := movedEvent, event := "5-0" }], rows := ∅, dead := [] }

/-- A failed insert, a broken connection, a call without connection whose append is refused, and
    one that gives up. -/
def movedCalls : List ReplayAction :=
  [.process "5-0" { insert := .failed "deadlock detected", newId := "6-0" },
    .process "6-0" { insert := .broken, newId := "7-0" },
    .process "6-0" { xadd := .refused, newId := "7-0" },
    .connection true,
    .process "6-0" { insert := .failed "deadlock detected", newId := "7-0" }]

theorem arrived_movedStart : Arrived movedEvent "1-0" movedStart :=
  ⟨by decide, by decide, by decide, by decide +kernel, rfl, by decide⟩

/-- The case of such an event with two tries. -/
theorem event_in_one_place_two_tries :
    ((replayer 2).run movedStart movedCalls).places "5-0" "1-0" = 1 ∧
      (requeues 2 movedStart movedCalls "5-0").length ≤ 1 := by
  obtain ⟨hplace, -, -, -, -, -, hlimit⟩ := event_in_one_place 2 (by decide) movedEvent "1-0"
    movedStart arrived_movedStart (by decide) movedCalls (by decide +kernel) (by decide)
  exact ⟨hplace, hlimit⟩

/-- **An event in two places.** Of an event that arrives alone and is not brought again, a commit
    in doubt leaves the row and a requeued copy.  And without a commit in doubt, an event that is
    brought twice has its row while the second copy waits. -/
theorem event_in_two_places :
    (¬ ∀ (d : StreamEntry) (o : String) (s : Replayer) (acts : List ReplayAction),
      Arrived d o s → (∀ f ∈ d.fields, f.1 ≠ "retry_count") →
      (replayer 2).Guarded (Allowed o) s acts → ((replayer 2).run s acts).places d.id o = 1) ∧
    ¬ ∀ (d : StreamEntry) (o : String) (s : Replayer) (acts : List ReplayAction),
      Arrived d o s → (∀ f ∈ d.fields, f.1 ≠ "retry_count") → (∀ a ∈ acts, a.inDoubt = false) →
      ((replayer 2).run s acts).places d.id o = 1 := by
  constructor
  · intro hall
    have hplace := hall movedEvent "1-0" movedStart
      [.process "5-0" { insert := .failed "in doubt", inDoubt := true, newId := "6-0" }]
      arrived_movedStart (by decide) (by decide +kernel)
    revert hplace
    decide +kernel
  · intro hall
    have hplace := hall movedEvent "1-0" movedStart
      [.arrive { movedEvent with id := "6-0" }, .process "6-0" { newId := "7-0" }]
      arrived_movedStart (by decide) (by decide)
    revert hplace
    decide +kernel

end Knights.WriteBehind
