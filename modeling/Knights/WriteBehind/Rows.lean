import Knights.Lib.Assoc
import Knights.Lib.Decimal
import Knights.WriteBehind.Stream

namespace Knights.WriteBehind

open Knights.Lib List Finmap

/-!
# Write-behind — the rows that the worker and the replayer write

The worker turns a stream entry into a row of `session_events`
(`ProcessEntry` in `tools/wb_worker/main.cpp`).  If the insert fails, the entry goes to the DLQ
with two more fields, and the replayer turns what it finds there into a row
(`ProcessEntry`, `TryInsertToDb` and `RetryLater` in `tools/wb_dlq_replayer/main.cpp`).  The two
programs read a field list differently: the worker keeps the last value of a name, the replayer
the first; the worker drops ids that are no UUIDs, the replayer does not; the replayer leaves the
names of its own fields out of the payload.

* `workerRow_eq` — the worker's row by last values;
* `lookup_requeued` — requeueing hides no field of the original entry but the reserved ones;
* `replay_row_iff` — the two rows agree exactly on the entries without reserved names, without
  conflicting repetitions and with well-formed ids.
-/

/-- A row of `session_events`.  The payload is the JSON object, a map from names to strings. -/
structure Row where
  eventId : String
  type : String
  tsMs : ℤ
  userId : String
  sessionId : String
  roomId : String
  payload : FMap String String

/-! ### The worker -/

/-- A hexadecimal digit. -/
def isHexDigit (c : Char) : Bool :=
  ('0' ≤ c && c ≤ '9') || ('a' ≤ c && c ≤ 'f') || ('A' ≤ c && c ≤ 'F')

/-- The form of a UUID: 36 characters, dashes at 8, 13, 18 and 23, hexadecimal digits
    elsewhere. -/
def isUuid (s : String) : Bool :=
  s.toList.length == 36 && s.toList.zipIdx.all fun (c, i) =>
    if i == 8 || i == 13 || i == 18 || i == 23 then c == '-' else isHexDigit c

/-- An id column: empty unless the value is a UUID. -/
def normalizeUuid : Option String → String
  | none => ""
  | some s => if s.isEmpty then "" else if !isUuid s then "" else s

/-- The variables of the worker's loop over the fields. -/
structure Scan where
  type : String := "unknown"
  tsMs : String := "0"
  userId : Option String := none
  sessionId : Option String := none
  roomId : Option String := none
  payload : FMap String String := ∅

/-- The body of that loop.  The two tracing fields it also looks for only reach the log. -/
def Scan.field (s : Scan) (f : String × String) : Scan :=
  let s :=
    if f.1 = "type" then { s with type := f.2 }
    else if f.1 = "ts_ms" then { s with tsMs := f.2 }
    else if f.1 = "user_id" then { s with userId := some f.2 }
    else if f.1 = "session_id" then { s with sessionId := some f.2 }
    else if f.1 = "room_id" then { s with roomId := some f.2 }
    else s
  { s with payload := s.payload.insert f.1 f.2 }

/-- The row that the worker inserts for an entry. -/
def workerRow (e : StreamEntry) : Row :=
  let s := e.fields.foldl Scan.field {}
  { eventId := e.id
    type := s.type
    tsMs := (stoll s.tsMs).getD 0
    userId := normalizeUuid s.userId
    sessionId := normalizeUuid s.sessionId
    roomId := normalizeUuid s.roomId
    payload := s.payload }

/-! ### The replayer -/

/-- The names that carry DLQ metadata. -/
def isReserved (name : String) : Bool :=
  name == "orig_event_id" || name == "error" || name == "retry_count"

/-- The id of the original event: its field, or the id of the DLQ entry. -/
def origId (d : StreamEntry) : String := ((emplaceAll d.fields).lookup "orig_event_id").getD d.id

/-- The number of retries so far; `0` if the field is missing or no number. -/
def retryCount (d : StreamEntry) : ℤ :=
  (((emplaceAll d.fields).lookup "retry_count").bind stoi).getD 0

/-- The payload: the map without the reserved names.  The source copies the other entries one by
    one, in the order of an `unordered_map`, which does not matter as names do not repeat. -/
def replayPayload (mp : FMap String String) : FMap String String :=
  ((mp.erase "orig_event_id").erase "error").erase "retry_count"

/-- The row that the replayer inserts for a DLQ entry. -/
def replayRow (d : StreamEntry) : Row :=
  let mp := emplaceAll d.fields
  { eventId := origId d
    type := (mp.lookup "type").getD "unknown"
    tsMs := (stoll ((mp.lookup "ts_ms").getD "0")).getD 0
    userId := (mp.lookup "user_id").getD ""
    sessionId := (mp.lookup "session_id").getD ""
    roomId := (mp.lookup "room_id").getD ""
    payload := replayPayload mp }

/-- The fields of the entry that `RetryLater` appends to the DLQ. -/
def retryFields (d : StreamEntry) (errorMsg : String) : Fields :=
  ("orig_event_id", origId d) :: d.fields.filter (fun f => f.1 ≠ "retry_count") ++
    [("retry_count", toString (retryCount d + 1)), ("error", errorMsg)]

/-- A DLQ entry after passes through `RetryLater`, each with the id that Redis gives and the
    error it records. -/
def requeued (d : StreamEntry) : List (String × String) → StreamEntry
  | [] => d
  | (id, errorMsg) :: passes => requeued { id := id, fields := retryFields d errorMsg } passes

/-! ### The worker's row by last values -/

/-- A variable of the loop that one field name sets has the last value of that name. -/
theorem foldl_field {α : Type} (π : Scan → α) (name : String) (g : String → α)
    (hπ : ∀ s f, π (s.field f) = if f.1 = name then g f.2 else π s) (fields : Fields) (s : Scan) :
    π (fields.foldl Scan.field s) = ((lastOf name fields).map g).getD (π s) := by
  induction fields generalizing s with
  | nil => rfl
  | cons f fields ih =>
    rw [foldl_cons, ih, hπ, lastOf_cons]
    by_cases hf : f.1 = name
    · rw [if_pos hf, if_pos hf]
      cases lastOf name fields <;> rfl
    · rw [if_neg hf, if_neg hf]
      cases lastOf name fields <;> rfl

/-- The payload of the loop. -/
theorem foldl_field_payload (fields : Fields) :
    (fields.foldl Scan.field {}).payload = insertAll fields := by
  have hfrom : ∀ (fields : Fields) (s : Scan), (fields.foldl Scan.field s).payload
      = fields.foldl (fun m f => m.insert f.1 f.2) s.payload := by
    intro fields
    induction fields with
    | nil => intro s; rfl
    | cons f fields ih =>
      intro s
      rw [foldl_cons, foldl_cons, ih]
      congr 1
      unfold Scan.field
      split_ifs <;> rfl
  exact hfrom fields {}

/-- **The worker's row.** -/
theorem workerRow_eq (e : StreamEntry) :
    workerRow e =
      { eventId := e.id
        type := (lastOf "type" e.fields).getD "unknown"
        tsMs := (stoll ((lastOf "ts_ms" e.fields).getD "0")).getD 0
        userId := normalizeUuid (lastOf "user_id" e.fields)
        sessionId := normalizeUuid (lastOf "session_id" e.fields)
        roomId := normalizeUuid (lastOf "room_id" e.fields)
        payload := insertAll e.fields } := by
  -- each variable of the scan follows one name; the last field of that name wins
  have htype := foldl_field Scan.type "type" id (fun s f => by
    unfold Scan.field; split_ifs <;> simp_all) e.fields {}
  have hts := foldl_field Scan.tsMs "ts_ms" id (fun s f => by
    unfold Scan.field; split_ifs <;> simp_all) e.fields {}
  have huser := foldl_field Scan.userId "user_id" some (fun s f => by
    unfold Scan.field; split_ifs <;> simp_all) e.fields {}
  have hsession := foldl_field Scan.sessionId "session_id" some (fun s f => by
    unfold Scan.field; split_ifs <;> simp_all) e.fields {}
  have hroom := foldl_field Scan.roomId "room_id" some (fun s f => by
    unfold Scan.field; split_ifs <;> simp_all) e.fields {}
  have hor : ∀ o : Option String, (o.map some).getD none = o := fun o => by cases o <;> rfl
  rw [Option.map_id] at htype hts
  rw [hor] at huser hsession hroom
  unfold workerRow
  simp only [htype, hts, huser, hsession, hroom, foldl_field_payload, id]

/-! ### What a DLQ entry remembers -/

/-- Moving an entry to the DLQ hides no field but the reserved ones. -/
theorem lookup_dlqFields {e : StreamEntry} {errorMsg name : String}
    (hname : isReserved name = false) :
    (dlqFields e errorMsg).lookup name = e.fields.lookup name := by
  simp only [isReserved, Bool.or_eq_false_iff] at hname
  obtain ⟨⟨horig, herr⟩, -⟩ := hname
  unfold dlqFields
  rw [cons_append, lookup_cons, horig]
  simp only [lookup_append, lookup_singleton, herr, Bool.false_eq_true, if_false,
    Option.or_none]

/-- Dropping one name leaves the others. -/
theorem lookup_filter_ne {fields : Fields} {name dropped : String} (hne : name ≠ dropped) :
    (fields.filter fun f => f.1 ≠ dropped).lookup name = fields.lookup name := by
  induction fields with
  | nil => rfl
  | cons f fields ih =>
    obtain ⟨k, v⟩ := f
    by_cases hk : k = dropped
    · have hbeq : (name == k) = false := by
        rw [hk]
        simpa using hne
      rw [filter_cons_of_neg (by simpa using hk), ih, lookup_cons, hbeq]
    · rw [filter_cons_of_pos (by simpa using hk), lookup_cons, lookup_cons, ih]

/-- Requeueing an entry hides no field but the reserved ones. -/
theorem lookup_retryFields {d : StreamEntry} {errorMsg name : String}
    (hname : isReserved name = false) :
    (retryFields d errorMsg).lookup name = d.fields.lookup name := by
  simp only [isReserved, Bool.or_eq_false_iff] at hname
  obtain ⟨⟨horig, herr⟩, hretry⟩ := hname
  have hne : name ≠ "retry_count" := by simpa using hretry
  unfold retryFields
  rw [cons_append, lookup_cons, horig]
  simp only [lookup_append, lookup_filter_ne hne, lookup_cons, herr, hretry,
    lookup_nil, Option.or_none]

/-- A requeued entry keeps the id of the original event. -/
theorem origId_retryFields {d : StreamEntry} {id errorMsg : String} :
    origId { id := id, fields := retryFields d errorMsg } = origId d := by
  unfold origId
  rw [lookup_emplaceAll]
  rfl

/-- **After any number of passes**, the fields that are not reserved and the id of the original
    event are as they were. -/
theorem lookup_requeued (d : StreamEntry) (passes : List (String × String)) :
    (∀ name, isReserved name = false →
        (requeued d passes).fields.lookup name = d.fields.lookup name) ∧
      origId (requeued d passes) = origId d := by
  induction passes generalizing d with
  | nil => exact ⟨fun _ _ => rfl, rfl⟩
  | cons pass passes ih =>
    obtain ⟨id, errorMsg⟩ := pass
    obtain ⟨hfields, horig⟩ := ih { id := id, fields := retryFields d errorMsg }
    refine ⟨fun name hname => ?_, ?_⟩
    · show (requeued _ passes).fields.lookup name = _
      rw [hfields name hname]
      exact lookup_retryFields hname
    · show origId (requeued _ passes) = _
      rw [horig]
      exact origId_retryFields

/-- The payload of the replayer's row. -/
theorem lookup_replayPayload (mp : FMap String String) (name : String) :
    (replayPayload mp).lookup name = if isReserved name then none else mp.lookup name := by
  unfold replayPayload isReserved
  by_cases hretry : name = "retry_count"
  · rw [hretry, lookup_erase]
    simp
  · rw [lookup_erase_ne hretry]
    by_cases herr : name = "error"
    · rw [herr, lookup_erase]
      simp
    · rw [lookup_erase_ne herr]
      by_cases horig : name = "orig_event_id"
      · rw [horig, lookup_erase]
        simp
      · simp [hretry, herr, horig]

/-! ### The two rows -/

/-- An id column that both programs treat alike: missing, empty or a UUID. -/
def IdOk (id : Option String) : Prop := ∀ s ∈ id, s = "" ∨ isUuid s = true

/-- Reading an id raw or normalized is the same exactly for such ids. -/
theorem getD_eq_normalizeUuid_iff (id : Option String) :
    id.getD "" = normalizeUuid id ↔ IdOk id := by
  unfold IdOk normalizeUuid
  cases id with
  | none => simp
  | some s =>
    simp only [Option.getD_some, Option.mem_def, Option.some.injEq, forall_eq']
    by_cases hs : s = ""
    · simp [hs]
    · have hempty : s.isEmpty = false := by simpa using hs
      cases isUuid s <;> simp [hs]

/-- The entries that survive the DLQ: no field has a reserved name, a name that repeats has the
    same first and last value, and the three ids are well formed. -/
structure Replayable (e : StreamEntry) : Prop where
  unreserved : ∀ name, isReserved name = true → ∀ f ∈ e.fields, f.1 ≠ name
  agree : ∀ name, e.fields.lookup name = lastOf name e.fields
  userId : IdOk (lastOf "user_id" e.fields)
  sessionId : IdOk (lastOf "session_id" e.fields)
  roomId : IdOk (lastOf "room_id" e.fields)

/-- The row that the replayer builds for an entry that went to the DLQ and through any number of
    passes. -/
theorem replayRow_requeued (e : StreamEntry) (dlqId errorMsg : String)
    (passes : List (String × String)) :
    replayRow (requeued { id := dlqId, fields := dlqFields e errorMsg } passes) =
      { eventId := e.id
        type := (e.fields.lookup "type").getD "unknown"
        tsMs := (stoll ((e.fields.lookup "ts_ms").getD "0")).getD 0
        userId := (e.fields.lookup "user_id").getD ""
        sessionId := (e.fields.lookup "session_id").getD ""
        roomId := (e.fields.lookup "room_id").getD ""
        payload := replayPayload (emplaceAll e.fields) } := by
  obtain ⟨hfields, horig⟩ := lookup_requeued { id := dlqId, fields := dlqFields e errorMsg } passes
  generalize requeued { id := dlqId, fields := dlqFields e errorMsg } passes = d at hfields horig
  -- an entry in the DLQ has the id of the original event
  rw [origId.eq_1 { id := dlqId, fields := _ }, lookup_emplaceAll] at horig
  change origId d = e.id at horig
  have hlookup : ∀ name, isReserved name = false →
      (emplaceAll d.fields).lookup name = e.fields.lookup name := by
    intro name hname
    rw [lookup_emplaceAll, hfields name hname]
    exact lookup_dlqFields hname
  have hpayload : replayPayload (emplaceAll d.fields) = replayPayload (emplaceAll e.fields) := by
    apply ext_lookup
    intro name
    rw [lookup_replayPayload, lookup_replayPayload]
    cases hname : isReserved name with
    | true => rfl
    | false => rw [hlookup name hname, lookup_emplaceAll]
  unfold replayRow
  simp only [hlookup "type" rfl, hlookup "ts_ms" rfl, hlookup "user_id" rfl,
    hlookup "session_id" rfl, hlookup "room_id" rfl, hpayload, horig]

/-- The payloads agree exactly when no name is reserved and no repetition conflicts. -/
theorem payload_eq_iff {e : StreamEntry} :
    replayPayload (emplaceAll e.fields) = insertAll e.fields ↔
      (∀ name, isReserved name = true → ∀ f ∈ e.fields, f.1 ≠ name) ∧
        ∀ name, e.fields.lookup name = lastOf name e.fields := by
  have hnone : ∀ name, lastOf name e.fields = none → e.fields.lookup name = none := by
    intro name hlast
    rw [lookup_eq_none_iff]
    intro f hf
    simpa using Ne.symm (lastOf_eq_none_iff.mp hlast f hf)
  constructor
  · intro heq
    -- compare the two objects name by name
    have hlookup : ∀ name, (if isReserved name then none else e.fields.lookup name)
        = lastOf name e.fields := by
      intro name
      rw [← lookup_insertAll, ← heq, lookup_replayPayload, lookup_emplaceAll]
    have hres : ∀ name, isReserved name = true → lastOf name e.fields = none := by
      intro name hname
      rw [← hlookup name, hname]
      rfl
    refine ⟨fun name hname => lastOf_eq_none_iff.mp (hres name hname), fun name => ?_⟩
    cases hname : isReserved name with
    | true => rw [hres name hname, hnone name (hres name hname)]
    | false =>
      rw [← hlookup name, hname]
      rfl
  · rintro ⟨hres, hagree⟩
    apply ext_lookup
    intro name
    rw [lookup_replayPayload, lookup_insertAll, lookup_emplaceAll]
    cases hname : isReserved name with
    | true => rw [if_pos rfl, lastOf_eq_none_iff.mpr (hres name hname)]
    | false => rw [if_neg (by simp), hagree name]

/-- **When the replayer writes the worker's row.** For every entry, whatever error sent it to the
    DLQ and however often it was requeued there: exactly when the entry is replayable. -/
theorem replay_row_iff (e : StreamEntry) (dlqId errorMsg : String)
    (passes : List (String × String)) :
    replayRow (requeued { id := dlqId, fields := dlqFields e errorMsg } passes) = workerRow e ↔
      Replayable e := by
  rw [replayRow_requeued, workerRow_eq, Row.mk.injEq]
  constructor
  -- the payload holds every field, so its equality already settles type and timestamp
  · rintro ⟨-, -, -, huser, hsession, hroom, hpayload⟩
    obtain ⟨hres, hagree⟩ := payload_eq_iff.mp hpayload
    rw [hagree, getD_eq_normalizeUuid_iff] at huser hsession hroom
    exact ⟨hres, hagree, huser, hsession, hroom⟩
  · intro h
    refine ⟨rfl, by rw [h.agree], by rw [h.agree], ?_, ?_, ?_,
      payload_eq_iff.mpr ⟨h.unreserved, h.agree⟩⟩
    · rw [h.agree, getD_eq_normalizeUuid_iff]
      exact h.userId
    · rw [h.agree, getD_eq_normalizeUuid_iff]
      exact h.sessionId
    · rw [h.agree, getD_eq_normalizeUuid_iff]
      exact h.roomId

/-- An event whose user id is no UUID. -/
def guestLogin : StreamEntry :=
  { id := "1-0", fields := [("type", "login"), ("ts_ms", "1000"), ("user_id", "guest")] }

/-- **The rows differ.** The worker leaves the user id of such an event empty, the replayer
    writes it as it is, which the column's type refuses. -/
theorem replay_row_differs :
    ¬ ∀ (e : StreamEntry) (dlqId errorMsg : String) (passes : List (String × String)),
      replayRow (requeued { id := dlqId, fields := dlqFields e errorMsg } passes)
        = workerRow e := by
  intro hall
  have hrow := congrArg Row.userId (hall guestLogin "9-0" "deadlock detected" [])
  revert hrow
  decide +kernel

end Knights.WriteBehind
