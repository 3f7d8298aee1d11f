import Mathlib.Data.List.DropRight
import Knights.Chat.Blacklist
import Knights.Chat.History

namespace Knights.Chat

open Lib Handler List Proc Db Redis

/-!
# The history of a snapshot

A snapshot shows recent messages of a room.  They come from the cached list of the room, and
what the list lacks is fetched from the database and written back to the cache, so that a
snapshot changes what the next one reads.

* `World.snapshotMessages` is what a snapshot shows and `Redis.cacheAll` what it leaves in the
  cache; `run_snapshotHistory` connects both to the handler;
* `CacheComplete` — the head of the cached list is the newest messages with their payloads;
* `messages_of_cacheComplete` / `messages_of_window` — the two ways for a snapshot to show the
  newest messages: the list has them all, or it has nothing and the window of ids that the
  database is asked for has them all;
* `histories` is the machine of stores, cache and snapshots, `ready_run` its invariant, and
  `snapshot_shows_newest` the result for whole runs;
* `snapshot_out_of_order` — notes of logins are stored but not cached, and a snapshot appends
  them to newer lines;
* `load_cached` — the cache on its own gives back the last messages, as far as they are left.
-/

variable {ms : List SnapshotMessage} {s : Session} {m : MessageRow} {room text : String}

namespace Handler

variable {α : Type} {n k : ℕ} {l : List α}

theorem lastN_eq_reverse_take : lastN n l = (l.reverse.take n).reverse :=
  rtake_eq_reverse_take_reverse l n

theorem reverse_lastN : (lastN n l).reverse = l.reverse.take n := by
  rw [lastN_eq_reverse_take, reverse_reverse]

theorem lastN_suffix : lastN n l <:+ l := drop_suffix _ _

theorem length_lastN : (lastN n l).length = min n l.length := by
  rw [lastN_eq_reverse_take, length_reverse, length_take, length_reverse]

theorem lastN_of_length_le (h : l.length ≤ n) : lastN n l = l := by
  rw [lastN_eq_reverse_take, take_of_length_le (by rwa [length_reverse]), reverse_reverse]

theorem lastN_map {β : Type} (f : α → β) : lastN n (l.map f) = (lastN n l).map f := by
  simp [lastN]

/-- If the last entries all have a property, then they are also the last ones that have it. -/
theorem lastN_filter {p : α → Bool} (h : ∀ a ∈ lastN n l, p a = true) :
    lastN n (l.filter p) = lastN n l := by
  by_cases hlen : l.length ≤ n
  · rw [lastN_of_length_le hlen] at h ⊢
    rw [filter_eq_self.mpr h, lastN_of_length_le hlen]
  · -- there are `n` last entries, and all of them stay
    have hsplit : l.filter p = (l.take (l.length - n)).filter p ++ lastN n l := by
      conv_lhs => rw [← take_append_drop (l.length - n) l, filter_append]
      rw [show (l.drop (l.length - n)).filter p = lastN n l from filter_eq_self.mpr h]
    have hn : (lastN n l).length = n := by
      rw [length_lastN]
      omega
    rw [hsplit, lastN, length_append, hn, Nat.add_sub_cancel, drop_left]

/-- Messages with different ids are kept as they are. -/
theorem dedupIds_of_nodup (h : (ms.map (·.id)).Nodup) : dedupIds ms = ms := by
  suffices hgen : ∀ acc : List SnapshotMessage, ((acc ++ ms).map (·.id)).Nodup →
      ms.foldl (fun acc m => if acc.any (·.id = m.id) then acc else acc ++ [m]) acc = acc ++ ms by
    exact hgen [] h
  clear h
  induction ms with
  | nil => exact fun acc _ => (append_nil acc).symm
  | cons m ms ih =>
    intro acc hacc
    have hnew : acc.any (·.id = m.id) = false := by
      rw [map_append, nodup_append] at hacc
      rw [any_eq_false]
      intro x hx
      have hne := hacc.2.2 x.id (mem_map_of_mem hx) m.id (by simp)
      simpa using hne
    rw [foldl_cons, hnew, if_neg Bool.false_ne_true, ih (acc ++ [m]), append_assoc]
    · rfl
    · rwa [append_assoc]

end Handler

/-! ### The cache -/

namespace Redis

variable (cfg : Config)

/-- The keys after `cache_recent_message`. -/
def cacheMessage (rid : RoomId) (r : Redis) (m : SnapshotMessage) : Redis :=
  if cfg.hasRedis && m.id ≠ 0 then
    (r.apply (.setexMessage m.id m)).apply (.lpushTrimRecent rid m.id cfg.maxListLen)
  else r

/-- The keys after several of them. -/
def cacheAll (rid : RoomId) (ms : List SnapshotMessage) (r : Redis) : Redis :=
  ms.foldl (cacheMessage cfg rid) r

/-- What `load_recent_messages_from_cache` reads. -/
def cachedRecent (r : Redis) (rid : RoomId) : Option (List SnapshotMessage) :=
  let valid := ((r.recentOf rid).take cfg.recentLimit).filter (· ≠ 0)
  let parsed := valid.filterMap r.message.lookup
  if cfg.recentLimit = 0 ∨ parsed = [] then none else some parsed.reverse

variable {cfg} {r : Redis} {rid rid' : RoomId} {m : SnapshotMessage}

/-- The newest number comes first, and the list is cut. -/
theorem recentOf_cacheMessage (h : cfg.hasRedis = true) (hm : m.id ≠ 0) :
    (r.cacheMessage cfg rid m).recentOf rid = (m.id :: r.recentOf rid).take cfg.maxListLen := by
  simp [cacheMessage, h, hm, apply, recentOf]

theorem recentOf_cacheMessage_of_ne (hne : rid' ≠ rid) :
    (r.cacheMessage cfg rid m).recentOf rid' = r.recentOf rid' := by
  unfold cacheMessage
  split_ifs
  · simp [apply, recentOf, hne]
  · rfl

theorem cacheMessage_of_not (h : cfg.hasRedis = false) : r.cacheMessage cfg rid m = r := by
  simp [cacheMessage, h]

theorem lookup_message_cacheMessage (h : cfg.hasRedis = true) (hm : m.id ≠ 0) :
    (r.cacheMessage cfg rid m).message.lookup m.id = some m := by
  simp [cacheMessage, h, hm, apply]

theorem lookup_message_cacheMessage_of_ne {id : ℕ} (hne : id ≠ m.id) :
    (r.cacheMessage cfg rid m).message.lookup id = r.message.lookup id := by
  unfold cacheMessage
  split_ifs
  · simp [apply, hne]
  · rfl

theorem recentOf_cacheAll_of_ne (hne : rid' ≠ rid) (ms : List SnapshotMessage) :
    (r.cacheAll cfg rid ms).recentOf rid' = r.recentOf rid' := by
  induction ms generalizing r with
  | nil => rfl
  | cons m ms ih =>
    exact (ih (r := r.cacheMessage cfg rid m)).trans (recentOf_cacheMessage_of_ne hne)

theorem cacheAll_of_not (h : cfg.hasRedis = false) (ms : List SnapshotMessage) :
    r.cacheAll cfg rid ms = r := by
  induction ms with
  | nil => rfl
  | cons m ms ih =>
    rw [cacheAll, foldl_cons, cacheMessage_of_not h]
    exact ih

/-- The messages come out newest first. -/
theorem recentOf_cacheAll (h : cfg.hasRedis = true) (hms : ∀ m ∈ ms, m.id ≠ 0)
    (hlen : (r.recentOf rid).length ≤ cfg.maxListLen) :
    (r.cacheAll cfg rid ms).recentOf rid =
      ((ms.map (·.id)).reverse ++ r.recentOf rid).take cfg.maxListLen := by
  induction ms generalizing r with
  | nil => exact (take_of_length_le hlen).symm
  | cons m ms ih =>
    have hm : m.id ≠ 0 := hms m mem_cons_self
    have hstep : (r.cacheMessage cfg rid m).recentOf rid =
        (m.id :: r.recentOf rid).take cfg.maxListLen := recentOf_cacheMessage h hm
    have hlen' : ((r.cacheMessage cfg rid m).recentOf rid).length ≤ cfg.maxListLen := by
      rw [hstep]
      exact length_take_le _ _
    have htail := ih (r := r.cacheMessage cfg rid m)
      (fun m' hm' => hms m' (mem_cons_of_mem m hm')) hlen'
    refine htail.trans ?_
    rw [hstep, map_cons, reverse_cons, append_assoc, singleton_append,
      take_append, take_append, take_take]
    congr 2
    omega

theorem lookup_message_cacheAll_of_notMem {id : ℕ} (h : id ∉ ms.map (·.id)) :
    (r.cacheAll cfg rid ms).message.lookup id = r.message.lookup id := by
  induction ms generalizing r with
  | nil => rfl
  | cons m ms ih =>
    rw [map_cons, mem_cons, not_or] at h
    exact (ih h.2).trans (lookup_message_cacheMessage_of_ne h.1)

/-- Messages with numbers of their own are read back. -/
theorem lookup_message_cacheAll (h : cfg.hasRedis = true) (hms : ∀ m ∈ ms, m.id ≠ 0)
    (hnodup : (ms.map (·.id)).Nodup) (hm : m ∈ ms) :
    (r.cacheAll cfg rid ms).message.lookup m.id = some m := by
  induction ms generalizing r with
  | nil => exact absurd hm not_mem_nil
  | cons m' ms ih =>
    rw [map_cons, nodup_cons] at hnodup
    rcases mem_cons.mp hm with rfl | hm
    · -- the later messages have other ids
      refine (lookup_message_cacheAll_of_notMem hnodup.1).trans ?_
      exact lookup_message_cacheMessage h (hms m mem_cons_self)
    · exact ih (fun x hx => hms x (mem_cons_of_mem m' hx)) hnodup.2 hm

theorem getD_cachedRecent (h : 0 < cfg.recentLimit) : (r.cachedRecent cfg rid).getD [] =
    ((((r.recentOf rid).take cfg.recentLimit).filter (· ≠ 0)).filterMap
      r.message.lookup).reverse := by
  simp only [cachedRecent]
  split_ifs with hnone
  · rcases hnone with hzero | hempty
    · omega
    · rw [hempty]
      rfl
  · rfl

end Redis

namespace Db

variable {d : Db} {rid rid' : RoomId}

theorem nodup_map_id {ms : List MessageRow} (h : ms.Pairwise fun a b => a.id < b.id) :
    (ms.map (·.id)).Nodup :=
  (pairwise_map.mpr h).imp fun hlt => Nat.ne_of_lt hlt

theorem mem_of_messagesOf (h : m ∈ d.messagesOf rid) : m ∈ d.messages ∧ m.roomId = rid := by
  obtain ⟨hmem, hm⟩ := mem_filter.mp h
  exact ⟨hmem, (of_decide_eq_true hm).2⟩

/-- A committed line is the last of its room. -/
theorem messagesOf_addMessage (room : String) (uid : Option UserId) (text : String) :
    (d.addMessage true rid room uid text).messagesOf rid =
      d.messagesOf rid ++ [⟨d.lastMessage + 1, rid, room, uid, text, true⟩] := by
  simp [messagesOf, addMessage]

theorem messagesOf_addMessage_of_ne (h : rid' ≠ rid) (room : String) (uid : Option UserId)
    (text : String) : (d.addMessage true rid' room uid text).messagesOf rid = d.messagesOf rid := by
  simp [messagesOf, addMessage, h]

end Db

/-! ### What a snapshot shows -/

namespace World

variable (cfg : Config) (w : World)

/-- What a snapshot finds in the cache. -/
def cached (rid : RoomId) : Option (List SnapshotMessage) :=
  if cfg.hasRedis then w.redis.cachedRecent cfg rid else none

/-- The `last_seen` of a session's user. -/
def seenBy (s : Session) (rid : RoomId) : ℕ :=
  match w.st.userUuid.lookup s.addr with
  | none => 0
  | some uid => ((w.db.lastSeen.lookup (uid, rid)).getD none).getD 0

/-- How many messages the database is asked for. -/
def fetchCount : ℕ :=
  min cfg.maxListLen (max cfg.recentLimit (cfg.recentLimit * cfg.fetchFactor))

/-- The messages of a room beyond the id that a snapshot starts from. -/
def beyond (s : Session) (rid : RoomId) : List MessageRow :=
  (w.db.messagesOf rid).filter (sinceId cfg (w.db.lastIdOf rid) (w.seenBy s rid) < ·.id)

/-- What the database has to add to some cached messages. -/
def fillFor (cached : Option (List SnapshotMessage)) (s : Session) (rid : RoomId) :
    List SnapshotMessage :=
  fillUp cfg cached (((w.beyond cfg s rid).take (fetchCount cfg)).map w.db.withAuthor)

/-- What a snapshot adds from the database. -/
def filledUp (s : Session) (rid : RoomId) : List SnapshotMessage :=
  if cfg.recentLimit ≤ ((w.cached cfg rid).getD []).length then []
  else w.fillFor cfg (w.cached cfg rid) s rid

/-- The messages of a snapshot. -/
def snapshotMessages (s : Session) (rid : RoomId) : List SnapshotMessage :=
  dedupIds ((w.cached cfg rid).getD []) ++ w.filledUp cfg s rid

end World

/-! ### The handler computes it -/

section Run

variable {cfg : Config} {w : World} {rid : RoomId}

theorem run_cacheRecentMessage (m : SnapshotMessage) :
    (cacheRecentMessage cfg rid m).run (Op.exec cfg) .done w =
      ({ w with redis := w.redis.cacheMessage cfg rid m }, ()) := by
  unfold cacheRecentMessage Redis.cacheMessage
  split_ifs <;> rfl

theorem run_each_cacheRecentMessage (ms : List SnapshotMessage) :
    (Proc.each (cacheRecentMessage cfg rid) ms).run (Op.exec cfg) .done w =
      ({ w with redis := w.redis.cacheAll cfg rid ms }, ()) := by
  induction ms generalizing w with
  | nil => rfl
  | cons m ms ih =>
    rw [Proc.each, run_bind, run_cacheRecentMessage, ih]
    rfl

/-- Operations that are all carried out, but for the batch reads if `batch` is not set. -/
def execBatch (cfg : Config) (o : Op) (batch : Bool) (w : World) : World × o.Ans :=
  o.exec cfg (match o with
    | .redis (.mgetMessages _) => if batch then .done else .lost
    | _ => .done) w

theorem run_execBatch {α : Type} (p : Handler α) :
    p.run (execBatch cfg) true w = p.run (Op.exec cfg) .done w := by
  induction p generalizing w with
  | ret a => rfl
  | act o k ih =>
    have hexec : execBatch cfg o true w = o.exec cfg .done w := by
      unfold execBatch
      split <;> rfl
    rw [run_act, run_act, hexec, ih]

/-- One by one or at once, the same messages are read. -/
theorem run_fetchMessages (batch : Bool) (ids : List ℕ) :
    (fetchMessages ids).run (execBatch cfg) batch w =
      (w, ids.filterMap w.redis.message.lookup) := by
  cases batch with
  | true =>
    show (w, (ids.map w.redis.message.lookup).filterMap id) = _
    rw [filterMap_map]
    rfl
  | false =>
    show (getMessages ids).run (execBatch cfg) false w = _
    induction ids with
    | nil => rfl
    | cons id ids ih =>
      show Proc.run _ _ (getMessages ids >>= fun rest =>
        pure ((w.redis.message.lookup id).toList ++ rest)) w = _
      rw [run_bind, ih, filterMap_cons]
      cases w.redis.message.lookup id <;> rfl

/-- What is loaded does not depend on how the payloads are read. -/
theorem run_loadRecentMessages (batch : Bool) :
    (loadRecentMessages cfg rid).run (execBatch cfg) batch w =
      (w, w.redis.cachedRecent cfg rid) := by
  unfold loadRecentMessages Redis.cachedRecent
  by_cases hlimit : cfg.recentLimit = 0
  · simp [hlimit]
  · rw [if_neg hlimit]
    set valid := ((w.redis.recentOf rid).take cfg.recentLimit).filter (· ≠ 0) with hvalid
    show Proc.run _ _ (if valid = [] then pure none else
      (fetchMessages valid >>= fun parsed =>
        if parsed = [] then pure none else pure (some parsed.reverse))) w = _
    by_cases hnil : valid = []
    · simp [hnil, hlimit]
    · rw [if_neg hnil, run_bind, run_fetchMessages]
      by_cases hparsed : valid.filterMap w.redis.message.lookup = []
      · simp [hparsed]
      · simp [hparsed, hlimit]

/-- What is fetched is cached, too. -/
theorem run_loadStored (cached : Option (List SnapshotMessage)) (s : Session) :
    (loadStored cfg rid cached (w.seenBy s rid)).run (Op.exec cfg) .done w =
      ({ w with redis := w.redis.cacheAll cfg rid (w.fillFor cfg cached s rid) },
        w.fillFor cfg cached s rid) := by
  show Proc.run _ _ (Proc.each (cacheRecentMessage cfg rid) (w.fillFor cfg cached s rid) >>=
    fun _ => pure (w.fillFor cfg cached s rid)) w = _
  rw [run_bind, run_each_cacheRecentMessage]
  rfl

theorem run_lastSeenOf (s : Session) :
    (lastSeenOf rid (w.st.userUuid.lookup s.addr)).run (Op.exec cfg) .done w =
      (w, some (w.seenBy s rid)) := by
  unfold World.seenBy
  cases w.st.userUuid.lookup s.addr with
  | none => rfl
  | some uid => rfl

/-- A snapshot, its commands all answered, shows `snapshotMessages` and leaves what it added in
    the cache. -/
theorem run_snapshotHistory (hlimit : 0 < cfg.recentLimit) (hdb : cfg.hasDb = true) (s : Session) :
    (snapshotHistory cfg s (some rid)).run (Op.exec cfg) .done w =
      ({ w with redis := w.redis.cacheAll cfg rid (w.filledUp cfg s rid) },
        w.seenBy s rid, w.snapshotMessages cfg s rid) := by
  have hcached : (askIf cfg.hasRedis (loadRecentMessages cfg rid)).run (Op.exec cfg) .done w =
      (w, w.cached cfg rid) := by
    unfold askIf World.cached
    split_ifs
    · rw [← run_execBatch]
      exact run_loadRecentMessages true
    · rfl
  have hhistory : (loadHistory cfg s rid (w.cached cfg rid)).run (Op.exec cfg) .done w =
      ({ w with redis := w.redis.cacheAll cfg rid (w.filledUp cfg s rid) },
        w.seenBy s rid, w.filledUp cfg s rid) := by
    show Proc.run _ _ (lastSeenOf rid (w.st.userUuid.lookup s.addr) >>= _) w = _
    rw [run_bind, run_lastSeenOf]
    unfold World.filledUp
    cases hc : w.cached cfg rid with
    | none =>
      -- a miss is not enough, whatever the limit
      rw [if_neg (by simpa using hlimit.ne')]
      show Proc.run _ _ (loadStored cfg rid none (w.seenBy s rid) >>= _) w = _
      rw [run_bind, run_loadStored]
      rfl
    | some ms =>
      by_cases henough : cfg.recentLimit ≤ ms.length
      · simp only [Option.getD_some, henough, decide_true, if_true]
        rfl
      · simp only [Option.getD_some, henough, decide_false, Bool.false_eq_true, if_false]
        rw [run_bind, run_loadStored]
        rfl
  unfold snapshotHistory
  simp only [run_bind, hcached, hdb, if_true, hhistory]
  rfl

end Run

/-! ### When it shows the newest messages -/

namespace World

variable (cfg : Config) (w : World) (s : Session) (rid : RoomId)

/-- The newest messages of a room, as many as a snapshot may show. -/
def newest : List MessageRow := lastN cfg.recentLimit (w.db.messagesOf rid)

/-- The head of the cached list is the newest messages, and their payloads are there. -/
structure CacheComplete : Prop where
  hasRedis : cfg.hasRedis = true
  ids : (w.redis.recentOf rid).take cfg.recentLimit = ((w.newest cfg rid).map (·.id)).reverse
  payload : ∀ m ∈ w.newest cfg rid, ∃ sender,
    w.redis.message.lookup m.id = some ⟨m.id, sender, m.content⟩

/-- The database is asked for all of the newest messages, and for few enough to get them. -/
def Window : Prop :=
  (∀ m ∈ w.newest cfg rid, sinceId cfg (w.db.lastIdOf rid) (w.seenBy s rid) < m.id) ∧
  (w.beyond cfg s rid).length ≤ fetchCount cfg

instance : Decidable (w.Window cfg s rid) := inferInstanceAs (Decidable (_ ∧ _))

/-- Messages that were shown, by their number and text, are those that were stored. -/
def Shows (shown : List SnapshotMessage) (stored : List MessageRow) : Prop :=
  shown.map (fun m => (m.id, m.text)) = stored.map fun m => (m.id, m.content)

instance (shown : List SnapshotMessage) (stored : List MessageRow) :
    Decidable (Shows shown stored) := inferInstanceAs (Decidable (_ = _))

variable {cfg w s rid} {shown : List SnapshotMessage} {stored : List MessageRow}

theorem Shows.map_id (h : Shows shown stored) : shown.map (·.id) = stored.map (·.id) := by
  have hfst := congrArg (List.map Prod.fst) h
  rwa [map_map, map_map] at hfst

theorem newest_sorted : (w.newest cfg rid).Pairwise fun a b => a.id < b.id :=
  (w.db.messages_sorted.filter _).sublist lastN_suffix.sublist

theorem mem_messages_of_newest (hm : m ∈ w.newest cfg rid) : m ∈ w.db.messages ∧ m.roomId = rid :=
  mem_of_messagesOf (lastN_suffix.subset hm)

/-- What is in the cache for the newest messages. -/
theorem shows_of_payload {r : Redis} {ms : List MessageRow}
    (h : ∀ m ∈ ms, ∃ sender, r.message.lookup m.id = some ⟨m.id, sender, m.content⟩) :
    Shows ((ms.map (·.id)).filterMap r.message.lookup) ms := by
  induction ms with
  | nil => rfl
  | cons m ms ih =>
    obtain ⟨sender, hm⟩ := h m mem_cons_self
    have htail : Shows _ ms := ih fun m' hm' => h m' (mem_cons_of_mem m hm')
    rw [Shows, map_cons, filterMap_cons, hm]
    exact congrArg (List.cons (m.id, m.content)) htail

/-- What a snapshot adds are messages of the room. -/
theorem exists_row_of_mem_filledUp {m : SnapshotMessage} (hm : m ∈ w.filledUp cfg s rid) :
    (∃ row ∈ w.db.messagesOf rid, row.id = m.id) ∧
      ∀ m' ∈ (w.cached cfg rid).getD [], m'.id ≠ m.id := by
  unfold filledUp at hm
  split_ifs at hm with henough
  · exact absurd hm not_mem_nil
  · obtain ⟨x, hx, rfl⟩ := mem_map.mp hm
    obtain ⟨hfetched, hnew⟩ := mem_filter.mp (lastN_suffix.subset (lastN_suffix.subset hx))
    obtain ⟨row, hrow, rfl⟩ := mem_map.mp hfetched
    refine ⟨⟨row, (mem_filter.mp (mem_of_mem_take hrow)).1, rfl⟩, ?_⟩
    simpa using hnew

variable (hlimit : 0 < cfg.recentLimit)
include hlimit

section Complete

variable (hpos : ∀ m ∈ w.db.messages, 0 < m.id) (h : w.CacheComplete cfg rid)
include hpos h

/-- A complete cache is read as the newest messages, oldest of them first. -/
theorem shows_cached_of_cacheComplete : Shows ((w.cached cfg rid).getD []) (w.newest cfg rid) := by
  have hvalid : ((w.redis.recentOf rid).take cfg.recentLimit).filter (· ≠ 0) =
      (w.newest cfg rid).reverse.map (·.id) := by
    rw [h.ids, ← map_reverse, filter_eq_self]
    intro id hid
    obtain ⟨m, hm, rfl⟩ := mem_map.mp hid
    have := hpos m (mem_messages_of_newest (mem_reverse.mp hm)).1
    simpa using this.ne'
  have hread : Shows (((w.newest cfg rid).reverse.map (·.id)).filterMap w.redis.message.lookup)
      (w.newest cfg rid).reverse :=
    shows_of_payload fun m hm => h.payload m (mem_reverse.mp hm)
  rw [cached, if_pos h.hasRedis, getD_cachedRecent hlimit, hvalid]
  unfold Shows at hread ⊢
  rw [map_reverse, hread, map_reverse, reverse_reverse]

/-- A snapshot adds nothing to a complete cache. -/
theorem filledUp_of_cacheComplete : w.filledUp cfg s rid = [] := by
  have hshows := (shows_cached_of_cacheComplete hlimit hpos h).map_id
  have hlen := congrArg List.length hshows
  rw [length_map, length_map, newest, length_lastN] at hlen
  by_cases henough : cfg.recentLimit ≤ ((w.cached cfg rid).getD []).length
  · exact if_pos henough
  · -- the cache has all messages of the room
    have hall : w.newest cfg rid = w.db.messagesOf rid := lastN_of_length_le (by omega)
    refine eq_nil_iff_forall_not_mem.mpr fun m hm => ?_
    obtain ⟨⟨row, hrow, hid⟩, hnew⟩ := exists_row_of_mem_filledUp hm
    have hmem : row.id ∈ ((w.cached cfg rid).getD []).map (·.id) := by
      rw [hshows, hall]
      exact mem_map_of_mem hrow
    obtain ⟨m', hm', hid'⟩ := mem_map.mp hmem
    exact hnew m' hm' (hid'.trans hid)

/-- With a complete cache, the newest are shown. -/
theorem messages_of_cacheComplete : Shows (w.snapshotMessages cfg s rid) (w.newest cfg rid) := by
  have hshows := shows_cached_of_cacheComplete hlimit hpos h
  have hnodup : (((w.cached cfg rid).getD []).map (·.id)).Nodup := by
    rw [hshows.map_id]
    exact nodup_map_id newest_sorted
  rw [snapshotMessages, filledUp_of_cacheComplete hlimit hpos h, append_nil,
    dedupIds_of_nodup hnodup]
  exact hshows

end Complete

variable (h : w.redis.recentOf rid = [])
include h

theorem cached_of_recentOf_nil : (w.cached cfg rid).getD [] = [] := by
  unfold cached
  split_ifs
  · rw [getD_cachedRecent hlimit, h, take_nil]
    rfl
  · rfl

/-- Without a cached list the newest messages are fetched, if they are in the window. -/
theorem shows_filledUp_of_window (hw : w.Window cfg s rid) :
    Shows (w.filledUp cfg s rid) (w.newest cfg rid) := by
  have hnone := cached_of_recentOf_nil hlimit h
  have hbeyond : lastN cfg.recentLimit (w.beyond cfg s rid) = w.newest cfg rid :=
    lastN_filter fun m hm => decide_eq_true (hw.1 m hm)
  have hfill : w.filledUp cfg s rid = (w.newest cfg rid).map fun m =>
      ⟨m.id, ((w.db.withAuthor m).userName.filter (· ≠ "")).getD "(system)", m.content⟩ := by
    rw [filledUp, hnone, if_neg (by simpa using hlimit.ne'), fillFor,
      take_of_length_le hw.2, fillUp, hnone]
    simp only [all_nil, filter_true, length_nil, Nat.sub_zero, lastN_map, hbeyond]
    have hlen : (w.newest cfg rid).length ≤ cfg.recentLimit :=
      length_lastN.trans_le (min_le_left _ _)
    rw [lastN_of_length_le hlen, map_map]
    rfl
  rw [hfill, Shows, map_map]
  rfl

/-- With no cached list, too, if they are in the window. -/
theorem messages_of_window (hw : w.Window cfg s rid) :
    Shows (w.snapshotMessages cfg s rid) (w.newest cfg rid) := by
  rw [snapshotMessages, cached_of_recentOf_nil hlimit h]
  exact shows_filledUp_of_window hlimit h hw

end World

/-! ### Runs -/

/-- What happens to the messages of a room and to its cache. -/
inductive HistoryInput
  /-- A line of chat, stored and cached. -/
  | line (rid : RoomId) (room : String) (uid : Option UserId) (sender text : String)
  /-- A message that is stored only, as the note of a login is. -/
  | note (rid : RoomId) (room : String) (uid : Option UserId) (text : String)
  /-- A call of `cache_recent_message`. -/
  | cache (rid : RoomId) (m : SnapshotMessage)
  | snapshot (s : Session) (rid : RoomId)
  /-- A payload expires. -/
  | expire (id : ℕ)
  /-- A user is in a room and has seen it up to a message. -/
  | seen (uid : UserId) (rid : RoomId) (id : ℕ)

namespace Handler

/-- Store a line whose room has an id, and cache it. -/
def storeLine (cfg : Config) (rid : RoomId) (room : String) (uid : Option UserId)
    (sender text : String) : Handler Unit := do
  match ← db (.createMessage rid room uid text) with
  | none => return ()
  | some (id, _) => cacheRecentMessage cfg rid ⟨id, sender, text⟩

end Handler

/-- What the history of rooms is made of. -/
def World.history (w : World) : List MessageRow × Table RoomId (List ℕ) × Table ℕ SnapshotMessage :=
  (w.db.messages, w.redis.recent, w.redis.message)

section Line

variable {cfg : Config} {w : World} {rid : RoomId}

theorem run_storeLine (rid : RoomId) (room : String) (uid : Option UserId) (sender text : String) :
    (storeLine cfg rid room uid sender text).run (Op.exec cfg) .done w = ({ w with
          db := w.db.addMessage true rid room uid text
          redis := w.redis.cacheMessage cfg rid ⟨w.db.lastMessage + 1, sender, text⟩ }, ()) := by
  show (cacheRecentMessage cfg rid _).run (Op.exec cfg) .done _ = _
  rw [run_cacheRecentMessage]
  rfl

theorem ids_pruneRoom {live : Session → Bool} {st : State} :
    (st.pruneRoom live room).roomIds = st.roomIds ∧
      (st.pruneRoom live room).userUuid = st.userUuid := by
  unfold State.pruneRoom
  cases st.rooms.lookup room <;> exact ⟨rfl, rfl⟩

/-- Sending changes no history. -/
theorem history_sendLine {line : Broadcast} {targets : List Session} :
    ((sendLine s line targets).run (Op.exec cfg) .done w).1.history = w.history := by
  have hall : ∀ (ts : List Session) (w : World), ((Proc.each
      (fun t => send t (.broadcast line (t.addr = s.addr))) ts).run
        (Op.exec cfg) .done w).1.history = w.history := by
    intro ts
    induction ts with
    | nil => exact fun _ => rfl
    | cons t ts ih => exact fun w => ih _
  cases targets with
  | nil => rfl
  | cons t ts => exact hall (t :: ts) w

/-- A line of a room whose id is known is stored. -/
theorem run_persistLine (hdb : cfg.hasDb = true) (hid : w.st.roomIds.lookup room = some rid) :
    (persistLine cfg s room text).run (Op.exec cfg) .done w =
      ({ w with db := w.db.addMessage true rid room (w.st.userUuid.lookup s.addr) text },
        some (rid, w.db.lastMessage + 1)) := by
  have hroom : (ensureRoomId cfg room).run (Op.exec cfg) .done w = (w, some rid) := by
    unfold ensureRoomId
    rw [if_pos hdb, run_bind]
    have hlock : (lock (.roomId room)).run (Op.exec cfg) .done w =
        (w, w.st.roomIds.lookup room) := rfl
    rw [hlock, hid]
    rfl
  unfold persistLine
  rw [if_pos hdb, run_bind, hroom]
  rfl

/-- A line that is delivered to a room with a known id is stored and cached once. -/
theorem history_deliverLine (hdb : cfg.hasDb = true) {sender : String}
    (hid : w.st.roomIds.lookup room = some rid) :
    ((deliverLine cfg s room sender text).run (Op.exec cfg) .done w).1.history =
      ((storeLine cfg rid room (w.st.userUuid.lookup s.addr) sender text).run
        (Op.exec cfg) .done w).1.history := by
  -- neither the targets nor what follows the cache matter
  have hpublish : ∀ (line : Broadcast) (w : World), ((onlyIf (cfg.hasRedis && cfg.pubsubEnabled)
      (publishLine cfg line)).run (Op.exec cfg) .done w).1.history = w.history := by
    intro line w
    unfold onlyIf
    split_ifs <;> rfl
  have hseen : ∀ {k : Option UserId → Handler Unit},
      (∀ uid w, ((k uid).run (Op.exec cfg) .done w).1.history = w.history) → ∀ w : World,
      ((lock (.userUuid s) >>= k).run (Op.exec cfg) .done w).1.history = w.history :=
    fun hk w => hk (w.st.userUuid.lookup s.addr) w
  have htargets : (lock (.roomTargets room (some sender))).run (Op.exec cfg) .done w =
      ({ w with st := w.st.pruneRoom w.live room },
        (w.st.roomTargets w.live room (some sender)).2) := rfl
  have hpersist : (persistLine cfg s room text).run (Op.exec cfg) .done
      { w with st := w.st.pruneRoom w.live room } = ({ w with
            st := w.st.pruneRoom w.live room
            db := w.db.addMessage true rid room (w.st.userUuid.lookup s.addr) text },
          some (rid, w.db.lastMessage + 1)) := by
    obtain ⟨hids, huuid⟩ := ids_pruneRoom
    rw [run_persistLine hdb (hids.symm ▸ hid), huuid]
  unfold deliverLine
  simp only [run_bind, htargets, hpersist]
  refine (hseen (fun uid w => ?_) _).trans ((hpublish _ _).trans (history_sendLine.trans ?_))
  · cases uid with
    | none => rfl
    | some uid =>
      show ((w.db.setLastSeen uid rid _).messages, _, _) = _
      rw [messages_setLastSeen]
      rfl
  · show ((cacheRecentMessage cfg rid _).run (Op.exec cfg) .done _).1.history = _
    rw [run_cacheRecentMessage, run_storeLine]
    rfl

/-- Alice and bob are in the lobby, whose row is known, and the row of alice is on record. -/
def World.lobby : World where
  st :=
    { rooms := .singleton "lobby" [.one, .two]
      roomIds := .singleton "lobby" 0
      userUuid := .singleton Session.one.addr 0 }
  live _ := true
  sent := []
  redis := {}
  db := (Db.blank.addUser true "alice").addRoom "lobby"

/-- A line of alice's is stored once. -/
theorem history_deliverLine_lobby :
    ((deliverLine .sample .one "lobby" "alice" "hi").run (Op.exec .sample) .done
      .lobby).1.history = ((storeLine .sample 0 "lobby" (some 0) "alice" "hi").run
        (Op.exec .sample) .done .lobby).1.history ∧
    ((deliverLine .sample .one "lobby" "alice" "hi").run (Op.exec .sample) .done
      .lobby).1.history.1 = [⟨1, 0, "lobby", some 0, "hi", true⟩] :=
  ⟨history_deliverLine rfl rfl, by decide +kernel⟩

end Line

/-- The stores under lines, snapshots and expiry; a snapshot puts out its messages. -/
def histories (cfg : Config) : Machine World HistoryInput (List SnapshotMessage) where
  step w
    | .line rid room uid sender text =>
      (((storeLine cfg rid room uid sender text).run (Op.exec cfg) .done w).1, [])
    | .note rid room uid text =>
      (((db (.createMessage rid room uid text)).run (Op.exec cfg) .done w).1, [])
    | .cache rid m => (((cacheRecentMessage cfg rid m).run (Op.exec cfg) .done w).1, [])
    | .snapshot s rid =>
      let x := (snapshotHistory cfg s (some rid)).run (Op.exec cfg) .done w
      (x.1, x.2.2)
    | .expire id =>
      ({ w with redis := { w.redis with message := w.redis.message.erase id } }, [])
    | .seen uid rid id =>
      ({ w with db := (w.db.upsertJoin uid rid).setLastSeen uid rid id }, [])

/-- What keeps the cache of a room complete: every message is cached when it is stored, once
    and in its turn, none of the newest expires, and where nothing is cached yet, the next
    snapshot finds all it needs in its window. -/
def InTurn (cfg : Config) (rid : RoomId) (w : World) : HistoryInput → Prop
  | .line rid' _ _ _ _ => rid' = rid → cfg.hasRedis = true → w.redis.recentOf rid = [] →
      w.db.messagesOf rid = []
  | .note rid' _ _ _ => rid' ≠ rid
  | .cache rid' m => rid' ≠ rid ∧ ∀ row ∈ w.db.messagesOf rid, row.id ≠ m.id
  | .snapshot s rid' => rid' = rid → w.redis.recentOf rid = [] → w.Window cfg s rid
  | .expire id => ∀ row ∈ w.newest cfg rid, row.id ≠ id
  | .seen _ _ _ => True

instance (cfg : Config) (rid : RoomId) (w : World) : ∀ i, Decidable (InTurn cfg rid w i)
  | .line _ _ _ _ _ => inferInstanceAs (Decidable (_ → _ → _ → _))
  | .note _ _ _ _ => inferInstanceAs (Decidable (_ ≠ _))
  | .cache _ _ => inferInstanceAs (Decidable (_ ∧ _))
  | .snapshot _ _ => inferInstanceAs (Decidable (_ → _ → _))
  | .expire _ => inferInstanceAs (Decidable (∀ _ ∈ _, _))
  | .seen _ _ _ => inferInstanceAs (Decidable True)

/-- The cached list of a room is complete or empty. -/
structure Ready (cfg : Config) (rid : RoomId) (w : World) : Prop where
  pos : ∀ m ∈ w.db.messages, 0 < m.id
  cache : w.CacheComplete cfg rid ∨ w.redis.recentOf rid = []

section Ready

variable {cfg : Config} {rid rid' : RoomId} {w w' : World}

open World

/-- What leaves the messages, the list and the payloads of the newest alone. -/
theorem Ready.of_eq (h : Ready cfg rid w) (hpos : ∀ m ∈ w'.db.messages, 0 < m.id)
    (hmsg : w'.db.messagesOf rid = w.db.messagesOf rid)
    (hrecent : w'.redis.recentOf rid = w.redis.recentOf rid)
    (hpay : ∀ m ∈ w.newest cfg rid, w'.redis.message.lookup m.id = w.redis.message.lookup m.id) :
    Ready cfg rid w' := by
  have hnewest : w'.newest cfg rid = w.newest cfg rid := by rw [newest, hmsg, newest]
  refine ⟨hpos, h.cache.imp (fun hc => ⟨hc.hasRedis, ?_, ?_⟩) fun hnil => hrecent.trans hnil⟩
  · rw [hrecent, hnewest]
    exact hc.ids
  · rw [hnewest]
    intro m hm
    rw [hpay m hm]
    exact hc.payload m hm

/-- A message's id is no longer used for others. -/
theorem id_ne_of_messagesOf (hne : rid' ≠ rid) {row : MessageRow} (hm : m ∈ w.newest cfg rid)
    (hrow : row ∈ w.db.messagesOf rid') : m.id ≠ row.id := by
  intro hid
  obtain ⟨hmem, hroom⟩ := mem_messages_of_newest hm
  obtain ⟨hmem', hroom'⟩ := mem_of_messagesOf hrow
  have heq : m = row := inj_on_of_nodup_map (nodup_map_id w.db.messages_sorted) hmem hmem' hid
  exact hne (hroom'.symm.trans (heq ▸ hroom))

theorem pos_addMessage {d : Db} (h : ∀ m ∈ d.messages, 0 < m.id) {uid : Option UserId} :
    ∀ m ∈ (d.addMessage true rid' room uid text).messages, 0 < m.id := by
  intro m hm
  rcases mem_append.mp hm with hm | hm
  · exact h m hm
  · rw [mem_singleton.mp hm]
    exact Nat.succ_pos _

/-- A new id is the id of no message. -/
theorem id_ne_lastMessage (hm : m ∈ w.newest cfg rid) : m.id ≠ w.db.lastMessage + 1 := by
  have := w.db.messages_le m (mem_messages_of_newest hm).1
  omega

/-- **Store and cache.** A line that is stored and cached keeps a complete cache complete. -/
theorem World.CacheComplete.line (h : w.CacheComplete cfg rid) (hlimit : 0 < cfg.recentLimit)
    (hmax : cfg.recentLimit ≤ cfg.maxListLen) (room : String) (uid : Option UserId)
    (sender text : String) :
    ({ w with
        db := w.db.addMessage true rid room uid text
        redis := w.redis.cacheMessage cfg rid ⟨w.db.lastMessage + 1, sender, text⟩ } :
      World).CacheComplete cfg rid := by
  obtain ⟨k, hk⟩ : ∃ k, cfg.recentLimit = k + 1 := ⟨cfg.recentLimit - 1, by omega⟩
  set msgs := w.db.messagesOf rid with hmsgs
  set row : MessageRow := ⟨w.db.lastMessage + 1, rid, room, uid, text, true⟩ with hrow
  have hnew : lastN cfg.recentLimit ((w.db.addMessage true rid room uid text).messagesOf rid) =
      lastN k msgs ++ [row] := by
    rw [messagesOf_addMessage, hk]
    exact rtake_concat_succ msgs k row
  have hold : (w.redis.recentOf rid).take k = ((lastN k msgs).map (·.id)).reverse := by
    -- the first `k` of the first `k + 1`
    have hids := congrArg (List.take k) h.ids
    rw [take_take, hk, min_eq_left (Nat.le_succ k), newest, ← map_reverse,
      reverse_lastN, ← map_take, take_take, hk, min_eq_left (Nat.le_succ k)] at hids
    rw [hids, ← map_reverse, reverse_lastN]
  have hsub : ∀ m ∈ lastN k msgs, m ∈ w.newest cfg rid := by
    intro m hm
    have hmem : m ∈ msgs.reverse.take k := by
      rw [← reverse_lastN]
      exact mem_reverse.mpr hm
    rw [newest, ← mem_reverse, reverse_lastN, hk]
    exact (take_subset_take_left _ (Nat.le_succ k)) hmem
  refine ⟨h.hasRedis, ?_, ?_⟩
  · show ((w.redis.cacheMessage cfg rid _).recentOf rid).take cfg.recentLimit =
      ((lastN cfg.recentLimit ((w.db.addMessage true rid room uid text).messagesOf rid)).map
        (·.id)).reverse
    rw [hnew, recentOf_cacheMessage h.hasRedis (Nat.succ_ne_zero _), take_take,
      min_eq_left hmax, hk, take_succ_cons, hold, map_append, reverse_append]
    rfl
  · intro m hm
    replace hm : m ∈ lastN k msgs ++ [row] := hnew ▸ hm
    rcases mem_append.mp hm with hm | hm
    · obtain ⟨name, hname⟩ := h.payload m (hsub m hm)
      refine ⟨name, ?_⟩
      rw [lookup_message_cacheMessage_of_ne (id_ne_lastMessage (hsub m hm))]
      exact hname
    · rw [mem_singleton.mp hm]
      refine ⟨sender, ?_⟩
      exact lookup_message_cacheMessage (m := ⟨w.db.lastMessage + 1, sender, text⟩)
        h.hasRedis (Nat.succ_ne_zero _)

/-- **Repair.** After a snapshot from the window alone the cache is complete. -/
theorem World.cacheComplete_of_window (hredis : cfg.hasRedis = true) (hlimit : 0 < cfg.recentLimit)
    (hmax : cfg.recentLimit ≤ cfg.maxListLen) (hpos : ∀ m ∈ w.db.messages, 0 < m.id)
    (hnil : w.redis.recentOf rid = []) (hw : w.Window cfg s rid) :
    ({ w with redis := w.redis.cacheAll cfg rid (w.filledUp cfg s rid) } :
      World).CacheComplete cfg rid := by
  have hshows := shows_filledUp_of_window hlimit hnil hw
  have hnonzero : ∀ m ∈ w.filledUp cfg s rid, m.id ≠ 0 := by
    intro m hm
    obtain ⟨⟨row, hrow, hid⟩, -⟩ := exists_row_of_mem_filledUp hm
    have := hpos row (mem_of_messagesOf hrow).1
    omega
  have hlen : (w.newest cfg rid).length ≤ cfg.recentLimit :=
    length_lastN.trans_le (min_le_left _ _)
  refine ⟨hredis, ?_, ?_⟩
  · rw [recentOf_cacheAll hredis hnonzero (by rw [hnil]; exact Nat.zero_le _), hnil,
      append_nil, take_take, min_eq_left hmax, hshows.map_id]
    exact take_of_length_le (by simpa using hlen)
  · intro m hm
    -- the message was shown, so it is among those that were written
    have hmem : (m.id, m.content) ∈ (w.filledUp cfg s rid).map fun m => (m.id, m.text) := by
      rw [hshows]
      exact mem_map_of_mem (f := fun m : MessageRow => (m.id, m.content)) hm
    obtain ⟨x, hx, hkey⟩ := mem_map.mp hmem
    have hnodup : ((w.filledUp cfg s rid).map (·.id)).Nodup := by
      rw [hshows.map_id]
      exact nodup_map_id newest_sorted
    have hlook : (w.redis.cacheAll cfg rid (w.filledUp cfg s rid)).message.lookup x.id = some x :=
      lookup_message_cacheAll hredis hnonzero hnodup hx
    obtain ⟨hid, htext⟩ := Prod.mk.inj hkey
    refine ⟨x.sender, ?_⟩
    rw [← hid, ← htext]
    exact hlook

theorem next_cache (m : SnapshotMessage) : (histories cfg).next w (.cache rid m) =
    { w with redis := w.redis.cacheMessage cfg rid m } := by
  show ((cacheRecentMessage cfg rid m).run (Op.exec cfg) .done w).1 = _
  rw [run_cacheRecentMessage]

section

variable (hlimit : 0 < cfg.recentLimit) (hmax : cfg.recentLimit ≤ cfg.maxListLen)
  (hdb : cfg.hasDb = true) (h : Ready cfg rid w)
include hlimit hmax hdb h

/-- One input that is in turn. -/
theorem ready_step {i : HistoryInput} (hi : InTurn cfg rid w i) :
    Ready cfg rid ((histories cfg).next w i) := by
  cases i with
  | line rid' room uid sender text =>
    have hnext : (histories cfg).next w (.line rid' room uid sender text) = { w with
          db := w.db.addMessage true rid' room uid text
          redis := w.redis.cacheMessage cfg rid' ⟨w.db.lastMessage + 1, sender, text⟩ } := by
      show ((storeLine cfg rid' room uid sender text).run (Op.exec cfg) .done w).1 = _
      rw [run_storeLine]
    rw [hnext]
    by_cases hrid : rid' = rid
    · subst hrid
      refine ⟨pos_addMessage h.pos, ?_⟩
      cases hredis : cfg.hasRedis with
      | false =>
        right
        rw [cacheMessage_of_not hredis]
        refine h.cache.resolve_left fun hc => ?_
        exact Bool.false_ne_true (hredis.symm.trans hc.hasRedis)
      | true =>
        left
        have hc : w.CacheComplete cfg rid' := by
          refine h.cache.elim id fun hnil => ?_
          have hnone : w.newest cfg rid' = [] := by
            rw [newest, hi rfl hredis hnil]
            exact drop_nil
          exact ⟨hredis, by rw [hnil, hnone, take_nil]; rfl, by simp [hnone]⟩
        exact hc.line hlimit hmax room uid sender text
    · refine h.of_eq (pos_addMessage h.pos) (messagesOf_addMessage_of_ne hrid room uid text) ?_ ?_
      · exact recentOf_cacheMessage_of_ne (Ne.symm hrid)
      · exact fun m hm => lookup_message_cacheMessage_of_ne (id_ne_lastMessage hm)
  | note rid' room uid text =>
    exact h.of_eq (pos_addMessage h.pos) (messagesOf_addMessage_of_ne hi room uid text) rfl
      fun _ _ => rfl
  | cache rid' m =>
    rw [next_cache]
    refine h.of_eq h.pos rfl (recentOf_cacheMessage_of_ne (Ne.symm hi.1)) fun row hrow => ?_
    exact lookup_message_cacheMessage_of_ne (hi.2 row (lastN_suffix.subset hrow))
  | snapshot s rid' =>
    have hnext : (histories cfg).next w (.snapshot s rid') =
        { w with redis := w.redis.cacheAll cfg rid' (w.filledUp cfg s rid') } := by
      show ((snapshotHistory cfg s (some rid')).run (Op.exec cfg) .done w).1 = _
      rw [run_snapshotHistory hlimit hdb]
    rw [hnext]
    by_cases hrid : rid' = rid
    · subst hrid
      refine ⟨h.pos, ?_⟩
      rcases h.cache with hc | hnil
      · rw [filledUp_of_cacheComplete hlimit h.pos hc]
        exact .inl hc
      · cases hredis : cfg.hasRedis with
        | true => exact .inl (cacheComplete_of_window hredis hlimit hmax h.pos hnil (hi rfl hnil))
        | false =>
          rw [cacheAll_of_not hredis]
          exact .inr hnil
    · refine h.of_eq h.pos rfl (recentOf_cacheAll_of_ne (Ne.symm hrid) _) fun m hm => ?_
      refine lookup_message_cacheAll_of_notMem fun hmem => ?_
      obtain ⟨x, hx, hid⟩ := mem_map.mp hmem
      obtain ⟨⟨row, hrow, hid'⟩, -⟩ := exists_row_of_mem_filledUp hx
      exact id_ne_of_messagesOf hrid hm hrow (hid.symm.trans hid'.symm)
  | expire id =>
    refine h.of_eq h.pos rfl rfl fun m hm => ?_
    show (w.redis.message.erase id).lookup m.id = _
    rw [Table.lookup_erase_ite, if_neg (hi m hm)]
  | seen uid rid' id =>
    have hmsgs : ((w.db.upsertJoin uid rid').setLastSeen uid rid' id).messages = w.db.messages := by
      rw [messages_setLastSeen, messages_upsertJoin]
    refine h.of_eq (fun m hm => h.pos m (hmsgs ▸ hm)) ?_ rfl fun _ _ => rfl
    show List.filter _ ((w.db.upsertJoin uid rid').setLastSeen uid rid' id).messages = _
    rw [hmsgs]
    rfl

/-- **Whole runs.** A room stays ready. -/
theorem ready_run {is : List HistoryInput} (his : (histories cfg).Guarded (InTurn cfg rid) w is) :
    Ready cfg rid ((histories cfg).run w is) :=
  (histories cfg).guarded_invariant (Ready cfg rid) (InTurn cfg rid)
    (fun _ _ hw hi => ready_step hlimit hmax hdb hw hi) h his

end

/-- A snapshot in its turn shows the newest messages. -/
theorem Ready.shows (hlimit : 0 < cfg.recentLimit) (hdb : cfg.hasDb = true) (h : Ready cfg rid w)
    (hi : InTurn cfg rid w (.snapshot s rid)) :
    Shows ((histories cfg).step w (.snapshot s rid)).2 (w.newest cfg rid) := by
  have hout : ((histories cfg).step w (.snapshot s rid)).2 = w.snapshotMessages cfg s rid := by
    show ((snapshotHistory cfg s (some rid)).run (Op.exec cfg) .done w).2.2 = _
    rw [run_snapshotHistory hlimit hdb]
  rw [hout]
  rcases h.cache with hc | hnil
  · exact messages_of_cacheComplete hlimit h.pos hc
  · exact messages_of_window hlimit hnil (hi rfl hnil)

end Ready

/-- **Snapshot history.** Where ids are positive and nothing is cached for a room yet, in every
    run that keeps its cache in turn each snapshot of the room shows exactly the newest
    messages, as many as the limit allows, with increasing ids. -/
theorem snapshot_shows_newest (cfg : Config) (hlimit : 1 ≤ cfg.recentLimit)
    (hmax : cfg.recentLimit ≤ cfg.maxListLen) (hdb : cfg.hasDb = true) (rid : RoomId) (w : World)
    (hpos : ∀ m ∈ w.db.messages, 0 < m.id) (hempty : w.redis.recentOf rid = [])
    (is : List HistoryInput) (his : (histories cfg).Guarded (InTurn cfg rid) w is)
    (e : Event World HistoryInput (List SnapshotMessage)) (he : e ∈ (histories cfg).trace w is)
    (s : Session) (hs : e.input = .snapshot s rid) :
    e.output.map (fun m => (m.id, m.text)) =
      (lastN cfg.recentLimit (e.pre.db.messagesOf rid)).map (fun m => (m.id, m.content)) ∧
    (e.output.map (·.id)).Pairwise (· < ·) := by
  obtain ⟨pre, post, rfl, hpre, hout⟩ := (histories cfg).mem_trace.mp he
  obtain ⟨hguard, hturn, -⟩ := ((histories cfg).guarded_append _ w pre _).mp his
  have hready : Ready cfg rid e.pre := by
    rw [hpre]
    exact ready_run hlimit hmax hdb ⟨hpos, .inr hempty⟩ hguard
  rw [← hpre, hs] at hturn
  have hshows : World.Shows e.output (e.pre.newest cfg rid) := by
    rw [hout, hs]
    exact hready.shows hlimit hdb hturn
  refine ⟨hshows, ?_⟩
  rw [hshows.map_id]
  exact pairwise_map.mpr World.newest_sorted

/-- A service with nothing stored. -/
def World.blank : World := ⟨{}, fun _ => false, [], {}, .blank⟩

/-- Two lines in one room and one in another, and a payload of the other that expires. -/
def threeLines : List HistoryInput :=
  [.line 0 "lobby" none "alice" "first", .line 1 "x" none "bob" "elsewhere",
    .line 0 "lobby" none "alice" "second", .expire 2]

theorem snapshot_shows_newest_lines :
    ((histories .sample).step ((histories .sample).run .blank threeLines)
      (.snapshot .one 0)).2.map (fun m => (m.id, m.text)) = [(1, "first"), (3, "second")] :=
  (snapshot_shows_newest .sample (by decide) (by decide) rfl 0 .blank (by decide) rfl
    (threeLines ++ [.snapshot .one 0]) (by decide +kernel) _
    ((histories .sample).mem_trace_last .blank threeLines (.snapshot .one 0)) .one rfl).1.trans
    (by decide +kernel)

/-- The numbers of the messages of a snapshot. -/
def Op.snapshotIds : Op → List ℕ
  | .send _ (.snapshot snap) => snap.messages.map (·.id)
  | _ => []

/-- Alice and bob log in, which leaves two notes in the lobby, and bob says something.  The
    three messages come to alice with bob's line in front. -/
theorem snapshot_out_of_order :
    ∃ act ∈ (samples.step (samples.run (.fresh 1 {})
        (bothInLobby ++ bobChats 2 30 ++ serve 0 3 18 (.refresh .one)))
        (.inst 0 (.advance 3 .done))).2,
      act.op.snapshotIds = [3, 1, 2] ∧
      ((samples.run (.fresh 1 {})
        (bothInLobby ++ bobChats 2 30)).stores.db.messagesOf 0).map (·.id) = [1, 2, 3] := by
  decide +kernel

/-! ### The cache on its own -/

section Cache

variable {cfg : Config} {rid : RoomId} {w : World}

theorem run_cache (ms : List SnapshotMessage) : (histories cfg).run w (ms.map (.cache rid)) =
      { w with redis := w.redis.cacheAll cfg rid ms } := by
  induction ms generalizing w with
  | nil => rfl
  | cons m ms ih =>
    rw [map_cons, Machine.run_cons, next_cache, ih]
    rfl

theorem run_expire (lost : List ℕ) :
    ((histories cfg).run w (lost.map .expire)).redis.recent = w.redis.recent ∧
      ∀ id, ((histories cfg).run w (lost.map .expire)).redis.message.lookup id =
        if id ∈ lost then none else w.redis.message.lookup id := by
  induction lost generalizing w with
  | nil => simp
  | cons id' lost ih =>
    obtain ⟨hrecent, hlookup⟩ := ih (w := (histories cfg).next w (.expire id'))
    refine ⟨hrecent, fun id => (hlookup id).trans ?_⟩
    show (if id ∈ lost then none else (w.redis.message.erase id').lookup id) = _
    rw [Table.lookup_erase_ite]
    by_cases hid : id = id' <;> simp [hid]

/-- **Round trip of the cache.** Messages with increasing ids are cached one after another in a
    room with an empty list, and some payloads are lost, or no longer readable.  Loading gives
    what is left of the last `recentLimit` messages, in their order, however the payloads are
    read, and is a miss if that is nothing. -/
theorem load_cached (cfg : Config) (rid : RoomId) (w : World) (ms : List SnapshotMessage)
    (lost : List ℕ) (batch : Bool) (hredis : cfg.hasRedis = true)
    (hlimit : 1 ≤ cfg.recentLimit) (hlen : cfg.recentLimit ≤ cfg.maxListLen)
    (hempty : w.redis.recentOf rid = []) (hzero : ∀ m ∈ ms, m.id ≠ 0)
    (hsorted : ms.Pairwise fun a b => a.id < b.id) :
    ((loadRecentMessages cfg rid).run (execBatch cfg) batch
        ((histories cfg).run w (ms.map (.cache rid) ++ lost.map .expire))).2 =
      if (lastN cfg.recentLimit ms).filter (·.id ∉ lost) = [] then none
      else some ((lastN cfg.recentLimit ms).filter (·.id ∉ lost)) := by
  rw [Machine.run_append, run_cache, run_loadRecentMessages]
  obtain ⟨hrecent, hlookup⟩ := @run_expire cfg { w with redis := w.redis.cacheAll cfg rid ms } lost
  generalize (histories cfg).run _ (lost.map .expire) = w' at hrecent hlookup ⊢
  have hvalid : ((w'.redis.recentOf rid).take cfg.recentLimit).filter (· ≠ 0) =
      ((lastN cfg.recentLimit ms).map (·.id)).reverse := by
    rw [recentOf, hrecent, ← recentOf, recentOf_cacheAll hredis hzero (by simp [hempty]), hempty,
      append_nil, take_take, min_eq_left hlen, ← reverse_lastN, lastN_map, filter_eq_self]
    intro id hid
    obtain ⟨m, hm, rfl⟩ := mem_map.mp (mem_reverse.mp hid)
    simpa using hzero m (lastN_suffix.subset hm)
  have hnodup : (ms.map (·.id)).Nodup := (pairwise_map.mpr hsorted).imp Nat.ne_of_lt
  have hread : ∀ {l : List SnapshotMessage}, l ⊆ ms →
      (l.map (·.id)).filterMap w'.redis.message.lookup = l.filter (·.id ∉ lost) := by
    intro l hl
    induction l with
    | nil => rfl
    | cons m l ih =>
      rw [map_cons, filterMap_cons, hlookup, ih (subset_of_cons_subset hl), filter_cons,
        lookup_message_cacheAll hredis hzero hnodup (hl mem_cons_self)]
      by_cases hm : m.id ∈ lost <;> simp [hm]
  rw [cachedRecent, hvalid, filterMap_reverse, hread lastN_suffix.subset, reverse_reverse]
  simp only [show cfg.recentLimit ≠ 0 by omega, false_or, reverse_eq_nil_iff]

/-- Three messages and a limit of two, with one payload lost. -/
theorem load_cached_two : ((loadRecentMessages { Config.sample with recentLimit := 2 } 0).run
      (execBatch { Config.sample with recentLimit := 2 }) false
      ((histories { Config.sample with recentLimit := 2 }).run .blank
        [.cache 0 ⟨3, "a", "x"⟩, .cache 0 ⟨5, "b", "y"⟩, .cache 0 ⟨9, "a", "z"⟩, .expire 5])).2 =
      some [⟨9, "a", "z"⟩] :=
  load_cached { Config.sample with recentLimit := 2 } 0 .blank
    [⟨3, "a", "x"⟩, ⟨5, "b", "y"⟩, ⟨9, "a", "z"⟩] [5] false rfl (by decide) (by decide) rfl
    (by decide) (by decide)

end Cache

end Knights.Chat
