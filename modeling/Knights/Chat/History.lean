import Knights.Chat.Knowledge

namespace Knights.Chat

open Lib List Table Db

/-!
# Histories of rooms

Lines of chat are stored under the id of a room's row and shown in snapshots of the room.  On
the way they pass through caches: the room ids that services keep, and in Redis the recent
messages of a room id and the texts of messages.  `Coherent` says that all of these agree with
the database, and `coherent_run` that they always do.

Rows are found by name, case aside, while rooms are told apart by their exact names.  So
`rooms_keep_apart` is about rooms whose names differ in more than case: no message said in one
of them is shown in a snapshot of the other.  A message may be shown although its transaction was
not committed, since its id is cached all the same.
-/

/-- The snapshot that an action sends, and to whom. -/
def Action.shows? (act : Action) : Option (Session × Snapshot) :=
  match act.op with
  | .send t (.snapshot snap) => some (t, snap)
  | _ => none

theorem Action.eq_send_of_shows {act : Action} {t : Session} {snap : Snapshot}
    (h : act.shows? = some (t, snap)) :
    ∃ i k j ans, act = ⟨i, k, j, .send t (.snapshot snap), ans⟩ := by
  obtain ⟨i, k, j, o, ans⟩ := act
  unfold shows? at h
  dsimp only at h
  split at h
  · obtain ⟨rfl, rfl⟩ := Prod.mk.inj (Option.some.inj h)
    exact ⟨i, k, j, ans, rfl⟩
  · cases h

/-! ### Coherent stores -/

/-- Redis agrees with the database, and messages are stored under rows of their rooms, case
    aside. -/
structure Stores.Coherent (lower : String → String) (y : Stores) : Prop where
  named : ∀ m ∈ y.db.messages, (Fact.roomRow m.roomName m.roomId).Holds lower y.db
  recent : ∀ rid, ∀ id ∈ y.redis.recentOf rid, (Fact.listed rid id).Holds lower y.db
  cached : ∀ id m, y.redis.message.lookup id = some m →
    m.id = id ∧ (Fact.text id m.text).Holds lower y.db

section Stores

variable {lower : String → String} {cfg : Config} {j : Job} {y : Stores} {fate : Fate} {d : Db}

theorem Stores.coherent_empty : Stores.Coherent lower {} :=
  ⟨fun _ h => (nomatch h), fun _ _ h => (nomatch h), fun _ _ h => (nomatch h)⟩

/-- A job that knows what is true leaves Redis in agreement with the database. -/
theorem Stores.Coherent.redis {c : Redis.Cmd} (h : y.Coherent lower)
    (hneed : Needs cfg j {f | f.Holds lower y.db} (.redis c)) :
    Stores.Coherent lower ⟨(Redis.exec c fate y.redis).1, y.db⟩ := by
  have happly : Stores.Coherent lower ⟨y.redis.apply c, y.db⟩ := by
    cases c
    case setexMessage id m =>
      refine ⟨h.named, h.recent, fun id' m' hm' => ?_⟩
      obtain ⟨rfl, rfl⟩ | ⟨-, hm'⟩ := lookup_insert_eq_some.mp hm'
      · exact hneed
      · exact h.cached id' m' hm'
    case lpushTrimRecent rid id maxLen =>
      refine ⟨h.named, fun rid' id' hid' => ?_, h.cached⟩
      change id' ∈ ((y.redis.recent.insert rid _).lookup rid').getD [] at hid'
      rw [lookup_insert_ite] at hid'
      split_ifs at hid' with hrid
      · obtain rfl | hold := mem_cons.mp (mem_of_mem_take hid')
        · exact hrid ▸ hneed
        · exact h.recent rid' id' (hrid ▸ hold)
      · exact h.recent rid' id' hid'
    all_goals exact ⟨h.named, h.recent, h.cached⟩
  cases fate with
  | done | unanswered => exact happly
  | lost | aborted => exact h

@[simp] theorem messages_setLastSeen {uid : UserId} {rid : RoomId} {id : ℕ} :
    (d.setLastSeen uid rid id).messages = d.messages := by
  obtain ⟨seen, hseen⟩ := d.setLastSeen_eq uid rid id
  rw [hseen]

@[simp] theorem messages_upsertJoin {uid : UserId} {rid : RoomId} :
    (d.upsertJoin uid rid).messages = d.messages := by
  obtain ⟨seen, hseen⟩ := d.upsertJoin_eq uid rid
  rw [hseen]

/-- Messages come from lines that are stored. -/
theorem mem_messages_apply {committed : Bool} {c : Db.Cmd} {m : MessageRow}
    (hm : m ∈ (d.apply committed c).messages) :
    m ∈ d.messages ∨ ∃ uid content, c = .createMessage m.roomId m.roomName uid content := by
  cases c
  case createMessage rid room uid content =>
    obtain hm | hm := mem_append.mp hm
    · exact .inl hm
    · rw [mem_singleton.mp hm]
      exact .inr ⟨uid, content, rfl⟩
  case upsertJoin uid rid => exact .inl (messages_upsertJoin ▸ hm)
  case updateLastSeen uid rid id => exact .inl (messages_setLastSeen ▸ hm)
  all_goals exact .inl hm

theorem eq_of_message_id {m m' : MessageRow} (hm : m ∈ d.messages) (hm' : m' ∈ d.messages)
    (hid : m.id = m'.id) : m = m' := by
  have hnodup : (d.messages.map MessageRow.id).Nodup :=
    pairwise_map.mpr (d.messages_sorted.imp Nat.ne_of_lt)
  exact inj_on_of_nodup_map hnodup hm hm' hid

/-- A job that knows what is true stores messages under rows of their rooms. -/
theorem Stores.Coherent.db {c : Db.Cmd} (h : y.Coherent lower)
    (hneed : Needs cfg j {f | f.Holds lower y.db} (.db c)) :
    Stores.Coherent lower ⟨y.redis, (Db.exec lower c fate y.db).1⟩ := by
  have hgrows := grows_exec lower c fate y.db
  refine ⟨fun m hm => ?_, fun rid id hid => (h.recent rid id hid).mono hgrows, fun id m hm => ?_⟩
  · have hold : m ∈ y.db.messages ∨
        ∃ uid content, c = .createMessage m.roomId m.roomName uid content := by
      obtain hsame | ⟨committed, hdb, -⟩ := exec_cases lower c fate y.db
      · exact .inl (hsame ▸ hm)
      · exact mem_messages_apply (hdb ▸ hm)
    obtain hold | ⟨uid, content, rfl⟩ := hold
    · exact (h.named m hold).mono hgrows
    · exact Fact.Holds.mono hgrows hneed.1
  · obtain ⟨hid, htext⟩ := h.cached id m hm
    exact ⟨hid, htext.mono hgrows⟩

end Stores

/-! ### Coherent clusters -/

namespace Cluster

/-- The stores are coherent, room ids are cached under names of their rows, case aside, and the
    jobs act on what is true. -/
structure Coherent (cfg : ℕ → Config) (lower : String → String) (c : Cluster) : Prop where
  stores : c.stores.Coherent lower
  ids : c.All fun _ x => ∀ room rid, x.st.roomIds.lookup room = some rid →
    (Fact.roomRow room rid).Holds lower c.stores.db
  informed : c.Informed cfg fun _ _ => {f | f.Holds lower c.stores.db}

end Cluster

/-- What an operation tells is true afterwards, if the caches are coherent. -/
theorem holds_of_learned {lower : String → String} {cfg : Config} (hlower : cfg.lower = lower)
    {x : Instance} {y : Stores} (hy : y.Coherent lower)
    (hids : ∀ room rid, x.st.roomIds.lookup room = some rid →
      (Fact.roomRow room rid).Holds lower y.db)
    {o : Op} {fate : Fate} {f : Fact} (h : f ∈ learned o (o.exec cfg fate (x.world y)).2) :
    f.Holds lower (o.exec cfg fate (x.world y)).1.db := by
  cases o with
  | db c =>
    have hlearned : f ∈ learned (.db c) (Db.exec lower c fate y.db).2 := hlower ▸ h
    have hholds := holds_of_learned_db hlearned
    exact hlower ▸ hholds
  | lock c =>
    have htells := tells_of_learned h
    generalize hans : (Op.exec cfg (.lock c) fate (x.world y)).2 = ans at htells
    cases htells with
    | roomId room id => exact hids room id hans
    | joined | mayList | located | cleared | passed | audience | named | hearers | remoteHearers =>
      trivial
  | redis c =>
    have htells := tells_of_learned h
    generalize hans : (Op.exec cfg (.redis c) fate (x.world y)).2 = ans at htells
    cases htells with
    | password room value => trivial
    | recent rid count ids id hid =>
      cases fate with
      | done =>
        obtain rfl : (y.redis.recentOf rid).take count = ids := Option.some.inj hans
        exact hy.recent rid id (mem_of_mem_take hid)
      | lost | unanswered | aborted => cases hans
    | cached ids ms m hm =>
      cases fate with
      | done =>
        obtain rfl : ids.map y.redis.message.lookup = ms := Option.some.inj hans
        obtain ⟨id, hid, hm⟩ := mem_map.mp hm
        obtain ⟨rfl, htext⟩ := hy.cached id m hm
        exact ⟨hid, htext⟩
      | lost | unanswered | aborted => cases hans
    | cachedOne id m =>
      cases fate with
      | done =>
        obtain ⟨rfl, htext⟩ := hy.cached id m hans
        exact ⟨mem_singleton.mpr rfl, htext⟩
      | lost | unanswered | aborted => cases hans
  | send | stop => cases h

namespace Cluster

variable {cfg : ℕ → Config} {lower : String → String} {c : Cluster} {inp : Input}

section

variable (hlower : ∀ i, (cfg i).lower = lower)
include hlower

/-- What an action tells is true after it. -/
theorem Coherent.holds_of_step (h : c.Coherent cfg lower)
    {act : Action} (hact : ((cluster cfg).step c inp).2 = some act) :
    learned act.op act.ans ⊆ {f | f.Holds lower ((cluster cfg).next c inp).stores.db} := by
  intro f hf
  obtain ⟨x, fate, hx, hans, hnext⟩ := exec_of_step hact
  rw [hans] at hf
  have hholds := holds_of_learned (hlower act.inst) h.stores (h.ids act.inst x hx) hf
  rw [Set.mem_ofPred_eq, hnext]
  exact hholds

theorem Coherent.stores_next (h : c.Coherent cfg lower)
    (inp : Input) : ((cluster cfg).next c inp).stores.Coherent lower := by
  cases hact : ((cluster cfg).step c inp).2 with
  | none =>
    obtain hsame | ⟨room, rfl⟩ | ⟨id, rfl⟩ := stores_of_no_action hact
    · exact hsame ▸ h.stores
    · exact ⟨h.stores.named, h.stores.recent, h.stores.cached⟩
    · refine ⟨h.stores.named, h.stores.recent, fun id' m hm => ?_⟩
      change (c.stores.redis.message.erase id).lookup id' = some m at hm
      rw [lookup_erase_ite] at hm
      split_ifs at hm
      exact h.stores.cached id' m hm
  | some act =>
    obtain ⟨x, fate, -, -, hstores⟩ := exec_of_step hact
    have hneed := needed_of_step h.informed hact
    rw [hstores]
    obtain ⟨i, k, j, o, a⟩ := act
    cases o with
    | redis cmd => exact h.stores.redis hneed
    | db cmd =>
      have hdb : Stores.Coherent lower
          ⟨c.stores.redis, (Db.exec lower cmd fate c.stores.db).1⟩ := h.stores.db hneed
      exact (hlower i).symm ▸ hdb
    | lock | send | stop => exact h.stores

/-- **Coherent steps.** -/
theorem coherent_next (h : c.Coherent cfg lower)
    (inp : Input) : ((cluster cfg).next c inp).Coherent cfg lower := by
  have hgrows := grows_next cfg c inp
  refine ⟨h.stores_next hlower inp, fun i z hz room rid hrid => ?_, ?_⟩
  · obtain ⟨x, hx, hsame | ⟨inp', j, cr, rfl, hperforms, hst⟩⟩ := st_next hz
    · exact (h.ids i x hx room rid (hsame ▸ hrid)).mono hgrows
    · rw [hst] at hrid
      obtain hold | rfl := roomIds_exec hrid
      · exact (h.ids i x hx room rid hold).mono hgrows
      · obtain ⟨k, hneed⟩ := needed_of_section h.informed hx hperforms
        exact Fact.Holds.mono hgrows hneed
  · -- what was true stays true, and what is learned is true
    exact informed_next h.informed (fun _ _ f hf => Fact.Holds.mono hgrows hf)
      fun act hact => h.holds_of_step hlower hact

variable {n : ℕ} {stores : Stores}

/-- **Coherent runs.** -/
theorem coherent_run (n : ℕ) (hstores : stores.Coherent lower)
    (is : List Input) : ((cluster cfg).run (fresh n stores) is).Coherent cfg lower := by
  refine (cluster cfg).run_invariant (Coherent cfg lower)
    (fun _ inp h => coherent_next hlower h inp) ⟨hstores, ?_, informed_fresh _ n stores⟩ is
  exact all_fresh (fun _ room rid hrid => (nomatch hrid)) n stores

end

theorem grows_run (cfg : ℕ → Config) (c : Cluster) (is : List Input) :
    c.stores.db.Grows ((cluster cfg).run c is).stores.db :=
  (cluster cfg).run_invariant (fun c' => c.stores.db.Grows c'.stores.db)
    (fun c' inp h => h.trans (grows_next cfg c' inp)) (.refl _) is

/-- What is sent in a snapshot was stored, under a name that is the room's, case aside. -/
theorem stored_of_shown (h : c.Coherent cfg lower) {i k : ℕ} {j : Job} {t : Session}
    {snap : Snapshot} {ans : Unit}
    (hout : ((cluster cfg).step c inp).2 = some ⟨i, k, j, .send t (.snapshot snap), ans⟩)
    {m : SnapshotMessage} (hm : m ∈ snap.messages) :
    ∃ row ∈ c.stores.db.messages, row.id = m.id ∧ row.content = m.text ∧
      lower row.roomName = lower snap.currentRoom := by
  have hneed := needed_of_step h.informed hout
  obtain ⟨rid, hroom, hknown⟩ := hneed.1 (ne_nil_of_mem hm)
  -- the message is listed under the id of the room, and has its text
  have hlisted : (Fact.listed rid m.id).Holds lower c.stores.db ∧
      (Fact.text m.id m.text).Holds lower c.stores.db := by
    obtain ⟨hlisted, htext⟩ | ⟨ids, ⟨hid, htext⟩, hlisted⟩ := hknown m hm
    · exact ⟨hlisted, htext⟩
    · exact ⟨hlisted m.id hid, htext⟩
  obtain ⟨⟨row, hrow, hid, hrid⟩, row', hrow', hid', htext⟩ := hlisted
  obtain rfl := eq_of_message_id hrow hrow' (hid.trans hid'.symm)
  obtain ⟨r, hr, hrow_id, hname⟩ := h.stores.named row hrow
  obtain ⟨r', hr', hroom_id, hname'⟩ := hroom
  obtain rfl := inj_on_of_nodup_map c.stores.db.rooms_nodup hr hr'
    (hrow_id.trans (hrid.trans hroom_id.symm))
  exact ⟨row, hrow, hid, htext, hname.symm.trans hname'⟩

/-- **Rooms keep their history to themselves.** In any run of services on coherent stores, what a
    snapshot shows was written for its room, case aside, and no row of a room whose name differs
    in more than case has its number.  The rows are all that has been written up to the end of the
    run, those included whose answer was lost or whose transaction was not committed. -/
theorem rooms_keep_apart (cfg : ℕ → Config) (lower : String → String)
    (hlower : ∀ i, (cfg i).lower = lower) (n : ℕ) (stores : Stores)
    (hstores : stores.Coherent lower) (is : List Input) :
    ∀ e ∈ (cluster cfg).trace (fresh n stores) is, ∀ act ∈ e.output, ∀ t snap,
      act.shows? = some (t, snap) → ∀ m ∈ snap.messages,
    (∃ row ∈ e.pre.stores.db.messages, row.id = m.id ∧ row.content = m.text ∧
      lower row.roomName = lower snap.currentRoom) ∧
    ∀ row ∈ ((cluster cfg).run (fresh n stores) is).stores.db.messages,
      lower row.roomName ≠ lower snap.currentRoom → row.id ≠ m.id := by
  intro e he act hact t snap hshown m hm
  obtain ⟨pre, post, his, hpre, hout⟩ := (cluster cfg).mem_trace.mp he
  have hcoh := coherent_run hlower n hstores pre
  rw [← hpre] at hcoh
  obtain ⟨i, k, j, ans, rfl⟩ := Action.eq_send_of_shows hshown
  obtain ⟨row, hrow, hid, htext, hname⟩ := stored_of_shown hcoh (hout.symm.trans hact) hm
  refine ⟨⟨row, hrow, hid, htext, hname⟩, fun row' hrow' hne hid' => hne ?_⟩
  -- at the end of the run there is one row with the number
  have hrun : (cluster cfg).run (fresh n stores) is =
      (cluster cfg).run e.pre (e.input :: post) := by
    rw [his, (cluster cfg).run_append, hpre]
  rw [hrun] at hrow'
  have hlast := (grows_run cfg e.pre (e.input :: post)).messages row hrow
  obtain rfl := eq_of_message_id hlast hrow' (hid.trans hid'.symm)
  exact hname

end Cluster

/-- A session says something in a room with a password, and another one joins a second room.
    `fate` is what becomes of the line's transaction. -/
def twoRooms (fate : Fate) (first second : String) : List Cluster.Input :=
  logIn 0 0 .one "alice" ++ logIn 0 1 .two "bob" ++
  serve 0 2 60 (.join .one first "pw" "" none) ++
  serve 0 3 5 (.chat .one first "secret" 0 .pass) ++
  [.inst 0 (.advance 3 fate)] ++ work 0 3 30 ++
  serve 0 4 60 (.join .two second "" "" none)

/-- The line has number 3 and is cached without a commit; it is in no snapshot of the second room,
    of which one is sent. -/
theorem rooms_keep_apart_twoRooms :
    (∃ row ∈ (samples.run (.fresh 1 {}) (twoRooms .aborted "x" "y")).stores.db.messages,
        row.id = 3 ∧ row.roomName = "x" ∧ row.committed = false) ∧
    (samples.run (.fresh 1 {}) (twoRooms .aborted "x" "y")).stores.redis.message.lookup 3 =
        some ⟨3, "alice", "secret"⟩ ∧
    (∃ e ∈ samples.trace (.fresh 1 {}) (twoRooms .aborted "x" "y"),
      ∃ act ∈ e.output, ∃ shown ∈ act.shows?, shown.2.currentRoom = "y") ∧
    ∀ e ∈ samples.trace (.fresh 1 {}) (twoRooms .aborted "x" "y"),
      ∀ act ∈ e.output, ∀ t snap, act.shows? = some (t, snap) → snap.currentRoom = "y" →
        ∀ m ∈ snap.messages, m.id ≠ 3 := by
  have hsaid : ∃ row ∈ (samples.run (.fresh 1 {}) (twoRooms .aborted "x" "y")).stores.db.messages,
        row.id = 3 ∧ row.roomName = "x" ∧ row.committed = false := by
    decide +kernel
  refine ⟨hsaid, by decide +kernel, by decide +kernel, ?_⟩
  intro e he act hact t snap hshown hroom m hm hid
  obtain ⟨row, hrow, hrow_id, hname, -⟩ := hsaid
  unfold samples at hrow
  obtain ⟨-, hapart⟩ := Cluster.rooms_keep_apart (fun _ => .sample) toLowerAscii (fun _ => rfl) 1
    {} Stores.coherent_empty (twoRooms .aborted "x" "y") e he act hact t snap hshown m hm
  have hne : toLowerAscii row.roomName ≠ toLowerAscii snap.currentRoom := by
    rw [hname, hroom]
    decide +kernel
  exact hapart row hrow hne (hrow_id.trans hid.symm)

/-- Names that differ in case only: the line is in the snapshot of the other room, which has no
    password. -/
theorem twoRooms_share_history :
    (∃ row ∈ (samples.run (.fresh 1 {}) (twoRooms .done "Room" "room")).stores.db.messages,
        row.id = 3 ∧ row.roomName = "Room") ∧
    ∃ e ∈ samples.trace (.fresh 1 {}) (twoRooms .done "Room" "room"),
      ∃ act ∈ e.output, ∃ shown ∈ act.shows?, shown.1 = .two ∧ shown.2.currentRoom = "room" ∧
        ⟨3, "alice", "secret"⟩ ∈ shown.2.messages ∧
        e.pre.stores.redis.password.lookup "Room" = some "sha256:pw" ∧
        e.pre.stores.redis.password.lookup "room" = none := by
  constructor
  · decide +kernel
  · decide +kernel

end Knights.Chat
