import Knights.Chat.Cluster
import Knights.Chat.Discipline

namespace Knights.Chat

open Lib List Cluster

/-!
# What holds of every service

The invariants of this module hold after every run, whatever the clients do:

* sessions that are alive have different addresses;
* a job that is under way keeps its session alive;
* rooms and the reverse index mention only sessions that were accepted;
* jobs act as their discipline says, so that a section acts for the session of its job.

`Sound` collects them and `sound_step` shows that steps keep them.  With them, `state_step`
reduces what a step does to the tables to what a section does that acts for a living session.
-/

/-- The session an input brings. -/
def Input.accepted? : Input → Option Session
  | .accept s => some s
  | _ => none

/-- The session an input ends. -/
def Input.destroyed? : Input → Option Session
  | .destroy s => some s
  | _ => none

/-- The login that an operation makes take effect. -/
def Op.login? : Op → Option (Session × State.Login)
  | .lock (.loginCommit s l) => some (s, l)
  | _ => none

theorem Op.login?_eq_some {o : Op} {s : Session} {l : State.Login} :
    o.login? = some (s, l) ↔ o = .lock (.loginCommit s l) := by
  constructor
  · intro h
    unfold Op.login? at h
    split at h
    · cases h
      rfl
    · cases h
  · rintro rfl
    rfl

/-- What is asked of logins only can be decided. -/
instance decidableOnLogin (Q : Session → State.Login → Prop) [∀ s l, Decidable (Q s l)] (o : Op) :
    Decidable (∀ s l, o = .lock (.loginCommit s l) → Q s l) :=
  decidable_of_iff (∀ sl ∈ o.login?, Q sl.1 sl.2)
    ⟨fun h s l ho => h (s, l) (Op.login?_eq_some.mpr ho),
      fun h sl hsl => h sl.1 sl.2 (Op.login?_eq_some.mp hsl)⟩

namespace Instance

variable {cfg : Config} {x : Instance} {y : Stores} {s t : Session} {j : Job} {k : ℕ} {o : Op}
  {p : o.Ans → Handler Unit} {fate : Fate}

/-- The session was accepted at some time. -/
def known (x : Instance) (s : Session) : Prop := x.sessions.lookup s ≠ none

/-- What holds of a service after every run. -/
structure Sound (cfg : Config) (x : Instance) : Prop where
  obeys : Pool.AllObey (discipline cfg) (fun _ => Set.univ) x.tasks
  addr_inj : ∀ p q, x.live p = true → x.live q = true → p.addr = q.addr → p = q
  held : ∀ tp ∈ x.tasks, tp.2.isDone = false → ∀ s, tp.1.session = some s → x.live s = true
  known_rooms : ∀ r, ∀ p ∈ membersOf x.st.rooms r, x.known p
  known_byUser : ∀ n, ∀ p ∈ membersOf x.st.byUser n, x.known p

theorem live_setPhase (s t : Session) (ph : Phase) :
    (x.setPhase s ph).live t = if t = s then decide (ph ≠ .gone) else x.live t := by
  unfold live setPhase
  rw [Table.lookup_insert_ite]
  split_ifs with hts
  · cases ph <;> rfl
  · rfl

theorem live_connected_iff : (x.setPhase s .connected).live t = true ↔ t = s ∨ x.live t = true := by
  rw [live_setPhase]
  split_ifs with hts <;> simp [hts]

theorem live_gone_iff : (x.setPhase s .gone).live t = true ↔ t ≠ s ∧ x.live t = true := by
  rw [live_setPhase]
  split_ifs with hts <;> simp [hts]

/-- What holds of all sessions when one has come. -/
theorem forall_live_connected {Q : Session → Prop} :
    (∀ t, (x.setPhase s .connected).live t = true → Q t) ↔ Q s ∧ ∀ t, x.live t = true → Q t := by
  simp only [live_connected_iff, or_imp, forall_and, forall_eq]

theorem known_setPhase {ph : Phase} (h : x.known t) : (x.setPhase s ph).known t := by
  unfold known setPhase
  rw [Table.lookup_insert_ite]
  split_ifs
  · exact Option.some_ne_none _
  · exact h

theorem known_of_live (h : x.live s = true) : x.known s := by
  intro hnone
  unfold live at h
  rw [hnone] at h
  cases h

/-- A session that may be accepted is new, and nobody alive has its address. -/
theorem mayAccept_iff : x.mayAccept s = true ↔
    ∀ t, x.known t → t.id ≠ s.id ∧ (x.live t = true → t.addr ≠ s.addr) := by
  unfold mayAccept known
  rw [all_eq_true]
  have hkey : ∀ t, t ∈ x.sessions.keys ↔ x.sessions.lookup t ≠ none := by
    intro t
    rw [Ne, AList.lookup_eq_none, not_not]
    rfl
  refine forall_congr' fun t => ?_
  rw [hkey]
  refine imp_congr_right fun _ => ?_
  cases x.live t <;> simp

theorem not_known_of_mayAccept (h : x.mayAccept s = true) : ¬ x.known s :=
  fun hs => (mayAccept_iff.mp h s hs).1 rfl

/-- The session that a section acts for is that of the job. -/
theorem session_of_needs {K : Set Fact} {c : Critical} (h : Needs cfg j K (.lock c))
    (hs : c.actor = some s) : j.session = some s := by
  cases c
  case sessionUuid t fresh => exact (h : j.session = some t).trans hs
  case register t => exact (h : j.session = some t).trans hs
  case loginCommit t l =>
    obtain ⟨⟨req, rfl⟩, -⟩ := h
    exact hs
  case setUserUuid t name uid => exact h.1.trans hs
  case leave t room denied => exact (h : j.session = some t).trans hs
  case kick t target room => exact h.1.trans hs
  case removeRoom t room => exact h.1.trans hs
  case join t req =>
    obtain ⟨room, fresh, denied, rfl, -⟩ := h
    exact hs
  case close t =>
    obtain ⟨fresh, rfl⟩ := h
    exact hs
  all_goals cases hs

/-- A task that has an operation to perform. -/
theorem needs_of_task (hx : x.Sound cfg) (h : x.tasks[k]? = some (j, .act o p)) :
    Needs cfg j Set.univ o :=
  (hx.obeys k _ h).1

/-- A section acts for a session that is alive. -/
theorem live_of_actor (hx : x.Sound cfg) {c : Critical} {p : c.Ans → Handler Unit}
    (h : x.tasks[k]? = some (j, .act (.lock c) p)) (hs : c.actor = some s) : x.live s = true :=
  hx.held _ (mem_of_getElem? h) rfl s (session_of_needs (needs_of_task hx h) hs)

/-- The tables after an operation: those after its section, if it is one. -/
theorem st_exec {P : State → Prop} {w : World} (h : P w.st)
    (hlock : ∀ c, o = .lock c → P (c.exec cfg w.live w.st).1) :
    P (o.exec cfg fate w).1.st := by
  cases o with
  | lock c => exact hlock c rfl
  | redis | db | send | stop => exact h

theorem sound_enqueue (hx : x.Sound cfg) (hj : ∀ s, j.session = some s → x.live s = true) :
    (x.enqueue cfg j).Sound cfg where
  obeys := hx.obeys.concat obeys_handler
  addr_inj := hx.addr_inj
  held := by
    intro tp htp hdone s hs
    obtain htp | htp := mem_append.mp htp
    · exact hx.held tp htp hdone s hs
    · rw [mem_singleton.mp htp] at hs
      exact hj s hs
  known_rooms := hx.known_rooms
  known_byUser := hx.known_byUser

theorem live_of_connected (h : x.sessions.lookup s = some .connected) : x.live s = true := by
  unfold live
  rw [h]

theorem live_of_maySubmit (h : x.maySubmit j = true) (hs : j.session = some s) :
    x.live s = true := by
  unfold maySubmit at h
  rw [hs] at h
  exact live_of_connected (of_decide_eq_true (Bool.and_eq_true_iff.mp h).2)

/-- A session may come, or go once no job holds it. -/
theorem sound_setPhase (hx : x.Sound cfg) {ph : Phase}
    (haddr : ph ≠ .gone → ∀ t, x.live t = true → t.addr = s.addr → t = s)
    (hheld : ph = .gone → ∀ tp ∈ x.tasks, tp.2.isDone = false → tp.1.session ≠ some s) :
    (x.setPhase s ph).Sound cfg where
  obeys := hx.obeys
  addr_inj := by
    intro p q hp hq hpq
    rw [live_setPhase] at hp hq
    split_ifs at hp hq with hps hqs hqs
    · rw [hps, hqs]
    · have hne : ph ≠ .gone := by simpa using hp
      rw [hps, haddr hne q hq (hpq ▸ hps ▸ rfl)]
    · have hne : ph ≠ .gone := by simpa using hq
      rw [hqs, haddr hne p hp (hpq ▸ hqs ▸ rfl)]
    · exact hx.addr_inj p q hp hq hpq
  held := by
    intro tp htp hdone t ht
    rw [live_setPhase]
    split_ifs with hts
    · subst hts
      have hne : ph ≠ .gone := fun hgone => hheld hgone tp htp hdone ht
      simpa using hne
    · exact hx.held tp htp hdone t ht
  known_rooms := fun r p hp => known_setPhase (hx.known_rooms r p hp)
  known_byUser := fun n p hp => known_setPhase (hx.known_byUser n p hp)

theorem sound_perform (hx : x.Sound cfg) (h : x.tasks[k]? = some (j, .act o p)) :
    (x.after (x.tasks.set k (j, p (o.exec cfg fate (x.world y)).2))
      (o.exec cfg fate (x.world y)).1).1.Sound cfg where
  obeys := by
    have hadv := Pool.allObey_advance (Op.exec cfg) fate (k := k) (w := x.world y) hx.obeys
      (fun _ => subset_rfl) fun _ _ _ => Set.subset_univ _
    rw [Pool.advance_of_getElem? (Op.exec cfg) fate h] at hadv
    exact hadv
  addr_inj := hx.addr_inj
  held := by
    intro tp htp hdone s hs
    obtain htp | htp := mem_or_eq_of_mem_set htp
    · exact hx.held tp htp hdone s hs
    · subst htp
      exact hx.held _ (mem_of_getElem? h) rfl s hs
  known_rooms := by
    refine st_exec (P := fun st => ∀ r, ∀ q ∈ membersOf st.rooms r, x.known q) hx.known_rooms ?_
    rintro c rfl r q hq
    obtain hq | ⟨-, ⟨l, rfl⟩ | ⟨room, denied, rfl, -⟩ | ⟨-, n, hq⟩ | ⟨r', hq⟩⟩ | ⟨req, rfl, -⟩ :=
      entered_exec hq
    · exact hx.known_rooms r q hq
    · exact known_of_live (live_of_actor hx h rfl)
    · exact known_of_live (live_of_actor hx h rfl)
    · exact hx.known_byUser n q hq
    · exact hx.known_rooms r' q hq
    · exact known_of_live (live_of_actor hx h rfl)
  known_byUser := by
    refine st_exec (P := fun st => ∀ n, ∀ q ∈ membersOf st.byUser n, x.known q) hx.known_byUser ?_
    rintro c rfl n q hq
    obtain hq | ⟨l, rfl, -⟩ := listed_exec hq
    · exact hx.known_byUser n q hq
    · exact known_of_live (live_of_actor hx h rfl)

/-- **Steps keep services sound.** -/
theorem sound_step (hx : x.Sound cfg) (inp : Input) : (x.step cfg y inp).1.Sound cfg := by
  have hmoves := x.moves_step cfg y inp
  generalize (x.step cfg y inp).1 = x' at hmoves ⊢
  generalize (x.step cfg y inp).2 = y' at hmoves
  cases hmoves with
  | idle _ _ => exact hx
  | accept s h =>
    refine sound_setPhase hx (fun _ t ht hts => ?_) nofun
    exact absurd hts ((mayAccept_iff.mp h t (known_of_live ht)).2 ht)
  | submit j h => exact sound_enqueue hx fun s hs => live_of_maySubmit h hs
  | disconnect s fresh h =>
    have hlive := live_of_connected h
    have hclosing : (x.setPhase s .closing).Sound cfg :=
      sound_setPhase hx (fun _ t ht hts => hx.addr_inj t s ht hlive hts) nofun
    refine sound_enqueue hclosing fun t ht => ?_
    cases ht
    rw [live_setPhase, if_pos rfl]
    rfl
  | perform k fate j o p h => exact sound_perform hx h
  | destroy s h hidle =>
    refine sound_setPhase hx (fun hne => absurd rfl hne) fun _ tp htp hdone hs => ?_
    have := all_eq_true.mp hidle tp htp
    rw [hdone, hs] at this
    simp at this

theorem sound_new (cfg : Config) : ({} : Instance).Sound cfg where
  obeys := nofun
  addr_inj := nofun
  held := fun _ h => absurd h not_mem_nil
  known_rooms := nofun
  known_byUser := nofun

/-! ### Properties of the tables and the living -/

/-- A condition on steps: `A` on the sessions that are accepted, `B` on the operations that
    are performed, and on the sessions that are destroyed `D`. -/
structure OnStep (A : Session → Prop) (B : Op → Prop) (D : Session → Prop) (x : Instance)
    (inp : Input) : Prop where
  accept : ∀ s, inp = .accept s → x.allows inp = true → A s
  perform : ∀ j o, x.performs inp = some (j, o) → B o
  destroy : ∀ s, inp = .destroy s → x.allows inp = true → D s

instance decidableOnStep (A : Session → Prop) (B : Op → Prop) (D : Session → Prop)
    [DecidablePred A] [DecidablePred B] [DecidablePred D] (x : Instance) (inp : Input) :
    Decidable (x.OnStep A B D inp) :=
  decidable_of_iff ((∀ s ∈ inp.accepted?, x.allows inp = true → A s) ∧
      (∀ jo ∈ x.performs inp, B jo.2) ∧ ∀ s ∈ inp.destroyed?, x.allows inp = true → D s) <| by
    constructor
    · rintro ⟨haccept, hperform, hdestroy⟩
      refine ⟨fun s hs => haccept s ?_, fun j o hjo => hperform (j, o) hjo,
        fun s hs => hdestroy s ?_⟩
      · rw [hs]
        rfl
      · rw [hs]
        rfl
    · rintro ⟨haccept, hperform, hdestroy⟩
      refine ⟨fun s hs => haccept s ?_, fun jo hjo => hperform jo.1 jo.2 hjo,
        fun s hs => hdestroy s ?_⟩
      · cases inp <;> cases hs
        rfl
      · cases inp <;> cases hs
        rfl

theorem performs_of_not_allows {inp : Input} (h : x.allows inp = false) :
    x.performs inp = none := by
  cases inp with
  | advance k fate =>
    show x.tasks.next? k = none
    simpa [allows] using h
  | accept | submit | disconnect | destroy => rfl

theorem performs_of_task (h : x.tasks[k]? = some (j, .act o p)) :
    x.performs (.advance k fate) = some (j, o) :=
  Pool.next?_eq_some.mpr ⟨p, h⟩

/-- A closing connection ends no session's life. -/
theorem live_closing (h : x.sessions.lookup s = some .connected) :
    (x.setPhase s .closing).live = x.live := by
  funext t
  rw [live_setPhase]
  split_ifs with hts
  · rw [hts, live_of_connected h]
    rfl
  · rfl

section Properties

variable {P : State → (Session → Bool) → Prop} {A D : Session → Prop} {B : Op → Prop}

/-- **Sufficient conditions.** A property of the tables and the living sessions survives a step
    if the condition is met that it needs for the kind of step. -/
theorem holds_step (inp : Input) (h : P x.st x.live)
    (haccept : ∀ s, x.mayAccept s = true → A s → P x.st (x.setPhase s .connected).live)
    (hperform : ∀ (k : ℕ) (fate : Fate) (j : Job) (o : Op) (p : o.Ans → Handler Unit),
      x.tasks[k]? = some (j, .act o p) → B o → P (o.exec cfg fate (x.world y)).1.st x.live)
    (hdestroy : ∀ s, x.sessions.lookup s = some .closing → x.idle s = true → D s →
      P x.st (x.setPhase s .gone).live)
    (hon : x.OnStep A B D inp) :
    P (x.step cfg y inp).1.st (x.step cfg y inp).1.live := by
  have hmoves := x.moves_step cfg y inp
  generalize (x.step cfg y inp).1 = x' at hmoves ⊢
  generalize (x.step cfg y inp).2 = y' at hmoves
  cases hmoves with
  | idle | submit => exact h
  | accept s hacc => exact haccept s hacc (hon.accept s rfl hacc)
  | disconnect s fresh hs =>
    show P x.st (x.setPhase s .closing).live
    rw [live_closing hs]
    exact h
  | perform k fate j o p ht =>
    exact hperform k fate j o p ht (hon.perform j o (performs_of_task ht))
  | destroy s hs hidle =>
    refine hdestroy s hs hidle (hon.destroy s rfl ?_)
    show (decide (x.sessions.lookup s = some .closing) && x.idle s) = true
    rw [hs, hidle]
    rfl

/-- **Exact conditions.** It survives the step exactly then, if it needs the conditions. -/
theorem holds_step_iff (inp : Input) (h : P x.st x.live)
    (haccept : ∀ s, x.mayAccept s = true → (P x.st (x.setPhase s .connected).live ↔ A s))
    (hperform : ∀ (k : ℕ) (fate : Fate) (j : Job) (o : Op) (p : o.Ans → Handler Unit),
      x.tasks[k]? = some (j, .act o p) → (P (o.exec cfg fate (x.world y)).1.st x.live ↔ B o))
    (hdestroy : ∀ s, x.sessions.lookup s = some .closing → x.idle s = true →
      (P x.st (x.setPhase s .gone).live ↔ D s)) :
    P (x.step cfg y inp).1.st (x.step cfg y inp).1.live ↔ x.OnStep A B D inp := by
  refine ⟨fun hP => ?_, holds_step inp h (fun s hs => (haccept s hs).mpr)
    (fun k fate j o p ht => (hperform k fate j o p ht).mpr)
    fun s hs hidle => (hdestroy s hs hidle).mpr⟩
  have hmoves := x.moves_step cfg y inp
  generalize (x.step cfg y inp).1 = x' at hmoves hP
  generalize (x.step cfg y inp).2 = y' at hmoves
  cases hmoves with
  | idle _ hno =>
    have hnot : ¬ x.allows inp = true := by rw [hno]; exact Bool.false_ne_true
    refine ⟨fun s _ hallows => absurd hallows hnot, fun j o hperf => ?_,
      fun s _ hallows => absurd hallows hnot⟩
    rw [performs_of_not_allows hno] at hperf
    cases hperf
  | accept s hacc =>
    refine ⟨fun t ht _ => ?_, fun _ _ hp => (nomatch hp), nofun⟩
    cases ht
    exact (haccept s hacc).mp hP
  | submit | disconnect => exact ⟨nofun, fun _ _ hp => (nomatch hp), nofun⟩
  | perform k fate j o p ht =>
    refine ⟨nofun, fun j' o' hp => ?_, nofun⟩
    rw [performs_of_task ht] at hp
    cases hp
    exact (hperform k fate j o p ht).mp hP
  | destroy s hs hidle =>
    refine ⟨nofun, fun _ _ hp => (nomatch hp), fun t ht _ => ?_⟩
    cases ht
    exact (hdestroy s hs hidle).mp hP

end Properties

end Instance

/-- **Services are sound after every run.** -/
theorem sound_run (cfg : ℕ → Config) (n : ℕ) (stores : Stores) (is : List Cluster.Input) :
    ((cluster cfg).run (.fresh n stores) is).All fun i x => x.Sound (cfg i) := by
  refine all_run (I := fun i x => x.Sound (cfg i)) ?_ ?_ is
  · exact fun _ _ _ inp hx => Instance.sound_step hx inp
  · exact all_fresh (fun i => Instance.sound_new (cfg i)) n stores

end Knights.Chat
