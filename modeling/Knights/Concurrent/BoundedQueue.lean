import Knights.Lib.Machine
import Knights.Lib.Tally

namespace Knights.Concurrent

open Knights.Lib List

/-!
# Concurrent — the bounded queues

`JobQueue` (`core/src/concurrent/job_queue.cpp`) and `LockedWaitQueue`
(`core/include/server/core/concurrent/locked_queue.hpp`) are queues under a mutex.  A producer
waits while the queue is full and a consumer while it is empty, both on the same condition
variable, and each of them wakes one waiter when it is done.  Whatever is done under the mutex is
one step.  A `notify_one` after the mutex has been released is a step of its own, and the waiter
that it wakes has yet to get the mutex.

Which waiter `notify_one` wakes is open, so it may be one that cannot go on.  It waits again, and
the one that could have gone on is left waiting:

* `no_lost_wakeup` — this does not happen if producers and consumers together are at most one more
  than the capacity;
* `wakeup_lost` — it does with one producer, two consumers and room for one item.

With that many threads, at the time when a producer finds the queue full no consumer can be
waiting, and the other way round: so whoever is woken can go on (`Settled`).
-/

/-- The two classes. -/
inductive Kind where
  | jobQueue
  | lockedWaitQueue
  deriving DecidableEq, Repr

/-- A queue; a capacity of 0 is none.  `stopped` is `stopping_` and `shutdown_`. -/
structure BoundedQueue (α : Type) where
  capacity : ℕ
  items : List α := []
  stopped : Bool := false
  deriving DecidableEq, Repr

variable {kind : Kind}

namespace BoundedQueue

variable {α : Type}

def full (q : BoundedQueue α) : Bool := 0 < q.capacity && q.capacity ≤ q.items.length

def append (q : BoundedQueue α) (a : α) : BoundedQueue α := { q with items := q.items ++ [a] }

/-- `Push` and `push`: `none` is to wait; otherwise whether the item was queued. -/
def push (q : BoundedQueue α) (a : α) : Option (BoundedQueue α × Bool) :=
  if q.stopped then some (q, false)
  else if q.full then none
  else some (q.append a, true)

/-- `Pop` and `pop_blocking`: `none` is to wait. -/
def pop (q : BoundedQueue α) : Option (BoundedQueue α × Option α) :=
  match q.items with
  | a :: rest => some ({ q with items := rest }, some a)
  | [] => if q.stopped then some (q, none) else none

/-- `TryPush` and `try_push`; the latter does not look at the flag. -/
def tryPush (kind : Kind) (q : BoundedQueue α) (a : α) : Option (BoundedQueue α) :=
  if kind = .jobQueue ∧ q.stopped = true then none
  else if q.full then none
  else some (q.append a)

variable {q q' : BoundedQueue α} {a : α}

theorem push_eq_none (h : q.push a = none) :
    q.stopped = false ∧ 0 < q.capacity ∧ q.capacity ≤ q.items.length := by
  unfold push at h
  split_ifs at h with hstop hfull
  refine ⟨by simpa using hstop, ?_⟩
  simpa [full] using hfull

theorem push_refused (h : q.push a = some (q', false)) : q.stopped = true := by
  unfold push at h
  split_ifs at h with hstop hfull
  · exact hstop
  · simp at h

theorem push_pushed (h : q.push a = some (q', true)) : q' = q.append a ∧ q.stopped = false := by
  unfold push at h
  split_ifs at h with hstop hfull
  · simp at h
  · exact ⟨by simpa using h.symm, by simpa using hstop⟩

theorem tryPush_eq_some (h : q.tryPush kind a = some q') : q' = q.append a := by
  unfold tryPush at h
  split_ifs at h with hstop hfull
  simpa using h.symm

theorem pop_eq_none (h : q.pop = none) : q.items = [] ∧ q.stopped = false := by
  unfold pop at h
  split at h
  · simp at h
  · next hitems =>
    split_ifs at h with hstop
    exact ⟨hitems, by simpa using hstop⟩

theorem pop_refused (h : q.pop = some (q', none)) : q.items = [] ∧ q.stopped = true := by
  unfold pop at h
  split at h
  · simp at h
  · next hitems =>
    split_ifs at h with hstop
    exact ⟨hitems, hstop⟩

theorem pop_popped (h : q.pop = some (q', some a)) :
    q.items = a :: q'.items ∧ q' = { q with items := q'.items } := by
  unfold pop at h
  split at h
  · next b rest hitems =>
    obtain ⟨rfl, rfl⟩ := h
    exact ⟨hitems, rfl⟩
  · split_ifs at h
    simp at h

end BoundedQueue

/-! ### Threads -/

/-- The two sides of a queue. -/
inductive Side where
  | producer
  | consumer
  deriving DecidableEq, Repr

/-- The calls that can wait. -/
inductive Call (α : Type) where
  | push (a : α)
  | pop
  deriving DecidableEq, Repr

def Call.side {α : Type} : Call α → Side
  | .push _ => .producer
  | .pop => .consumer

/-- Where a thread is. -/
inductive Place (α : Type) where
  /-- Between two calls. -/
  | idle
  | finished
  /-- On the condition variable. -/
  | waiting (c : Call α)
  /-- Woken, and waiting for the mutex. -/
  | woken (c : Call α)
  /-- After the mutex, with `notify_one` ahead. -/
  | notifying (side : Side)
  /-- After the mutex, with `notify_all` ahead. -/
  | broadcasting
  deriving DecidableEq, Repr

/-- What a thread can call. -/
inductive Operation (α : Type) where
  | push (a : α)
  | tryPush (a : α)
  | pop
  | tryPop
  | stop
  | reset
  deriving DecidableEq, Repr

/-- The side that an operation makes its caller. -/
def Operation.side {α : Type} : Operation α → Option Side
  | .push _ | .tryPush _ => some .producer
  | .pop | .tryPop => some .consumer
  | .stop | .reset => none

/-- A queue and its threads. -/
structure Threads (ι α : Type) where
  queue : BoundedQueue α
  place : ι → Place α

/-- The steps; `w` is the waiter that a `notify_one` wakes, if there is one. -/
inductive QueueInput (ι α : Type) where
  /-- An idle thread begins a call, up to where it waits or releases the mutex. -/
  | call (t : ι) (op : Operation α) (w : Option ι)
  /-- A woken thread gets the mutex and looks again. -/
  | resume (t : ι) (w : Option ι)
  /-- `notify_one` after the mutex. -/
  | notify (t : ι) (w : Option ι)
  /-- `notify_all` after the mutex. -/
  | broadcast (t : ι)
  /-- A waiter wakes without having been notified. -/
  | spurious (t : ι)
  /-- The thread ends. -/
  | finish (t : ι)
  deriving DecidableEq, Repr

namespace Place

variable {α : Type}

def isWaiting : Place α → Bool
  | .waiting _ => true
  | _ => false

/-- The place after `notify_all`. -/
def wake : Place α → Place α
  | .waiting c => .woken c
  | p => p

/-- On the condition variable or at its end. -/
def atRest : Place α → Bool
  | .waiting _ | .finished => true
  | _ => false

/-- Waiting for what is there: a producer for room, or a consumer for an item. -/
def strands (q : BoundedQueue α) : Place α → Bool
  | .waiting (.push _) => !q.full
  | .waiting .pop => !q.items.isEmpty
  | _ => false

end Place

namespace Threads

variable {ι α : Type} [DecidableEq ι] [Fintype ι]

/-- Threads that have not called anything yet. -/
def start (capacity : ℕ) : Threads ι α where
  queue := { capacity }
  place := fun _ => .idle

/-- Thread `t` is now at `p`. -/
def put (s : Threads ι α) (t : ι) (p : Place α) : Threads ι α :=
  { s with place := Function.update s.place t p }

/-- `notify_one`, which wakes a waiter unless there is none. -/
def notify (s : Threads ι α) (t : ι) (w : Option ι) : Option (Threads ι α) :=
  match s.place t, w with
  | .notifying _, none => if ∀ t', !(s.place t').isWaiting then some (s.put t .idle) else none
  | .notifying _, some t' =>
    match s.place t' with
    | .waiting c => some ((s.put t .idle).put t' (.woken c))
    | _ => none
  | _, _ => none

/-- `notify_all` -/
def broadcast (s : Threads ι α) (t : ι) : Option (Threads ι α) :=
  match s.place t with
  | .broadcasting => some { s with place := fun t' => ((s.put t .idle).place t').wake }
  | _ => none

/-- An item has been queued.  `LockedWaitQueue` notifies under the mutex, `JobQueue` after it. -/
def pushed (kind : Kind) (s : Threads ι α) (t : ι) (q : BoundedQueue α) (w : Option ι) :
    Option (Threads ι α) :=
  let s := { s with queue := q }.put t (.notifying .producer)
  match kind with
  | .jobQueue => some s
  | .lockedWaitQueue => s.notify t w

/-- An item has been taken; only a queue with a capacity has producers to notify. -/
def popped (s : Threads ι α) (t : ι) (q : BoundedQueue α) : Threads ι α :=
  { s with queue := q }.put t (if 0 < q.capacity then .notifying .consumer else .idle)

/-- What a call does once it has the mutex, at first or after a wait. -/
def enter (kind : Kind) (s : Threads ι α) (t : ι) (w : Option ι) : Call α → Option (Threads ι α)
  | .push a =>
    match s.queue.push a with
    | none => some (s.put t (.waiting (.push a)))
    | some (_, false) => some (s.put t .idle)
    | some (q, true) => s.pushed kind t q w
  | .pop =>
    match s.queue.pop with
    | none => some (s.put t (.waiting .pop))
    | some (_, none) => some (s.put t .idle)
    | some (q, some _) => some (s.popped t q)

/-- What an operation does once it has the mutex. -/
def begin (kind : Kind) (s : Threads ι α) (t : ι) (w : Option ι) :
    Operation α → Option (Threads ι α)
  | .push a => s.enter kind t w (.push a)
  | .pop => s.enter kind t w .pop
  | .tryPush a =>
    match s.queue.tryPush kind a with
    | none => some s
    | some q => s.pushed kind t q w
  | .tryPop =>
    -- `JobQueue` has no such operation; `LockedQueue` notifies under the mutex.
    match kind, s.queue.items with
    | .jobQueue, _ => none
    | .lockedWaitQueue, [] => some s
    | .lockedWaitQueue, _ :: rest =>
      let s := s.popped t { s.queue with items := rest }
      if 0 < s.queue.capacity then s.notify t w else some s
  | .stop =>
    let s := { s with queue := { s.queue with stopped := true } }.put t .broadcasting
    match kind with
    | .jobQueue => some s
    | .lockedWaitQueue => s.broadcast t
  | .reset =>
    match kind with
    | .jobQueue => none
    | .lockedWaitQueue => some { s with queue := { s.queue with stopped := false } }

variable (kind : Kind) (may : Side → ι → Bool)

/-- One step, if it can be taken: a thread only calls what its side allows. -/
def step? (s : Threads ι α) : QueueInput ι α → Option (Threads ι α)
  | .call t op w =>
    match s.place t with
    | .idle => if op.side.all fun side => may side t then s.begin kind t w op else none
    | _ => none
  | .resume t w =>
    match s.place t with
    | .woken c => s.enter kind t w c
    | _ => none
  | .notify t w => s.notify t w
  | .broadcast t => s.broadcast t
  | .spurious t =>
    match s.place t with
    | .waiting c => some (s.put t (.woken c))
    | _ => none
  | .finish t =>
    match s.place t with
    | .idle => some (s.put t .finished)
    | _ => none

/-- A queue with its threads as a machine; a step that cannot be taken changes nothing. -/
def machine : Machine (Threads ι α) (QueueInput ι α) Unit where
  step s i := ((s.step? kind may i).getD s, ())

/-- Some thread waits for what is there. -/
def LostWakeup (s : Threads ι α) : Prop := ∃ t, (s.place t).strands s.queue = true

/-- Every thread waits or has finished. -/
def AtRest (s : Threads ι α) : Prop := ∀ t, (s.place t).atRest = true

instance (s : Threads ι α) : Decidable s.LostWakeup :=
  inferInstanceAs (Decidable (∃ t, (s.place t).strands s.queue = true))

instance (s : Threads ι α) : Decidable s.AtRest :=
  inferInstanceAs (Decidable (∀ t, (s.place t).atRest = true))

/-! ### How many threads are where -/

end Threads

/-- A place, without what is carried there. -/
inductive Spot where
  | away
  | waiting (side : Side)
  | woken (side : Side)
  | notifying (side : Side)
  | broadcasting
  deriving DecidableEq, Repr

def Place.spot {α : Type} : Place α → Spot
  | .idle | .finished => .away
  | .waiting c => .waiting c.side
  | .woken c => .woken c.side
  | .notifying side => .notifying side
  | .broadcasting => .broadcasting

/-- The side that a thread is on. -/
def Spot.side : Spot → Option Side
  | .waiting side | .woken side | .notifying side => some side
  | .away | .broadcasting => none

theorem Place.side_wake {α : Type} (p : Place α) : p.wake.spot.side = p.spot.side := by
  cases p <;> rfl

/-- **The invariant**, for the numbers of threads `k` at each spot and the length `q` of the
    queue: waiters are on one side only, and what is there for them is on its way to them, with
    threads that have been woken or with others that have yet to notify. -/
structure Settled (capacity : ℕ) (k : Spot → ℕ) (q : ℕ) (stopped : Bool) : Prop where
  unblocked : stopped = true → ∀ side, k (.waiting side) = 0
  oneSided : k (.waiting .producer) = 0 ∨ k (.waiting .consumer) = 0
  consumers : 0 < k (.waiting .consumer) → q ≤ k (.woken .consumer) + k (.notifying .producer)
  producers : 0 < k (.waiting .producer) →
    0 < capacity ∧ capacity ≤ q + k (.woken .producer) + k (.notifying .consumer)

/-- One thread moves from a spot to another. -/
def Moves (k k' : Spot → ℕ) (x y : Spot) : Prop :=
  ∀ z, k' z + (if x = z then 1 else 0) = k z + (if y = z then 1 else 0)

/-- The spots from which a thread enters a call of a side. -/
def Spot.Enters (side : Side) (x : Spot) : Prop := x = .away ∨ x = .woken side

theorem Moves.spots {k k' : Spot → ℕ} {x y : Spot} (hm : Moves k k' x y) :
    let fits (z : Spot) : Prop := k' z + (if x = z then 1 else 0) = k z + (if y = z then 1 else 0)
    fits (.waiting .producer) ∧ fits (.waiting .consumer) ∧ fits (.woken .producer) ∧
      fits (.woken .consumer) ∧ fits (.notifying .producer) ∧ fits (.notifying .consumer) :=
  ⟨hm _, hm _, hm _, hm _, hm _, hm _⟩

variable {side : Side}

namespace Settled

variable {capacity q : ℕ} {k k' : Spot → ℕ} {stopped : Bool} {x : Spot}

/-- Nobody waits. -/
theorem of_none_waiting (h : ∀ side, k (.waiting side) = 0) : Settled capacity k q stopped where
  unblocked _ := h
  oneSided := .inl (h .producer)
  consumers hpos := by
    have := h .consumer
    omega
  producers hpos := by
    have := h .producer
    omega

/-- A thread comes back from a call with nothing done, which it does only under the flag. -/
theorem refuse (h : Settled capacity k q true) (hx : x.Enters side) (hm : Moves k k' x .away) :
    Settled capacity k' q true := by
  apply of_none_waiting
  intro side'
  have hnone := h.unblocked rfl side'
  have hmove := hm (.waiting side')
  rcases hx with rfl | rfl <;> simp at hmove <;> omega

/-- A producer begins to wait.  If a consumer was waiting, all items were on their way: more of
    them than there are threads for it. -/
theorem wait_push (h : Settled capacity k q false) (hfull : 0 < capacity ∧ capacity ≤ q)
    (hx : x.Enters .producer) (hm : Moves k k' x (.waiting .producer)) {n m : ℕ}
    (hn : k' (.waiting .producer) + k' (.notifying .producer) ≤ n)
    (hm' : k' (.waiting .consumer) + k' (.woken .consumer) ≤ m) (hfew : n + m ≤ capacity + 1) :
    Settled capacity k' q false := by
  have hwp := hm (.waiting .producer)
  have hwc := hm (.waiting .consumer)
  have hnc := hm (.woken .consumer)
  have hkp := hm (.notifying .producer)
  have hnone : k' (.waiting .consumer) = 0 := by
    by_contra hpos
    have hcons := h.consumers
    rcases hx with rfl | rfl <;> simp at hwp hwc hnc hkp <;> omega
  refine ⟨nofun, .inr hnone, fun hpos => absurd hnone (by omega), fun _ => by omega⟩

/-- A consumer begins to wait. -/
theorem wait_pop (h : Settled capacity k 0 false) (hx : x.Enters .consumer)
    (hm : Moves k k' x (.waiting .consumer)) {n m : ℕ}
    (hn : k' (.waiting .producer) + k' (.woken .producer) ≤ n)
    (hm' : k' (.waiting .consumer) + k' (.notifying .consumer) ≤ m)
    (hfew : n + m ≤ capacity + 1) : Settled capacity k' 0 false := by
  have hwp := hm (.waiting .producer)
  have hwc := hm (.waiting .consumer)
  have hnp := hm (.woken .producer)
  have hkc := hm (.notifying .consumer)
  have hnone : k' (.waiting .producer) = 0 := by
    by_contra hpos
    have hprod := h.producers
    rcases hx with rfl | rfl <;> simp at hwp hwc hnp hkc <;> omega
  refine ⟨nofun, .inl hnone, fun _ => Nat.zero_le _, fun hpos => absurd hnone (by omega)⟩

/-- A producer queues an item and has yet to notify. -/
theorem push (h : Settled capacity k q stopped) (hx : x.Enters .producer)
    (hm : Moves k k' x (.notifying .producer)) : Settled capacity k' (q + 1) stopped := by
  obtain ⟨hwp, hwc, hnp, hnc, hkp, hkc⟩ := hm.spots
  obtain ⟨hunblocked, hside, hcons, hprod⟩ := h
  constructor
  · intro hstop side
    have hnone := hunblocked hstop side
    have hmove := hm (.waiting side)
    rcases hx with rfl | rfl <;> simp at hmove <;> omega
  all_goals rcases hx with rfl | rfl <;> simp at hwp hwc hnp hnc hkp hkc <;> omega

/-- A consumer takes an item and has yet to notify, if there is a capacity. -/
theorem pop (h : Settled capacity k (q + 1) stopped) (hx : x.Enters .consumer)
    (hm : Moves k k' x (if 0 < capacity then .notifying .consumer else .away)) :
    Settled capacity k' q stopped := by
  obtain ⟨hunblocked, hside, hcons, hprod⟩ := h
  have hcapacity := Nat.eq_zero_or_pos capacity
  obtain ⟨hwp, hwc, hnp, hnc, hkp, hkc⟩ := hm.spots
  constructor
  · intro hstop side
    have hnone := hunblocked hstop side
    have hmove := hm (.waiting side)
    rcases hx with rfl | rfl <;> rcases hcapacity with hc | hc <;> simp [hc] at hmove <;> omega
  all_goals
    rcases hx with rfl | rfl <;> rcases hcapacity with hc | hc <;>
      simp [hc] at hwp hwc hnp hnc hkp hkc <;> omega

/-- A thread wakes; all waiters are on its side. -/
theorem wake (h : Settled capacity k q stopped) (hm : Moves k k' (.waiting side) (.woken side)) :
    Settled capacity k' q stopped := by
  obtain ⟨hwp, hwc, hnp, hnc, hkp, hkc⟩ := hm.spots
  obtain ⟨hunblocked, hside, hcons, hprod⟩ := h
  constructor
  · intro hstop side'
    have hnone := hunblocked hstop side'
    have hself := hunblocked hstop side
    have hmove := hm (.waiting side)
    simp at hmove
    omega
  all_goals cases side <;> simp at hwp hwc hnp hnc hkp hkc <;> omega

/-- A thread notifies a waiter, which takes over what the thread had to notify about. -/
theorem notify {caller : Side} (h : Settled capacity k q stopped) {k₁ : Spot → ℕ}
    (hm : Moves k k₁ (.notifying caller) .away) (hm' : Moves k₁ k' (.waiting side) (.woken side)) :
    Settled capacity k' q stopped := by
  obtain ⟨hwp, hwc, hnp, hnc, hkp, hkc⟩ := hm.spots
  obtain ⟨hwp', hwc', hnp', hnc', hkp', hkc'⟩ := hm'.spots
  obtain ⟨hunblocked, hside, hcons, hprod⟩ := h
  constructor
  · -- Under the flag there is no waiter to notify.
    intro hstop side'
    have hself := hunblocked hstop side
    have hmove := hm (.waiting side)
    have hmove' := hm' (.waiting side)
    simp at hmove hmove'
    omega
  all_goals
    cases caller <;> cases side <;>
      simp at hwp hwc hnp hnc hkp hkc hwp' hwc' hnp' hnc' hkp' hkc' <;> omega

end Settled

namespace Threads

variable {ι α : Type} [DecidableEq ι] [Fintype ι] {p : Place α} {s : Threads ι α}

omit [Fintype ι] in
@[simp] theorem place_put_self {t : ι} : (s.put t p).place t = p :=
  Function.update_self ..

omit [Fintype ι] in
theorem place_put_of_ne {t t' : ι} (h : t' ≠ t) : (s.put t p).place t' = s.place t' :=
  Function.update_of_ne h ..

/-- How many threads are at a spot. -/
def count (s : Threads ι α) : Spot → ℕ := tally fun t => (s.place t).spot

theorem moves_put (s : Threads ι α) (t : ι) (p : Place α) :
    Moves s.count (s.put t p).count (s.place t).spot p.spot := by
  intro z
  have hspots : (fun t' => ((s.put t p).place t').spot) =
      Function.update (fun t' => (s.place t').spot) t p.spot :=
    Function.comp_update Place.spot s.place t p
  rw [count, count, hspots]
  exact tally_update (fun t' => (s.place t').spot) t p.spot z

/-- The invariant of a queue and its threads; while a `notify_all` is ahead, anything goes. -/
structure Inv (may : Side → ι → Bool) (s : Threads ι α) : Prop where
  roles : ∀ t side, (s.place t).spot.side = some side → may side t = true
  few : (Finset.univ.filter fun t => may .producer t = true).card +
    (Finset.univ.filter fun t => may .consumer t = true).card ≤ s.queue.capacity + 1
  settled : 0 < s.count .broadcasting ∨
    Settled s.queue.capacity s.count s.queue.items.length s.queue.stopped

variable {may : Side → ι → Bool} {s : Threads ι α} {t : ι} {w : Option ι} {c : Call α} {a : α}

/-- The threads of a side are those that may be on it. -/
theorem count_le (hroles : ∀ t side, (s.place t).spot.side = some side → may side t = true)
    (side : Side) : s.count (.waiting side) + (s.count (.woken side) + s.count (.notifying side)) ≤
      (Finset.univ.filter fun t => may side t = true).card := by
  have hsum := sum_tally_le (f := fun t => (s.place t).spot) (P := fun t => may side t = true)
    (l := [.waiting side, .woken side, .notifying side]) (by simp) fun t ht => by
      refine hroles t side ?_
      simp only [mem_cons, not_mem_nil, or_false] at ht
      rcases ht with ht | ht | ht <;> rw [ht] <;> rfl
  simpa [count] using hsum

omit [Fintype ι] in
/-- A thread is only on a side that it may be on. -/
theorem roles_put (hroles : ∀ t side, (s.place t).spot.side = some side → may side t = true)
    (hrole : ∀ side, p.spot.side = some side → may side t = true) (t' : ι) (side : Side)
    (hside : ((s.put t p).place t').spot.side = some side) :
    may side t' = true := by
  by_cases heq : t' = t
  · subst heq
    rw [place_put_self] at hside
    exact hrole side hside
  · rw [place_put_of_ne heq] at hside
    exact hroles t' side hside

namespace Inv

variable (h : s.Inv may)
include h

/-- One thread moves, and the queue may change. -/
theorem move {q : BoundedQueue α} (hcapacity : q.capacity = s.queue.capacity)
    (hrole : ∀ side, p.spot.side = some side → may side t = true)
    (hspot : (s.place t).spot ≠ .broadcasting)
    (hset : ∀ k', Moves s.count k' (s.place t).spot p.spot →
      (∀ side, k' (.waiting side) + (k' (.woken side) + k' (.notifying side)) ≤
        (Finset.univ.filter fun t => may side t = true).card) →
      Settled s.queue.capacity s.count s.queue.items.length s.queue.stopped →
      Settled s.queue.capacity k' q.items.length q.stopped) :
    Inv may ({ s with queue := q }.put t p) := by
  have hmoves : Moves s.count ({ s with queue := q }.put t p).count (s.place t).spot p.spot :=
    moves_put { s with queue := q } t p
  have hroles : ∀ t' side, (({ s with queue := q }.put t p).place t').spot.side = some side →
      may side t' = true := roles_put h.roles hrole
  refine ⟨hroles, ?_, ?_⟩
  · show _ ≤ q.capacity + 1
    rw [hcapacity]
    exact h.few
  · rcases h.settled with hpos | hsettled
    · left
      have hmove := hmoves .broadcasting
      rw [if_neg hspot] at hmove
      omega
    · right
      show Settled q.capacity _ _ _
      rw [hcapacity]
      exact hset _ hmoves (count_le hroles) hsettled

/-- A thread that cannot go on waits. -/
theorem wait (henter : (s.place t).spot.Enters c.side) (hmay : may c.side t = true)
    (hrun : s.queue.stopped = false) (hblocked : match c with
      | .push _ => 0 < s.queue.capacity ∧ s.queue.capacity ≤ s.queue.items.length
      | .pop => s.queue.items = []) :
    Inv may (s.put t (.waiting c)) := by
  refine h.move rfl (fun side hside => ?_) ?_ fun k' hm hn hset => ?_
  · exact Option.some.inj hside ▸ hmay
  · rcases henter with h | h <;> rw [h] <;> nofun
  · have hprod := hn .producer
    have hcons := hn .consumer
    rw [hrun] at hset ⊢
    cases c with
    | push a => exact hset.wait_push hblocked henter hm (by omega) (by omega) h.few
    | pop =>
      have hempty : s.queue.items.length = 0 := by simp [hblocked]
      rw [hempty] at hset ⊢
      exact hset.wait_pop henter hm (by omega) (by omega) h.few

/-- A thread that is turned away by the flag. -/
theorem refuse (henter : (s.place t).spot.Enters side)
    (hstop : s.queue.stopped = true) : Inv may (s.put t .idle) := by
  refine h.move rfl nofun ?_ fun k' hm hn hset => ?_
  · rcases henter with h | h <;> rw [h] <;> nofun
  · rw [hstop] at hset ⊢
    exact hset.refuse henter hm

/-- An item is queued, and the notification is ahead. -/
theorem queued (henter : (s.place t).spot.Enters .producer) (hmay : may .producer t = true) :
    Inv may ({ s with queue := s.queue.append a }.put t (.notifying .producer)) := by
  refine h.move rfl (fun side hside => ?_) ?_ fun k' hm hn hset => ?_
  · exact Option.some.inj hside ▸ hmay
  · rcases henter with h | h <;> rw [h] <;> nofun
  · rw [BoundedQueue.append, length_append]
    exact hset.push henter hm

/-- An item is taken, and the notification is ahead. -/
theorem popped {rest : List α} (hitems : s.queue.items = a :: rest)
    (henter : (s.place t).spot.Enters .consumer) (hmay : may .consumer t = true) :
    Inv may (s.popped t { s.queue with items := rest }) := by
  refine h.move rfl (fun side hside => ?_) ?_ fun k' hm hn hset => ?_
  · split at hside
    · exact Option.some.inj hside ▸ hmay
    · cases hside
  · rcases henter with h | h <;> rw [h] <;> nofun
  · rw [hitems, length_cons] at hset
    refine hset.pop henter ?_
    rwa [apply_ite Place.spot] at hm

variable {s' : Threads ι α}

/-- The notification of one waiter. -/
theorem notify (hs' : s.notify t w = some s') : s'.Inv may := by
  unfold Threads.notify at hs'
  split at hs'
  case h_1 caller ht =>
    -- Nobody waits, and nobody will.
    split_ifs at hs' with hnone
    obtain rfl := Option.some.inj hs'
    have hzero : ∀ side, s.count (.waiting side) = 0 := by
      intro side
      refine tally_eq_zero.mpr fun t' heq => ?_
      have hnot := hnone t'
      cases hp : s.place t' <;> rw [hp] at heq hnot <;> simp_all [Place.spot, Place.isWaiting]
    refine h.move rfl nofun (by rw [ht]; nofun) fun k' hm hn hset => ?_
    refine Settled.of_none_waiting fun side => ?_
    have hmove := hm (.waiting side)
    have hside := hzero side
    simp [Place.spot] at hmove
    omega
  case h_2 caller t' ht =>
    split at hs'
    case h_1 c hc =>
      obtain rfl := Option.some.inj hs'
      have hne : t' ≠ t := by
        rintro rfl
        rw [ht] at hc
        cases hc
      have hm := s.moves_put t .idle
      have hm' := (s.put t .idle).moves_put t' (.woken c)
      rw [ht] at hm
      rw [place_put_of_ne hne, hc] at hm'
      have hroles := roles_put h.roles (t := t) (p := .idle) nofun
      refine ⟨roles_put hroles fun side hside => ?_, h.few, ?_⟩
      · refine h.roles t' side ?_
        rw [hc]
        exact hside
      · rcases h.settled with hpos | hsettled
        · left
          have hmove := hm .broadcasting
          have hmove' := hm' .broadcasting
          simp [Place.spot] at hmove hmove'
          omega
        · exact .inr (hsettled.notify hm hm')
    case h_2 => cases hs'
  case h_3 => cases hs'

/-- The notification of all waiters. -/
theorem broadcast (hs' : s.broadcast t = some s') : s'.Inv may := by
  unfold Threads.broadcast at hs'
  split at hs'
  case h_1 ht =>
    obtain rfl := Option.some.inj hs'
    refine ⟨fun t' side hside => ?_, h.few, .inr (Settled.of_none_waiting fun side => ?_)⟩
    · refine roles_put h.roles (t := t) (p := .idle) nofun t' side ?_
      rwa [Place.side_wake] at hside
    · refine tally_eq_zero.mpr fun t' heq => ?_
      dsimp only at heq
      cases hp : (s.put t .idle).place t' <;> rw [hp] at heq <;>
        simp [Place.wake, Place.spot] at heq
  case h_2 => cases hs'

/-- An item is queued, and a waiter is notified now or later. -/
theorem pushed (henter : (s.place t).spot.Enters .producer)
    (hmay : may .producer t = true) (hs' : s.pushed kind t (s.queue.append a) w = some s') :
    s'.Inv may := by
  have hqueued := h.queued (a := a) henter hmay
  cases kind with
  | jobQueue => exact Option.some.inj hs' ▸ hqueued
  | lockedWaitQueue => exact hqueued.notify hs'

/-- What a call does under the mutex. -/
theorem enter (henter : (s.place t).spot.Enters c.side) (hmay : may c.side t = true)
    (hs' : s.enter kind t w c = some s') : s'.Inv may := by
  unfold Threads.enter at hs'
  cases c <;> dsimp only at hs'
  case push a =>
    split at hs'
    case h_1 hpush =>
      obtain ⟨hrun, hfull⟩ := BoundedQueue.push_eq_none hpush
      exact Option.some.inj hs' ▸ h.wait henter hmay hrun hfull
    case h_2 hpush =>
      exact Option.some.inj hs' ▸ h.refuse henter (BoundedQueue.push_refused hpush)
    case h_3 q hpush =>
      rw [(BoundedQueue.push_pushed hpush).1] at hs'
      exact h.pushed henter hmay hs'
  case pop =>
    split at hs'
    case h_1 hpop =>
      obtain ⟨hitems, hrun⟩ := BoundedQueue.pop_eq_none hpop
      exact Option.some.inj hs' ▸ h.wait henter hmay hrun hitems
    case h_2 hpop =>
      exact Option.some.inj hs' ▸ h.refuse henter (BoundedQueue.pop_refused hpop).2
    case h_3 q a hpop =>
      obtain ⟨hitems, hq⟩ := BoundedQueue.pop_popped hpop
      rw [hq] at hs'
      exact Option.some.inj hs' ▸ h.popped hitems henter hmay

/-- The flag is set, and the notification of all waiters is ahead. -/
theorem flag (hidle : s.place t = .idle) :
    Inv may ({ s with queue := { s.queue with stopped := true } }.put t .broadcasting) := by
  refine ⟨roles_put h.roles nofun, h.few, .inl ?_⟩
  have hmove := moves_put { s with queue := { s.queue with stopped := true } } t .broadcasting
    .broadcasting
  rw [hidle] at hmove
  simp only [Place.spot, reduceCtorEq, if_false, if_true] at hmove
  dsimp only
  omega

/-- What an operation does under the mutex. -/
theorem begin {op : Operation α} (hidle : s.place t = .idle)
    (hmay : op.side.all (fun side => may side t) = true) (hs' : s.begin kind t w op = some s') :
    s'.Inv may := by
  have hentry : ∀ side, (s.place t).spot.Enters side := fun _ => .inl (by rw [hidle]; rfl)
  unfold Threads.begin at hs'
  cases op <;> dsimp only at hs'
  case push a => exact h.enter (c := .push a) (hentry _) hmay hs'
  case pop => exact h.enter (c := .pop) (hentry _) hmay hs'
  case tryPush a =>
    split at hs'
    case h_1 => exact Option.some.inj hs' ▸ h
    case h_2 q hpush =>
      rw [BoundedQueue.tryPush_eq_some hpush] at hs'
      exact h.pushed (hentry _) hmay hs'
  case tryPop =>
    split at hs'
    case h_1 => cases hs'
    case h_2 => exact Option.some.inj hs' ▸ h
    case h_3 a rest hitems =>
      have hpopped := h.popped hitems (hentry _) hmay
      split_ifs at hs'
      · exact hpopped.notify hs'
      · exact Option.some.inj hs' ▸ hpopped
  case stop =>
    split at hs'
    · exact Option.some.inj hs' ▸ h.flag hidle
    · exact (h.flag hidle).broadcast hs'
  case reset =>
    split at hs'
    · cases hs'
    · refine Option.some.inj hs' ▸ ⟨h.roles, h.few, h.settled.imp id fun hset => ?_⟩
      exact ⟨nofun, hset.oneSided, hset.consumers, hset.producers⟩

/-- One step. -/
theorem step {i : QueueInput ι α} (hs' : s.step? kind may i = some s') : s'.Inv may := by
  unfold step? at hs'
  cases i <;> dsimp only at hs'
  case call t op w =>
    split at hs'
    case h_1 hidle =>
      split_ifs at hs' with hmay
      exact h.begin hidle hmay hs'
    case h_2 => cases hs'
  case resume t w =>
    split at hs'
    case h_1 c hc =>
      refine h.enter (.inr (by rw [hc]; rfl)) (h.roles t c.side ?_) hs'
      rw [hc]
      rfl
    case h_2 => cases hs'
  case notify t w => exact h.notify hs'
  case broadcast t => exact h.broadcast hs'
  case spurious t =>
    split at hs'
    case h_1 c hc =>
      refine Option.some.inj hs' ▸ h.move rfl (fun side hside => h.roles t side ?_) ?_ ?_
      · rw [hc]
        exact hside
      · rw [hc]
        nofun
      · intro k' hm _ hset
        rw [hc] at hm
        exact hset.wake hm
    case h_2 => cases hs'
  case finish t =>
    split at hs'
    case h_1 hidle =>
      refine Option.some.inj hs' ▸ h.move rfl nofun (by rw [hidle]; nofun) ?_
      intro k' hm _ hset
      have hsame : k' = s.count := by
        funext z
        have hmove := hm z
        rw [hidle] at hmove
        exact Nat.add_right_cancel hmove
      rw [hsame]
      exact hset
    case h_2 => cases hs'

end Inv

/-- The invariant holds in every run. -/
theorem inv_run {capacity : ℕ} (kind : Kind)
    (hfew : (Finset.univ.filter fun t => may .producer t = true).card +
      (Finset.univ.filter fun t => may .consumer t = true).card ≤ capacity + 1)
    (is : List (QueueInput ι α)) : ((machine kind may).run (start capacity) is).Inv may := by
  refine (machine kind may).run_invariant (Inv may) (fun s i h => ?_) ?_ is
  · show ((s.step? kind may i).getD s).Inv may
    cases hs' : s.step? kind may i with
    | none => exact h
    | some s' => exact h.step hs'
  · have hnone : ∀ side, (start capacity : Threads ι α).count (.waiting side) = 0 := by
      intro side
      exact tally_eq_zero.mpr nofun
    exact ⟨nofun, hfew, .inr (Settled.of_none_waiting hnone)⟩

/-- **No wakeup is lost**, in either queue, for any choice of the waiters that are notified, if
    producers and consumers together are at most one more than the capacity: when all threads
    wait or have finished, no producer waits while there is room, and no consumer while there is
    an item. -/
theorem no_lost_wakeup {capacity : ℕ} (kind : Kind) (may : Side → ι → Bool)
    (hfew : (Finset.univ.filter fun t => may .producer t = true).card +
      (Finset.univ.filter fun t => may .consumer t = true).card ≤ capacity + 1)
    {is : List (QueueInput ι α)} (hrest : ((machine kind may).run (start capacity) is).AtRest) :
    ¬((machine kind may).run (start capacity) is).LostWakeup := by
  have hinv := inv_run kind hfew is
  generalize (machine kind may).run (start capacity) is = s at hrest hinv
  -- All threads are on the condition variable, so nothing is on its way to any of them.
  have hgone : ∀ z, (∀ side, z ≠ .waiting side) → z ≠ .away → s.count z = 0 := by
    intro z hz hz'
    refine tally_eq_zero.mpr fun t heq => ?_
    have ht := hrest t
    cases hp : s.place t <;> rw [hp] at heq ht <;> simp only [Place.atRest] at ht
    case finished => exact hz' heq.symm
    case waiting c => exact hz c.side heq.symm
    all_goals cases ht
  have hset : Settled s.queue.capacity s.count s.queue.items.length s.queue.stopped := by
    refine hinv.settled.resolve_left ?_
    rw [hgone .broadcasting nofun nofun]
    exact lt_irrefl 0
  rintro ⟨t, ht⟩
  cases hp : s.place t <;> rw [hp] at ht <;> simp only [Place.strands] at ht
  case waiting c =>
    have hpos : 0 < s.count (.waiting c.side) := tally_pos.mpr ⟨t, by rw [hp]; rfl⟩
    cases c with
    | push a =>
      obtain ⟨hcapacity, hfull⟩ := hset.producers hpos
      rw [hgone (.woken .producer) nofun nofun, hgone (.notifying .consumer) nofun nofun] at hfull
      simp [BoundedQueue.full] at ht
      omega
    | pop =>
      have hempty := hset.consumers hpos
      rw [hgone (.woken .consumer) nofun nofun, hgone (.notifying .producer) nofun nofun] at hempty
      simp [eq_nil_of_length_eq_zero (Nat.le_zero.mp hempty)] at ht
  all_goals cases ht

/-- Thread 0 produces and the others consume. -/
def oneProducer {n : ℕ} : Side → Fin (n + 1) → Bool
  | .producer, t => t = 0
  | .consumer, t => t ≠ 0

/-- A producer and a consumer that wait for each other in turn. -/
def handover : List (QueueInput (Fin 2) Unit) :=
  [.call 1 .pop none, .call 0 (.push ()) none, .notify 0 (some 1), .call 0 (.push ()) none,
    .resume 1 none, .notify 1 (some 0), .resume 0 none, .notify 0 none, .finish 0,
    .call 1 .pop none, .notify 1 none, .call 1 .pop none]

/-- With one producer, one consumer and room for one item both can go on until the consumer
    waits for an item that does not come. -/
theorem no_lost_wakeup_handover :
    ((machine .jobQueue oneProducer).run (start 1) handover).AtRest ∧
    ¬((machine .jobQueue oneProducer).run (start 1) handover).LostWakeup :=
  ⟨by decide +kernel, no_lost_wakeup .jobQueue oneProducer (by decide +kernel)
    (by decide +kernel)⟩

/-- Two consumers wait.  The producer queues an item, which wakes one of them, and waits with the
    next item.  The consumer takes the item and notifies the other consumer. -/
def misdirected : Kind → List (QueueInput (Fin 3) Unit)
  | .jobQueue => [.call 1 .pop none, .call 2 .pop none, .call 0 (.push ()) none,
      .notify 0 (some 1), .call 0 (.push ()) none, .resume 1 none, .notify 1 (some 2),
      .resume 2 none, .finish 1]
  | .lockedWaitQueue => [.call 1 .pop none, .call 2 .pop none, .call 0 (.push ()) (some 1),
      .call 0 (.push ()) none, .resume 1 none, .notify 1 (some 2), .resume 2 none, .finish 1]

/-- Then the producer is left waiting at an empty queue, in either class. -/
theorem wakeup_lost :
    (((machine .jobQueue oneProducer).run (start 1) (misdirected .jobQueue)).AtRest ∧
      ((machine .jobQueue oneProducer).run (start 1) (misdirected .jobQueue)).LostWakeup) ∧
    ((machine .lockedWaitQueue oneProducer).run (start 1)
        (misdirected .lockedWaitQueue)).AtRest ∧
      ((machine .lockedWaitQueue oneProducer).run (start 1)
        (misdirected .lockedWaitQueue)).LostWakeup := by
  decide +kernel

end Threads

end Knights.Concurrent
