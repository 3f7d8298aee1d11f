import Knights.Gateway.Backend

namespace Knights.Net

open Knights.Lib List
open Knights.Gateway (exceedsQueueBudget add_le_of_not_exceeds)

/-!
# Net — the send queues of `Session` and `Connection`

Both classes (`core/src/net/session.cpp`, `core/src/net/connection.cpp`) write what they are given
to send from a queue, one packet after the other.  The packet being written stays at the front of
the queue until its `async_write` completes, and the completion starts the next one.  All of this
happens in handlers on a strand, which run one after the other, so that a handler is one step.

`stop` may be called off the strand as well.  The flag is then set at once, and the rest of `stop`
runs in a handler of its own (`SendInput.finalize`), with other handlers in between.  A session
keeps its queue when it stops; a connection clears it, also while a packet of it is being written.

Packets are of any type, with a size.  The sizes are those of buffers in memory, so that their sum
does not overflow.

* `Disciplined` — what is wanted of a run;
* `IsSender` — what a step has to keep for that, and `sendQueue_disciplined` — both classes do.
-/

/-- The part of a session or a connection that has to do with sending. -/
structure SendState (P : Type) where
  queue : List P := []
  queuedBytes : ℕ := 0
  stopped : Bool := false
  /-- `stop` was called off the strand, and the rest of it is still to run. -/
  stopping : Bool := false
  /-- The packets whose `async_write` has not completed. -/
  outstanding : List P := []
  deriving DecidableEq, Repr

/-- What a handler does to a packet. -/
inductive SendEffect (P : Type) where
  /-- It joins the queue. -/
  | queued (p : P)
  /-- An `async_write` is started for it. -/
  | written (p : P)
  deriving DecidableEq, Repr

/-- The handlers. -/
inductive SendInput (P : Type) where
  /-- The handler that `async_send` puts on the strand. -/
  | asyncSend (p : P)
  /-- One of the outstanding writes completes. -/
  | completed (k : ℕ) (ok : Bool)
  /-- `stop`, called on the strand. -/
  | stop
  /-- `stop`, called off the strand: only the flag. -/
  | stopElsewhere
  /-- What is left of a `stop` that was called off the strand. -/
  | finalize
  deriving DecidableEq, Repr

variable {P : Type} (size : P → ℕ) {s : SendState P} {p : P} {k : ℕ}

namespace SendState

/-- Start to write the packet at the front. -/
def doWrite (s : SendState P) : SendState P × List (SendEffect P) :=
  match s.queue with
  | [] => (s, [])
  | p :: _ => ({ s with outstanding := s.outstanding ++ [p] }, [.written p])

/-- Append a packet, and write it at once if there is none before it. -/
def push (p : P) (s : SendState P) : SendState P × List (SendEffect P) :=
  let idle := s.queue.isEmpty
  let s := { s with queuedBytes := s.queuedBytes + size p, queue := s.queue ++ [p] }
  if idle then (s.doWrite.1, .queued p :: s.doWrite.2) else (s, [.queued p])

/-- A packet has been written: take its size off the count and the front off the queue, and go
    on with the next one. -/
def advance (p : P) (s : SendState P) : SendState P × List (SendEffect P) :=
  let left := if s.queuedBytes ≥ size p then s.queuedBytes - size p else 0
  { s with queuedBytes := left, queue := s.queue.tail }.doWrite

/-- Hand the completion of the `k`-th outstanding write to its handler. -/
def complete (handler : P → SendState P → SendState P × List (SendEffect P)) (k : ℕ)
    (s : SendState P) : SendState P × List (SendEffect P) :=
  match s.outstanding[k]? with
  | none => (s, [])
  | some p => handler p { s with outstanding := s.outstanding.eraseIdx k }

/-- Set the flag, and leave the rest of `stop` to the strand, unless the flag was set before. -/
def flagStop (s : SendState P) : SendState P :=
  if s.stopped then s else { s with stopped := true, stopping := true }

end SendState

namespace Session

/-- Closing the socket and the timers leaves the queue as it is. -/
def stop (s : SendState P) : SendState P := { s with stopped := true }

/-- The handler of `async_send`; `options` is `send_queue_max`, if the session has options. -/
def asyncSend (options : Option ℕ) (p : P) (s : SendState P) : SendState P × List (SendEffect P) :=
  if s.stopped then (s, [])
  else if options.any (exceedsQueueBudget · s.queuedBytes (size p)) then (stop s, [])
  else s.push size p

/-- The handler of `async_write` in `do_write`. -/
def onWritten (ok : Bool) (p : P) (s : SendState P) : SendState P × List (SendEffect P) :=
  if ok then s.advance size p else (stop s, [])

/-- One handler. -/
def step (options : Option ℕ) (s : SendState P) : SendInput P → SendState P × List (SendEffect P)
  | .asyncSend p => asyncSend size options p s
  | .completed k ok => s.complete (onWritten size ok) k
  | .stop => (stop s, [])
  | .stopElsewhere => (s.flagStop, [])
  | .finalize => ({ s with stopping := false }, [])

/-- A session as a machine. -/
def machine (options : Option ℕ) : Machine (SendState P) (SendInput P) (List (SendEffect P)) where
  step := step size options

end Session

namespace Connection

/-- Close the socket and clear the queue; the write of a packet that was in it may be
    outstanding. -/
def finalizeStop (s : SendState P) : SendState P :=
  { s with queue := [], queuedBytes := 0, stopping := false }

/-- `stop` on the strand, where what it dispatches runs at once. -/
def stop (s : SendState P) : SendState P :=
  if s.stopped then s else finalizeStop { s with stopped := true }

/-- The handler of `async_send`; a limit of 0 is none. -/
def asyncSend (sendQueueMaxBytes : ℕ) (p : P) (s : SendState P) :
    SendState P × List (SendEffect P) :=
  let remaining := sendQueueMaxBytes - min sendQueueMaxBytes s.queuedBytes
  if s.stopped then (s, [])
  else if sendQueueMaxBytes > 0 ∧ size p > remaining then (stop s, [])
  else s.push size p

/-- The handler of `async_write`. -/
def handleWrite (ok : Bool) (p : P) (s : SendState P) : SendState P × List (SendEffect P) :=
  if ok then s.advance size p else (stop s, [])

/-- One handler. -/
def step (sendQueueMaxBytes : ℕ) (s : SendState P) : SendInput P → SendState P × List (SendEffect P)
  | .asyncSend p => asyncSend size sendQueueMaxBytes p s
  | .completed k ok => s.complete (handleWrite size ok) k
  | .stop => (stop s, [])
  | .stopElsewhere => (s.flagStop, [])
  | .finalize => (if s.stopping then finalizeStop s else s, [])

/-- A connection as a machine. -/
def machine (sendQueueMaxBytes : ℕ) :
    Machine (SendState P) (SendInput P) (List (SendEffect P)) where
  step := step size sendQueueMaxBytes

end Connection

/-! ### What is wanted -/

/-- The packets that effects put into the queue, in order. -/
def queuedIn (es : List (SendEffect P)) : List P :=
  es.filterMap fun
    | .queued p => some p
    | .written _ => none

/-- The packets that effects start to write, in order. -/
def writtenIn (es : List (SendEffect P)) : List P :=
  es.filterMap fun
    | .queued _ => none
    | .written p => some p

@[simp] theorem queuedIn_nil : queuedIn ([] : List (SendEffect P)) = [] := rfl

@[simp] theorem writtenIn_nil : writtenIn ([] : List (SendEffect P)) = [] := rfl

section

variable (p : P) (es es' : List (SendEffect P))

@[simp] theorem queuedIn_queued : queuedIn (.queued p :: es) = p :: queuedIn es := rfl

@[simp] theorem queuedIn_written : queuedIn (.written p :: es) = queuedIn es := rfl

@[simp] theorem writtenIn_queued : writtenIn (.queued p :: es) = writtenIn es := rfl

@[simp] theorem writtenIn_written : writtenIn (.written p :: es) = p :: writtenIn es := rfl

@[simp] theorem queuedIn_append : queuedIn (es ++ es') = queuedIn es ++ queuedIn es' :=
  filterMap_append

@[simp] theorem writtenIn_append : writtenIn (es ++ es') = writtenIn es ++ writtenIn es' :=
  filterMap_append

end

/-- **Send queue discipline.** What holds after the handlers `is`, from the start on. -/
structure Disciplined (M : Machine (SendState P) (SendInput P) (List (SendEffect P)))
    (limit : ℕ) (is : List (SendInput P)) : Prop where
  /-- The count is that of the packets in the queue. -/
  bytes : (M.run {} is).queuedBytes = ((M.run {} is).queue.map size).sum
  /-- The packet that is being written is in the queue, unless that was cleared by a stop. -/
  front : ∀ p ∈ (M.run {} is).outstanding, (M.run {} is).queue.head? = some p ∨
    (M.run {} is).stopped = true ∧ (M.run {} is).queue = []
  bounded : 0 < limit → (M.run {} is).queuedBytes ≤ limit
  single : (M.run {} is).outstanding.length ≤ 1
  /-- Packets are written in the order of the queue, none of them twice and none left out. -/
  ordered : writtenIn (M.outputs {} is) <+: queuedIn (M.outputs {} is)
  /-- Once the flag is set, nothing more is queued. -/
  closed : ∀ pre post, is = pre ++ post → (M.run {} pre).stopped = true →
    queuedIn (M.outputs {} is) = queuedIn (M.outputs {} pre)

/-! ### What a step keeps -/

/-- How far the writing is, when `q` has been queued and `w` has been started so far. -/
inductive Phase (q w : List P) (s : SendState P) : Prop where
  /-- All that was queued has been written. -/
  | idle (queue : s.queue = []) (outstanding : s.outstanding = []) (written : w = q)
  /-- The packet at the front is being written. -/
  | writing (p : P) (rest done : List P) (queue : s.queue = p :: rest)
      (outstanding : s.outstanding = [p]) (queued : q = done ++ p :: rest)
      (written : w = done ++ [p])
  /-- A write failed, or the queue was cleared while a packet was being written. -/
  | halted (stopped : s.stopped = true) (ended : s.queue = [] ∨ s.outstanding = [])
      (single : s.outstanding.length ≤ 1) (written : w <+: q)

/-- The invariant of the send queues. -/
structure Kept (limit : ℕ) (q w : List P) (s : SendState P) : Prop where
  bytes : s.queuedBytes = (s.queue.map size).sum
  bounded : 0 < limit → s.queuedBytes ≤ limit
  flagged : s.stopping = true → s.stopped = true
  phase : Phase q w s

namespace Kept

variable {size} {limit : ℕ} {q w : List P} {s : SendState P} (h : Kept size limit q w s)
include h

/-- Only the queue, the count, the flag and the outstanding writes matter. -/
theorem congr {s' : SendState P} (hqueue : s'.queue = s.queue)
    (hbytes : s'.queuedBytes = s.queuedBytes) (hout : s'.outstanding = s.outstanding)
    (hstop : s.stopped = true → s'.stopped = true)
    (hflag : s'.stopping = true → s'.stopped = true) : Kept size limit q w s' := by
  refine ⟨by rw [hbytes, hqueue, h.bytes], fun hl => hbytes ▸ h.bounded hl, hflag, ?_⟩
  cases h.phase with
  | idle queue outstanding written =>
    exact .idle (hqueue.trans queue) (hout.trans outstanding) written
  | writing p rest done queue outstanding queued written =>
    exact .writing p rest done (hqueue.trans queue) (hout.trans outstanding) queued written
  | halted stopped ended single written =>
    rw [← hqueue, ← hout] at ended
    rw [← hout] at single
    exact .halted (hstop stopped) ended single written

/-- A step without effects. -/
theorem quiet : Kept size limit (q ++ queuedIn []) (w ++ writtenIn []) s := by
  simpa using h

/-- What was written is a first part of what was queued. -/
theorem written_isPrefix : w <+: q := by
  cases h.phase with
  | idle _ _ written => exact written ▸ prefix_rfl
  | writing p rest done _ _ queued written =>
    refine ⟨rest, ?_⟩
    rw [queued, written, append_assoc]
    rfl
  | halted _ _ _ written => exact written

/-- At most one write is outstanding. -/
theorem single : s.outstanding.length ≤ 1 := by
  cases h.phase with
  | idle _ outstanding _ | writing p _ _ _ outstanding _ _ => simp [outstanding]
  | halted _ _ single _ => exact single

/-- A packet joins the queue. -/
theorem push (hrun : s.stopped = false)
    (hroom : 0 < limit → s.queuedBytes + size p ≤ limit) :
    Kept size limit (q ++ queuedIn (s.push size p).2) (w ++ writtenIn (s.push size p).2)
      (s.push size p).1 := by
  have hbytes : s.queuedBytes + size p = ((s.queue ++ [p]).map size).sum := by
    simp [h.bytes]
  cases h.phase with
  | idle queue outstanding written =>
    have hpush : s.push size p = ({ s with
        queuedBytes := s.queuedBytes + size p, queue := [p], outstanding := [p] },
        [.queued p, .written p]) := by
      simp [SendState.push, SendState.doWrite, queue, outstanding]
    rw [hpush]
    refine ⟨by simpa [queue] using hbytes, hroom, h.flagged, ?_⟩
    exact .writing p [] q rfl rfl rfl (by rw [written]; rfl)
  | writing p' rest done queue outstanding queued written =>
    have hpush : s.push size p = ({ s with
        queuedBytes := s.queuedBytes + size p, queue := s.queue ++ [p] }, [.queued p]) := by
      simp [SendState.push, queue]
    rw [hpush]
    refine ⟨hbytes, hroom, h.flagged, .writing p' (rest ++ [p]) done ?_ outstanding ?_ ?_⟩
    · simp [queue]
    · simp [queued]
    · simp [written]
  | halted stopped _ _ _ =>
    rw [hrun] at stopped
    cases stopped

/-- At most one write is outstanding, so it is the one that completes. -/
theorem lone (hk : s.outstanding[k]? = some p) :
    s.outstanding = [p] ∧ s.outstanding.eraseIdx k = [] := by
  obtain ⟨hlt, -⟩ := List.getElem?_eq_some_iff.mp hk
  have hsingle := h.single
  obtain ⟨p', hp'⟩ := length_eq_one_iff.mp (show s.outstanding.length = 1 by omega)
  obtain rfl : k = 0 := by omega
  rw [hp'] at hk ⊢
  exact ⟨congrArg (· :: []) (Option.some.inj hk), rfl⟩

/-- A write has completed. -/
theorem advance (hk : s.outstanding[k]? = some p) : Kept size limit
      (q ++ queuedIn ({ s with outstanding := s.outstanding.eraseIdx k }.advance size p).2)
      (w ++ writtenIn ({ s with outstanding := s.outstanding.eraseIdx k }.advance size p).2)
      ({ s with outstanding := s.outstanding.eraseIdx k }.advance size p).1 := by
  obtain ⟨hlone, herase⟩ := h.lone hk
  -- The next packet is the front of what is left.
  have hadv : { s with outstanding := [] }.advance size p = ({ s with
      queuedBytes := s.queuedBytes - size p, queue := s.queue.tail,
      outstanding := s.queue.tail.head?.toList }, s.queue.tail.head?.toList.map .written) := by
    have hleft : (if s.queuedBytes ≥ size p then s.queuedBytes - size p else 0) =
        s.queuedBytes - size p := by
      split_ifs <;> omega
    rw [SendState.advance, hleft, SendState.doWrite]
    cases s.queue.tail <;> rfl
  rw [herase, hadv]
  have hbound : 0 < limit → s.queuedBytes - size p ≤ limit :=
    fun hl => (Nat.sub_le ..).trans (h.bounded hl)
  cases h.phase with
  | idle _ outstanding _ => simp [outstanding] at hlone
  | writing p' rest done queue outstanding queued written =>
    obtain rfl : p' = p := by simpa [outstanding] using hlone
    rw [queue]
    refine ⟨by simp [h.bytes, queue], hbound, h.flagged, ?_⟩
    cases rest with
    | nil => exact .idle rfl rfl (by simp [queued, written])
    | cons p'' rest =>
      exact .writing p'' rest (done ++ [p']) rfl rfl (by simp [queued]) (by simp [written])
  | halted stopped ended _ written =>
    -- The queue was cleared, and the count with it.
    have hqueue : s.queue = [] := ended.resolve_right (by simp [hlone])
    rw [hqueue]
    refine ⟨by simp [h.bytes, hqueue], hbound, h.flagged, ?_⟩
    exact .halted stopped (.inl rfl) (Nat.zero_le _) (by simpa using written)

/-- An outstanding write goes, and the flag is set. -/
theorem fail (hk : s.outstanding[k]? = some p) : Kept size limit q w
      { s with outstanding := s.outstanding.eraseIdx k, stopped := true } := by
  obtain ⟨-, hnone⟩ := h.lone hk
  refine ⟨h.bytes, h.bounded, fun _ => rfl, .halted rfl (.inr hnone) ?_ h.written_isPrefix⟩
  simp [hnone]

/-- The queue is cleared, when the flag is set. -/
theorem clear (hstop : s.stopped = true) : Kept size limit q w (Connection.finalizeStop s) :=
  ⟨rfl, fun _ => Nat.zero_le _, fun _ => hstop,
    .halted hstop (.inl rfl) h.single h.written_isPrefix⟩

/-- The flag is set. -/
theorem flag : Kept size limit q w { s with stopped := true } :=
  h.congr rfl rfl rfl (fun _ => rfl) fun _ => rfl

theorem flagStop : Kept size limit q w s.flagStop := by
  unfold SendState.flagStop
  split
  · exact h
  · exact h.congr rfl rfl rfl (fun _ => rfl) fun _ => rfl

end Kept

/-- **Step rule.** A machine that keeps the invariant, with what the step queues and writes, and
    that neither takes the flag back nor queues anything under it. -/
structure IsSender (limit : ℕ) (M : Machine (SendState P) (SendInput P) (List (SendEffect P))) :
    Prop where
  kept : ∀ {q w : List P} {s : SendState P}, Kept size limit q w s → ∀ i,
    Kept size limit (q ++ queuedIn (M.step s i).2) (w ++ writtenIn (M.step s i).2) (M.next s i)
  latched : ∀ {s : SendState P}, s.stopped = true → ∀ i,
    (M.next s i).stopped = true ∧ queuedIn (M.step s i).2 = []

namespace IsSender

variable {size} {limit : ℕ} {M : Machine (SendState P) (SendInput P) (List (SendEffect P))}

/-- The invariant holds after every run. -/
theorem kept_run (h : IsSender size limit M) (is : List (SendInput P)) :
    Kept size limit (queuedIn (M.outputs {} is)) (writtenIn (M.outputs {} is)) (M.run {} is) := by
  refine M.outputs_invariant (fun es s => Kept size limit (queuedIn es) (writtenIn es) s) ?_ ?_ is
  · intro es s i hs
    rw [queuedIn_append, writtenIn_append]
    exact h.kept hs i
  · exact ⟨rfl, fun _ => Nat.zero_le _, id, .idle rfl rfl rfl⟩

/-- A run under the flag queues nothing. -/
theorem queuedIn_of_stopped (h : IsSender size limit M) (hs : s.stopped = true)
    (is : List (SendInput P)) : queuedIn (M.outputs s is) = [] := by
  induction is generalizing s with
  | nil => rfl
  | cons i is ih =>
    obtain ⟨hnext, hnone⟩ := h.latched hs i
    show queuedIn ((M.step s i).2 ++ M.outputs (M.next s i) is) = []
    rw [queuedIn_append, hnone, ih hnext]
    rfl

/-- Every run is disciplined. -/
theorem disciplined (h : IsSender size limit M) (is : List (SendInput P)) :
    Disciplined size M limit is where
  bytes := (h.kept_run is).bytes
  bounded := (h.kept_run is).bounded
  single := (h.kept_run is).single
  ordered := (h.kept_run is).written_isPrefix
  front := by
    intro p hp
    have hsome : (M.run {} is).outstanding ≠ [] := ne_nil_of_mem hp
    cases (h.kept_run is).phase with
    | idle _ outstanding _ => exact absurd outstanding hsome
    | writing p' rest _ queue outstanding _ _ =>
      left
      rw [outstanding, mem_singleton] at hp
      rw [queue, hp]
      rfl
    | halted stopped ended _ _ => exact .inr ⟨stopped, ended.resolve_right hsome⟩
  closed := by
    rintro pre post rfl hstop
    rw [M.outputs_append, queuedIn_append, h.queuedIn_of_stopped hstop post, append_nil]

end IsSender

/-! ### The two classes -/

/-- Writing queues nothing. -/
theorem queuedIn_doWrite : queuedIn s.doWrite.2 = [] := by
  unfold SendState.doWrite
  split <;> rfl

theorem stopped_doWrite : s.doWrite.1.stopped = s.stopped := by
  unfold SendState.doWrite
  split <;> rfl

theorem stopped_flagStop : s.flagStop.stopped = true := by
  unfold SendState.flagStop
  split
  case isTrue h => exact h
  case isFalse => rfl

/-- A send queues its packet or nothing. -/
theorem queuedIn_asyncSend (options : Option ℕ) (p : P) (s : SendState P) :
    queuedIn (Session.asyncSend size options p s).2 = [] ∨
      queuedIn (Session.asyncSend size options p s).2 = [p] := by
  unfold Session.asyncSend
  split_ifs
  · exact .inl rfl
  · exact .inl rfl
  · right
    unfold SendState.push
    dsimp only
    split_ifs
    · rw [queuedIn_queued, queuedIn_doWrite]
    · rfl

/-- A completion queues nothing. -/
theorem queuedIn_completed (options : Option ℕ) (k : ℕ) (ok : Bool) (s : SendState P) :
    queuedIn (Session.step size options s (.completed k ok)).2 = [] := by
  show queuedIn (s.complete (Session.onWritten size ok) k).2 = []
  unfold SendState.complete
  split
  · rfl
  · unfold Session.onWritten
    split
    · exact queuedIn_doWrite
    · rfl

/-- What the two classes have in common: they differ in when the queue is full, and in what they
    do to stop. -/
def senderStep (full : P → SendState P → Bool) (stop finalize : SendState P → SendState P)
    (s : SendState P) : SendInput P → SendState P × List (SendEffect P)
  | .asyncSend p => if s.stopped then (s, []) else if full p s then (stop s, []) else s.push size p
  | .completed k ok => s.complete (fun p s => if ok then s.advance size p else (stop s, [])) k
  | .stop => (stop s, [])
  | .stopElsewhere => (s.flagStop, [])
  | .finalize => (finalize s, [])

/-- **One rule for both**: stopping sets the flag, keeps the invariant, also when a write has just
    failed, and a queue that is not full has room. -/
theorem isSender_of_senderStep {limit : ℕ} (full : P → SendState P → Bool)
    (stop finalize : SendState P → SendState P)
    {M : Machine (SendState P) (SendInput P) (List (SendEffect P))}
    (hM : ∀ s i, M.step s i = senderStep size full stop finalize s i)
    (hstopped : ∀ s, (stop s).stopped = true)
    (hfinalized : ∀ {s}, s.stopped = true → (finalize s).stopped = true)
    (hroom : ∀ {p s}, full p s = false → s.queuedBytes ≤ limit → 0 < limit →
      s.queuedBytes + size p ≤ limit)
    (hstop : ∀ {q w : List P} {s}, Kept size limit q w s → Kept size limit q w (stop s))
    (hfail : ∀ {q w : List P} {s} {k : ℕ} {p : P}, Kept size limit q w s →
      s.outstanding[k]? = some p →
      Kept size limit q w (stop { s with outstanding := s.outstanding.eraseIdx k }))
    (hfinalize : ∀ {q w : List P} {s}, Kept size limit q w s → Kept size limit q w (finalize s)) :
    IsSender size limit M where
  kept := by
    intro q w s h i
    rw [Machine.next, hM]
    cases i with
    | asyncSend p =>
      unfold senderStep
      dsimp only
      split_ifs with hflag hfull
      · exact h.quiet
      · exact (hstop h).quiet
      · refine h.push (by simpa using hflag) fun hlimit => ?_
        exact hroom (by simpa using hfull) (h.bounded hlimit) hlimit
    | completed k ok =>
      unfold senderStep SendState.complete
      dsimp only
      split
      case h_1 => exact h.quiet
      case h_2 p hk =>
        cases ok with
        | true => exact h.advance hk
        | false => exact (hfail h hk).quiet
    | stop => exact (hstop h).quiet
    | stopElsewhere => exact h.flagStop.quiet
    | finalize => exact (hfinalize h).quiet
  latched := by
    intro s hs i
    rw [Machine.next, hM]
    cases i with
    | asyncSend p =>
      rw [senderStep, if_pos hs]
      exact ⟨hs, rfl⟩
    | completed k ok =>
      unfold senderStep SendState.complete
      dsimp only
      split
      · exact ⟨hs, rfl⟩
      · cases ok with
        | true => exact ⟨stopped_doWrite.trans hs, queuedIn_doWrite⟩
        | false => exact ⟨hstopped _, rfl⟩
    | stop => exact ⟨hstopped s, rfl⟩
    | stopElsewhere => exact ⟨stopped_flagStop, rfl⟩
    | finalize => exact ⟨hfinalized hs, rfl⟩

theorem Session.isSender (options : Option ℕ) :
    IsSender size (options.getD 0) (Session.machine size options) := by
  refine isSender_of_senderStep size
    (fun p s => options.any (exceedsQueueBudget · s.queuedBytes (size p))) Session.stop
    (fun s => { s with stopping := false }) (fun s i => by cases i <;> rfl) (fun _ => rfl) id ?_
    Kept.flag (fun h hk => h.fail hk) fun h => h.congr rfl rfl rfl id nofun
  intro p s hfull _ hlimit
  cases options with
  | none => simp at hlimit
  | some max => exact add_le_of_not_exceeds (by simpa using hfull) hlimit

theorem Connection.isSender (sendQueueMaxBytes : ℕ) :
    IsSender size sendQueueMaxBytes (Connection.machine size sendQueueMaxBytes) := by
  refine isSender_of_senderStep size (fun p s => decide (sendQueueMaxBytes > 0 ∧
      size p > sendQueueMaxBytes - min sendQueueMaxBytes s.queuedBytes)) Connection.stop
    (fun s => if s.stopping then finalizeStop s else s) ?_ ?_ ?_ ?_ ?_ ?_ ?_
  · intro s i
    cases i with
    | asyncSend p => simp [Connection.machine, Connection.step, Connection.asyncSend, senderStep]
    | completed | stop | stopElsewhere | finalize => rfl
  · intro s
    unfold Connection.stop
    split
    case isTrue h => exact h
    case isFalse => rfl
  · intro s hs
    split <;> exact hs
  · intro p s hfull hbound hlimit
    have hfits := of_decide_eq_false hfull
    omega
  · intro q w s h
    unfold Connection.stop
    split
    · exact h
    · exact h.flag.clear rfl
  · intro q w s k p h hk
    -- With the flag set before, an error leaves everything else as it is.
    unfold Connection.stop
    split
    case isTrue hstop => exact (h.fail hk).congr rfl rfl rfl (fun _ => hstop) fun _ => hstop
    case isFalse => exact (h.fail hk).clear rfl
  · intro q w s h
    split
    case isTrue hstopping => exact h.clear (h.flagged hstopping)
    case isFalse => exact h

/-- **The send queues of `Session` and `Connection` are disciplined**, in every run of their
    handlers: the count is that of the queue and within the limit, there is one write at a time,
    packets are written in the order of the queue and at most once, and none is queued once the
    flag is set. -/
theorem sendQueue_disciplined (options : Option ℕ) (sendQueueMaxBytes : ℕ)
    (is : List (SendInput P)) :
    Disciplined size (Session.machine size options) (options.getD 0) is ∧
      Disciplined size (Connection.machine size sendQueueMaxBytes) sendQueueMaxBytes is :=
  ⟨(Session.isSender size options).disciplined is,
    (Connection.isSender size sendQueueMaxBytes).disciplined is⟩

end Knights.Net
