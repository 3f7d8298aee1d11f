import Knights.Gateway.Backend

namespace Knights.Gateway

open Knights.Lib Knights.Protocol List

/-!
# Gateway — what reaches the backend

What a connection is given to send waits in a queue until the connection is made, and then goes out
buffer by buffer.  The backend should see it from the first buffer on, without gaps: that one is the
login.  The queue outlives a connection that is tried again, but a buffer is taken off it as soon
as it has been written somewhere.

* `Intact` — the bytes in the queue are counted, within the limit, at most one write is pending,
  and what was written on the connection is a prefix of all that was to be sent;
* `Streaming` — the invariant behind it: before the connection is made nothing has been written;
  afterwards what was written is what was taken off the queue and a piece of its first buffer;
* `stream_intact` — it is kept as long as no handler of connecting runs once the connection is made;
* `login_lost` — the handler of a connect timer that had expired can, and then the backend sees a
  stream without its beginning.
-/

namespace Outgoing

/-- **The stream is in order.** -/
structure Intact (o : Outgoing) : Prop where
  queued : o.queuedBytes = (o.writeQueue.map List.length).sum
  bounded : 0 < o.sendQueueMaxBytes → o.queuedBytes ≤ o.sendQueueMaxBytes
  single : o.writes.length ≤ 1
  wire : o.wire <+: o.accepted.flatten

/-! ### The invariant -/

/-- Nothing has been written. -/
structure Idle (o : Outgoing) : Prop where
  writes : o.writes = []
  wire : o.wire = []
  inProgress : o.writeInProgress = false
  queue : o.writeQueue = o.accepted

/-- What was taken off the queue has been written; if the queue is not empty, its first buffer is
    being written. -/
inductive Flowing (o : Outgoing) : Prop where
  | drained (hqueue : o.writeQueue = []) (hwrites : o.writes = [])
      (hprogress : o.writeInProgress = false) (hwire : o.wire = o.accepted.flatten)
  | writing (done rest : List Bytes) (op : WriteOp) (hqueue : o.writeQueue = op.msg :: rest)
      (haccepted : o.accepted = done ++ op.msg :: rest) (hwrites : o.writes = [op])
      (hlive : op.progress ≠ .aborted) (hprogress : o.writeInProgress = true)
      (hsent : op.sent ≤ op.msg.length) (hwire : o.wire = done.flatten ++ op.msg.take op.sent)

/-- A connection that is not closed. -/
structure Streaming (o : Outgoing) : Prop where
  queued : o.queuedBytes = (o.writeQueue.map List.length).sum
  bounded : 0 < o.sendQueueMaxBytes → o.queuedBytes ≤ o.sendQueueMaxBytes
  idle : o.connected = false → Idle o
  flowing : o.connected = true → Flowing o

namespace Streaming

variable {o : Outgoing} {op : WriteOp} {j : ℕ}

section

variable (hqueued : o.queuedBytes = (o.writeQueue.map List.length).sum)
  (hbounded : 0 < o.sendQueueMaxBytes → o.queuedBytes ≤ o.sendQueueMaxBytes)
include hqueued hbounded

theorem of_idle (hconnected : o.connected = false) (hidle : Idle o) : Streaming o := by
  refine ⟨hqueued, hbounded, fun _ => hidle, fun hyes => ?_⟩
  cases hconnected.symm.trans hyes

theorem of_flowing (hconnected : o.connected = true) (hflowing : Flowing o) : Streaming o := by
  refine ⟨hqueued, hbounded, fun hno => ?_, fun _ => hflowing⟩
  cases hconnected.symm.trans hno

/-- The first buffer of the queue starts to go out. -/
theorem doWrite {done : List Bytes} (hconnected : o.connected = true)
    (haccepted : o.accepted = done ++ o.writeQueue) (hwrites : o.writes = [])
    (hwire : o.wire = done.flatten) : Streaming o.doWrite := by
  unfold Outgoing.doWrite
  split
  case h_1 hqueue =>
    refine of_flowing hqueued hbounded hconnected (.drained hqueue hwrites rfl ?_)
    rw [hwire, haccepted, hqueue, append_nil]
  case h_2 msg rest hqueue =>
    refine of_flowing hqueued hbounded hconnected (.writing done rest { msg := msg } hqueue
      (haccepted.trans (by rw [hqueue])) ?_ nofun rfl (Nat.zero_le _) ?_)
    · rw [hwrites]
      rfl
    · rw [hwire, take_zero, append_nil]

end

variable (h : Streaming o)
include h

theorem intact : Intact o := by
  refine ⟨h.queued, h.bounded, ?_, ?_⟩
  · cases hconnected : o.connected with
    | false =>
      rw [(h.idle hconnected).writes]
      exact Nat.zero_le 1
    | true =>
      cases h.flowing hconnected with
      | drained _ hwrites =>
        rw [hwrites]
        exact Nat.zero_le 1
      | writing done rest op _ _ hwrites =>
        rw [hwrites]
        exact le_rfl
  · cases hconnected : o.connected with
    | false =>
      rw [(h.idle hconnected).wire]
      exact nil_prefix
    | true =>
      cases h.flowing hconnected with
      | drained _ _ _ hwire => rw [hwire]
      | writing done rest op _ haccepted _ _ _ _ hwire =>
        rw [hwire, haccepted, flatten_append, flatten_cons, prefix_append_right_inj]
        exact (List.take_prefix _ _).trans (prefix_append _ _)

/-! ### Connecting -/

section

variable (hconnected : o.connected = false)
include hconnected

/-- Closing the socket of a connection that is not made loses nothing. -/
theorem closeSocket : Streaming o.closeSocket ∧ o.closeSocket.connected = false := by
  unfold Outgoing.closeSocket
  split
  case isFalse => exact ⟨h, hconnected⟩
  case isTrue =>
    have hidle := h.idle hconnected
    refine ⟨of_idle h.queued h.bounded hconnected ⟨?_, rfl, hidle.inProgress, hidle.queue⟩,
      hconnected⟩
    rw [hidle.writes]
    rfl

theorem closeSocketForRetry : Streaming o.closeSocketForRetry := by
  obtain ⟨hclosed, hno⟩ := h.closeSocket hconnected
  have hidle := hclosed.idle hno
  exact of_idle hclosed.queued hclosed.bounded rfl ⟨hidle.writes, hidle.wire, rfl, hidle.queue⟩

theorem openSocket : Streaming o.openSocket := by
  obtain ⟨hclosed, hno⟩ := h.closeSocket hconnected
  have hidle := hclosed.idle hno
  exact of_idle hclosed.queued hclosed.bounded hno
    ⟨hidle.writes, rfl, hidle.inProgress, hidle.queue⟩

/-- The connection is made. -/
theorem connect : Streaming o.connect := by
  have hidle := h.idle hconnected
  unfold Outgoing.connect
  dsimp only
  split
  case isTrue hqueue =>
    refine of_flowing h.queued h.bounded rfl (.drained hqueue hidle.writes hidle.inProgress ?_)
    rw [hidle.wire, ← hidle.queue, hqueue]
    rfl
  case isFalse =>
    exact @doWrite { o with connected := true } h.queued h.bounded [] rfl hidle.queue.symm
      hidle.writes hidle.wire

end

/-! ### Writing -/

theorem enqueue {payload : Bytes}
    (hroom : exceedsQueueBudget o.sendQueueMaxBytes o.queuedBytes payload.length = false) :
    Streaming (o.enqueue payload) := by
  have hqueued : (o.push payload).queuedBytes =
      ((o.push payload).writeQueue.map List.length).sum := by
    show o.queuedBytes + payload.length = ((o.writeQueue ++ [payload]).map List.length).sum
    rw [map_append, sum_append, h.queued]
    rfl
  have hbounded : 0 < (o.push payload).sendQueueMaxBytes →
      (o.push payload).queuedBytes ≤ (o.push payload).sendQueueMaxBytes :=
    add_le_of_not_exceeds hroom
  unfold Outgoing.enqueue
  cases hconnected : o.connected with
  | false =>
    rw [if_neg (by simp [Outgoing.push, hconnected])]
    have hidle := h.idle hconnected
    refine of_idle hqueued hbounded hconnected ⟨hidle.writes, hidle.wire, hidle.inProgress, ?_⟩
    exact congrArg (· ++ [payload]) hidle.queue
  | true =>
    cases h.flowing hconnected with
    | drained hqueue hwrites hprogress hwire =>
      -- Nothing is being written, so the buffer goes out at once.
      rw [if_pos (by simp [Outgoing.push, hconnected, hprogress])]
      refine @doWrite (o.push payload) hqueued hbounded o.accepted hconnected ?_ hwrites hwire
      show o.accepted ++ [payload] = o.accepted ++ (o.writeQueue ++ [payload])
      rw [hqueue]
      rfl
    | writing done rest op hqueue haccepted hwrites hlive hprogress hsent hwire =>
      rw [if_neg (by simp [Outgoing.push, hprogress])]
      refine of_flowing hqueued hbounded hconnected (.writing done (rest ++ [payload]) op ?_ ?_
        hwrites hlive hprogress hsent hwire)
      · exact congrArg (· ++ [payload]) hqueue
      · show o.accepted ++ [payload] = _
        rw [haccepted]
        simp

/-- There is one pending write at most, and it is the first. -/
theorem writing_of_getElem (hop : o.writes[j]? = some op) :
    o.connected = true ∧ j = 0 ∧ ∃ done rest, o.writeQueue = op.msg :: rest ∧
      o.accepted = done ++ op.msg :: rest ∧ o.writes = [op] ∧ op.progress ≠ .aborted ∧
      o.writeInProgress = true ∧ op.sent ≤ op.msg.length ∧
      o.wire = done.flatten ++ op.msg.take op.sent := by
  cases hconnected : o.connected with
  | false =>
    rw [(h.idle hconnected).writes] at hop
    cases hop
  | true =>
    cases h.flowing hconnected with
    | drained _ hwrites =>
      rw [hwrites] at hop
      cases hop
    | writing done rest op' hqueue haccepted hwrites hlive hprogress hsent hwire =>
      rw [hwrites] at hop
      cases j with
      | zero =>
        obtain rfl : op' = op := Option.some.inj hop
        exact ⟨rfl, rfl, done, rest, hqueue, haccepted, hwrites, hlive, hprogress, hsent, hwire⟩
      | succ j => cases hop

/-- The pending write goes on. -/
theorem update (hop : o.writes[j]? = some op) (progress : Progress) (hlive : progress ≠ .aborted) :
    Streaming (o.update j { op with progress := progress }) := by
  obtain ⟨hconnected, rfl, done, rest, hqueue, haccepted, hwrites, -, hprogress, hsent, hwire⟩ :=
    h.writing_of_getElem hop
  refine of_flowing h.queued h.bounded hconnected (.writing done rest
    { op with progress := progress } hqueue haccepted ?_ hlive hprogress hsent hwire)
  show o.writes.set 0 _ = _
  rw [hwrites]
  rfl

/-- Some bytes go out. -/
theorem transmit (j n : ℕ) : Streaming (o.transmit j n) := by
  unfold Outgoing.transmit
  split
  case h_2 => exact h
  case h_1 op hop =>
    split
    case isFalse => exact h
    case isTrue hcan =>
      obtain ⟨hconnected, rfl, done, rest, hqueue, haccepted, hwrites, -, hprogress, -, hwire⟩ :=
        h.writing_of_getElem hop
      refine of_flowing h.queued h.bounded hconnected (.writing done rest { op with
        sent := op.sent + n, progress := .pieceDone } hqueue haccepted ?_ nofun hprogress
        hcan.2.2.2 ?_)
      · show o.writes.set 0 _ = _
        rw [hwrites]
        rfl
      · rw [hwire, append_assoc, take_add]

/-- A buffer that was written is taken off the queue. -/
theorem pop (hop : o.writes[j]? = some op) (hdone : op.msg.length ≤ op.sent) :
    Streaming ((o.drop j).pop op.msg) := by
  obtain ⟨hconnected, rfl, done, rest, hqueue, haccepted, hwrites, -, -, -, hwire⟩ :=
    h.writing_of_getElem hop
  have herased : o.writes.eraseIdx 0 = [] := by
    rw [hwrites]
    rfl
  have hwire' : o.wire = (done ++ [op.msg]).flatten := by
    rw [hwire, take_of_length_le hdone]
    simp
  have hqueued : o.queuedBytes - op.msg.length = (rest.map List.length).sum := by
    rw [h.queued, hqueue]
    simp
  have hbounded : 0 < o.sendQueueMaxBytes → o.queuedBytes - op.msg.length ≤ o.sendQueueMaxBytes :=
    fun hmax => (Nat.sub_le _ _).trans (h.bounded hmax)
  unfold Outgoing.pop Outgoing.drop
  rw [hqueue]
  dsimp only
  split
  case isTrue hrest =>
    refine of_flowing hqueued hbounded hconnected (.drained hrest herased rfl ?_)
    rw [hwire', haccepted, hrest]
  case isFalse =>
    -- The next buffer follows.
    exact @doWrite { o with
      writes := o.writes.eraseIdx 0
      queuedBytes := o.queuedBytes - op.msg.length
      writeQueue := rest } hqueued hbounded (done ++ [op.msg]) hconnected
      (haccepted.trans (by simp)) herased hwire'

end Streaming

end Outgoing

/-! ### Closing -/

namespace BackendConnection

variable {s : BackendConnection} {i : Input}

theorem closed_close : s.close.closed = true := by
  unfold close
  split
  case isTrue hclosed => exact hclosed
  case isFalse => rfl

/-- A connection that is closed stays so. -/
theorem closed_step (h : s.closed = true) (i : Input) : (s.step i).1.closed = true := by
  have hmoves := moves_step s i
  generalize (s.step i).1 = s' at hmoves
  generalize (s.step i).2 = es at hmoves
  cases hmoves with
  | close => exact closed_close
  | failed =>
    unfold failed
    split
    · exact h
    · exact closed_close
  | stay | goes | waits | retry | resolved | connected | ended => exact h

/-! ### Whole runs -/

/-- A handler of connecting is pending with a result of its own: it was not aborted. -/
def Reconnects (s : BackendConnection) : Input → Prop
  | .resolveHandler k _ _ => (s.attempt k).resolving = true
  | .connectNext k => (s.attempt k).connecting = true ∧ s.socketOpen = true
  | .connectHandler k _ _ => (s.attempt k).connecting = true
  | .connectTimerHandler k _ => (s.attempt k).wait = some .expired
  | .retryTimerHandler n => s.retryWait n = some .expired
  | _ => False

instance (s : BackendConnection) : DecidablePred (Reconnects s)
  | .connectNext _ => inferInstanceAs (Decidable (_ ∧ _))
  | .resolveHandler _ _ _ | .connectHandler _ _ _ | .connectTimerHandler _ _
  | .retryTimerHandler _ => inferInstanceAs (Decidable (_ = _))
  | .send _ _ | .close | .connectTimerExpires _ | .retryTimerExpires _ | .transmit _ _
  | .writeHandler _ _ | .writeFails _ _ => inferInstanceAs (Decidable False)

/-- **The condition.** Once the connection is made, no such handler runs. -/
def Calm (s : BackendConnection) (i : Input) : Prop := s.connected = true → ¬Reconnects s i

instance (s : BackendConnection) (i : Input) : Decidable (Calm s i) :=
  inferInstanceAs (Decidable (_ → _))

/-- What goes out alone is kept in order. -/
theorem Goes.streaming {o : Outgoing} (hgoes : Goes s i o) (h : Outgoing.Streaming s.toOutgoing)
    (hnot : Reconnects s i → s.connected = false) : s.closed = true ∨ Outgoing.Streaming o := by
  cases hgoes with
  | enqueue hroom => exact .inr (h.enqueue hroom)
  | openSocket hpending => exact .inr (h.openSocket (hnot hpending))
  | transmit => exact .inr (h.transmit ..)
  | update hop => exact .inr (h.update hop .waiting nofun)
  | pop hop hdone => exact .inr (h.pop hop hdone)
  | drop hop haborted =>
    obtain ⟨-, -, -, -, -, -, -, hlive, -⟩ := h.writing_of_getElem hop
    exact haborted.imp_right fun haborted => absurd haborted hlive

/-- **One step.** -/
theorem streaming_step (h : Outgoing.Streaming s.toOutgoing) (hcalm : Calm s i) :
    (s.step i).1.closed = true ∨ Outgoing.Streaming (s.step i).1.toOutgoing := by
  -- A handler of connecting that takes effect finds the connection not made.
  have hnot : Reconnects s i → s.connected = false := by
    intro hreconnects
    exact Bool.eq_false_of_not_eq_true fun hyes => hcalm hyes hreconnects
  have hmoves := moves_step s i
  generalize (s.step i).1 = s' at hmoves
  generalize (s.step i).2 = es at hmoves
  cases hmoves with
  | stay | waits | ended => exact .inr h
  | close => exact .inl closed_close
  | goes _ hgoes => exact hgoes.streaming h hnot
  | retry hwait => exact .inr (h.closeSocketForRetry (hnot hwait))
  | resolved hpending => exact .inr (h.openSocket (hnot hpending))
  | connected hpending => exact .inr (h.connect (hnot hpending))
  | failed _ hfails =>
    have hconnected : s.connected = false := by
      cases hfails with
      | resolve hpending | connect hpending | timeout hpending => exact hnot hpending
    unfold failed
    split
    · exact .inr (h.closeSocketForRetry hconnected)
    · exact .inl closed_close

theorem streaming_start {max : ℕ} : Outgoing.Streaming (start max).toOutgoing := by
  have hnew : Outgoing.Streaming { sendQueueMaxBytes :=
      if 0 < max then max else kDefaultBackendSendQueueMaxBytes } :=
    .of_idle rfl (fun _ => Nat.zero_le _) rfl ⟨rfl, rfl, rfl, rfl⟩
  exact hnew.closeSocketForRetry rfl

/-- **Stream integrity.** In every run in which no handler of connecting takes effect once the
    connection is made, as long as the connection is not closed: the bytes of the queue are counted
    and within the limit, at most one write is pending, and what was written on the socket since it
    was opened is a prefix of everything that was accepted, from the first buffer on. -/
theorem stream_intact (max : ℕ) {is : List Input} (h : machine.Guarded Calm (start max) is) :
    ∀ pre, pre <+: is → (machine.run (start max) pre).closed = false →
      Outgoing.Intact (machine.run (start max) pre).toOutgoing := by
  rintro pre ⟨post, rfl⟩ hopen
  have hpre := (machine.guarded_append _ _ pre post |>.mp h).1
  have hrun := machine.guarded_invariant
    (fun s => s.closed = true ∨ Outgoing.Streaming s.toOutgoing) Calm ?_
    (.inr streaming_start) hpre
  · rcases hrun with hclosed | hstreaming
    · cases hopen.symm.trans hclosed
    · exact hstreaming.intact
  · rintro s i (hclosed | hstreaming) hcalm
    · exact .inl (closed_step hclosed i)
    · exact streaming_step hstreaming hcalm

/-- The login, and what the client says next. -/
def loginFrame : Bytes := [1, 2, 3]

@[inherit_doc loginFrame]
def nextFrame : Bytes := [4, 5]

/-- A first attempt fails, the second is made; the login goes out in two pieces. -/
def secondAttempt : List Input :=
  [.send loginFrame {}, .resolveHandler 0 true {}, .connectHandler 0 false {},
    .retryTimerExpires 0, .retryTimerHandler 0, .resolveHandler 1 true {},
    .connectHandler 1 true {}, .transmit 0 2, .send nextFrame {}, .writeHandler 0 {},
    .transmit 0 1, .writeHandler 0 {}, .transmit 0 1]

theorem stream_intact_secondAttempt : machine.Guarded Calm (start 0) secondAttempt ∧
      (machine.run (start 0) secondAttempt).wire = [1, 2, 3, 4] ∧
      Outgoing.Intact (machine.run (start 0) secondAttempt).toOutgoing := by
  have hcalm : machine.Guarded Calm (start 0) secondAttempt := by decide +kernel
  have hopen : (machine.run (start 0) secondAttempt).closed = false := by decide +kernel
  exact ⟨hcalm, by decide +kernel, stream_intact 0 hcalm _ (prefix_refl _) hopen⟩

/-- The connect timer expires just before the connect handler runs.  The connection is made and the
    login written; then the handler of the timer runs all the same and has the connection made
    again, and the handler of the write takes the login off the queue. -/
def lateTimer : List Input :=
  [.send loginFrame {}, .resolveHandler 0 true {}, .connectTimerExpires 0,
    .connectHandler 0 true {}, .transmit 0 3, .connectTimerHandler 0 {}, .writeHandler 0 {},
    .send nextFrame {}, .retryTimerExpires 0, .retryTimerHandler 0, .resolveHandler 1 true {},
    .connectHandler 1 true {}, .transmit 0 2]

/-- **The login is lost.** The connection that is established in the end starts with the second
    frame. -/
theorem login_lost : (machine.run (start 0) lateTimer).closed = false ∧
      (machine.run (start 0) lateTimer).connected = true ∧
      (machine.run (start 0) lateTimer).accepted = [loginFrame, nextFrame] ∧
      (machine.run (start 0) lateTimer).wire = nextFrame ∧
      ¬(machine.run (start 0) lateTimer).wire <+:
        (machine.run (start 0) lateTimer).accepted.flatten := by
  decide +kernel

end BackendConnection

end Knights.Gateway
