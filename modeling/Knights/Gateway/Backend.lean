import Knights.Lib.Machine
import Knights.Protocol.Packet

namespace Knights.Gateway

open Knights.Lib Knights.Protocol

/-!
# Gateway — the connection to a backend

`BackendConnection` (`gateway/src/gateway_app.cpp`) connects to its backend, tries again with a
delay when that fails and the retry budget allows it, and writes what it is given to send, one
buffer at a time, from a queue.  All of it happens in handlers that the event loop runs one after
the other, so that one handler is one step; but in which order pending handlers run is not up to
the connection.

What is pending is part of the state, with what the library documents about it:

* a timer has waits (`Wait`).  Cancelling a timer, or setting it anew, cancels the waits that have
  not expired; one that has expired runs its handler all the same;
* closing the socket ends the writes that wait for it, and makes a pending connect fail;
* a connect that is given several addresses opens the socket anew for each (`connectNext`);
* a write goes out in pieces, and asks for the next piece in a handler of its own.

Calls of `do_connect` are numbered, and handlers carry the number of the call they belong to.  The
answers of the surroundings (is there retry budget, is there still a client connection) come with
the inputs.  A client connection that is told to close closes the backend connection in the same
handler.

The state has two parts that are proved about apart: `Outgoing`, from which the bytes go out, and
`Connecting`, the calls and the timers.  Most functions of the class are one function of each.
`Moves` says once what a step can do to them, and `moves_step` that it does nothing else.
-/

/-- Whether a buffer is too much for the queue; a limit of 0 is none. -/
def exceedsQueueBudget (queueMaxBytes queuedBytes incomingBytes : ℕ) : Bool :=
  if queueMaxBytes = 0 then false
  else if queueMaxBytes < incomingBytes then true
  else queueMaxBytes - incomingBytes < queuedBytes

/-- A buffer that is not too much for the queue fits. -/
theorem add_le_of_not_exceeds {max queued incoming : ℕ}
    (h : exceedsQueueBudget max queued incoming = false) (hmax : 0 < max) :
    queued + incoming ≤ max := by
  unfold exceedsQueueBudget at h
  split_ifs at h with hzero hbig
  · omega
  · have hroom : ¬max - incoming < queued := by simpa using h
    omega

/-- The limit of a queue without one. -/
def kDefaultBackendSendQueueMaxBytes : ℕ := 256 * 1024

/-- A wait on a timer. -/
inductive Wait where
  /-- The time has not come. -/
  | armed
  /-- The time has come, and the handler is queued. -/
  | expired
  /-- The handler is queued with `operation_aborted`. -/
  | cancelled
  deriving DecidableEq, Repr

/-- The timer is cancelled or set anew. -/
def Wait.cancel : Wait → Wait
  | .armed => .cancelled
  | w => w

/-- The time comes. -/
def Wait.expire : Wait → Wait
  | .armed => .expired
  | w => w

/-- What is pending of one call of `do_connect`: the handlers of `async_resolve` and
    `async_connect`, and the wait on the connect timer. -/
structure Attempt where
  resolving : Bool := false
  connecting : Bool := false
  wait : Option Wait := none
  deriving DecidableEq, Repr

/-- How far a write is. -/
inductive Progress where
  /-- It waits for the socket. -/
  | waiting
  /-- A piece has gone out, and its handler is queued. -/
  | pieceDone
  /-- Its socket was closed, and its handler is queued with `operation_aborted`. -/
  | aborted
  deriving DecidableEq, Repr

/-- A pending `async_write`. -/
structure WriteOp where
  msg : Bytes
  sent : ℕ := 0
  progress : Progress := .waiting
  deriving DecidableEq, Repr

/-- The socket of the write is closed. -/
def WriteOp.abort (op : WriteOp) : WriteOp :=
  match op.progress with
  | .waiting => { op with progress := .aborted }
  | _ => op

/-- The ways in which a connection can fail. -/
inductive Stage where
  | resolve
  | connect
  | timeout
  deriving DecidableEq, Repr

/-- The reason that is given. -/
def Stage.reason : Stage → String
  | .resolve => "resolve failed"
  | .connect => "connect failed"
  | .timeout => "connect timeout"

/-- What a handler does outside the connection, and to its count of retries; `k` is the call of
    `do_connect` that the handler belongs to. -/
inductive Effect where
  /-- One of the counters of resolve failures, connect failures and timeouts. -/
  | counted (stage : Stage) (k : ℕ)
  /-- `record_backend_connect_failure_event` -/
  | failureEvent (k : ℕ)
  /-- `consume_backend_retry_budget` took a retry out of the budget. -/
  | budgetConsumed (k : ℕ)
  /-- There was none. -/
  | budgetExhausted (k : ℕ)
  /-- `++retry_attempt_` -/
  | retryIncrement (k : ℕ)
  /-- `record_backend_connect_success_event` and `on_backend_connected` -/
  | successEvent (k : ℕ)
  /-- `handle_backend_close` of the client connection. -/
  | clientClosed (k : Option ℕ) (reason : String)
  deriving DecidableEq, Repr

/-- The answers of the surroundings to a handler. -/
structure Surroundings where
  /-- There is a retry in the budget. -/
  budget : Bool := true
  /-- The client connection still exists. -/
  client : Bool := true
  deriving DecidableEq, Repr

/-- What goes out: the queue, the socket and the pending writes. -/
structure Outgoing where
  connected : Bool := false
  writeInProgress : Bool := false
  writeQueue : List Bytes := []
  queuedBytes : ℕ := 0
  sendQueueMaxBytes : ℕ
  socketOpen : Bool := false
  /-- What has been written on the socket since it was opened. -/
  wire : Bytes := []
  writes : List WriteOp := []
  /-- All buffers that were taken into the queue. -/
  accepted : List Bytes := []
  deriving DecidableEq, Repr

/-- What is pending to make the connection. -/
structure Connecting where
  retryAttempt : UInt32 := 0
  /-- The number of calls of `do_connect`. -/
  attempts : ℕ := 0
  attempt : ℕ → Attempt := fun _ => {}
  /-- The number of retries that were scheduled. -/
  retries : ℕ := 0
  /-- The waits on the retry timer. -/
  retryWait : ℕ → Option Wait := fun _ => none

/-- The connection. -/
structure BackendConnection extends Outgoing, Connecting where
  closed : Bool := false

/-! ### The socket and the queue -/

namespace Outgoing

variable (o : Outgoing)

/-- The socket is closed. -/
def closeSocket : Outgoing :=
  if o.socketOpen then
    { o with socketOpen := false, wire := [], writes := o.writes.map WriteOp.abort }
  else o

/-- The socket is opened for a connect; if it was open, it is closed first. -/
def openSocket : Outgoing := { o.closeSocket with socketOpen := true, wire := [] }

/-- `close_socket_for_retry` -/
def closeSocketForRetry : Outgoing :=
  { o.closeSocket with connected := false, writeInProgress := false }

/-- The part of `close` that is about the queue and the socket. -/
def clear : Outgoing :=
  { o with
    writeQueue := []
    queuedBytes := 0
    connected := false
    writeInProgress := false }.closeSocket

/-- `do_write` -/
def doWrite : Outgoing :=
  match o.writeQueue with
  | [] => { o with writeInProgress := false }
  | msg :: _ => { o with writeInProgress := true, writes := o.writes ++ [{ msg := msg }] }

/-- A buffer is put at the end of the queue. -/
def push (payload : Bytes) : Outgoing :=
  { o with
    queuedBytes := o.queuedBytes + payload.length
    writeQueue := o.writeQueue ++ [payload]
    accepted := o.accepted ++ [payload] }

/-- A buffer is put into the queue, and goes out at once if nothing else does. -/
def enqueue (payload : Bytes) : Outgoing :=
  let o := o.push payload
  if o.connected && !o.writeInProgress then o.doWrite else o

/-- The connection is made, and the queue starts to go out. -/
def connect : Outgoing :=
  let o := { o with connected := true }
  if o.writeQueue = [] then o else o.doWrite

/-- The first buffer of the queue has been written. -/
def pop (msg : Bytes) : Outgoing :=
  match o.writeQueue with
  | [] => { o with writeInProgress := false }
  | _ :: rest =>
    let o := { o with queuedBytes := o.queuedBytes - msg.length, writeQueue := rest }
    if rest = [] then { o with writeInProgress := false } else o.doWrite

/-- A pending write ends. -/
def drop (j : ℕ) : Outgoing := { o with writes := o.writes.eraseIdx j }

/-- A pending write goes on. -/
def update (j : ℕ) (op : WriteOp) : Outgoing :=
  { o with writes := o.writes.set j op }

/-- Some bytes of a pending write go out. -/
def transmit (j n : ℕ) : Outgoing :=
  match o.writes[j]? with
  | some op =>
    if op.progress = .waiting ∧ o.socketOpen = true ∧ 0 < n ∧ op.sent + n ≤ op.msg.length then
      { o.update j { op with sent := op.sent + n, progress := .pieceDone } with
        wire := o.wire ++ (op.msg.drop op.sent).take n }
    else o
  | none => o

end Outgoing

/-! ### The timers and the calls of `do_connect` -/

namespace Connecting

variable (c : Connecting)

/-- The waits on the connect timer are cancelled. -/
def cancelConnectTimer : Connecting :=
  { c with attempt := fun k => { c.attempt k with wait := (c.attempt k).wait.map Wait.cancel } }

/-- The waits on the retry timer are cancelled. -/
def cancelRetryTimer : Connecting :=
  { c with retryWait := fun n => (c.retryWait n).map Wait.cancel }

/-- What is pending of one call changes. -/
def setAttempt (k : ℕ) (a : Attempt) : Connecting :=
  { c with attempt := Function.update c.attempt k a }

/-- What is pending on the retry timer changes. -/
def setRetryWait (n : ℕ) (w : Option Wait) : Connecting :=
  { c with retryWait := Function.update c.retryWait n w }

/-- A new call asks for the addresses of the backend. -/
def resolve : Connecting :=
  { c.setAttempt c.attempts { resolving := true } with attempts := c.attempts + 1 }

/-- The retry timer is set. -/
def scheduleRetry : Connecting :=
  let c := { c with retryAttempt := c.retryAttempt + 1 }.cancelRetryTimer
  { c.setRetryWait c.retries (some .armed) with retries := c.retries + 1 }

end Connecting

/-! ### The functions of the class -/

namespace BackendConnection

section

variable (s : BackendConnection) (env : Surroundings)

/-- `close` -/
def close : BackendConnection :=
  if s.closed then s
  else
    { toOutgoing := s.toOutgoing.clear
      toConnecting := s.toConnecting.cancelConnectTimer.cancelRetryTimer
      closed := true }

/-- The client connection, if there is one, is told to close; the connection is closed. -/
def handleBackendClose (k : Option ℕ) (reason : String) : BackendConnection × List Effect :=
  (s.close, if env.client then [.clientClosed k reason] else [])

/-- `do_connect` -/
def doConnect : BackendConnection :=
  { s with
    toOutgoing := s.toOutgoing.closeSocketForRetry
    toConnecting := s.toConnecting.resolve }

/-- The part of `schedule_connect_retry` behind the budget. -/
def scheduleConnectRetry : BackendConnection :=
  { s with
    toOutgoing := s.toOutgoing.closeSocketForRetry
    toConnecting := s.toConnecting.scheduleRetry }

/-- What the three handlers do when the connection has failed: they count it, ask for a retry, and
    give up if there is none. -/
def failed (stage : Stage) (k : ℕ) : BackendConnection × List Effect :=
  if env.budget then
    (s.scheduleConnectRetry,
      [.counted stage k, .failureEvent k, .budgetConsumed k, .retryIncrement k])
  else
    let r := s.handleBackendClose env (some k) stage.reason
    (r.1, .counted stage k :: .failureEvent k :: .budgetExhausted k :: r.2)

/-- `send` -/
def send (s : BackendConnection) (env : Surroundings) (payload : Bytes) :
    BackendConnection × List Effect :=
  if payload = [] then (s, [])
  else if s.closed then (s, [])
  else if exceedsQueueBudget s.sendQueueMaxBytes s.queuedBytes payload.length then
    s.handleBackendClose env none "backend send queue overflow"
  else ({ s with toOutgoing := s.toOutgoing.enqueue payload }, [])

/-- What is pending of one call changes. -/
def setAttempt (k : ℕ) (a : Attempt) : BackendConnection :=
  { s with toConnecting := s.toConnecting.setAttempt k a }

/-- The handler of `async_resolve`: the connect timer is set, and the socket opened. -/
def onResolved (k : ℕ) (ok : Bool) : BackendConnection × List Effect :=
  let s := s.setAttempt k { s.attempt k with resolving := false }
  if s.closed then (s, [])
  else if ok then
    let c := s.toConnecting.cancelConnectTimer
    ({ s with
        toConnecting := c.setAttempt k { c.attempt k with connecting := true, wait := some .armed }
        toOutgoing := s.toOutgoing.openSocket }, [])
  else s.failed env .resolve k

/-- The handler of `async_connect`.  If the socket is not open, it has failed. -/
def onConnected (k : ℕ) (ok : Bool) : BackendConnection × List Effect :=
  let s := s.setAttempt k { s.attempt k with connecting := false }
  let s := { s with toConnecting := s.toConnecting.cancelConnectTimer }
  if s.closed then (s, [])
  else if ok && s.socketOpen then
    ({ s with
        toOutgoing := s.toOutgoing.connect
        toConnecting := { s.toConnecting.cancelRetryTimer with retryAttempt := 0 } },
      [.successEvent k])
  else s.failed env .connect k

/-- `on_connect_timeout` -/
def onConnectTimeout (k : ℕ) : BackendConnection × List Effect :=
  if s.closed then (s, []) else s.failed env .timeout k

/-- The handler of the retry timer, behind the check for `operation_aborted`. -/
def onRetry : BackendConnection :=
  if s.closed then s else s.doConnect

/-- The handler of `async_write` without an error: the buffer is taken off the queue. -/
def onWritten (msg : Bytes) : BackendConnection :=
  if s.closed then s else { s with toOutgoing := s.toOutgoing.pop msg }

/-- The handler of `async_write` with an error. -/
def onWriteError : BackendConnection × List Effect :=
  if s.closed then (s, []) else s.handleBackendClose env none "backend write failed"

/-- The handler of a piece: the write is done, or the next piece is asked for. -/
def onPiece (j : ℕ) (op : WriteOp) : BackendConnection × List Effect :=
  if op.msg.length ≤ op.sent then
    ({ s with toOutgoing := s.toOutgoing.drop j }.onWritten op.msg, [])
  else if s.socketOpen then
    ({ s with toOutgoing := s.toOutgoing.update j { op with progress := .waiting } }, [])
  else { s with toOutgoing := s.toOutgoing.drop j }.onWriteError env

/-! ### The machine -/

/-- What can happen.  Handlers of a call of `do_connect` have its number, waits on the retry timer
    and pending writes theirs. -/
inductive Input where
  | send (payload : Bytes) (env : Surroundings)
  /-- The client has gone, the backend has closed the connection, or the gateway stops. -/
  | close
  | resolveHandler (k : ℕ) (ok : Bool) (env : Surroundings)
  /-- The pending connect goes on to its next address. -/
  | connectNext (k : ℕ)
  | connectHandler (k : ℕ) (ok : Bool) (env : Surroundings)
  | connectTimerExpires (k : ℕ)
  | connectTimerHandler (k : ℕ) (env : Surroundings)
  | retryTimerExpires (n : ℕ)
  | retryTimerHandler (n : ℕ)
  /-- Some bytes of a write go out. -/
  | transmit (j n : ℕ)
  | writeHandler (j : ℕ) (env : Surroundings)
  /-- The network fails a write that waits. -/
  | writeFails (j : ℕ) (env : Surroundings)
  deriving DecidableEq, Repr

/-- One step; a handler that is not pending does not run. -/
def step : Input → BackendConnection × List Effect
  | .send payload env => s.send env payload
  | .close => (s.close, [])
  | .resolveHandler k ok env =>
    if (s.attempt k).resolving then s.onResolved env k ok else (s, [])
  | .connectNext k =>
    if (s.attempt k).connecting && s.socketOpen then
      ({ s with toOutgoing := s.toOutgoing.openSocket }, [])
    else (s, [])
  | .connectHandler k ok env =>
    if (s.attempt k).connecting then s.onConnected env k ok else (s, [])
  | .connectTimerExpires k =>
    (s.setAttempt k { s.attempt k with wait := (s.attempt k).wait.map Wait.expire }, [])
  | .connectTimerHandler k env =>
    match (s.attempt k).wait with
    | some .expired => (s.setAttempt k { s.attempt k with wait := none }).onConnectTimeout env k
    | some .cancelled => (s.setAttempt k { s.attempt k with wait := none }, [])
    | _ => (s, [])
  | .retryTimerExpires n =>
    ({ s with toConnecting :=
        s.toConnecting.setRetryWait n ((s.retryWait n).map Wait.expire) }, [])
  | .retryTimerHandler n =>
    match s.retryWait n with
    | some .expired => ({ s with toConnecting := s.toConnecting.setRetryWait n none }.onRetry, [])
    | some .cancelled => ({ s with toConnecting := s.toConnecting.setRetryWait n none }, [])
    | _ => (s, [])
  | .transmit j n => ({ s with toOutgoing := s.toOutgoing.transmit j n }, [])
  | .writeHandler j env =>
    match s.writes[j]? with
    | some op =>
      match op.progress with
      | .waiting => (s, [])
      | .pieceDone => s.onPiece env j op
      | .aborted => ({ s with toOutgoing := s.toOutgoing.drop j }, [])
    | none => (s, [])
  | .writeFails j env =>
    match s.writes[j]? with
    | some op =>
      if op.progress = .waiting then
        { s with toOutgoing := s.toOutgoing.drop j }.onWriteError env
      else (s, [])
    | none => (s, [])

end

/-- The connection as a machine. -/
def machine : Machine BackendConnection Input (List Effect) where
  step := step

/-- The connection after its construction and `connect`. -/
def start (sendQueueMaxBytes : ℕ) : BackendConnection :=
  doConnect { sendQueueMaxBytes :=
        if 0 < sendQueueMaxBytes then sendQueueMaxBytes else kDefaultBackendSendQueueMaxBytes }

/-- An event of a run. -/
abbrev Happened := Event BackendConnection Input (List Effect)

/-! ### What a step can do -/

/-- The handler of a call runs and finds that the connection has failed. -/
inductive Fails (s : BackendConnection) (k : ℕ) : Stage → Input → Prop where
  | resolve {env} (hpending : (s.attempt k).resolving = true) (hopen : s.closed = false) :
    Fails s k .resolve (.resolveHandler k false env)
  | connect {ok env} (hpending : (s.attempt k).connecting = true) (hopen : s.closed = false)
      (hfailed : (ok && s.socketOpen) = false) : Fails s k .connect (.connectHandler k ok env)
  | timeout {env} (hpending : (s.attempt k).wait = some .expired) (hopen : s.closed = false) :
    Fails s k .timeout (.connectTimerHandler k env)

/-- The effects of a failure that is counted. -/
def failureEffects (env : Surroundings) (stage : Stage) (k : ℕ) : List Effect :=
  if env.budget then [.counted stage k, .failureEvent k, .budgetConsumed k, .retryIncrement k]
  else
    .counted stage k :: .failureEvent k :: .budgetExhausted k ::
      if env.client then [.clientClosed (some k) stage.reason] else []

/-- The effects of a step that counts no failure. -/
inductive Quiet : List Effect → Prop where
  | nothing : Quiet []
  | success (k : ℕ) : Quiet [.successEvent k]
  | closed (reason : String) : Quiet [.clientClosed none reason]

/-- The same handlers are pending, up to the state of the wait. -/
def SamePending (a a' : Attempt) : Prop :=
  a'.resolving = a.resolving ∧ a'.connecting = a.connecting ∧ a'.wait.isSome = a.wait.isSome

/-- The handler of a stage is pending. -/
def Pending (a : Attempt) : Stage → Prop
  | .resolve => a.resolving = true
  | .connect => a.connecting = true
  | .timeout => a.wait.isSome = true

/-- What is pending when it has run. -/
def ended (a : Attempt) : Stage → Attempt
  | .resolve => { a with resolving := false }
  | .connect => { a with connecting := false }
  | .timeout => { a with wait := none }

/-- The handler of call `k` has run, and the waits of other calls may be cancelled. -/
def Ended (s : BackendConnection) (k : ℕ) (stage : Stage) (c : Connecting) : Prop :=
  c.attempts = s.attempts ∧
    ∀ k', SamePending (Function.update s.attempt k (ended (s.attempt k) stage) k') (c.attempt k')

/-- What a step can do to what goes out alone. -/
inductive Goes (s : BackendConnection) : Input → Outgoing → Prop where
  | enqueue {payload env}
      (hroom : exceedsQueueBudget s.sendQueueMaxBytes s.queuedBytes payload.length = false) :
    Goes s (.send payload env) (s.toOutgoing.enqueue payload)
  | openSocket {k} (h : (s.attempt k).connecting = true ∧ s.socketOpen = true) :
    Goes s (.connectNext k) s.toOutgoing.openSocket
  | transmit {j n} : Goes s (.transmit j n) (s.toOutgoing.transmit j n)
  | update {j env op} (hop : s.writes[j]? = some op) :
    Goes s (.writeHandler j env) (s.toOutgoing.update j { op with progress := .waiting })
  | pop {j env op} (hop : s.writes[j]? = some op) (hdone : op.msg.length ≤ op.sent) :
    Goes s (.writeHandler j env) ((s.toOutgoing.drop j).pop op.msg)
  | drop {j env op} (hop : s.writes[j]? = some op) (h : s.closed = true ∨ op.progress = .aborted) :
    Goes s (.writeHandler j env) (s.toOutgoing.drop j)

/-- Everything a step can do. -/
inductive Moves (s : BackendConnection) : Input → BackendConnection → List Effect → Prop where
  | stay {i} (hfails : ∀ k stage, ¬Fails s k stage i) : Moves s i s []
  | close {i o es} (hfails : ∀ k stage, ¬Fails s k stage i) (hquiet : Quiet es) :
    Moves s i (close { s with toOutgoing := o }) es
  | goes {i o} (hfails : ∀ k stage, ¬Fails s k stage i) (h : Goes s i o) :
    Moves s i { s with toOutgoing := o } []
  | waits {i c} (hfails : ∀ k stage, ¬Fails s k stage i) (hn : c.attempts = s.attempts)
      (h : ∀ k, SamePending (s.attempt k) (c.attempt k)) :
    Moves s i { s with toConnecting := c } []
  | retry {n} (hwait : s.retryWait n = some .expired) : Moves s (.retryTimerHandler n)
      (doConnect { s with toConnecting := s.toConnecting.setRetryWait n none }) []
  | resolved {k env c} (hpending : (s.attempt k).resolving = true) (hn : c.attempts = s.attempts)
      (hk : (c.attempt k).resolving = false)
      (h : ∀ k' ≠ k, SamePending (s.attempt k') (c.attempt k')) :
    Moves s (.resolveHandler k true env)
      { s with toConnecting := c, toOutgoing := s.toOutgoing.openSocket } []
  | connected {k ok env c} (hpending : (s.attempt k).connecting = true)
      (hok : (ok && s.socketOpen) = true) (h : Ended s k .connect c) :
    Moves s (.connectHandler k ok env)
      { s with toConnecting := c, toOutgoing := s.toOutgoing.connect } [.successEvent k]
  | ended {i k stage c} (hpending : Pending (s.attempt k) stage)
      (hfails : ∀ k stage, ¬Fails s k stage i) (h : Ended s k stage c) :
    Moves s i { s with toConnecting := c } []
  | failed {i k stage c env} (hpending : Pending (s.attempt k) stage)
      (hfails : Fails s k stage i) (h : Ended s k stage c) :
    Moves s i (failed { s with toConnecting := c } env stage k).1 (failureEffects env stage k)

variable {s : BackendConnection} {i : Input} {k : ℕ} {env : Surroundings}

theorem SamePending.refl (a : Attempt) : SamePending a a := ⟨rfl, rfl, rfl⟩

theorem SamePending.trans {a a' a'' : Attempt} (h : SamePending a a') (h' : SamePending a' a'') :
    SamePending a a'' :=
  ⟨h'.1.trans h.1, h'.2.1.trans h.2.1, h'.2.2.trans h.2.2⟩

theorem samePending_map (a : Attempt) (f : Wait → Wait) :
    SamePending a { a with wait := a.wait.map f } :=
  ⟨rfl, rfl, Option.isSome_map ..⟩

theorem samePending_update {f : ℕ → Attempt} {a : Attempt} (h : SamePending (f k) a) (k' : ℕ) :
    SamePending (f k') (Function.update f k a k') := by
  by_cases hk : k' = k
  · rw [hk, Function.update_self]
    exact h
  · rw [Function.update_of_ne hk]
    exact .refl _

theorem failed_effects {stage : Stage} : (s.failed env stage k).2 = failureEffects env stage k := by
  unfold failed failureEffects
  split <;> rfl

/-- The connection is closed, unless it is already. -/
theorem moves_close {o : Outgoing} {reason : String} (hfails : ∀ k stage, ¬Fails s k stage i) :
    Moves s i (handleBackendClose { s with toOutgoing := o } env none reason).1
      (handleBackendClose { s with toOutgoing := o } env none reason).2 := by
  refine .close hfails ?_
  unfold handleBackendClose
  split
  · exact .closed reason
  · exact .nothing

theorem moves_onWriteError {o : Outgoing} (hfails : ∀ k stage, ¬Fails s k stage i) :
    Moves s i (onWriteError { s with toOutgoing := o } env).1
      (onWriteError { s with toOutgoing := o } env).2 := by
  unfold onWriteError
  split
  case isTrue hclosed =>
    have hsame : close { s with toOutgoing := o } = { s with toOutgoing := o } := if_pos hclosed
    exact hsame ▸ .close hfails .nothing
  case isFalse => exact moves_close hfails

/-- **Inversion.** -/
theorem moves_step (s : BackendConnection) (i : Input) : Moves s i (s.step i).1 (s.step i).2 := by
  cases i with
  | send payload env =>
    show Moves s _ (s.send env payload).1 (s.send env payload).2
    unfold send
    split_ifs with _ _ hroom
    · exact .stay nofun
    · exact .stay nofun
    · exact moves_close nofun
    · exact .goes nofun (.enqueue (Bool.eq_false_of_not_eq_true hroom))
  | close => exact .close nofun .nothing
  | resolveHandler k ok env =>
    unfold step onResolved
    dsimp only
    split_ifs with hpending hclosed hok
    · refine .ended (show Pending (s.attempt k) .resolve from hpending) ?_ ⟨rfl, fun _ => .refl _⟩
      rintro k' stage ⟨-, hopen⟩
      cases hopen.symm.trans hclosed
    · obtain rfl := hok
      refine .resolved hpending rfl ?_ fun k' hk => ?_
      · simp [Connecting.setAttempt, Connecting.cancelConnectTimer, setAttempt]
      · simp only [Connecting.cancelConnectTimer, setAttempt, Connecting.setAttempt,
          Function.update_of_ne hk]
        exact samePending_map ..
    · obtain rfl := Bool.eq_false_of_not_eq_true hok
      rw [failed_effects]
      exact .failed (show Pending (s.attempt k) .resolve from hpending)
        (.resolve hpending (Bool.eq_false_of_not_eq_true hclosed)) ⟨rfl, fun _ => .refl _⟩
    · refine .stay ?_
      rintro k' stage ⟨hpending', -⟩
      exact hpending hpending'
  | connectNext k =>
    unfold step
    dsimp only
    split
    case isTrue h => exact .goes nofun (.openSocket (Bool.and_eq_true_iff.mp h))
    case isFalse => exact .stay nofun
  | connectHandler k ok env =>
    unfold step onConnected
    dsimp only
    split_ifs with hpending hclosed hok
    · refine .ended (show Pending (s.attempt k) .connect from hpending) ?_
        ⟨rfl, fun _ => samePending_map ..⟩
      rintro k' stage (_ | ⟨-, hopen, -⟩)
      cases hopen.symm.trans hclosed
    · exact .connected hpending hok ⟨rfl, fun _ => samePending_map ..⟩
    · rw [failed_effects]
      exact .failed (show Pending (s.attempt k) .connect from hpending)
        (.connect hpending (Bool.eq_false_of_not_eq_true hclosed)
          (Bool.eq_false_of_not_eq_true hok)) ⟨rfl, fun _ => samePending_map ..⟩
    · refine .stay ?_
      rintro k' stage (_ | ⟨hpending', -, -⟩)
      exact hpending hpending'
  | connectTimerExpires k => exact .waits nofun rfl (samePending_update (samePending_map ..))
  | connectTimerHandler k env =>
    unfold step onConnectTimeout
    dsimp only
    split
    case h_1 hwait =>
      have hpending : Pending (s.attempt k) .timeout := by rw [Pending, hwait]; rfl
      split_ifs with hclosed
      · refine .ended hpending ?_ ⟨rfl, fun _ => .refl _⟩
        rintro k' stage (_ | _ | ⟨-, hopen⟩)
        cases hopen.symm.trans hclosed
      · rw [failed_effects]
        exact .failed hpending (.timeout hwait (Bool.eq_false_of_not_eq_true hclosed))
          ⟨rfl, fun _ => .refl _⟩
    case h_2 hwait =>
      refine .ended (show Pending (s.attempt k) .timeout by rw [Pending, hwait]; rfl) ?_
        ⟨rfl, fun _ => .refl _⟩
      rintro k' stage (_ | _ | ⟨hpending, -⟩)
      cases hpending.symm.trans hwait
    case h_3 hother _ =>
      refine .stay ?_
      rintro k' stage (_ | _ | ⟨hpending, -⟩)
      exact hother hpending
  | retryTimerExpires n => exact .waits nofun rfl fun _ => .refl _
  | retryTimerHandler n =>
    unfold step onRetry
    dsimp only
    split
    case h_1 hwait =>
      split
      · exact .waits nofun rfl fun _ => .refl _
      · exact .retry hwait
    · exact .waits nofun rfl fun _ => .refl _
    · exact .stay nofun
  | transmit j n => exact .goes nofun .transmit
  | writeHandler j env =>
    unfold step
    dsimp only
    split
    case h_2 => exact .stay nofun
    case h_1 op hop =>
      split
      · exact .stay nofun
      · unfold onPiece
        split_ifs with hdone
        · unfold onWritten
          split
          case isTrue hclosed => exact .goes nofun (.drop hop (.inl hclosed))
          case isFalse => exact .goes nofun (.pop hop hdone)
        · exact .goes nofun (.update hop)
        · exact moves_onWriteError nofun
      case h_3 haborted => exact .goes nofun (.drop hop (.inr haborted))
  | writeFails j env =>
    unfold step
    dsimp only
    split
    · split
      · exact moves_onWriteError nofun
      · exact .stay nofun
    · exact .stay nofun

end BackendConnection

end Knights.Gateway
