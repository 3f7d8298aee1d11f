import Mathlib.Algebra.Ring.Int.Defs
import Knights.Lib.Monitor
import Knights.Chat.Cluster
import Knights.Admin.Selector

namespace Knights.Chat

open Lib List Proc

/-!
# Hooks inside critical sections

The other modules take a critical section for one operation.  Here sections are opened up: the
thread acquires the mutex, and `on_join` and `on_leave` call the hooks of plugins and Lua scripts
before they go on and release it.  A script calls back into the service, and while a thread
waits for a script it may run other work of the io context.  The mutex is not recursive.

* `callHost` are the functions that scripts may call, with their checks of arguments;
* `openUp` is a handler as its thread runs it;
* `HostCall.locks` — the calls that acquire the mutex;
* `no_relock_iff` — the thread of a join or a leave never acquires the mutex while it holds it
  exactly when its scripts make no such calls and the work it runs while it waits runs no
  section.
-/

/-! ### What a thread does -/

/-- What a hook is told about its session. -/
structure HookContext where
  sessionId : ℕ
  user : String
  room : String
  deriving DecidableEq, Repr

/-- What host functions look up while they hold the mutex. -/
inductive HostQuery
  | userName (sessionId : ℕ)
  | userRoom (sessionId : ℕ)
  | roomUsers (room : String)
  | roomList
  | roomOwner (room : String)
  | isUserMuted (nickname : String)
  | isUserBanned (nickname : String)
  | onlineCount
  | roomCount
  | findSession (sessionId : ℕ)
  | hasRoom (room : String)
  deriving DecidableEq, Repr

@[reducible] def HostQuery.Ans : HostQuery → Type
  | .userName _ => Option String
  | .userRoom _ => Option String
  | .roomUsers _ => List String
  | .roomList => List String
  | .roomOwner _ => Option String
  | .isUserMuted _ => Bool
  | .isUserBanned _ => Bool
  | .onlineCount => ℕ
  | .roomCount => ℕ
  | .findSession _ => Option Session
  | .hasRoom _ => Bool

/-- One step of a thread. -/
inductive ThreadOp
  /-- Acquire `state_.mu`. -/
  | acquire
  | release
  /-- The work of a section. -/
  | inside (c : Critical)
  /-- Whether a section comes to its hook, and what the hook is told. -/
  | reaches (c : Critical)
  | query (q : HostQuery)
  /-- `job_queue_.TryPush`; the answer says whether there was room. -/
  | tryPush
  /-- An operation that is no section. -/
  | outside (o : Op)

@[reducible] def ThreadOp.Ans : ThreadOp → Type
  | .acquire => Unit
  | .release => Unit
  | .inside c => c.Ans
  | .reaches _ => Option HookContext
  | .query q => q.Ans
  | .tryPush => Bool
  | .outside o => o.Ans

/-- What a thread runs. -/
abbrev Thread := Proc ThreadOp.Ans

namespace Thread

/-- One step, returning its answer. -/
def step (o : ThreadOp) : Thread o.Ans := Proc.perform o

/-- A scope with a `lock_guard`. -/
def guarded {α : Type} (body : Thread α) : Thread α := do
  step .acquire
  let a ← body
  step .release
  return a

/-- The hook of a section that comes to it. -/
def hookIf (hook : Critical → HookContext → Thread Unit) (c : Critical) :
    Option HookContext → Thread Unit
  | none => return ()
  | some ctx => hook c ctx

/-- A handler as a thread runs it.  `hook` is what happens inside a section that comes to its
    hook. -/
def openUp (hook : Critical → HookContext → Thread Unit) {α : Type} : Handler α → Thread α
  | .ret a => .ret a
  | .act (.lock c) k => do
    let a ← guarded do
      let ctx ← step (.reaches c)
      hookIf hook c ctx
      step (.inside c)
    openUp hook (k a)
  | .act (.redis c) k => step (.outside (.redis c)) >>= fun a => openUp hook (k a)
  | .act (.db c) k => step (.outside (.db c)) >>= fun a => openUp hook (k a)
  | .act (.send t m) k => step (.outside (.send t m)) >>= fun a => openUp hook (k a)
  | .act (.stop t) k => step (.outside (.stop t)) >>= fun a => openUp hook (k a)

/-- A handler whose sections have no hooks. -/
def plain {α : Type} (p : Handler α) : Thread α := openUp (fun _ _ => return ()) p

end Thread

/-! ### Host functions -/

namespace Host

open Thread

/-- A look-up under the mutex. -/
def underLock (q : HostQuery) : Thread q.Ans := guarded (step (.query q))

/-- `lua_get_user_name`. -/
def luaGetUserName (sessionId : ℕ) : Thread (Option String) := underLock (.userName sessionId)

/-- `lua_get_user_room`. -/
def luaGetUserRoom (sessionId : ℕ) : Thread (Option String) := underLock (.userRoom sessionId)

/-- `lua_get_room_users`. -/
def luaGetRoomUsers (room : String) : Thread (List String) :=
  if room = "" then return [] else underLock (.roomUsers room)

/-- `lua_get_room_list`. -/
def luaGetRoomList : Thread (List String) := underLock .roomList

/-- `lua_get_room_owner`. -/
def luaGetRoomOwner (room : String) : Thread (Option String) :=
  if room = "" then return none else underLock (.roomOwner room)

/-- `lua_is_user_muted`. -/
def luaIsUserMuted (nickname : String) : Thread Bool :=
  if nickname = "" then return false else underLock (.isUserMuted nickname)

/-- `lua_is_user_banned`. -/
def luaIsUserBanned (nickname : String) : Thread Bool :=
  if nickname = "" then return false else underLock (.isUserBanned nickname)

/-- `lua_get_online_count`. -/
def luaGetOnlineCount : Thread ℕ := underLock .onlineCount

/-- `lua_get_room_count`. -/
def luaGetRoomCount : Thread ℕ := underLock .roomCount

/-- `lua_send_notice`. -/
def luaSendNotice (sessionId : ℕ) (text : String) : Thread Bool :=
  if sessionId = 0 ∨ text = "" then return false
  else do
    match ← underLock (.findSession sessionId) with
    | none => return false
    | some s =>
      plain (Handler.sendNotice s text)
      return true

/-- `lua_broadcast_room`. -/
def luaBroadcastRoom (room text : String) : Thread Bool :=
  if room = "" ∨ text = "" then return false
  else do
    let found ← underLock (.hasRoom room)
    if found then
      plain (Handler.broadcastRoom room ⟨room, "(system)", text, 0⟩)
      return true
    else return false

/-- `lua_broadcast_all`. -/
def luaBroadcastAll (text : String) : Thread Bool :=
  if text = "" then return false else step .tryPush

/-- `lua_kick_user`. -/
def luaKickUser (sessionId : ℕ) (reason : String) : Thread Bool :=
  if sessionId = 0 then return false
  else do
    match ← underLock (.findSession sessionId) with
    | none => return false
    | some s =>
      plain (Handler.onlyIf (reason ≠ "") (Handler.sendNotice s reason))
      plain (Handler.stop s)
      return true

/-- `apply_user_moderation_without_hook` for one user. -/
def applyUserModeration (nickname : String) : Thread Bool :=
  if Admin.trimAscii nickname = "" then return false else step .tryPush

/-- `lua_mute_user`. -/
def luaMuteUser (nickname : String) : Thread Bool :=
  if nickname = "" then return false else applyUserModeration nickname

/-- `lua_ban_user`. -/
def luaBanUser (nickname : String) : Thread Bool :=
  if nickname = "" then return false else applyUserModeration nickname

end Host

/-! ### What scripts may call -/

/-- Values that scripts and the service exchange. -/
inductive HostValue
  | nil
  | bool (b : Bool)
  | int (n : ℤ)
  | str (s : String)
  | list (l : List String)
  deriving DecidableEq, Repr

/-- The functions in the table `server` of a script. -/
inductive HostFn
  | getUserName
  | getUserRoom
  | getRoomUsers
  | getRoomList
  | getRoomOwner
  | isUserMuted
  | isUserBanned
  | getOnlineCount
  | getRoomCount
  | sendNotice
  | broadcastRoom
  | broadcastAll
  | kickUser
  | muteUser
  | banUser
  | logInfo
  | logWarn
  | logDebug
  | hookName
  | scriptName
  deriving DecidableEq, Repr

/-- A call that a script makes. -/
structure HostCall where
  fn : HostFn
  args : List HostValue
  deriving DecidableEq, Repr

/-- `get_u32_arg`. -/
def getU32Arg (args : List HostValue) (index : ℕ) (name : String) : Except String ℕ :=
  match args[index]? with
  | none => .error (name ++ " argument is missing")
  | some (.int n) =>
    if n < 0 ∨ 2 ^ 32 - 1 < n then .error (name ++ " argument must be a non-negative integer")
    else .ok n.toNat
  | some _ => .error (name ++ " argument must be a non-negative integer")

/-- `get_string_arg`. -/
def getStringArg (args : List HostValue) (index : ℕ) (name : String) : Except String String :=
  match args[index]? with
  | none => .error (name ++ " argument is missing")
  | some (.str s) => .ok s
  | some _ => .error (name ++ " argument must be a string")

/-- What a host function is told about the call. -/
structure HostCallContext where
  hookName : String
  scriptName : String
  hook : HookContext
  deriving DecidableEq, Repr

namespace Host

/-- Go on with an argument if it is in order. -/
def withArg {α : Type} (arg : Except String α) (k : α → Thread (Except String HostValue)) :
    Thread (Except String HostValue) :=
  match arg with
  | .error e => return .error e
  | .ok a => k a

/-- The value of a look-up, nil if there is none. -/
def orNil : Option String → HostValue
  | none => .nil
  | some s => .str s

/-- The answer of a function that may fail. -/
def queued (name : String) (ok : Bool) : Except String HostValue :=
  if ok then .ok .nil else .error ("failed to queue " ++ name)

/-- What the hook was told itself, if the call asks about its session. -/
def fromHook (ctx : HostCallContext) (sessionId : ℕ) (text : String) : Option String :=
  if ctx.hook.sessionId = sessionId ∧ text ≠ "" then some text else none

/-- `register_chat_lua_bindings`: what a call does, its answer or its error. -/
def callHost (ctx : HostCallContext) (c : HostCall) : Thread (Except String HostValue) :=
  match c.fn with
  | .getUserName => withArg (getU32Arg c.args 0 "session_id") fun sessionId => do
    let user ← luaGetUserName sessionId
    return .ok (orNil (user <|> fromHook ctx sessionId ctx.hook.user))
  | .getUserRoom => withArg (getU32Arg c.args 0 "session_id") fun sessionId => do
    let room ← luaGetUserRoom sessionId
    return .ok (orNil (room <|> fromHook ctx sessionId ctx.hook.room))
  | .getRoomUsers => withArg (getStringArg c.args 0 "room_name") fun room => do
    let users ← luaGetRoomUsers room
    return .ok (.list users)
  | .getRoomList => do
    let rooms ← luaGetRoomList
    return .ok (.list rooms)
  | .getRoomOwner => withArg (getStringArg c.args 0 "room_name") fun room => do
    let owner ← luaGetRoomOwner room
    return .ok (orNil owner)
  | .isUserMuted => withArg (getStringArg c.args 0 "nickname") fun nickname => do
    let muted ← luaIsUserMuted nickname
    return .ok (.bool muted)
  | .isUserBanned => withArg (getStringArg c.args 0 "nickname") fun nickname => do
    let banned ← luaIsUserBanned nickname
    return .ok (.bool banned)
  | .getOnlineCount => do
    let n ← luaGetOnlineCount
    return .ok (.int n)
  | .getRoomCount => do
    let n ← luaGetRoomCount
    return .ok (.int n)
  | .sendNotice => withArg (getU32Arg c.args 0 "session_id") fun sessionId =>
    withArg (getStringArg c.args 1 "text") fun text => do
      let ok ← luaSendNotice sessionId text
      return queued "send_notice" ok
  | .broadcastRoom => withArg (getStringArg c.args 0 "room_name") fun room =>
    withArg (getStringArg c.args 1 "text") fun text => do
      let ok ← luaBroadcastRoom room text
      return queued "broadcast_room" ok
  | .broadcastAll => withArg (getStringArg c.args 0 "text") fun text => do
    let ok ← luaBroadcastAll text
    return queued "broadcast_all" ok
  | .kickUser => withArg (getU32Arg c.args 0 "session_id") fun sessionId =>
    withArg (getStringArg c.args 1 "reason") fun reason => do
      let ok ← luaKickUser sessionId reason
      return queued "kick_user" ok
  | .muteUser => withArg (getStringArg c.args 0 "nickname") fun nickname =>
    withArg (getU32Arg c.args 1 "duration_sec") fun _ =>
      withArg (getStringArg c.args 2 "reason") fun _ => do
        let ok ← luaMuteUser nickname
        return queued "mute_user" ok
  | .banUser => withArg (getStringArg c.args 0 "nickname") fun nickname =>
    withArg (getU32Arg c.args 1 "duration_sec") fun _ =>
      withArg (getStringArg c.args 2 "reason") fun _ => do
        let ok ← luaBanUser nickname
        return queued "ban_user" ok
  | .logInfo => withArg (getStringArg c.args 0 "message") fun _ => return .ok .nil
  | .logWarn => withArg (getStringArg c.args 0 "message") fun _ => return .ok .nil
  | .logDebug => withArg (getStringArg c.args 0 "message") fun _ => return .ok .nil
  | .hookName => return .ok (.str ctx.hookName)
  | .scriptName => return .ok (.str ctx.scriptName)

end Host

/-! ### Hooks -/

/-- A loaded script, with the calls that it makes when the hook runs. -/
structure LuaScript where
  name : String
  calls : List HostCall
  deriving DecidableEq, Repr

/-- What `poll_one` runs on the waiting thread. -/
inductive Polled
  | nothing
  /-- The call of the scripts that the thread has posted itself. -/
  | scripts
  | handler (h : Handler Unit)

/-- What a hook finds when it is called. -/
structure LuaHook where
  name : String
  /-- A plugin has refused already. -/
  pluginStops : Bool := false
  /-- There is a Lua runtime. -/
  loaded : Bool := true
  /-- The hook was switched off after too many failures. -/
  disabled : Bool := false
  /-- Scripts run on a strand, and this thread is not on it. -/
  onStrand : Bool := false
  scripts : List LuaScript
  /-- What the thread runs while it waits for the strand. -/
  polls : List Polled := []

namespace LuaHook

open Host Thread

variable (l : LuaHook)

/-- `call_all`. -/
def callAll (ctx : HookContext) : Thread Unit :=
  Proc.each (fun script => Proc.each (fun c => do
    let _ ← callHost ⟨l.name, script.name, ctx⟩ c
    return ()) script.calls) l.scripts

/-- Wait until the scripts have run, here or on another thread. -/
def wait (ctx : HookContext) : List Polled → Thread Unit
  | [] => return ()
  | .nothing :: ps => wait ctx ps
  | .scripts :: _ => l.callAll ctx
  | .handler h :: ps => do
    plain h
    wait ctx ps

/-- `invoke_lua_cold_hook`. -/
def invoke (ctx : HookContext) : Thread Unit :=
  if l.loaded && !l.disabled then
    if l.onStrand then l.wait ctx l.polls else l.callAll ctx
  else return ()

/-- `maybe_handle_join_hook` and `maybe_handle_leave_hook`, their verdict apart. -/
def maybeHandle (ctx : HookContext) : Thread Unit :=
  if l.pluginStops then return () else l.invoke ctx

end LuaHook

/-- The hooks that are called inside sections. -/
structure Hooks where
  onJoin : LuaHook
  onLeave : LuaHook

namespace Hooks

/-- The hook of a section. -/
def inside (hs : Hooks) : Critical → HookContext → Thread Unit
  | .join _ _, ctx => hs.onJoin.maybeHandle ctx
  | .leave _ _ _, ctx => hs.onLeave.maybeHandle ctx
  | _, _ => return ()

/-- A handler with its hooks, as a thread runs it. -/
def run (hs : Hooks) {α : Type} (p : Handler α) : Thread α := Thread.openUp hs.inside p

end Hooks

/-! ### The mutex -/

/-- Follows whether the thread holds the mutex, and objects if it acquires it again. -/
def relock : Monitor ThreadOp.Ans Bool where
  ok held o := o = .acquire → held = false
  next held o _ :=
    match o with
    | .acquire => true
    | .release => false
    | _ => held

/-- Objects to every section. -/
def noSections : Monitor Op.Ans Unit where
  ok _ o := ∀ c, o ≠ .lock c
  next _ _ _ := ()

/-- A handler that runs no section. -/
def Handler.SectionFree {α : Type} (p : Handler α) : Prop := p.Safe noSections () fun _ _ => True

/-- The call acquires the mutex. -/
def HostCall.locks (c : HostCall) : Bool :=
  match c.fn with
  | .getUserName => (getU32Arg c.args 0 "session_id").isOk
  | .getUserRoom => (getU32Arg c.args 0 "session_id").isOk
  | .getRoomUsers => (getStringArg c.args 0 "room_name").toOption.any (· ≠ "")
  | .getRoomList => true
  | .getRoomOwner => (getStringArg c.args 0 "room_name").toOption.any (· ≠ "")
  | .isUserMuted => (getStringArg c.args 0 "nickname").toOption.any (· ≠ "")
  | .isUserBanned => (getStringArg c.args 0 "nickname").toOption.any (· ≠ "")
  | .getOnlineCount => true
  | .getRoomCount => true
  | .sendNotice => (getU32Arg c.args 0 "session_id").toOption.any (· ≠ 0) &&
    (getStringArg c.args 1 "text").toOption.any (· ≠ "")
  | .broadcastRoom => (getStringArg c.args 0 "room_name").toOption.any (· ≠ "") &&
    (getStringArg c.args 1 "text").toOption.any (· ≠ "")
  | .kickUser => (getU32Arg c.args 0 "session_id").toOption.any (· ≠ 0) &&
    (getStringArg c.args 1 "reason").isOk
  | _ => false

/-- The scripts of a hook make no call that acquires the mutex. -/
def LuaHook.ScriptsQuiet (l : LuaHook) : Prop :=
  ∀ script ∈ l.scripts, ∀ c ∈ script.calls, c.locks = false

/-- Nothing that a waiting thread runs acquires the mutex. -/
def LuaHook.PollsQuiet (l : LuaHook) : List Polled → Prop
  | [] => True
  | .nothing :: ps => l.PollsQuiet ps
  | .scripts :: _ => l.ScriptsQuiet
  | .handler h :: ps => h.SectionFree ∧ l.PollsQuiet ps

/-- Nothing that a thread runs for a hook acquires the mutex. -/
def LuaHook.Quiet (l : LuaHook) : Prop :=
  l.pluginStops = false → l.loaded = true → l.disabled = false →
    if l.onStrand = true then l.PollsQuiet l.polls else l.ScriptsQuiet

/-! ### Host calls and the mutex -/

variable {α : Type} {Q : Bool → α → Prop} {e : Except String α} {body : Thread α} {p : α → Bool}

namespace Host

variable {ctx : HostCallContext} {c : HostCall}

theorem any_toOption : e.toOption.any p = true ↔ ∃ a, e = .ok a ∧ p a = true := by
  cases e <;> simp [Except.toOption]

theorem isOk_iff : e.isOk = true ↔ ∃ a, e = .ok a := by
  cases e <;> simp [Except.isOk, Except.toBool]

/-- A call that acquires the mutex does so first. -/
theorem acquires_of_locks (h : c.locks = true) : ∃ k, callHost ctx c = .act .acquire k := by
  obtain ⟨fn, args⟩ := c
  cases fn
  case getUserName | getUserRoom =>
    obtain ⟨n, hn⟩ := isOk_iff.mp h
    simp only [callHost, hn]
    exact ⟨_, rfl⟩
  case getRoomUsers | getRoomOwner | isUserMuted | isUserBanned =>
    obtain ⟨name, hname, hne⟩ := any_toOption.mp h
    simp only [callHost, hname, withArg, luaGetRoomUsers, luaGetRoomOwner, luaIsUserMuted,
      luaIsUserBanned, if_neg (of_decide_eq_true hne)]
    exact ⟨_, rfl⟩
  case getRoomList | getOnlineCount | getRoomCount => exact ⟨_, rfl⟩
  case sendNotice | broadcastRoom =>
    obtain ⟨htarget, htext⟩ := Bool.and_eq_true_iff.mp h
    obtain ⟨target, htarget, hne⟩ := any_toOption.mp htarget
    obtain ⟨text, htext, hne'⟩ := any_toOption.mp htext
    have hcond := not_or.mpr ⟨of_decide_eq_true hne, of_decide_eq_true hne'⟩
    simp only [callHost, htarget, htext, withArg, luaSendNotice, luaBroadcastRoom, if_neg hcond]
    exact ⟨_, rfl⟩
  case kickUser =>
    obtain ⟨hid, hreason⟩ := Bool.and_eq_true_iff.mp h
    obtain ⟨n, hn, hn0⟩ := any_toOption.mp hid
    obtain ⟨reason, hreason⟩ := isOk_iff.mp hreason
    simp only [callHost, hn, hreason, withArg, luaKickUser, if_neg (of_decide_eq_true hn0)]
    exact ⟨_, rfl⟩
  all_goals cases h

theorem safe_withArg {σ : Type} {M : Monitor ThreadOp.Ans σ} {s : σ} {arg : Except String α}
    {k : α → Thread (Except String HostValue)} {Q : σ → Except String HostValue → Prop}
    (herror : ∀ e, Q s (.error e)) (hok : ∀ a, arg = .ok a → (k a).Safe M s Q) :
    (withArg arg k).Safe M s Q := by
  cases arg with
  | error e => exact herror e
  | ok a => exact hok a rfl

theorem not_mem_toOption {a : α} (h : e.toOption.any p = false) (ha : e = .ok a) : p a = false := by
  rw [ha] at h
  exact h

theorem safe_tryPush (held : Bool) : (Thread.step .tryPush).Safe relock held fun s _ => s = held :=
  ⟨fun h => (nomatch h), fun _ => rfl⟩

theorem safe_applyUserModeration (held : Bool) (nickname : String) :
    (applyUserModeration nickname).Safe relock held fun s _ => s = held := by
  unfold applyUserModeration
  split_ifs
  · rfl
  · exact safe_tryPush held

/-- Any other call leaves the mutex alone. -/
theorem safe_of_not_locks (held : Bool) (h : c.locks = false) :
    (callHost ctx c).Safe relock held fun s _ => s = held := by
  obtain ⟨fn, args⟩ := c
  cases fn
  case getUserName | getUserRoom =>
    refine safe_withArg (fun _ => rfl) fun n hn => ?_
    exact absurd (isOk_iff.mpr ⟨n, hn⟩) (Bool.eq_false_iff.mp h)
  case getRoomUsers | getRoomOwner | isUserMuted | isUserBanned =>
    refine safe_withArg (fun _ => rfl) fun name hname => ?_
    have hempty : name = "" := by simpa using not_mem_toOption h hname
    simp [luaGetRoomUsers, luaGetRoomOwner, luaIsUserMuted, luaIsUserBanned, hempty]
  case getRoomList | getOnlineCount | getRoomCount => cases h
  case sendNotice =>
    refine safe_withArg (fun _ => rfl) fun n hn => safe_withArg (fun _ => rfl) fun text htext => ?_
    have hcond : n = 0 ∨ text = "" := by
      simpa [HostCall.locks, hn, htext, Except.toOption, or_iff_not_imp_left] using h
    simp [luaSendNotice, hcond]
  case broadcastRoom =>
    refine safe_withArg (fun _ => rfl) fun room hroom =>
      safe_withArg (fun _ => rfl) fun text htext => ?_
    have hcond : room = "" ∨ text = "" := by
      simpa [HostCall.locks, hroom, htext, Except.toOption, or_iff_not_imp_left] using h
    simp [luaBroadcastRoom, hcond]
  case kickUser =>
    refine safe_withArg (fun _ => rfl) fun n hn =>
      safe_withArg (fun _ => rfl) fun reason hreason => ?_
    have hzero : n = 0 := by
      simpa [HostCall.locks, hn, hreason, Except.toOption, Except.isOk, Except.toBool] using h
    simp [luaKickUser, hzero]
  case broadcastAll =>
    refine safe_withArg (fun _ => rfl) fun text _ => (safe_bind _ _).mpr ?_
    unfold luaBroadcastAll
    split_ifs
    · rfl
    · exact safe_tryPush held
  case muteUser | banUser =>
    refine safe_withArg (fun _ => rfl) fun nickname _ => safe_withArg (fun _ => rfl) fun _ _ =>
      safe_withArg (fun _ => rfl) fun _ _ => (safe_bind _ _).mpr ?_
    simp only [luaMuteUser, luaBanUser]
    split_ifs
    · rfl
    · exact safe_applyUserModeration held nickname
  case logInfo | logWarn | logDebug => exact safe_withArg (fun _ => rfl) fun _ _ => rfl
  case hookName | scriptName => rfl

/-- Where the mutex is held, a call is safe exactly when it does not acquire it. -/
theorem locks_eq_false_of_safe {Q : Bool → Except String HostValue → Prop}
    (h : (callHost ctx c).Safe relock true Q) : c.locks = false := by
  refine Bool.eq_false_iff.mpr fun hlocks => ?_
  have hacq : ∃ k, callHost ctx c = .act .acquire k := acquires_of_locks hlocks
  obtain ⟨k, hk⟩ := hacq
  rw [hk] at h
  exact absurd (h.1 rfl) (by decide)

end Host

/-! ### Hooks and the mutex -/

theorem ThreadOp.nonempty_ans (o : ThreadOp) : Nonempty o.Ans := by
  have hop : ∀ o : Op, Nonempty o.Ans := fun o =>
    ⟨(o.exec .sample .done ⟨{}, fun _ => false, [], {}, {}⟩).2⟩
  cases o with
  | acquire | release => exact ⟨()⟩
  | inside c => exact hop (.lock c)
  | reaches c => exact ⟨none⟩
  | query q => cases q <;> exact ⟨default⟩
  | tryPush => exact ⟨false⟩
  | outside o => exact hop o

namespace Thread

/-- A scope with a `lock_guard` is entered only by who does not hold the mutex, and leaves it
    released. -/
theorem safe_guarded :
    (guarded body).Safe relock false Q ↔ body.Safe relock true fun _ a => Q false a := by
  unfold guarded step
  simp [relock]

theorem not_safe_guarded : ¬ (guarded body).Safe relock true Q := by
  unfold guarded step
  simp [relock]

/-- Work without sections leaves the mutex alone. -/
theorem safe_plain {p : Handler α} (h : p.SectionFree) (held : Bool) :
    (plain p).Safe relock held fun s _ => s = held := by
  induction p with
  | ret a => rfl
  | act o k ih =>
    have hrest := fun a => ih a (h.2 a)
    cases o with
    | lock c => exact absurd rfl (h.1 c)
    | redis | db | send | stop => exact ⟨fun h => (nomatch h), hrest⟩

/-- Who holds the mutex can run nothing but work without sections. -/
theorem sectionFree_of_safe {p : Handler α} (h : (plain p).Safe relock true Q) : p.SectionFree := by
  induction p with
  | ret a => trivial
  | act o k ih =>
    cases o with
    | lock c => exact absurd ((safe_bind _ _).mp h) not_safe_guarded
    | redis | db | send | stop => exact ⟨fun _ ho => (nomatch ho), fun a => ih a (h.2 a)⟩

end Thread

variable {Q : Bool → Unit → Prop} {denied : Option String} {ps : List Polled}

namespace LuaHook

open Thread Host

variable {l : LuaHook} {ctx : HookContext}

theorem safe_callAll (h : l.ScriptsQuiet) (held : Bool) :
    (l.callAll ctx).Safe relock held fun s _ => s = held := by
  refine safe_each fun script hscript => safe_each fun c hc => ?_
  exact (safe_bind _ _).mpr (safe_of_not_locks held (h script hscript c hc))

/-- A safe list of processes is safe part by part. -/
theorem safe_of_safe_each {γ : Type} {f : γ → Thread Unit} {cs : List γ} {P : γ → Prop}
    (hP : ∀ c Q', (f c).Safe relock true Q' → P c)
    (hkeep : ∀ c, P c → (f c).Safe relock true fun s _ => s = true)
    (h : (Proc.each f cs).Safe relock true Q) : ∀ c ∈ cs, P c := by
  induction cs with
  | nil => exact fun c hc => absurd hc not_mem_nil
  | cons c cs ih =>
    have hfirst := (safe_bind _ _).mp h
    have hc : P c := hP c _ hfirst
    -- some run of the first part ends, and it ends with the mutex held
    obtain ⟨held, -, hrest, rfl⟩ := (hfirst.and (hkeep c hc)).exists_result ThreadOp.nonempty_ans
    exact forall_mem_cons.mpr ⟨hc, ih hrest⟩

theorem scriptsQuiet_of_safe (h : (l.callAll ctx).Safe relock true Q) : l.ScriptsQuiet := by
  have hcall : ∀ name c Q',
      (do let _ ← callHost ⟨l.name, name, ctx⟩ c; return () : Thread Unit).Safe relock true Q' →
        c.locks = false :=
    fun name c Q' hc => locks_eq_false_of_safe ((safe_bind _ _).mp hc)
  have hkeep : ∀ name c, c.locks = false →
      (do let _ ← callHost ⟨l.name, name, ctx⟩ c; return () : Thread Unit).Safe relock true
        fun s _ => s = true :=
    fun name c hc => (safe_bind _ _).mpr (safe_of_not_locks true hc)
  refine safe_of_safe_each (P := fun script => ∀ c ∈ script.calls, c.locks = false) ?_ ?_ h
  · exact fun script Q' hs => safe_of_safe_each (hcall script.name) (hkeep script.name) hs
  · exact fun script hs => safe_each fun c hc => hkeep script.name c (hs c hc)

theorem safe_wait (h : l.PollsQuiet ps) (held : Bool) :
    (l.wait ctx ps).Safe relock held fun s _ => s = held := by
  induction ps with
  | nil => rfl
  | cons p ps ih =>
    cases p with
    | nothing => exact ih h
    | scripts => exact safe_callAll h held
    | handler q =>
      refine (safe_bind _ _).mpr ((safe_plain h.1 held).imp fun s _ hs => ?_)
      subst hs
      exact ih h.2

theorem pollsQuiet_of_safe (h : (l.wait ctx ps).Safe relock true Q) : l.PollsQuiet ps := by
  induction ps with
  | nil => trivial
  | cons p ps ih =>
    cases p with
    | nothing => exact ih h
    | scripts => exact scriptsQuiet_of_safe h
    | handler q =>
      have hfirst := (safe_bind _ _).mp h
      have hfree := sectionFree_of_safe hfirst
      obtain ⟨held, -, hrest, rfl⟩ :=
        (hfirst.and (safe_plain hfree true)).exists_result ThreadOp.nonempty_ans
      exact ⟨hfree, ih hrest⟩

theorem safe_maybeHandle (h : l.Quiet) (held : Bool) :
    (l.maybeHandle ctx).Safe relock held fun s _ => s = held := by
  unfold maybeHandle
  split
  · rfl
  rename_i hplugin
  unfold invoke
  split
  · rename_i hloaded
    simp only [Bool.and_eq_true, Bool.not_eq_true'] at hloaded
    have hquiet := h (Bool.eq_false_iff.mpr hplugin) hloaded.1 hloaded.2
    split_ifs at hquiet ⊢
    · exact safe_wait hquiet held
    · exact safe_callAll hquiet held
  · rfl

theorem quiet_of_safe (h : (l.maybeHandle ctx).Safe relock true Q) : l.Quiet := by
  intro hplugin hloaded hdisabled
  unfold maybeHandle invoke at h
  rw [hplugin, hloaded, hdisabled] at h
  split_ifs with hstrand
  · rw [if_pos hstrand] at h
    exact pollsQuiet_of_safe h
  · rw [if_neg hstrand] at h
    exact scriptsQuiet_of_safe h

end LuaHook

namespace Hooks

open Thread

variable {hs : Hooks}

/-- With quiet hooks, every handler acquires the mutex only when it does not hold it. -/
theorem safe_run (hjoin : hs.onJoin.Quiet) (hleave : hs.onLeave.Quiet) (p : Handler α) :
    (hs.run p).Safe relock false fun held _ => held = false := by
  have hinside : ∀ c ctx, (hs.inside c ctx).Safe relock true fun held _ => held = true := by
    intro c ctx
    cases c
    case join s req => exact LuaHook.safe_maybeHandle hjoin true
    case leave s room denied => exact LuaHook.safe_maybeHandle hleave true
    all_goals rfl
  have hhook : ∀ c ctx, (hookIf hs.inside c ctx).Safe relock true fun held _ => held = true := by
    intro c ctx
    cases ctx with
    | none => rfl
    | some ctx => exact hinside c ctx
  induction p with
  | ret a => rfl
  | act o k ih =>
    cases o with
    | lock c =>
      refine (safe_bind _ _).mpr (safe_guarded.mpr ⟨fun h => (nomatch h), fun ctx => ?_⟩)
      show (hookIf hs.inside c ctx >>= fun _ => step (.inside c)).Safe relock true _
      refine (safe_bind _ _).mpr ((hhook c ctx).imp fun held _ _ => ?_)
      exact ⟨fun h => (nomatch h), fun a => ih a⟩
    | redis | db | send | stop => exact ⟨fun h => (nomatch h), ih⟩

/-- A section that comes to its hook is safe only if the hook is. -/
theorem safe_inside_of_safe {c : Critical} {k : c.Ans → Handler α} {Q : Bool → α → Prop}
    (h : (hs.run (Handler.lock c >>= k)).Safe relock false Q) (ctx : HookContext) :
    ∃ Q' : Bool → Unit → Prop, (hs.inside c ctx).Safe relock true Q' := by
  have hsection := safe_guarded.mp ((safe_bind _ _).mp h)
  exact ⟨_, (safe_bind (hs.inside c ctx) _).mp (hsection.2 (some ctx))⟩

/-- A section without a hook is passed. -/
theorem safe_after_section {c : Critical} {k : c.Ans → Handler α} {Q : Bool → α → Prop}
    (h : (hs.run (Handler.lock c >>= k)).Safe relock false Q) (a : c.Ans) :
    (hs.run (k a)).Safe relock false Q := by
  have hsection := safe_guarded.mp ((safe_bind _ _).mp h)
  exact (hsection.2 none).2 a

theorem quiet_of_safe_join {cfg : Config} {s : Session} {room password fresh : String}
    (h : (hs.run (Handler.onJoin cfg s room password fresh denied)).Safe relock false Q) :
    hs.onJoin.Quiet := by
  have hrest := safe_after_section h ""
  unfold Handler.askIf at hrest
  have hsection : ∃ req k, (hs.run (Handler.lock (.join s req) >>= k)).Safe relock false Q := by
    split_ifs at hrest
    · exact ⟨_, _, hrest.2 none⟩
    · exact ⟨_, _, hrest⟩
  obtain ⟨req, k, hsection⟩ := hsection
  obtain ⟨Q', hhook⟩ := safe_inside_of_safe hsection ⟨s.id, "", ""⟩
  exact LuaHook.quiet_of_safe hhook

theorem quiet_of_safe_leave {cfg : Config} {s : Session} {room fresh : String}
    (h : (hs.run (Handler.onLeave cfg s room fresh denied)).Safe relock false Q) :
    hs.onLeave.Quiet := by
  have hrest := safe_after_section h ""
  obtain ⟨Q', hhook⟩ := safe_inside_of_safe hrest ⟨s.id, "", ""⟩
  exact LuaHook.quiet_of_safe hhook

/-- **No self-deadlock.** The threads of a join and a leave never acquire the mutex while they
    hold it, whatever the tables, Redis and the database answer them, exactly when nothing
    that they run for their hooks acquires it: no call of a script, and no work of the io
    context that they do while they wait. -/
theorem no_relock_iff (hs : Hooks) (cfg : Config) (s : Session) (room password fresh : String)
    (denied : Option String) :
    (hs.run (Handler.onJoin cfg s room password fresh denied)).Safe relock false
        (fun held _ => held = false) ∧
      (hs.run (Handler.onLeave cfg s room fresh denied)).Safe relock false
        (fun held _ => held = false) ↔
    hs.onJoin.Quiet ∧ hs.onLeave.Quiet := by
  constructor
  · exact fun h => ⟨quiet_of_safe_join h.1, quiet_of_safe_leave h.2⟩
  · exact fun h => ⟨safe_run h.1 h.2 _, safe_run h.1 h.2 _⟩

end Hooks

/-- Hooks with one script, which asks for the list of rooms whenever somebody joins. -/
def Hooks.askingForRooms : Hooks where
  onJoin := { name := "on_join", scripts := [⟨"greeter", [⟨.getRoomList, []⟩]⟩] }
  onLeave := { name := "on_leave", scripts := [⟨"greeter", []⟩] }

/-- The thread of a join acquires the mutex again when the script calls `get_room_list`. -/
theorem get_room_list_relocks :
    ¬ (Hooks.askingForRooms.run (Handler.onJoin .sample .one "room" "" "uuid" none)).Safe relock
      false fun _ _ => True := by
  intro h
  have hquiet : Hooks.askingForRooms.onJoin.ScriptsQuiet := Hooks.quiet_of_safe_join h rfl rfl rfl
  have hcall := hquiet ⟨"greeter", [⟨.getRoomList, []⟩]⟩ (mem_singleton.mpr rfl)
    ⟨.getRoomList, []⟩ (mem_singleton.mpr rfl)
  exact absurd hcall (by decide)

end Knights.Chat
