import Knights.Admin.Fanout
import Knights.Chat.Lines
import Knights.Chat.Soundness

namespace Knights.Chat

open Lib Handler List Cluster
open Admin (FanoutAction FanoutConfig Hmac Verifier InstanceRecord onFanout openEnvelope)

/-!
# Lines across services

Services hear of each other's lines through Redis: what one publishes is delivered to all of
them, the sender included, and each runs a job for what it hears.

* `Wire` are the decoders of what is published, `network` is the machine of services and their
  channel; a message is delivered to a service once;
* `jobFor_line` — a published line means nothing to its own service and the same line to every
  other;
* `Carries` — the tasks that a line is sent by;
* `line_sent_once` — each service has one such task at most, which sends the line to everyone
  who was to hear it when the audience was collected, and to nobody twice.
-/

/-! ### The machine -/

/-- The decoders of what services publish; a line is read back as it was written. -/
structure Wire (cfg : ℕ → Config) where
  line : String → Broadcast
  whisper : String → WhisperNotice
  line_encode : ∀ i b, line ((cfg i).encodeBroadcast b) = b

/-- What the services of a network run with. -/
structure NetworkConfig where
  hmac : Hmac
  cfg : ℕ → Config
  record : ℕ → InstanceRecord
  wire : Wire cfg

/-- The operation of a moderation command. -/
def State.AdminOp.ofText (text : String) : State.AdminOp :=
  match toLowerAscii (Admin.trimAscii text) with
  | "mute" => .mute
  | "unmute" => .unmute
  | "ban" => .ban
  | "unban" => .unban
  | "kick" => .kick
  | _ => .other

/-- Services, what they know of commands, and the messages that were delivered to them. -/
structure Network where
  services : Cluster
  verifiers : ℕ → Verifier
  delivered : List (ℕ × ℕ)

/-- What happens in a network. -/
inductive NetworkInput
  | inside (inp : Cluster.Input)
  /-- Message `m` of the channel arrives at service `i`. -/
  | deliver (i m now : ℕ)

/-- What is seen of it: an action, with the number of the message that it published, or the
    task that a message has started. -/
inductive NetworkOutput
  | quiet
  | acted (act : Action) (message : Option ℕ)
  | spawned (i m k : ℕ)

namespace NetworkConfig

variable (E : NetworkConfig)

/-- The job for what a service hears; settings are not the chat service's. -/
def jobOf (now : ℕ) : FanoutAction → Option Job
  | .refresh room => some (.remoteRefresh room)
  | .line room body => some (.remoteLine room (E.wire.line body))
  | .whisper body => some (.remoteWhisper (E.wire.whisper body))
  | .disconnect users reason => some (.adminDisconnect users reason)
  | .announce text => some (.adminNotice text)
  | .setting _ _ => none
  | .moderation op users durationSec reason =>
    some (.adminModeration (.ofText op) users now durationSec reason)

/-- What service `i` knows itself by. -/
def fanout (i : ℕ) : FanoutConfig := ⟨(E.cfg i).channelPrefix, (E.cfg i).gatewayId, E.record i⟩

/-- Gateway ids of the `n` services are pairwise different and free of newlines, and the prefix
    of their channels is the same. -/
structure Proper (n : ℕ) : Prop where
  ids : ∀ i < n, ∀ j < n, (E.cfg i).gatewayId = (E.cfg j).gatewayId → i = j
  newline : ∀ i < n, '\n' ∉ (E.cfg i).gatewayId.toList
  channels : ∀ i < n, ∀ j < n, (E.cfg i).channelPrefix = (E.cfg j).channelPrefix

/-- The job that service `i` runs for a message. -/
def jobFor (i : ℕ) (v : Verifier) (channel message : String) (now : ℕ) : Option Job :=
  (onFanout E.hmac (E.fanout i) v channel message now).2.bind (E.jobOf now)

end NetworkConfig

/-- Jobs for what comes from elsewhere are not submitted from inside. -/
def Cluster.Input.isOutside : Cluster.Input → Bool
  | .inst _ (.submit j) => j.session.isNone
  | _ => false

namespace Network

/-- What was published so far. -/
def published (N : Network) : List (String × String) := N.services.stores.redis.published

/-- One step of a network. -/
def step (E : NetworkConfig) (N : Network) : NetworkInput → Network × NetworkOutput
  | .inside inp =>
    if inp.isOutside then (N, .quiet)
    else
      let r := (cluster E.cfg).step N.services inp
      let N' := { N with services := r.1 }
      (N', match r.2 with
        | none => .quiet
        | some act => .acted act (if N.published.length < N'.published.length
            then some N.published.length else none))
  | .deliver i m now =>
    match N.services.insts[i]?, N.published[m]? with
    | some x, some (channel, message) =>
      if (i, m) ∈ N.delivered then (N, .quiet)
      else
        let N' := { N with
          verifiers := Function.update N.verifiers i
            (onFanout E.hmac (E.fanout i) (N.verifiers i) channel message now).1
          delivered := (i, m) :: N.delivered }
        match E.jobFor i (N.verifiers i) channel message now with
        | none => (N', .quiet)
        | some j => ({ N' with services := (cluster E.cfg).next N.services (.inst i (.submit j)) },
            .spawned i m x.tasks.length)
    | _, _ => (N, .quiet)

/-- Services that have just started. -/
def fresh (n : ℕ) (stores : Stores) (verifiers : ℕ → Verifier) : Network :=
  ⟨.fresh n stores, verifiers, []⟩

end Network

/-- The machine of services that hear of each other. -/
def network (E : NetworkConfig) : Machine Network NetworkInput NetworkOutput := ⟨Network.step E⟩

/-! ### What a line means to other services -/

namespace NetworkConfig

variable {E : NetworkConfig}

/-- The channel of a room is told apart from the others, and the room read off it. -/
theorem onFanout_room {hmac : Hmac} {fc : FanoutConfig} {v : Verifier}
    {room message sender : String} {payload : Option String} {now : ℕ}
    (hopen : openEnvelope message = some (sender, payload)) :
    (onFanout hmac fc v (fc.redisChannelPrefix ++ "fanout:room:" ++ room) message now).2 =
      if sender = fc.gatewayId then none else payload.map (FanoutAction.line room) := by
  have hrefresh : startsWith (fc.redisChannelPrefix ++ "fanout:refresh:")
      (fc.redisChannelPrefix ++ "fanout:room:" ++ room) = false := by
    rw [String.append_assoc, Admin.startsWith_append_append]
    simp [startsWith, List.isPrefixOf]
  have hroom : startsWith (fc.redisChannelPrefix ++ "fanout:room:")
      (fc.redisChannelPrefix ++ "fanout:room:" ++ room) = true := startsWith_append
  have hafter : String.ofList ((fc.redisChannelPrefix ++ "fanout:room:" ++ room).toList.drop
      (fc.redisChannelPrefix ++ "fanout:room:").length) = room := by
    rw [String.toList_append, ← String.length_toList, drop_left, String.ofList_toList]
  unfold onFanout
  rw [hopen]
  dsimp only
  by_cases hself : sender = fc.gatewayId
  · rw [if_pos hself, if_pos hself]
  · rw [if_neg hself, if_neg hself, hrefresh, hroom, hafter]
    rfl

/-- **Self-echo and fanout.** A published line means nothing to its own service, and to every
    other service it means the same line. -/
theorem jobFor_line {i j : ℕ} (hnl : '\n' ∉ (E.cfg i).gatewayId.toList)
    (hchannels : (E.cfg i).channelPrefix = (E.cfg j).channelPrefix) (v : Verifier)
    (line : Broadcast) (now : ℕ) :
    E.jobFor j v ((E.cfg i).roomChannel line.room)
        (envelope (E.cfg i) ((E.cfg i).encodeBroadcast line)) now =
      if (E.cfg i).gatewayId = (E.cfg j).gatewayId then none
      else some (.remoteLine line.room line) := by
  have hchannel : (E.cfg i).roomChannel line.room =
      (E.fanout j).redisChannelPrefix ++ "fanout:room:" ++ line.room := by
    rw [Config.roomChannel, hchannels]
    rfl
  unfold jobFor
  rw [hchannel, envelope, onFanout_room (Admin.openEnvelope_eq hnl _)]
  show Option.bind (if (E.cfg i).gatewayId = (E.cfg j).gatewayId then none else _) _ = _
  split_ifs with hself
  · rfl
  · show some (Job.remoteLine line.room (E.wire.line ((E.cfg i).encodeBroadcast line))) = _
    rw [E.wire.line_encode]

end NetworkConfig

/-! ### The channel along steps -/

variable {act : Action} {verifiers : ℕ → Verifier} {inp : NetworkInput} {line : Broadcast} {j : Job}
  {is : List NetworkInput} {n m : ℕ} {stores : Stores}

namespace Cluster

variable {cfg : ℕ → Config} {c : Cluster} {inp : Input}

theorem published_of_no_action (h : ((cluster cfg).step c inp).2 = none) :
    ((cluster cfg).next c inp).stores.redis.published = c.stores.redis.published := by
  obtain hsame | ⟨room, rfl⟩ | ⟨id, rfl⟩ := stores_of_no_action h
  · rw [hsame]
  · rfl
  · rfl

/-- An action adds a message to the channel only by publishing it. -/
theorem published_of_action (h : ((cluster cfg).step c inp).2 = some act) :
    ((cluster cfg).next c inp).stores.redis.published = c.stores.redis.published ∨
      ∃ channel message, act.op = .redis (.publish channel message) ∧
        ((cluster cfg).next c inp).stores.redis.published =
          c.stores.redis.published ++ [(channel, message)] := by
  obtain ⟨x, fate, -, -, hstores⟩ := exec_of_step h
  rw [hstores]
  cases act.op with
  | redis cmd =>
    cases cmd
    case publish channel message =>
      cases fate with
      | done | unanswered => exact .inr ⟨channel, message, rfl, rfl⟩
      | lost | aborted => exact .inl rfl
    all_goals
      left
      cases fate <;> rfl
  | lock | db | send | stop => exact .inl rfl

/-- What was published stays. -/
theorem published_prefix :
    c.stores.redis.published <+: ((cluster cfg).next c inp).stores.redis.published := by
  cases hout : ((cluster cfg).step c inp).2 with
  | none => rw [published_of_no_action hout]
  | some act =>
    obtain hsame | ⟨channel, message, -, hpub⟩ := published_of_action hout
    · rw [hsame]
    · rw [hpub]
      exact prefix_append _ _

theorem distinct_next (h : c.All fun _ x => x.st.Distinct) :
    ((cluster cfg).next c inp).All fun _ x => x.st.Distinct := by
  refine all_next (fun i x y inp hx => ?_) h inp
  have hmoves := x.moves_step (cfg i) y inp
  generalize (x.step (cfg i) y inp).1 = x' at hmoves
  generalize (x.step (cfg i) y inp).2 = y' at hmoves
  cases hmoves with
  | perform k fate j o p hp => exact Instance.st_exec hx fun c _ => State.distinct_exec hx
  | _ => exact hx

end Cluster

namespace Network

variable {E : NetworkConfig} {N : Network}

/-- Everything a step can do. -/
inductive Moves (E : NetworkConfig) (N : Network) : Network → NetworkOutput → Prop
  | idle : Moves E N N .quiet
  | inside (inp : Cluster.Input) (h : ((cluster E.cfg).step N.services inp).2 = none) :
    Moves E N { N with services := (cluster E.cfg).next N.services inp } .quiet
  | acted (inp : Cluster.Input) (act : Action)
      (h : ((cluster E.cfg).step N.services inp).2 = some act) :
    Moves E N { N with services := (cluster E.cfg).next N.services inp }
      (.acted act (if N.published.length <
          ((cluster E.cfg).next N.services inp).stores.redis.published.length
        then some N.published.length else none))
  | ignored (i m now : ℕ) (channel message : String) (verifiers : ℕ → Verifier)
      (hm : N.published[m]? = some (channel, message))
      (hjob : E.jobFor i (N.verifiers i) channel message now = none) :
    Moves E N { N with verifiers := verifiers, delivered := (i, m) :: N.delivered } .quiet
  | spawned (i m now : ℕ) (channel message : String) (verifiers : ℕ → Verifier) (x : Instance)
      (j : Job) (hx : N.services.insts[i]? = some x)
      (hm : N.published[m]? = some (channel, message)) (hnew : (i, m) ∉ N.delivered)
      (hjob : E.jobFor i (N.verifiers i) channel message now = some j) :
    Moves E N
      { services := (cluster E.cfg).next N.services (.inst i (.submit j))
        verifiers := verifiers
        delivered := (i, m) :: N.delivered }
      (.spawned i m x.tasks.length)

/-- **Inversion.** A step does one of these things. -/
theorem moves_step (E : NetworkConfig) (N : Network) (inp : NetworkInput) :
    Moves E N ((network E).next N inp) ((network E).step N inp).2 := by
  show Moves E N (step E N inp).1 (step E N inp).2
  cases inp with
  | inside inp =>
    dsimp only [step]
    by_cases hout : inp.isOutside = true
    · rw [if_pos hout]
      exact .idle
    · rw [if_neg hout]
      cases hact : ((cluster E.cfg).step N.services inp).2 with
      | none => exact .inside inp hact
      | some act => exact .acted inp act hact
  | deliver i m now =>
    dsimp only [step]
    cases hx : N.services.insts[i]? with
    | none => exact .idle
    | some x =>
      cases hm : N.published[m]? with
      | none => exact .idle
      | some cm =>
        obtain ⟨channel, message⟩ := cm
        dsimp only
        by_cases hnew : (i, m) ∈ N.delivered
        · rw [if_pos hnew]
          exact .idle
        · rw [if_neg hnew]
          cases hjob : E.jobFor i (N.verifiers i) channel message now with
          | none => exact .ignored i m now channel message _ hm hjob
          | some j => exact .spawned i m now channel message _ x j hx hm hnew hjob

end Network

/-! ### What a run tells -/

namespace NetworkOutput

/-- The action that was performed. -/
def action? : NetworkOutput → Option Action
  | .acted act _ => some act
  | _ => none

/-- The message that task `k` of service `i` has published. -/
def messageOf (i k : ℕ) : NetworkOutput → Option ℕ
  | .acted act m => if act.inst = i ∧ act.task = k then m else none
  | _ => none

/-- Task `k` of service `i` has tried to publish something. -/
def publishes (i k : ℕ) : NetworkOutput → Bool
  | .acted act _ => act.op.isPublish && (act.inst = i ∧ act.task = k)
  | _ => false

/-- Something was to be published and has not reached the channel. -/
def isLost : NetworkOutput → Bool
  | .acted act none => act.op.isPublish
  | _ => false

/-- The task that was started, with its service and the message it is for. -/
def spawn? : NetworkOutput → Option (ℕ × ℕ × ℕ)
  | .spawned i m k => some (i, m, k)
  | _ => none

end NetworkOutput

namespace Network

/-- The events of a run. -/
abbrev Trace := List (Event Network NetworkInput NetworkOutput)

section

variable (E : NetworkConfig) (tr : Trace)

/-- All actions of a run. -/
def actions : List Action := tr.filterMap fun e => e.output.action?

/-- The messages that task `k` of service `i` has published. -/
def messagesOf (i k : ℕ) : List ℕ := tr.filterMap fun e => e.output.messageOf i k

/-- The tasks that were started for messages: service, message and task. -/
def spawns : List (ℕ × ℕ × ℕ) := tr.filterMap fun e => e.output.spawn?

/-- The lines that task `k` of service `i` has put into the queues of sessions. -/
def broadcasts (i k : ℕ) : List (Session × Broadcast) :=
  (Cluster.taskActs (actions tr) i k).filterMap fun act => act.op.broadcast?

/-- Task `k` of service `i` has collected the audience of a line. -/
def Collects (i k : ℕ) (line : Broadcast) : Prop :=
  ∃ act ∈ Cluster.taskActs (actions tr) i k, act.job.line? (E.cfg i) act.op = some line

/-- The line comes from task `k` of service `i`, where it has passed the hooks. -/
def Originates (i k : ℕ) (line : Broadcast) : Prop :=
  ∃ act ∈ Cluster.taskActs (actions tr) i k, act.job.isChat = true ∧
    act.job.line? (E.cfg i) act.op = some line

/-- In the section in which task `k` of service `i` collected the audience of a line, session
    `t` was to hear it. -/
def WasToHear (i k : ℕ) (line : Broadcast) (t : Session) : Prop :=
  ∃ e ∈ tr, ∃ act ∈ e.output.action?, act.inst = i ∧ act.task = k ∧
    act.job.line? (E.cfg i) act.op = some line ∧
    ∃ x ∈ e.pre.services.insts[i]?, x.st.Hears x.live line t

/-- Task `k'` of service `j` sends the line of task `k` of service `i`: it is that task, or was
    started for a message that it has published. -/
def Carries (i k j k' : ℕ) : Prop :=
  j = i ∧ k' = k ∨ ∃ m ∈ messagesOf tr i k, (j, m, k') ∈ spawns tr

/-- The task is done. -/
def Done (N : Network) (i k : ℕ) : Prop :=
  ∃ x ∈ N.services.insts[i]?, ∃ tp ∈ x.tasks[k]?, tp.2.isDone = true

/-- Whatever was published has reached the channel. -/
def Reliable : Prop := ∀ e ∈ tr, e.output.isLost = false

instance (i k : ℕ) (line : Broadcast) : Decidable (Originates E tr i k line) :=
  inferInstanceAs (Decidable (∃ _ ∈ _, _ ∧ _))

instance (i k : ℕ) (line : Broadcast) (t : Session) : Decidable (WasToHear E tr i k line t) :=
  inferInstanceAs (Decidable (∃ _ ∈ _, _))

instance (i k j k' : ℕ) : Decidable (Carries tr i k j k') :=
  inferInstanceAs (Decidable (_ ∨ ∃ _ ∈ _, _))

instance (N : Network) (i k : ℕ) : Decidable (N.Done i k) :=
  inferInstanceAs (Decidable (∃ _ ∈ _, _))

instance : Decidable (Reliable tr) := inferInstanceAs (Decidable (∀ _ ∈ _, _))

end

variable {E : NetworkConfig} {N N' : Network} {tr : Trace}
  {e : Event Network NetworkInput NetworkOutput} {x : Instance} {delivered : List (ℕ × ℕ)}

theorem actions_concat : actions (tr ++ [e]) = actions tr ++ e.output.action?.toList := by
  unfold actions
  cases h : e.output.action? <;> simp [h]

theorem actions_concat_of_none (h : e.output.action? = none) :
    actions (tr ++ [e]) = actions tr := by
  rw [actions_concat, h]
  exact append_nil _

theorem spawns_concat : spawns (tr ++ [e]) = spawns tr ++ e.output.spawn?.toList := by
  unfold spawns
  cases h : e.output.spawn? <;> simp [h]

/-! ### Invariants of runs -/

/-- The services are watched, and their rooms list nobody twice. -/
structure Kept (E : NetworkConfig) (n : ℕ) (tr : Trace) (N : Network) : Prop where
  length : N.services.insts.length = n
  distinct : N.services.All fun _ x => x.st.Distinct
  watched : N.services.Watched E.cfg (actions tr)

theorem submit_no_action {cfg : ℕ → Config} {c : Cluster} {i : ℕ} :
    ((cluster cfg).step c (.inst i (.submit j))).2 = none := by
  cases hx : c.insts[i]? with
  | none => rw [step_inst_none hx]
  | some x =>
    rw [step_inst hx]
    rfl

theorem kept_next (h : Kept E n tr N) (inp : NetworkInput) :
    Kept E n (tr ++ [⟨N, inp, ((network E).step N inp).2⟩]) ((network E).next N inp) := by
  have hmoves := moves_step E N inp
  generalize (network E).next N inp = N' at hmoves
  generalize ((network E).step N inp).2 = out at hmoves
  have hlen : ∀ inp, ((cluster E.cfg).next N.services inp).insts.length = n :=
    fun inp => length_next.trans h.length
  cases hmoves with
  | idle | ignored =>
    refine ⟨h.length, h.distinct, ?_⟩
    rw [actions_concat_of_none rfl]
    exact h.watched
  | inside inp hnone =>
    refine ⟨hlen inp, distinct_next h.distinct, ?_⟩
    rw [actions_concat_of_none rfl]
    exact h.watched.next_of_no_action hnone
  | acted inp act hact =>
    refine ⟨hlen inp, distinct_next h.distinct, ?_⟩
    rw [actions_concat]
    exact h.watched.next_of_action hact
  | spawned i m now channel message verifiers x j hx hm hnew hjob =>
    refine ⟨hlen _, distinct_next h.distinct, ?_⟩
    rw [actions_concat_of_none rfl]
    exact h.watched.next_of_no_action submit_no_action

theorem kept_run (E : NetworkConfig) (n : ℕ) (stores : Stores) (verifiers : ℕ → Verifier)
    (is : List NetworkInput) :
    Kept E n ((network E).trace (fresh n stores verifiers) is)
      ((network E).run (fresh n stores verifiers) is) := by
  have hfresh : Kept E n [] (fresh n stores verifiers) :=
    ⟨length_replicate, all_fresh (fun _ _ => nodup_nil) n stores, watched_fresh E.cfg n stores⟩
  exact (network E).trace_invariant (Kept E n) (fun _ _ inp h => kept_next h inp) hfresh is

/-- The job for a message belongs to no session. -/
theorem maySubmit_of_jobFor {i now : ℕ} {v : Verifier} {channel message : String}
    (h : E.jobFor i v channel message now = some j) (x : Instance) : x.maySubmit j = true := by
  obtain ⟨a, -, hj⟩ := Option.bind_eq_some_iff.mp h
  cases a with
  | setting name value => cases hj
  | _ =>
    obtain rfl := Option.some.inj hj
    rfl

theorem insts_submit {i : ℕ} (hx : N.services.insts[i]? = some x) (hj : x.maySubmit j = true) :
    ((cluster E.cfg).next N.services (.inst i (.submit j))).insts[i]? =
      some (x.enqueue (E.cfg i) j) := by
  rw [next_inst hx]
  rw [List.getElem?_set_self (List.getElem?_eq_some_iff.mp hx).1, Instance.step,
    if_pos (show x.allows (.submit j) = true from hj)]

/-- Messages and the tasks that were started for them. -/
structure Routed (E : NetworkConfig) (tr : Trace) (N : Network) : Prop where
  published : ∀ e ∈ tr, ∀ act m, e.output = .acted act (some m) → ∃ channel message,
    act.op = .redis (.publish channel message) ∧ N.published[m]? = some (channel, message)
  spawned : ∀ j m k, (j, m, k) ∈ spawns tr → (j, m) ∈ N.delivered ∧
    ∃ v channel message now job x p, N.published[m]? = some (channel, message) ∧
      E.jobFor j v channel message now = some job ∧ N.services.insts[j]? = some x ∧
      x.tasks[k]? = some (job, p)
  unique : ∀ j m k k', (j, m, k) ∈ spawns tr → (j, m, k') ∈ spawns tr → k = k'
  delivered : ∀ j m, (j, m) ∈ N.delivered → ∃ v channel message now,
    N.published[m]? = some (channel, message) ∧
    ∀ job, E.jobFor j v channel message now = some job → ∃ k, (j, m, k) ∈ spawns tr

theorem routed_fresh (E : NetworkConfig) (n : ℕ) (stores : Stores) (verifiers : ℕ → Verifier) :
    Routed E [] (fresh n stores verifiers) where
  published := fun _ h => absurd h not_mem_nil
  spawned := fun _ _ _ h => absurd h not_mem_nil
  unique := fun _ _ _ _ h => absurd h not_mem_nil
  delivered := fun _ _ h => absurd h not_mem_nil

/-- What was published stays where it is, and tasks keep their tags. -/
structure Extends (N N' : Network) : Prop where
  published : N.published <+: N'.published
  tags : ∀ (j k : ℕ) (x : Instance) (job : Job) (p : Handler Unit),
    N.services.insts[j]? = some x → x.tasks[k]? = some (job, p) →
      ∃ x' p', N'.services.insts[j]? = some x' ∧ x'.tasks[k]? = some (job, p')

theorem Extends.message (h : N.Extends N') {cm : String × String} (hm : N.published[m]? = some cm) :
    N'.published[m]? = some cm := by
  obtain ⟨rest, hrest⟩ := h.published
  rw [← hrest, List.getElem?_append_left (List.getElem?_eq_some_iff.mp hm).1]
  exact hm

/-- One more event: a message that it gives is in the channel, a task that it starts is the first
    one for its message. -/
theorem Routed.concat (h : Routed E tr N) (hext : N.Extends N') {out : NetworkOutput}
    (hout : ∀ act m, out = .acted act (some m) → ∃ channel message,
      act.op = .redis (.publish channel message) ∧ N'.published[m]? = some (channel, message))
    (hspawn : ∀ j m k, out.spawn? = some (j, m, k) → (j, m) ∉ N.delivered ∧
      (j, m) ∈ N'.delivered ∧ ∃ v channel message now job x p,
        N'.published[m]? = some (channel, message) ∧ E.jobFor j v channel message now = some job ∧
        N'.services.insts[j]? = some x ∧ x.tasks[k]? = some (job, p))
    (hold : N.delivered ⊆ N'.delivered) (hnew : ∀ j m, (j, m) ∈ N'.delivered →
      (j, m) ∈ N.delivered ∨ ∃ v channel message now, N'.published[m]? = some (channel, message) ∧
        ∀ job, E.jobFor j v channel message now = some job → ∃ k, out.spawn? = some (j, m, k)) :
    Routed E (tr ++ [⟨N, inp, out⟩]) N' := by
  have hmem : ∀ {j m k}, (j, m, k) ∈ spawns (tr ++ [⟨N, inp, out⟩]) ↔
      (j, m, k) ∈ spawns tr ∨ out.spawn? = some (j, m, k) := by
    intro j m k
    rw [spawns_concat, mem_append, Option.mem_toList]
  refine ⟨?_, ?_, ?_, ?_⟩
  · intro e he act m hact
    rcases mem_append.mp he with he | he
    · obtain ⟨channel, message, hop, hm⟩ := h.published e he act m hact
      exact ⟨channel, message, hop, hext.message hm⟩
    · rw [mem_singleton.mp he] at hact
      exact hout act m hact
  · intro j m k hk
    obtain hk | hk := hmem.mp hk
    · obtain ⟨hd, v, channel, message, now, job, x, p, hm, hjob, hx, hp⟩ := h.spawned j m k hk
      obtain ⟨x', p', hx', hp'⟩ := hext.tags j k x job p hx hp
      exact ⟨hold hd, v, channel, message, now, job, x', p', hext.message hm, hjob, hx', hp'⟩
    · exact (hspawn j m k hk).2
  · intro j m k k' hk hk'
    obtain hk | hk := hmem.mp hk <;> obtain hk' | hk' := hmem.mp hk'
    · exact h.unique j m k k' hk hk'
    · exact absurd (h.spawned j m k hk).1 (hspawn j m k' hk').1
    · exact absurd (h.spawned j m k' hk').1 (hspawn j m k hk).1
    · exact congrArg (·.2.2) (Option.mem_unique hk hk')
  · intro j m hd
    obtain hd | ⟨v, channel, message, now, hm, hjob⟩ := hnew j m hd
    · obtain ⟨v, channel, message, now, hm, hjob⟩ := h.delivered j m hd
      refine ⟨v, channel, message, now, hext.message hm, fun job hsome => ?_⟩
      obtain ⟨k, hk⟩ := hjob job hsome
      exact ⟨k, hmem.mpr (.inl hk)⟩
    · refine ⟨v, channel, message, now, hm, fun job hsome => ?_⟩
      obtain ⟨k, hk⟩ := hjob job hsome
      exact ⟨k, hmem.mpr (.inr hk)⟩

theorem extends_outside : N.Extends ⟨N.services, verifiers, delivered⟩ :=
  ⟨prefix_refl _, fun _ _ x _ p hx hp => ⟨x, p, hx, hp⟩⟩

theorem extends_inside {inp : Cluster.Input} :
    N.Extends ⟨(cluster E.cfg).next N.services inp, verifiers, delivered⟩ :=
  ⟨Cluster.published_prefix, fun _ _ _ _ _ hx hp => tag_of_next hx hp⟩

theorem routed_next (h : Routed E tr N) (inp : NetworkInput) :
    Routed E (tr ++ [⟨N, inp, ((network E).step N inp).2⟩]) ((network E).next N inp) := by
  have hmoves := moves_step E N inp
  generalize (network E).next N inp = N' at hmoves
  generalize ((network E).step N inp).2 = out at hmoves
  cases hmoves with
  | idle =>
    exact h.concat extends_outside (fun _ _ h => nomatch h) (fun _ _ _ h => nomatch h)
      (List.Subset.refl _) fun _ _ hd => .inl hd
  | inside inp hnone =>
    exact h.concat extends_inside (fun _ _ h => nomatch h) (fun _ _ _ h => nomatch h)
      (List.Subset.refl _) fun _ _ hd => .inl hd
  | acted inp act hact =>
    refine h.concat extends_inside (fun act' m hout => ?_) (fun _ _ _ h => nomatch h)
      (List.Subset.refl _) fun _ _ hd => .inl hd
    obtain ⟨rfl, hm⟩ := NetworkOutput.acted.inj hout
    obtain ⟨hlt, hm⟩ := Option.ite_none_right_eq_some.mp hm
    obtain rfl := Option.some.inj hm
    obtain hpub | ⟨channel, message, hop, hpub⟩ := published_of_action hact
    · rw [hpub] at hlt
      exact absurd hlt (lt_irrefl _)
    · -- the message is the last one of the channel
      refine ⟨channel, message, hop, ?_⟩
      show ((cluster E.cfg).next N.services inp).stores.redis.published[N.published.length]? = _
      rw [hpub]
      exact List.getElem?_concat_length
  | ignored i m now channel message verifiers hm hjob =>
    refine h.concat extends_outside (fun _ _ h => nomatch h) (fun _ _ _ h => nomatch h)
      (subset_cons_self _ _) fun j' m' hd => ?_
    rcases mem_cons.mp hd with heq | hd
    · cases heq
      exact .inr ⟨N.verifiers i, channel, message, now, hm, fun job hsome =>
        nomatch hjob.symm.trans hsome⟩
    · exact .inl hd
  | spawned i m now channel message verifiers x j hx hm hnew hjob =>
    have hext : N.Extends ⟨(cluster E.cfg).next N.services (.inst i (.submit j)), verifiers,
      (i, m) :: N.delivered⟩ := extends_inside
    refine h.concat hext (fun _ _ h => nomatch h) ?_ (subset_cons_self _ _) fun j' m' hd => ?_
    · rintro _ _ _ ⟨⟩
      exact ⟨hnew, mem_cons_self, N.verifiers i, channel, message, now, j, _, _,
        hext.message hm, hjob, insts_submit hx (maySubmit_of_jobFor hjob x),
        List.getElem?_concat_length⟩
    · rcases mem_cons.mp hd with heq | hd
      · cases heq
        exact .inr ⟨N.verifiers i, channel, message, now, hext.message hm, fun _ _ => ⟨_, rfl⟩⟩
      · exact .inl hd

theorem routed_run :
    Routed E ((network E).trace (fresh n stores verifiers) is)
      ((network E).run (fresh n stores verifiers) is) :=
  (network E).trace_invariant (Routed E) (fun _ _ inp h => routed_next h inp)
    (routed_fresh E n stores verifiers) is

/-! ### What the tasks of a line do -/

theorem mem_actions : act ∈ actions tr ↔ ∃ e ∈ tr, e.output.action? = some act :=
  mem_filterMap

theorem mem_messagesOf {i k : ℕ} : m ∈ messagesOf tr i k ↔
    ∃ e ∈ tr, ∃ act, e.output = .acted act (some m) ∧ act.inst = i ∧ act.task = k := by
  unfold messagesOf
  rw [mem_filterMap]
  refine exists_congr fun e => and_congr_right fun _ => ?_
  cases e.output with
  | acted act message => simp [NetworkOutput.messageOf]; tauto
  | _ => simp [NetworkOutput.messageOf]

theorem length_filter_isPublish (i k : ℕ) :
    ((Cluster.taskActs (actions tr) i k).filter fun act => act.op.isPublish).length =
      tr.countP fun e => e.output.publishes i k := by
  rw [← countP_eq_length_filter, Cluster.taskActs, countP_filter, actions, countP_filterMap]
  refine countP_congr fun e _ => ?_
  cases e.output <;> simp [NetworkOutput.action?, NetworkOutput.publishes]

theorem length_messagesOf (i k : ℕ) : (messagesOf tr i k).length =
    tr.countP fun e => (e.output.messageOf i k).isSome := length_filterMap_eq_countP

/-- A task has no more messages than operations that publish. -/
theorem Routed.length_messagesOf_le (h : Routed E tr N) (i k : ℕ) : (messagesOf tr i k).length ≤
    ((Cluster.taskActs (actions tr) i k).filter fun act => act.op.isPublish).length := by
  rw [length_messagesOf, length_filter_isPublish]
  refine countP_mono_left fun e he hsome => ?_
  obtain ⟨m, hm⟩ := Option.isSome_iff_exists.mp hsome
  cases hout : e.output with
  | quiet | spawned =>
    rw [hout] at hm
    cases hm
  | acted act message =>
    rw [hout] at hm
    obtain ⟨hown, rfl⟩ := Option.ite_none_right_eq_some.mp hm
    obtain ⟨channel, text, hop, -⟩ := h.published e he act m hout
    simp [NetworkOutput.publishes, hown, hop, Op.isPublish]

theorem Reliable.length_le_messagesOf (h : Reliable tr) (i k : ℕ) :
    ((Cluster.taskActs (actions tr) i k).filter fun act => act.op.isPublish).length ≤
      (messagesOf tr i k).length := by
  rw [length_messagesOf, length_filter_isPublish]
  refine countP_mono_left fun e he hpub => ?_
  cases hout : e.output with
  | quiet | spawned =>
    rw [hout] at hpub
    cases hpub
  | acted act message =>
    rw [hout] at hpub
    obtain ⟨hop, hown⟩ := Bool.and_eq_true_iff.mp hpub
    cases message with
    | none =>
      have hlost := h e he
      rw [hout] at hlost
      exact absurd (hlost.symm.trans hop) Bool.false_ne_true
    | some m => simp [NetworkOutput.messageOf, of_decide_eq_true hown]

/-- What the section did that collected an audience. -/
theorem audience_of_step (hact : ((network E).step N inp).2.action? = some act)
    (hline : act.job.line? (E.cfg act.inst) act.op = some line) :
    ∃ x room sender, N.services.insts[act.inst]? = some x ∧ (∀ v ∈ sender, v = line.sender) ∧
      (act.job.isChat = true ∧ room = line.room ∨ act.job = .remoteLine room line) ∧
      act.audience = if (x.st.roomTargets x.live room sender).2 = [] then act.job.echo
        else (x.st.roomTargets x.live room sender).2 := by
  have hmoves := moves_step E N inp
  generalize (network E).next N inp = N' at hmoves
  generalize ((network E).step N inp).2 = out at hmoves hact
  cases hmoves with
  | acted inp act' hstep =>
    obtain rfl := Option.some.inj hact
    obtain ⟨x, fate, hx, hans, -⟩ := exec_of_step hstep
    obtain ⟨room, sender, hop, hsender, hjob⟩ := Job.line?_eq_some hline
    refine ⟨x, room, sender, hx, hsender, hjob, ?_⟩
    obtain ⟨i, k, j, o, a⟩ := act'
    obtain rfl : o = _ := hop
    have ha : a = (x.st.roomTargets x.live room sender).2 := hans
    show (if a = [] then j.echo else a) = _
    rw [ha]
  | _ => cases hact

/-- Nobody is in an audience twice. -/
theorem nodup_audience (hact : act ∈ actions ((network E).trace (fresh n stores verifiers) is))
    (hline : act.job.line? (E.cfg act.inst) act.op = some line) : act.audience.Nodup := by
  obtain ⟨e, he, hout⟩ := mem_actions.mp hact
  obtain ⟨before, -, -, hpre, hstep⟩ := (network E).mem_trace.mp he
  rw [hstep] at hout
  obtain ⟨x, room, sender, hx, -, -, haudience⟩ := audience_of_step hout hline
  have hdistinct : x.st.Distinct := by
    have hkept := kept_run E n stores verifiers before
    rw [← hpre] at hkept
    exact hkept.distinct act.inst x hx
  have hecho : act.job.echo.Nodup := by
    cases act.job <;> simp [Job.echo]
  rw [haudience]
  split_ifs
  · exact hecho
  · exact State.nodup_roomTargets hdistinct x.live room sender

/-- Whoever was to hear a line is in its audience. -/
theorem mem_audience {t : Session} (hact : ((network E).step N inp).2.action? = some act)
    (hline : act.job.line? (E.cfg act.inst) act.op = some line)
    (hjob : act.job.isChat = true ∨ act.job = .remoteLine line.room line)
    (hx : N.services.insts[act.inst]? = some x) (hears : x.st.Hears x.live line t) :
    t ∈ act.audience := by
  obtain ⟨x', room, sender, hx', hsender, hcase, haudience⟩ := audience_of_step hact hline
  obtain rfl := Option.mem_unique hx hx'
  have hroom : room = line.room := by
    obtain ⟨-, hroom⟩ | hremote := hcase
    · exact hroom
    · rcases hjob with hchat | hjob
      · rw [hremote] at hchat
        cases hchat
      · exact (Job.remoteLine.inj (hremote.symm.trans hjob)).1
  subst hroom
  have hmem := State.mem_roomTargets hears hsender
  rw [haudience, if_neg (ne_nil_of_mem hmem)]
  exact hmem

section Tasks

variable {n i k : ℕ} {line : Broadcast} (h : Kept E n tr N)
include h

theorem Kept.plan (hact : act ∈ Cluster.taskActs (actions tr) i k)
    (hline : act.job.line? (E.cfg i) act.op = some line) :
    (Cluster.book E.cfg (actions tr) i k).plan = some (line, act.audience) :=
  (h.watched.tallies i k).collected act hact line hline

/-- A task that has collected an audience, or that passes on a line, sends nothing twice. -/
theorem Kept.nodup_broadcasts
    (haudience : ∀ act ∈ actions tr, ∀ line,
      act.job.line? (E.cfg act.inst) act.op = some line → act.audience.Nodup)
    (htask : Collects E tr i k line ∨
      ∀ act ∈ Cluster.taskActs (actions tr) i k, act.job.isRemoteLine = true) :
    (broadcasts tr i k).Nodup := by
  have htallies := h.watched.tallies i k
  rw [broadcasts, ← htallies.sent]
  cases hplan : (Cluster.book E.cfg (actions tr) i k).plan with
  | none =>
    rcases htask with ⟨act, hact, hline⟩ | hremote
    · exact absurd (hplan.symm.trans (h.plan hact hline)) (Option.some_ne_none _).symm
    · rw [htallies.silent hplan hremote]
      exact nodup_nil
  | some plan =>
    obtain ⟨act, hact, hline, hts⟩ := htallies.planned plan.1 plan.2 hplan
    obtain ⟨hmem, rfl, rfl⟩ := mem_taskActs.mp hact
    have hnodup : plan.2.Nodup := hts ▸ haudience act hmem plan.1 hline
    obtain ⟨hsent, -, -⟩ := htallies.orderly plan.1 plan.2 hplan
    exact .of_map Prod.fst (hnodup.sublist hsent.sublist)

/-- A task that is done has sent its line to the whole audience. -/
theorem Kept.mem_broadcasts (hact : act ∈ Cluster.taskActs (actions tr) i k)
    (hline : act.job.line? (E.cfg i) act.op = some line) (hdone : N.Done i k) {t : Session}
    (ht : t ∈ act.audience) : (t, line) ∈ broadcasts tr i k := by
  have htallies := h.watched.tallies i k
  have hplan := h.plan hact hline
  obtain ⟨x, hx, tp, htp, hret⟩ := hdone
  obtain ⟨hlen, -⟩ := (h.watched.safe i x hx).done htp hret |>.1 line act.audience hplan
  obtain ⟨hsent, hall, -⟩ := htallies.orderly line act.audience hplan
  have heq := hsent.eq_of_length (by rw [length_map, hlen])
  rw [← heq] at ht
  obtain ⟨⟨t', line'⟩, hmem, rfl⟩ := mem_map.mp ht
  obtain rfl : line' = line := hall _ hmem
  rw [broadcasts, ← htallies.sent]
  exact hmem

/-- The actions of a task have its job. -/
theorem Kept.job_eq (hact : act ∈ Cluster.taskActs (actions tr) i k) {job : Job} {p : Handler Unit}
    (hx : N.services.insts[i]? = some x) (hp : x.tasks[k]? = some (job, p)) :
    act.job = job := by
  obtain ⟨hmem, rfl, rfl⟩ := mem_taskActs.mp hact
  obtain ⟨x', p', hx', hp'⟩ := h.watched.tagged act hmem
  obtain rfl := Option.mem_unique hx hx'
  exact (Prod.mk.inj (Option.mem_unique hp' hp)).1

variable (horigin : Originates E tr i k line)
include horigin

theorem Kept.lt_of_originates : i < n := by
  obtain ⟨act, hact, -, -⟩ := horigin
  obtain ⟨hmem, rfl, rfl⟩ := mem_taskActs.mp hact
  obtain ⟨x, p, hx, -⟩ := h.watched.tagged act hmem
  rw [← h.length]
  exact (List.getElem?_eq_some_iff.mp hx).1

theorem Kept.isChat (hact : act ∈ Cluster.taskActs (actions tr) i k) : act.job.isChat = true := by
  obtain ⟨act', hact', hchat, -⟩ := horigin
  obtain ⟨hmem, rfl, rfl⟩ := mem_taskActs.mp hact'
  obtain ⟨x, p, hx, hp⟩ := h.watched.tagged act' hmem
  rw [h.job_eq hact hx hp]
  exact hchat

/-- A task that is done has published its line. -/
theorem Kept.exists_message (hreliable : Reliable tr)
    (hredis : (E.cfg i).hasRedis = true) (hpubsub : (E.cfg i).pubsubEnabled = true)
    (hdone : N.Done i k) : ∃ m, m ∈ messagesOf tr i k := by
  have hchat : ∀ act ∈ Cluster.taskActs (actions tr) i k, act.job.isChat = true :=
    fun _ => h.isChat horigin
  obtain ⟨act, hact, -, hline⟩ := horigin
  obtain ⟨x, hx, ⟨job, p⟩, htp, hret⟩ := hdone
  have hjob : job.isChat = true := h.job_eq hact hx htp ▸ hchat act hact
  obtain ⟨-, hpublished⟩ :=
    (h.watched.safe i x hx).done htp hret |>.1 line act.audience (h.plan hact hline)
  have hone := hpublished hjob hredis hpubsub
  rw [(h.watched.tallies i k).published] at hone
  have hlen := hreliable.length_le_messagesOf i k
  exact exists_mem_of_length_pos (by omega)

variable (hrouted : Routed E tr N)
include hrouted

/-- What is published for a line is the line. -/
theorem Kept.message_of_line (hm : m ∈ messagesOf tr i k) :
    N.published[m]? = some ((E.cfg i).roomChannel line.room,
      envelope (E.cfg i) ((E.cfg i).encodeBroadcast line)) := by
  obtain ⟨act, hact, -, hline⟩ := horigin
  obtain ⟨e, he, act', hout, hown⟩ := mem_messagesOf.mp hm
  obtain ⟨channel, message, hop, hpublished⟩ := hrouted.published e he act' m hout
  have hact' : act' ∈ Cluster.taskActs (actions tr) i k :=
    mem_taskActs.mpr ⟨mem_actions.mpr ⟨e, he, by rw [hout]; rfl⟩, hown⟩
  have hplan := h.plan hact hline
  obtain ⟨rfl, rfl⟩ :=
    (h.watched.tallies i k).channel line act.audience hplan act' hact' channel message hop
  exact hpublished

/-- A line is published once at most. -/
theorem Kept.eq_of_mem_messagesOf {m' : ℕ} (hm : m ∈ messagesOf tr i k)
    (hm' : m' ∈ messagesOf tr i k) : m = m' := by
  obtain ⟨act, hact, -, hline⟩ := horigin
  have htallies := h.watched.tallies i k
  have hle : (messagesOf tr i k).length ≤ 1 := by
    obtain ⟨-, -, hpublished⟩ := htallies.orderly line act.audience (h.plan hact hline)
    rw [htallies.published] at hpublished
    exact (hrouted.length_messagesOf_le i k).trans hpublished
  match hlist : messagesOf tr i k, hle with
  | [], _ => simp [hlist] at hm
  | [m''], _ =>
    rw [hlist, mem_singleton] at hm hm'
    exact hm.trans hm'.symm

variable (hE : E.Proper n)
include hE

/-- A task that was started for a line is at another service, and passes on that line. -/
theorem Kept.job_of_spawn {j k' : ℕ} (hm : m ∈ messagesOf tr i k)
    (hspawn : (j, m, k') ∈ spawns tr) :
    j ≠ i ∧ ∃ x p, N.services.insts[j]? = some x ∧
      x.tasks[k']? = some (.remoteLine line.room line, p) := by
  obtain ⟨-, v, channel, message, now, job, x, p, hpublished, hjob, hx, hp⟩ :=
    hrouted.spawned j m k' hspawn
  have hi := h.lt_of_originates horigin
  have hj : j < n := h.length ▸ (List.getElem?_eq_some_iff.mp hx).1
  obtain ⟨rfl, rfl⟩ := Prod.mk.inj
    (Option.mem_unique hpublished (h.message_of_line horigin hrouted hm))
  rw [NetworkConfig.jobFor_line (hE.newline i hi) (hE.channels i hi j hj)] at hjob
  obtain ⟨hself, hjob⟩ := Option.ite_none_left_eq_some.mp hjob
  obtain rfl := Option.some.inj hjob
  exact ⟨fun heq => hself (by rw [heq]), x, p, hx, hp⟩

/-- The job of a task that carries a line. -/
theorem Kept.job_of_carries {j k' : ℕ} (hcarries : Carries tr i k j k')
    (hact : act ∈ Cluster.taskActs (actions tr) j k') :
    act.job.isChat = true ∨ act.job = .remoteLine line.room line := by
  obtain ⟨rfl, rfl⟩ | ⟨m, hm, hspawn⟩ := hcarries
  · exact .inl (h.isChat horigin hact)
  · obtain ⟨-, x, p, hx, hp⟩ := h.job_of_spawn horigin hrouted hE hm hspawn
    exact .inr (h.job_eq hact hx hp)

/-- Each service has one task at most that carries a line. -/
theorem Kept.carries_unique {j k' k'' : ℕ} (h' : Carries tr i k j k')
    (h'' : Carries tr i k j k'') : k' = k'' := by
  obtain ⟨rfl, rfl⟩ | ⟨m, hm, hspawn⟩ := h' <;> obtain ⟨hj, rfl⟩ | ⟨m', hm', hspawn'⟩ := h''
  · rfl
  · exact absurd rfl (h.job_of_spawn horigin hrouted hE hm' hspawn').1
  · exact absurd hj (h.job_of_spawn horigin hrouted hE hm hspawn).1
  · obtain rfl := h.eq_of_mem_messagesOf horigin hrouted hm hm'
    exact hrouted.unique j m k' k'' hspawn hspawn'

/-- A service that has heard of a line has a task that carries it. -/
theorem Kept.carries_of_delivered {j : ℕ} (hm : m ∈ messagesOf tr i k) (hj : j < n) (hne : j ≠ i)
    (hdelivered : (j, m) ∈ N.delivered) :
    ∃ k', Carries tr i k j k' ∧ (N.Done j k' → Collects E tr j k' line) := by
  have hi := h.lt_of_originates horigin
  obtain ⟨v, channel, message, now, hpublished, hjob⟩ := hrouted.delivered j m hdelivered
  obtain ⟨rfl, rfl⟩ := Prod.mk.inj
    (Option.mem_unique hpublished (h.message_of_line horigin hrouted hm))
  have hself : (E.cfg i).gatewayId ≠ (E.cfg j).gatewayId :=
    fun heq => hne (hE.ids i hi j hj heq).symm
  obtain ⟨k', hspawn⟩ := hjob (.remoteLine line.room line) (by
    rw [NetworkConfig.jobFor_line (hE.newline i hi) (hE.channels i hi j hj), if_neg hself])
  refine ⟨k', .inr ⟨m, hm, hspawn⟩, fun hdone => ?_⟩
  -- a task that passes on a line has collected an audience when it is done
  obtain ⟨-, x, p, hx, hp⟩ := h.job_of_spawn horigin hrouted hE hm hspawn
  obtain ⟨x', hx', ⟨job, p'⟩, hp', hret⟩ := hdone
  obtain rfl := Option.mem_unique hx hx'
  obtain ⟨rfl, rfl⟩ := Prod.mk.inj (Option.mem_unique hp hp')
  have hplan := ((h.watched.safe j x hx).done hp hret).2 rfl
  obtain ⟨plan, hplan⟩ := Option.ne_none_iff_exists'.mp hplan
  obtain ⟨act, hact, hline, -⟩ := (h.watched.tallies j k').planned plan.1 plan.2 hplan
  refine ⟨act, hact, ?_⟩
  have hsame : plan.1 = line := by
    obtain ⟨room, sender, -, -, hcase⟩ := Job.line?_eq_some hline
    rw [h.job_eq hact hx hp] at hcase
    obtain ⟨hchat, -⟩ | hremote := hcase
    · cases hchat
    · exact (Job.remoteLine.inj hremote).2.symm
  rw [← hsame]
  exact hline

end Tasks

/-- **Cross-service delivery.** Consider services whose gateway ids are pairwise different and
    free of newlines, with the same channel prefix, and any run in which each message is delivered
    to a service once.  A line that has passed the hooks at its own service is carried by one task
    per service at most.  That task sends it to nobody twice, and when it is done it has sent it
    once to everyone who was to hear it when the audience was collected.  If publishing works,
    every other service that the message was delivered to has such a task. -/
theorem line_sent_once {E : NetworkConfig} {n : ℕ} (hE : E.Proper n) (stores : Stores)
    (verifiers : ℕ → Verifier) (is : List NetworkInput) {tr : Trace} {N : Network}
    (htr : tr = (network E).trace (fresh n stores verifiers) is)
    (hN : N = (network E).run (fresh n stores verifiers) is) {i k : ℕ} {line : Broadcast}
    (horigin : Originates E tr i k line) :
    (∀ j k' k'', Carries tr i k j k' → Carries tr i k j k'' → k' = k'') ∧
    (∀ j k', Carries tr i k j k' → ∀ t, (broadcasts tr j k').count (t, line) ≤ 1 ∧
      (N.Done j k' → WasToHear E tr j k' line t → (broadcasts tr j k').count (t, line) = 1)) ∧
    (Reliable tr → (E.cfg i).hasRedis = true → (E.cfg i).pubsubEnabled = true → N.Done i k →
      ∃ m ∈ messagesOf tr i k, ∀ j < n, j ≠ i → (j, m) ∈ N.delivered →
        ∃ k', Carries tr i k j k' ∧ (N.Done j k' → Collects E tr j k' line)) := by
  have hkept : Kept E n tr N := htr ▸ hN ▸ kept_run E n stores verifiers is
  have hrouted : Routed E tr N := htr ▸ hN ▸ routed_run
  refine ⟨fun j k' k'' => hkept.carries_unique horigin hrouted hE, fun j k' hcarries t => ?_, ?_⟩
  · have htask : Collects E tr j k' line ∨
        ∀ act ∈ Cluster.taskActs (actions tr) j k', act.job.isRemoteLine = true := by
      obtain ⟨rfl, rfl⟩ | ⟨m, hm, hspawn⟩ := hcarries
      · obtain ⟨act, hact, -, hline⟩ := horigin
        exact .inl ⟨act, hact, hline⟩
      · obtain ⟨-, x, p, hx, hp⟩ := hkept.job_of_spawn horigin hrouted hE hm hspawn
        exact .inr fun act hact => by rw [hkept.job_eq hact hx hp]; rfl
    have hnodup : (broadcasts tr j k').Nodup :=
      hkept.nodup_broadcasts (fun act hact _ => nodup_audience (htr ▸ hact)) htask
    refine ⟨nodup_iff_count_le_one.mp hnodup (t, line), fun hdone hhear => ?_⟩
    obtain ⟨e, he, act, hout, rfl, rfl, hline, x, hx, hears⟩ := hhear
    have hact : act ∈ Cluster.taskActs (actions tr) act.inst act.task :=
      mem_taskActs.mpr ⟨mem_actions.mpr ⟨e, he, hout⟩, rfl, rfl⟩
    have ht : t ∈ act.audience := by
      rw [htr] at he
      obtain ⟨-, -, -, -, hstep⟩ := (network E).mem_trace.mp he
      rw [hstep] at hout
      have hjob := hkept.job_of_carries horigin hrouted hE hcarries hact
      exact mem_audience hout hline hjob hx hears
    exact count_eq_one_of_mem hnodup (hkept.mem_broadcasts hact hline hdone ht)
  · intro hreliable hredis hpubsub hdone
    obtain ⟨m, hm⟩ := hkept.exists_message horigin hreliable hredis hpubsub hdone
    exact ⟨m, hm, fun j hj hne => hkept.carries_of_delivered horigin hrouted hE hm hj hne⟩

end Network

/-! ### Two services -/

/-- An encoding of texts that can be read back: the length, and the text. -/
def putText (text : String) : List Char :=
  List.replicate text.toList.length '1' ++ '0' :: text.toList

/-- Read back a text, and leave the rest. -/
def getText (cs : List Char) : String × List Char :=
  let n := (cs.takeWhile (· = '1')).length
  (String.ofList ((cs.drop (n + 1)).take n), (cs.drop (n + 1)).drop n)

theorem getText_putText (text : String) (rest : List Char) :
    getText (putText text ++ rest) = (text, rest) := by
  have hlen : ((putText text ++ rest).takeWhile (· = '1')).length = text.toList.length := by
    unfold putText
    simp
  have hdrop : (putText text ++ rest).drop (text.toList.length + 1) = text.toList ++ rest := by
    unfold putText
    rw [append_assoc, drop_append]
    simp
  unfold getText
  rw [hlen]
  dsimp only
  rw [hdrop, take_left, drop_left, String.ofList_toList]

/-- Two services with codecs of their own. -/
def NetworkConfig.sample : NetworkConfig where
  hmac := fun _ text => text
  cfg := fun i => { Config.sample with
    gatewayId := String.ofList (List.replicate (i + 1) 'g')
    encodeBroadcast := fun b => String.ofList (putText b.room ++ (putText b.sender ++
      (putText b.text ++ List.replicate b.senderSid '1'))) }
  record := fun _ => {}
  wire :=
    { line := fun body =>
        let room := getText body.toList
        let sender := getText room.2
        let text := getText sender.2
        ⟨room.1, sender.1, text.1, text.2.length⟩
      whisper := fun body => ⟨"", "", body, false⟩
      line_encode := by
        intro i b
        dsimp only
        rw [String.toList_ofList, getText_putText, getText_putText, getText_putText,
          List.length_replicate] }

/-- Alice and bob log in at two services, and alice says something. -/
def linesApart : List Cluster.Input :=
  logIn 0 0 .one "alice" ++ logIn 1 0 .two "bob" ++
  serve 0 1 30 (.chat .one "lobby" "hi" 0 .pass)

/-- Both services hear of it. -/
def aliceToBob : List NetworkInput :=
  linesApart.map .inside ++ (List.range 6).flatMap (fun m => [.deliver 0 m 0, .deliver 1 m 0]) ++
  (work 1 1 10 ++ work 1 2 10 ++ work 1 3 10).map .inside

/-- What happens, and what the two services are like in the end. -/
def aliceToBobTrace : Network.Trace :=
  (network .sample).trace (.fresh 2 {} fun _ => { secret := "" }) aliceToBob

@[inherit_doc aliceToBobTrace]
def aliceToBobEnd : Network :=
  (network .sample).run (.fresh 2 {} fun _ => { secret := "" }) aliceToBob

open Network in
/-- Alice's line goes to alice once and to bob once, and bob's service has one task for it. -/
theorem line_sent_once_aliceToBob :
    (broadcasts aliceToBobTrace 0 1).count (.one, ⟨"lobby", "alice", "hi", 1⟩) = 1 ∧
    (broadcasts aliceToBobTrace 1 2).count (.two, ⟨"lobby", "alice", "hi", 1⟩) = 1 ∧
    (∀ k', Carries aliceToBobTrace 0 1 1 k' → k' = 2) ∧
    ∃ m ∈ messagesOf aliceToBobTrace 0 1, (1, m) ∈ aliceToBobEnd.delivered →
      ∃ k', Carries aliceToBobTrace 0 1 1 k' ∧ (aliceToBobEnd.Done 1 k' →
        Collects .sample aliceToBobTrace 1 k' ⟨"lobby", "alice", "hi", 1⟩) := by
  have hE : NetworkConfig.sample.Proper 2 := ⟨by decide, by decide, by decide⟩
  have horigin : Originates .sample aliceToBobTrace 0 1 ⟨"lobby", "alice", "hi", 1⟩ := by
    decide +kernel
  obtain ⟨hunique, hsent, hpublished⟩ :=
    line_sent_once hE {} (fun _ => { secret := "" }) aliceToBob rfl rfl horigin
  have hcarries : Carries aliceToBobTrace 0 1 1 2 := by decide +kernel
  refine ⟨?_, ?_, fun k' hk' => hunique 1 k' 2 hk' hcarries, ?_⟩
  · exact (hsent 0 1 (.inl ⟨rfl, rfl⟩) .one).2 (by decide +kernel) (by decide +kernel)
  · exact (hsent 1 2 hcarries .two).2 (by decide +kernel) (by decide +kernel)
  · obtain ⟨m, hm, hdelivered⟩ := hpublished (by decide +kernel) rfl rfl (by decide +kernel)
    exact ⟨m, hm, hdelivered 1 (by decide) (by decide)⟩

end Knights.Chat
