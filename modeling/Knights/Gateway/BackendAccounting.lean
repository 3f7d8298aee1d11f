import Knights.Gateway.Backend

namespace Knights.Gateway.BackendConnection

open Knights.Lib Knights.Protocol List

/-!
# Gateway — how often a failed connection is counted

A call of `do_connect` fails in its resolve handler, in its connect handler or in the handler of the
connect timer.  Each of these records a failure, asks the budget for a retry, and either schedules
it or closes the client connection.  One call should do so once.

* `AttemptStep` — what a step can do to what is pending of one call;
* `Tally` — what the failures that were counted so far say about what is pending;
* `failure_accounting_iff` — every call is counted at most once exactly if no call both times out
  and has its connect handler fail;
* `counted_twice` — which is what the timeout itself brings about: it closes the socket, and that
  makes the pending connect fail.
-/

variable {s : BackendConnection} {i : Input} {k k' : ℕ} {stage : Stage} {tr : List Happened}
  {es : List Effect}

/-! ### The account -/

/-- What has been done outside the connection, in order. -/
def effects (tr : List Happened) : List Effect := tr.flatMap Event.output

theorem effects_snoc (tr : List Happened) (ev : Happened) :
    effects (tr ++ [ev]) = effects tr ++ ev.output := by
  unfold effects
  rw [flatMap_append, flatMap_singleton]

/-- **The account of a call**: at most one failure event, one retry taken out of the budget and one
    increment of the retry count; and the client connection is closed for want of a retry only if
    none was granted. -/
structure AccountedOnce (k : ℕ) (es : List Effect) : Prop where
  event : es.count (.failureEvent k) ≤ 1
  consumed : es.count (.budgetConsumed k) ≤ 1
  increment : es.count (.retryIncrement k) ≤ 1
  exhausted : ∀ reason, .clientClosed (some k) reason ∈ es → .budgetConsumed k ∉ es

/-! ### What a failure does -/

/-- **What a step does outside**: it is one of the three failures, or it is quiet. -/
theorem step_effects :
    (∃ stage k env, Fails s k stage i ∧ (s.step i).2 = failureEffects env stage k) ∨
      (∀ k stage, ¬Fails s k stage i) ∧ Quiet (s.step i).2 := by
  have hmoves := moves_step s i
  generalize (s.step i).1 = s' at hmoves
  generalize (s.step i).2 = es at hmoves
  cases hmoves with
  | stay hfails | goes hfails | waits hfails | ended _ hfails => exact .inr ⟨hfails, .nothing⟩
  | close hfails hquiet => exact .inr ⟨hfails, hquiet⟩
  | retry => exact .inr ⟨nofun, .nothing⟩
  | resolved => exact .inr ⟨nofun, .nothing⟩
  | connected _ hok =>
    refine .inr ⟨?_, .success _⟩
    rintro k' stage (_ | ⟨-, -, hfailed⟩)
    cases hfailed.symm.trans hok
  | failed _ hfails => exact .inl ⟨_, _, _, hfails, rfl⟩

theorem Fails.unique {stage' : Stage} (h : Fails s k stage i) (h' : Fails s k' stage' i) :
    k' = k ∧ stage' = stage := by
  cases h <;> cases h' <;> exact ⟨rfl, rfl⟩

/-- A failure is counted exactly where a handler finds it. -/
theorem counted_mem_iff : Effect.counted stage k ∈ (s.step i).2 ↔ Fails s k stage i := by
  rcases step_effects with ⟨stage', k', env, hfails, heffects⟩ | ⟨hnot, hquiet⟩
  · rw [heffects]
    have hmem : Effect.counted stage k ∈ failureEffects env stage' k' ↔
        stage = stage' ∧ k = k' := by
      unfold failureEffects
      split_ifs <;> simp
    rw [hmem]
    refine ⟨?_, fun h => ?_⟩
    · rintro ⟨rfl, rfl⟩
      exact hfails
    · exact (hfails.unique h).symm
  · refine ⟨fun h => ?_, fun h => absurd h (hnot k stage)⟩
    generalize (s.step i).2 = es at hquiet h
    cases hquiet <;> simp at h

/-! ### The effects balance -/

/-- Whatever happens for a call happens together: a failure that is counted is one event and one
    question to the budget; a retry that is granted is counted, and only one that is not closes the
    client connection. -/
structure Balanced (k : ℕ) (es : List Effect) : Prop where
  event : es.count (.failureEvent k) = es.count (.counted .resolve k) +
    es.count (.counted .connect k) + es.count (.counted .timeout k)
  asked : es.count (.failureEvent k) = es.count (.budgetConsumed k) + es.count (.budgetExhausted k)
  increment : es.count (.retryIncrement k) = es.count (.budgetConsumed k)
  exhausted : ∀ reason, .clientClosed (some k) reason ∈ es → .budgetExhausted k ∈ es

theorem Balanced.append {es' : List Effect} (h : Balanced k es) (h' : Balanced k es') :
    Balanced k (es ++ es') where
  event := by
    simp only [count_append]
    have := h.event
    have := h'.event
    omega
  asked := by
    simp only [count_append]
    have := h.asked
    have := h'.asked
    omega
  increment := by
    rw [count_append, count_append, h.increment, h'.increment]
  exhausted := by
    intro reason hmem
    rcases mem_append.mp hmem with hleft | hright
    · exact mem_append_left _ (h.exhausted reason hleft)
    · exact mem_append_right _ (h'.exhausted reason hright)

theorem balanced_failureEffects (env : Surroundings) (stage : Stage) (k' : ℕ) :
    Balanced k (failureEffects env stage k') := by
  unfold failureEffects
  by_cases hk : k' = k
  · subst hk
    split_ifs <;> cases stage <;> constructor <;> simp
  · split_ifs <;> constructor <;> simp [hk, Ne.symm hk]

theorem balanced_quiet (h : Quiet es) : Balanced k es := by
  cases h <;> constructor <;> simp

theorem balanced_step : Balanced k (s.step i).2 := by
  rcases step_effects with ⟨stage, k', env, -, heffects⟩ | ⟨-, hquiet⟩
  · rw [heffects]
    apply balanced_failureEffects
  · exact balanced_quiet hquiet

/-- **Every run balances.** -/
theorem balanced_run (s : BackendConnection) (is : List Input) (k : ℕ) :
    Balanced k (effects (machine.trace s is)) := by
  refine machine.trace_invariant (fun tr _ => Balanced k (effects tr)) ?_ ?_ is
  · intro tr s i h
    rw [effects_snoc]
    exact h.append balanced_step
  · exact balanced_quiet .nothing

/-! ### What is pending of a call -/

theorem pending_close : SamePending (s.attempt k) (s.close.attempt k) := by
  unfold close
  split
  · exact .refl _
  · exact samePending_map _ _

theorem attempts_close : s.close.attempts = s.attempts := by
  unfold close
  split <;> rfl

theorem pending_failed {env : Surroundings} :
    SamePending (s.attempt k) ((s.failed env stage k').1.attempt k) ∧
      (s.failed env stage k').1.attempts = s.attempts := by
  unfold failed
  split
  · exact ⟨.refl _, rfl⟩
  · exact ⟨pending_close, attempts_close⟩

/-- What a step can do to what is pending of one call, and which failure it can count for it. -/
inductive AttemptStep (s : BackendConnection) (i : Input) (k : ℕ) (s' : BackendConnection) :
    Prop where
  | same (h : SamePending (s.attempt k) (s'.attempt k)) (hfails : ∀ stage, ¬Fails s k stage i)
  | started (hk : k = s.attempts) (hn : k < s'.attempts)
      (h : s'.attempt k = { resolving := true }) (hfails : ∀ stage, ¬Fails s k stage i)
  | resolved (hpending : (s.attempt k).resolving = true) (h : (s'.attempt k).resolving = false)
      (hfails : ∀ stage, ¬Fails s k stage i)
  | ends (stage : Stage) (hpending : Pending (s.attempt k) stage)
      (h : SamePending (ended (s.attempt k) stage) (s'.attempt k))
      (hfails : ∀ stage', Fails s k stage' i → stage' = stage)

/-- What the end of a handler is to each call. -/
theorem Ended.attemptStep {c : Connecting} {s' : BackendConnection} (h : Ended s k' stage c)
    (hpending : Pending (s.attempt k') stage)
    (hfails : ∀ stage', Fails s k stage' i → k = k' ∧ stage' = stage)
    (hafter : SamePending (c.attempt k) (s'.attempt k)) : AttemptStep s i k s' := by
  have hk := (h.2 k).trans hafter
  by_cases heq : k = k'
  · subst heq
    rw [Function.update_self] at hk
    exact .ends stage hpending hk fun stage' hf => (hfails stage' hf).2
  · rw [Function.update_of_ne heq] at hk
    exact .same hk fun stage' hf => heq (hfails stage' hf).1

/-- **One step, one call**; and calls are numbered in order. -/
theorem attemptStep (s : BackendConnection) (i : Input) (k : ℕ) :
    AttemptStep s i k (s.step i).1 ∧ s.attempts ≤ (s.step i).1.attempts := by
  have hmoves := moves_step s i
  generalize (s.step i).1 = s' at hmoves
  generalize (s.step i).2 = es at hmoves
  cases hmoves with
  | stay hfails | goes hfails => exact ⟨.same (.refl _) (hfails k), le_rfl⟩
  | close hfails =>
    refine ⟨.same pending_close (hfails k), ?_⟩
    rw [attempts_close]
  | waits hfails hn h => exact ⟨.same (h k) (hfails k), hn.ge⟩
  | retry =>
    refine ⟨?_, Nat.le_succ _⟩
    by_cases hk : k = s.attempts
    · exact .started hk (Nat.lt_succ_of_le hk.le) (by rw [hk]; exact Function.update_self ..) nofun
    · refine .same ?_ nofun
      show SamePending _ (Function.update s.attempt s.attempts { resolving := true } k)
      rw [Function.update_of_ne hk]
      exact .refl _
  | @resolved k' _ c hpending hn hk' h =>
    refine ⟨?_, hn.ge⟩
    by_cases hk : k = k'
    · subst hk
      exact .resolved hpending hk' nofun
    · exact .same (h k hk) nofun
  | connected hpending hok h =>
    refine ⟨h.attemptStep hpending ?_ (.refl _), h.1.ge⟩
    rintro stage (_ | ⟨-, -, hfailed⟩)
    cases hfailed.symm.trans hok
  | ended hpending hfails h =>
    exact ⟨h.attemptStep hpending (fun stage hf => absurd hf (hfails k stage)) (.refl _), h.1.ge⟩
  | failed hpending hfails h =>
    refine ⟨h.attemptStep hpending (fun _ => hfails.unique) pending_failed.1, ?_⟩
    rw [(pending_failed (k := k)).2]
    exact h.1.ge

/-! ### What has been counted -/

/-- What is pending of a call against the failures that were counted for it, stage by stage. -/
structure Tally (a : Attempt) (n : Stage → ℕ) : Prop where
  resolving : a.resolving = true → a.connecting = false ∧ a.wait.isSome = false ∧
    ∀ stage, n stage = 0
  connecting : a.connecting = true → n .resolve = 0 ∧ n .connect = 0
  waiting : a.wait.isSome = true → n .resolve = 0 ∧ n .timeout = 0
  resolve_connect : n .resolve + n .connect ≤ 1
  resolve_timeout : n .resolve + n .timeout ≤ 1

/-- A handler that ends may count its failure. -/
theorem Tally.ends {a a' : Attempt} {n n' : Stage → ℕ} (h : Tally a n) (hpending : Pending a stage)
    (ha : SamePending (ended a stage) a') (hle : n' stage ≤ n stage + 1)
    (hother : ∀ stage' ≠ stage, n' stage' = n stage') :
    Tally a' n' := by
  obtain ⟨hr, hc, hw⟩ := ha
  cases stage
  · constructor <;> grind [Pending, ended, Tally]
  · constructor <;> grind [Pending, ended, Tally]
  · constructor <;> grind [Pending, ended, Tally]

/-- The failures of a call that were counted. -/
def countedFor (k : ℕ) (tr : List Happened) (stage : Stage) : ℕ :=
  (effects tr).count (.counted stage k)

theorem countedFor_snoc : countedFor k (tr ++ [⟨s, i, (s.step i).2⟩]) stage =
      countedFor k tr stage + (s.step i).2.count (.counted stage k) := by
  unfold countedFor
  rw [effects_snoc, count_append]

/-- A step counts at most one failure. -/
theorem countedFor_snoc_le (tr : List Happened) (s : BackendConnection) (i : Input)
    (stage : Stage) :
    countedFor k (tr ++ [⟨s, i, (s.step i).2⟩]) stage ≤ countedFor k tr stage + 1 := by
  rw [countedFor_snoc]
  apply Nat.add_le_add_left
  rcases step_effects with ⟨stage', k', env, -, heffects⟩ | ⟨-, hquiet⟩
  · rw [heffects]
    unfold failureEffects
    split_ifs <;> simp [count_cons] <;> split <;> omega
  · generalize (s.step i).2 = es at hquiet
    cases hquiet <;> simp

/-- It counts only a failure that there is. -/
theorem countedFor_snoc_of_not (h : ¬Fails s k stage i) (tr : List Happened) :
    countedFor k (tr ++ [⟨s, i, (s.step i).2⟩]) stage = countedFor k tr stage := by
  rw [countedFor_snoc, count_eq_zero.mpr fun hmem => h (counted_mem_iff.mp hmem), Nat.add_zero]

/-- The account of all calls. -/
structure Tallied (tr : List Happened) (s : BackendConnection) : Prop where
  tally : ∀ k, Tally (s.attempt k) (countedFor k tr)
  fresh : ∀ k, s.attempts ≤ k → s.attempt k = {} ∧ ∀ stage, countedFor k tr stage = 0

/-- **One step keeps the account of a call.** -/
theorem tally_step (h : Tallied tr s) (i : Input) (k : ℕ) :
    Tally ((s.step i).1.attempt k) (countedFor k (tr ++ [⟨s, i, (s.step i).2⟩])) := by
  have hold := h.tally k
  have hle := countedFor_snoc_le (k := k) tr s i
  have hsame : (∀ stage, ¬Fails s k stage i) →
      countedFor k (tr ++ [⟨s, i, (s.step i).2⟩]) = countedFor k tr := by
    intro hfails
    ext stage
    exact countedFor_snoc_of_not (hfails stage) tr
  cases (attemptStep s i k).1 with
  | same hpending hfails =>
    rw [hsame hfails]
    obtain ⟨hr, hc, hw⟩ := hpending
    constructor
    · rw [hr, hc, hw]
      exact hold.resolving
    · rw [hc]
      exact hold.connecting
    · rw [hw]
      exact hold.waiting
    · exact hold.resolve_connect
    · exact hold.resolve_timeout
  | started hk _ ha hfails =>
    rw [hsame hfails, ha]
    have hzero := (h.fresh k hk.ge).2
    exact ⟨fun _ => ⟨rfl, rfl, hzero⟩, nofun, nofun, hold.resolve_connect, hold.resolve_timeout⟩
  | resolved hpending ha hfails =>
    rw [hsame hfails]
    obtain ⟨-, -, hzero⟩ := hold.resolving hpending
    refine ⟨fun hr => ?_, fun _ => ⟨hzero _, hzero _⟩, fun _ => ⟨hzero _, hzero _⟩,
      hold.resolve_connect, hold.resolve_timeout⟩
    cases ha.symm.trans hr
  | ends stage hpending ha hfails =>
    have hother : ∀ stage' ≠ stage,
        countedFor k (tr ++ [⟨s, i, (s.step i).2⟩]) stage' = countedFor k tr stage' :=
      fun stage' hne => countedFor_snoc_of_not (fun hf => hne (hfails stage' hf)) tr
    generalize countedFor k (tr ++ [⟨s, i, (s.step i).2⟩]) = n at hle hother
    exact hold.ends hpending ha (hle stage) hother

/-- A call that has not been made has nothing pending and nothing counted. -/
theorem fresh_step (h : Tallied tr s) (i : Input) (k : ℕ) (hk : (s.step i).1.attempts ≤ k) :
    (s.step i).1.attempt k = {} ∧
      ∀ stage, countedFor k (tr ++ [⟨s, i, (s.step i).2⟩]) stage = 0 := by
  obtain ⟨hnone, hzero⟩ := h.fresh k ((attemptStep s i k).2.trans hk)
  cases (attemptStep s i k).1 with
  | same hpending hfails =>
    rw [hnone] at hpending
    obtain ⟨hr, hc, hw⟩ := hpending
    refine ⟨?_, fun stage => ?_⟩
    · generalize (s.step i).1.attempt k = a at hr hc hw
      obtain ⟨r, c, w⟩ := a
      obtain rfl := Option.isNone_iff_eq_none.mp (Option.isSome_eq_false_iff.mp hw)
      obtain rfl : r = false := hr
      obtain rfl : c = false := hc
      rfl
    · rw [countedFor_snoc_of_not (hfails stage)]
      exact hzero stage
  | started hk' hnext =>
    omega
  | resolved hpending =>
    rw [hnone] at hpending
    cases hpending
  | ends stage hpending =>
    rw [hnone] at hpending
    cases stage <;> cases hpending

theorem tallied_run (max : ℕ) (is : List Input) :
    Tallied (machine.trace (start max) is) (machine.run (start max) is) := by
  refine machine.trace_invariant Tallied (fun tr s i h => ⟨tally_step h i, fresh_step h i⟩) ?_ is
  have hattempt : (start max).attempt = Function.update (fun _ => {}) 0 { resolving := true } :=
    rfl
  have hattempts : (start max).attempts = 1 := rfl
  refine ⟨fun k => ?_, fun k hk => ?_⟩
  · rw [hattempt]
    by_cases hk : k = 0
    · rw [hk, Function.update_self]
      exact ⟨fun _ => ⟨rfl, rfl, fun _ => rfl⟩, nofun, nofun, Nat.zero_le _, Nat.zero_le _⟩
    · rw [Function.update_of_ne hk]
      exact ⟨nofun, nofun, nofun, Nat.zero_le _, Nat.zero_le _⟩
  · rw [hattempt, Function.update_of_ne (by omega)]
    exact ⟨rfl, fun _ => rfl⟩

/-! ### Counted once -/

/-- A failure of a call was counted exactly if one of its handlers found it. -/
theorem countedFor_pos_iff {is : List Input} : 0 < countedFor k (machine.trace s is) stage ↔
      ∃ ev ∈ machine.trace s is, Fails ev.pre k stage ev.input := by
  unfold countedFor effects
  rw [count_pos_iff, mem_flatMap]
  have houtput : ∀ ev ∈ machine.trace s is, ev.output = (ev.pre.step ev.input).2 := by
    intro ev hev
    obtain ⟨-, -, -, -, hout⟩ := machine.mem_trace.mp hev
    exact hout
  constructor
  · rintro ⟨ev, hev, hmem⟩
    rw [houtput ev hev] at hmem
    exact ⟨ev, hev, counted_mem_iff.mp hmem⟩
  · rintro ⟨ev, hev, hfails⟩
    refine ⟨ev, hev, ?_⟩
    rw [houtput ev hev]
    exact counted_mem_iff.mpr hfails

/-- With one failure event there is one of everything. -/
theorem Balanced.accountedOnce (h : Balanced k es) (hevent : es.count (.failureEvent k) ≤ 1) :
    AccountedOnce k es := by
  have hasked := h.asked
  have hincrement := h.increment
  refine ⟨hevent, by omega, by omega, fun reason hclosed hconsumed => ?_⟩
  have hexhausted := count_pos_iff.mpr (h.exhausted reason hclosed)
  have hgranted := count_pos_iff.mpr hconsumed
  omega

/-- **Failure accounting, exactly.** In every run, every call of `do_connect` leads to at most one
    failure event, one retry taken out of the budget and one increment, and the client connection
    is closed for want of a retry only if the call was granted none, if and only if no call has
    both the handler of its connect timer find that the time has come and its connect handler
    fail before the connection is closed. -/
theorem failure_accounting_iff (max : ℕ) (is : List Input) :
    (∀ k, AccountedOnce k (effects (machine.trace (start max) is))) ↔
      ∀ k, ¬((∃ ev ∈ machine.trace (start max) is, Fails ev.pre k .timeout ev.input) ∧
        ∃ ev ∈ machine.trace (start max) is, Fails ev.pre k .connect ev.input) := by
  refine forall_congr' fun k => ?_
  have hbalanced := balanced_run (start max) is k
  have htally := (tallied_run max is).tally k
  have hevent : (effects (machine.trace (start max) is)).count (.failureEvent k) =
      countedFor k (machine.trace (start max) is) .resolve +
        countedFor k (machine.trace (start max) is) .connect +
        countedFor k (machine.trace (start max) is) .timeout := hbalanced.event
  rw [← countedFor_pos_iff, ← countedFor_pos_iff]
  constructor
  · rintro honce ⟨htimeout, hconnect⟩
    have := honce.event
    omega
  · intro hnot
    apply hbalanced.accountedOnce
    have hresolve := htally.resolve_connect
    have hresolve' := htally.resolve_timeout
    omega

/-- The run up to the timeout: the call waits for its connect when its time comes. -/
def timedOut : List Input :=
  [.resolveHandler 0 true {}, .connectTimerExpires 0, .connectTimerHandler 0 {}]

/-- **Counted twice.** The timeout schedules a retry and closes the socket; that makes the pending
    connect fail, which is counted again.  With budget for it, one call takes two retries; without,
    the client connection is closed although a retry was granted. -/
theorem counted_twice :
    (effects (machine.trace (start 0) (timedOut ++ [.connectHandler 0 false {}]))).count
        (.failureEvent 0) = 2 ∧
      (effects (machine.trace (start 0) (timedOut ++ [.connectHandler 0 false {}]))).count
        (.budgetConsumed 0) = 2 ∧
      (effects (machine.trace (start 0) (timedOut ++ [.connectHandler 0 false {}]))).count
        (.retryIncrement 0) = 2 ∧
      effects (machine.trace (start 0)
          (timedOut ++ [.connectHandler 0 false { budget := false }])) =
        [.counted .timeout 0, .failureEvent 0, .budgetConsumed 0, .retryIncrement 0,
          .counted .connect 0, .failureEvent 0, .budgetExhausted 0,
          .clientClosed (some 0) "connect failed"] := by
  decide +kernel

end Knights.Gateway.BackendConnection
