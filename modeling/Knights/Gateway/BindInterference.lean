import Knights.Gateway.BindSafety
import Knights.Lib.Unwinding

namespace Knights.Gateway

open Knights.Lib Knights.Protocol Knights.Rudp List Finmap UdpBindAbuseGuard

/-!
# Gateway — whether bind requests of others get in a client's way

Two limiters stand in front of a bind request: the backoff of the session that it names, and the
block of the endpoint it comes from.  The second is kept apart for every endpoint.  The first is
not: whoever names a session makes it back off, with or without its ticket.

So let `A` be the endpoints of the others, and `P` the sessions that all other endpoints ask for.
Two runs that differ only in bind requests from `A` are compared, by a relation between their
states (`UdpGateway.Alike`) that unwinds the gateway.

* `UdpGateway.bind_noninterference` — if every request from `A` that names a session of `P` is
  turned away before the session is looked at, all answers to the other endpoints are the same;
* `UdpGateway.client_refused` — otherwise a request with a wrong token, from anywhere, is enough to
  have the client's valid request refused.
-/

/-! ### The keys of endpoints -/

/-- A list is split at the last separator in one way. -/
theorem append_separator_inj {α : Type} {c : α} {l l' d d' : List α} (hd : c ∉ d) (hd' : c ∉ d')
    (h : l ++ c :: d = l' ++ c :: d') : l = l' ∧ d = d' := by
  rcases append_eq_append_iff.mp h with ⟨mid, hl, hcd⟩ | ⟨mid, hl, hcd⟩
  · cases mid with
    | nil => exact ⟨by simpa using hl.symm, (List.cons.inj hcd).2⟩
    | cons x mid =>
      rw [cons_append, List.cons.injEq] at hcd
      rw [hcd.2] at hd
      exact absurd (mem_append_right mid mem_cons_self) hd
  · cases mid with
    | nil => exact ⟨by simpa using hl, (List.cons.inj hcd).2.symm⟩
    | cons x mid =>
      rw [cons_append, List.cons.injEq] at hcd
      rw [hcd.2] at hd'
      exact absurd (mem_append_right mid mem_cons_self) hd'

/-- No two endpoints share an entry of the guard. -/
theorem endpointKey_injective : Function.Injective endpointKey := by
  intro e e' h
  have hdigits : ∀ n : ℕ, ':' ∉ Nat.toDigits 10 n := by
    intro n hn
    have hdigit := Nat.isDigit_of_mem_toDigits (by omega) (by omega) hn
    exact absurd hdigit (by decide)
  have hchars : e.address.toList ++ ':' :: Nat.toDigits 10 e.port.toNat =
      e'.address.toList ++ ':' :: Nat.toDigits 10 e'.port.toNat := by
    simpa [endpointKey, String.toList_append] using congrArg String.toList h
  obtain ⟨haddress, hport⟩ := append_separator_inj (hdigits _) (hdigits _) hchars
  have hnat := congrArg (Nat.ofDigitChars 10 · 0) hport
  simp only [Nat.ofDigitChars_ten_toDigits] at hnat
  obtain ⟨address, port⟩ := e
  obtain ⟨address', port'⟩ := e'
  obtain rfl := String.toList_inj.mp haddress
  obtain rfl := UInt16.toNat_inj.mp hnat
  rfl

/-! ### The guard, entry by entry -/

namespace UdpBindAbuseGuard

variable (guard : UdpBindAbuseGuard) (key k : String) (now : UInt64)

theorem lookup_blockState : (guard.blockState key now).1.lookup k =
    if k = key then (guard.lookup key).map fun entry => (entry.blockState now).1
    else guard.lookup k := by
  unfold blockState
  split_ifs with hk
  · subst hk
    cases hentry : guard.lookup k with
    | none => exact hentry
    | some entry => exact lookup_insert guard
  · cases guard.lookup key with
    | none => rfl
    | some entry => exact lookup_insert_of_ne guard hk

theorem lookup_recordFailure (cfg : Config) : (guard.recordFailure cfg key now).lookup k =
    if k = key then some (((guard.lookup key).getD {}).recordFailure cfg now)
    else guard.lookup k := by
  split_ifs with hk
  · subst hk
    exact lookup_insert guard
  · exact lookup_insert_of_ne guard hk

theorem lookup_recordSuccess : (guard.recordSuccess key).lookup k =
    if k = key then (guard.lookup key).map Entry.recordSuccess else guard.lookup k := by
  unfold recordSuccess
  split_ifs with hk
  · subst hk
    cases hentry : guard.lookup k with
    | none => exact hentry
    | some entry => exact lookup_insert guard
  · cases guard.lookup key with
    | none => rfl
    | some entry => exact lookup_insert_of_ne guard hk

end UdpBindAbuseGuard

/-! ### What bind requests read of a session -/

namespace SessionState

variable {st st' : SessionState} {cfg : BindConfig} {req : UdpBindTicket} {e : Endpoint}
  {now : UInt64}

/-- What bind requests read of a session. -/
def view (st : SessionState) : Bool × BindState := (st.udp.udpBound, st.bind)

/-- A bind request reads nothing else, and what it makes of that is the same. -/
theorem applyBind_of_view (h : st.view = st'.view) :
    (st.applyBind cfg req e now).1.view = (st'.applyBind cfg req e now).1.view ∧
      (st.applyBind cfg req e now).2 = (st'.applyBind cfg req e now).2 := by
  have hbound : st.udp.udpBound = st'.udp.udpBound := congrArg Prod.fst h
  have hbind : st.bind = st'.bind := congrArg Prod.snd h
  have hrefusal : st.refusal cfg req e now = st'.refusal cfg req e now := by
    unfold refusal
    rw [hbound, hbind]
  unfold applyBind
  rw [hbind, hrefusal]
  split
  · exact ⟨h, rfl⟩
  · cases st'.refusal cfg req e now with
    | none =>
      refine ⟨?_, rfl⟩
      simp only [view, accept, UdpSession.bind, hbind]
    | some r =>
      refine ⟨?_, rfl⟩
      simp only [view, applyRetryBackoff, hbound, hbind]

end SessionState

namespace UdpGateway

variable {cfg : BindConfig} {s t : UdpGateway} {sid : Bytes} {e : Endpoint} {d : Datagram}
  {now bindNow : UInt64} {req : UdpBindTicket} {order : List Bytes}

/-- What bind requests read of a session of the table. -/
def view (s : UdpGateway) (sid : Bytes) : Option (Bool × BindState) :=
  (s.sessions.lookup sid).map SessionState.view

/-- A session that is entered. -/
theorem map_view_insert (m : FMap Bytes SessionState) (sid' : Bytes) (st : SessionState) :
    ((m.insert sid' st).lookup sid).map SessionState.view =
      if sid = sid' then some st.view else (m.lookup sid).map SessionState.view := by
  split_ifs with hsid
  · rw [hsid, lookup_insert]
    rfl
  · rw [lookup_insert_of_ne m hsid]

/-- Data changes nothing that bind requests read. -/
theorem view_receiveData (order : List Bytes) :
    (s.receiveData cfg e d now order).1.view sid = s.view sid := by
  unfold receiveData
  split
  · rfl
  · cases s.route e order with
    | none =>
      dsimp only
      split <;> rfl
    | some sessionId =>
      dsimp only
      cases hst : s.sessions.lookup sessionId with
      | none => rfl
      | some st =>
        show ((s.sessions.insert sessionId _).lookup sid).map SessionState.view = _
        rw [map_view_insert]
        split_ifs with hsid
        · rw [hsid, view, hst]
          show some ((st.udp.receive cfg.udp d now).1.udpBound, st.bind) = some st.view
          rw [udpBound_receive]
          rfl
        · rfl

/-- `apply_udp_bind_request` looks at the session that the request names. -/
theorem applyUdpBindRequest_alike (h : s.view req.sessionId = t.view req.sessionId) :
    (s.applyUdpBindRequest cfg req e now).2 = (t.applyUdpBindRequest cfg req e now).2 ∧
      ∀ sid, s.view sid = t.view sid → (s.applyUdpBindRequest cfg req e now).1.view sid =
          (t.applyUdpBindRequest cfg req e now).1.view sid := by
  unfold applyUdpBindRequest
  split
  · exact ⟨rfl, fun sid hsid => hsid⟩
  · unfold view at h
    cases hs : s.sessions.lookup req.sessionId with
    | none =>
      have ht : t.sessions.lookup req.sessionId = none := by simpa [hs] using h
      rw [ht]
      exact ⟨rfl, fun sid hsid => hsid⟩
    | some st =>
      obtain ⟨st', ht, hview⟩ : ∃ st', t.sessions.lookup req.sessionId = some st' ∧
          st.view = st'.view := by
        rw [hs, Option.map_some] at h
        obtain ⟨st', ht, hst'⟩ := Option.map_eq_some_iff.mp h.symm
        exact ⟨st', ht, hst'.symm⟩
      obtain ⟨hafter, hanswer⟩ := SessionState.applyBind_of_view hview
      rw [ht]
      refine ⟨hanswer, fun sid hsid => ?_⟩
      show ((s.sessions.insert _ _).lookup sid).map SessionState.view =
        ((t.sessions.insert _ _).lookup sid).map SessionState.view
      rw [map_view_insert, map_view_insert, hafter]
      split_ifs
      · rfl
      · exact hsid

/-- It leaves the guard and the counter alone. -/
theorem guard_applyUdpBindRequest : (s.applyUdpBindRequest cfg req e now).1.guard = s.guard ∧
      (s.applyUdpBindRequest cfg req e now).1.counter = s.counter := by
  unfold applyUdpBindRequest
  split
  · exact ⟨rfl, rfl⟩
  · cases s.sessions.lookup req.sessionId <;> exact ⟨rfl, rfl⟩

/-- The entry of the endpoint after a request, the others as they were. -/
theorem guard_settle (code : UInt16) (k : String) : (s.settle cfg e now code).guard.lookup k =
      if k = endpointKey e then
        if code = 0 then
          (s.guard.lookup (endpointKey e)).map UdpBindAbuseGuard.Entry.recordSuccess
        else
          some (((s.guard.lookup (endpointKey e)).getD {}).recordFailure cfg.guard now)
      else s.guard.lookup k := by
  unfold settle
  by_cases hcode : code = 0
  · rw [if_pos hcode, if_pos hcode]
    apply lookup_recordSuccess
  · rw [if_neg hcode, if_neg hcode]
    apply lookup_recordFailure

/-- A bind request in two states: what it reads is the session that it names and the entry of its
    endpoint, and what it answers and leaves there is the same if these are. -/
theorem receiveBind_alike (hguard : s.guard.lookup (endpointKey e) = t.guard.lookup (endpointKey e))
    (hview : ∀ req, parseUdpBindReq (bindPayload d) = some req →
      s.view req.sessionId = t.view req.sessionId) :
    (s.receiveBind cfg e d now bindNow).2 = (t.receiveBind cfg e d now bindNow).2 ∧
      (s.receiveBind cfg e d now bindNow).1.guard.lookup (endpointKey e) =
        (t.receiveBind cfg e d now bindNow).1.guard.lookup (endpointKey e) ∧
      ∀ sid, s.view sid = t.view sid → (s.receiveBind cfg e d now bindNow).1.view sid =
          (t.receiveBind cfg e d now bindNow).1.view sid := by
  have hblocked : (s.guard.blockState (endpointKey e) now).2 =
      (t.guard.blockState (endpointKey e) now).2 := by
    unfold UdpBindAbuseGuard.blockState
    rw [hguard]
    cases t.guard.lookup (endpointKey e) <;> rfl
  have hentry : (s.guard.blockState (endpointKey e) now).1.lookup (endpointKey e) =
      (t.guard.blockState (endpointKey e) now).1.lookup (endpointKey e) := by
    rw [lookup_blockState, lookup_blockState, hguard]
  unfold receiveBind
  dsimp only
  rw [hblocked]
  split
  · exact ⟨rfl, hentry, fun sid hsid => hsid⟩
  · cases hparse : parseUdpBindReq (bindPayload d) with
    | none =>
      refine ⟨rfl, ?_, fun sid hsid => hsid⟩
      rw [guard_settle, guard_settle, if_pos rfl, if_pos rfl]
      rw [hentry]
    | some req =>
      obtain ⟨hanswer, hviews⟩ := @applyUdpBindRequest_alike cfg
        { s with guard := (s.guard.blockState (endpointKey e) now).1 }
        { t with guard := (t.guard.blockState (endpointKey e) now).1 } e bindNow req
        (hview req hparse)
      dsimp only
      rw [hanswer]
      refine ⟨rfl, ?_, hviews⟩
      rw [guard_settle, guard_settle, if_pos rfl, if_pos rfl, guard_applyUdpBindRequest.1,
        guard_applyUdpBindRequest.1]
      rw [hentry]

/-- A bind request creates no session. -/
theorem counter_receiveBind : (s.receiveBind cfg e d now bindNow).1.counter = s.counter := by
  unfold receiveBind
  dsimp only
  split
  · rfl
  · cases parseUdpBindReq (bindPayload d) with
    | none => rfl
    | some req => exact guard_applyUdpBindRequest.2

/-- It leaves the entries of other endpoints alone. -/
theorem guard_receiveBind_of_ne {k : String} (hk : k ≠ endpointKey e) :
    (s.receiveBind cfg e d now bindNow).1.guard.lookup k = s.guard.lookup k := by
  have hentry : (s.guard.blockState (endpointKey e) now).1.lookup k = s.guard.lookup k := by
    rw [lookup_blockState, if_neg hk]
  unfold receiveBind
  dsimp only
  split
  · exact hentry
  · cases parseUdpBindReq (bindPayload d) with
    | none =>
      rw [guard_settle, if_neg hk]
      exact hentry
    | some req =>
      rw [guard_settle, if_neg hk, guard_applyUdpBindRequest.1]
      exact hentry

/-! ### Requests that are turned away -/

/-- The bind request of an input: its endpoint, the ticket it presents and the two times. -/
def Input.request : Input → Option (Endpoint × UdpBindTicket × UInt64 × UInt64)
  | .datagram e d now bindNow _ => (requestOf d).map fun req => (e, req, now, bindNow)
  | _ => none

/-- The request does not get as far as its session: its endpoint is blocked, it is incomplete, or
    the session is backing off (or unknown). -/
def TurnedAway (s : UdpGateway) (e : Endpoint) (req : UdpBindTicket) (now bindNow : UInt64) :
    Prop :=
  (s.guard.blockState (endpointKey e) now).2 = true ∨ req.sessionId = [] ∨ req.token = [] ∨
    ∀ st ∈ s.sessions.lookup req.sessionId, bindNow < st.bind.udpBindRetryAfterUnixMs

instance (s : UdpGateway) (e : Endpoint) (req : UdpBindTicket) (now bindNow : UInt64) :
    Decidable (s.TurnedAway e req now bindNow) :=
  inferInstanceAs (Decidable (_ ∨ _ ∨ _ ∨ _))

theorem view_applyUdpBindRequest_of_away (h : req.sessionId = [] ∨ req.token = [] ∨
      ∀ st ∈ s.sessions.lookup req.sessionId, now < st.bind.udpBindRetryAfterUnixMs)
    (sid : Bytes) : (s.applyUdpBindRequest cfg req e now).1.view sid = s.view sid := by
  unfold applyUdpBindRequest
  split
  case isTrue => rfl
  case isFalse hcomplete =>
    simp only [Bool.or_eq_true, decide_eq_true_eq, not_or] at hcomplete
    cases hst : s.sessions.lookup req.sessionId with
    | none => rfl
    | some st =>
      -- Only the backoff is left of the three, and it leaves the session as it is.
      have hback : now < st.bind.udpBindRetryAfterUnixMs := by
        rcases h with hsid | htoken | hback
        · exact absurd hsid hcomplete.1
        · exact absurd htoken hcomplete.2
        · exact hback st hst
      have hsame : (st.applyBind cfg req e now).1 = st := by
        rw [SessionState.applyBind, if_pos hback]
      show ((s.sessions.insert req.sessionId _).lookup sid).map SessionState.view = _
      rw [map_view_insert, hsame]
      split_ifs with hsid
      · rw [hsid, view, hst]
        rfl
      · rfl

theorem view_applyUdpBindRequest_of_ne (h : req.sessionId ≠ sid) :
    (s.applyUdpBindRequest cfg req e now).1.view sid = s.view sid := by
  unfold applyUdpBindRequest
  split
  · rfl
  · cases s.sessions.lookup req.sessionId with
    | none => rfl
    | some st =>
      show ((s.sessions.insert req.sessionId _).lookup sid).map SessionState.view = _
      rw [map_view_insert, if_neg (Ne.symm h)]
      rfl

/-- A request that names another session or is turned away changes nothing. -/
theorem view_receiveBind (h : ∀ req, parseUdpBindReq (bindPayload d) = some req →
      req.sessionId = sid → s.TurnedAway e req now bindNow) :
    (s.receiveBind cfg e d now bindNow).1.view sid = s.view sid := by
  unfold receiveBind
  dsimp only
  split
  case isTrue => rfl
  case isFalse hfree =>
    cases hparse : parseUdpBindReq (bindPayload d) with
    | none => rfl
    | some req =>
      by_cases hsid : req.sessionId = sid
      · rcases h req hparse hsid with hblocked | haway
        · exact absurd hblocked hfree
        · exact @view_applyUdpBindRequest_of_away cfg
            { s with guard := (s.guard.blockState (endpointKey e) now).1 } e bindNow req haway sid
      · exact view_applyUdpBindRequest_of_ne hsid

/-! ### Two runs -/

section TwoRuns

variable (A : Endpoint → Prop) (P : Bytes → Prop)

/-- A bind request from one of the endpoints. -/
def BindsFrom : Input → Prop
  | .datagram e d _ _ _ => A e ∧ isBindRequest d = true
  | _ => False

instance [DecidablePred A] : DecidablePred (BindsFrom A)
  | .opening _ | .ticket _ _ _ | .close _ => inferInstanceAs (Decidable False)
  | .datagram _ _ _ _ _ => inferInstanceAs (Decidable (_ ∧ _))

/-- **The condition.** A request from `A` that names a session of `P` is turned away; all other
    endpoints ask for sessions of `P` only. -/
def Separated (s : UdpGateway) (i : Input) : Prop :=
  ∀ x ∈ i.request, (A x.1 → P x.2.1.sessionId → s.TurnedAway x.1 x.2.1 x.2.2.1 x.2.2.2) ∧
    (¬A x.1 → P x.2.1.sessionId)

instance [DecidablePred A] [DecidablePred P] (s : UdpGateway) (i : Input) :
    Decidable (Separated A P s i) :=
  inferInstanceAs (Decidable (∀ x ∈ i.request, _))

/-- The answer to a bind request from outside `A`, with the endpoint and the datagram. -/
def answerTo [DecidablePred A] (ev : Happened) : Option (Endpoint × Datagram × UdpBindRes) :=
  match ev.input with
  | .datagram e d _ _ _ =>
    if ¬A e ∧ isBindRequest d = true then ev.output.reply.map fun r => (e, d, r) else none
  | _ => none

/-- Two states that no endpoint outside `A` can tell apart by bind requests for sessions of `P`. -/
structure Alike (s t : UdpGateway) : Prop where
  counter : s.counter = t.counter
  views : ∀ sid, P sid → s.view sid = t.view sid
  entries : ∀ e, ¬A e → s.guard.lookup (endpointKey e) = t.guard.lookup (endpointKey e)

variable {A P}

theorem Alike.symm (h : Alike A P s t) : Alike A P t s where
  counter := h.counter.symm
  views sid hsid := (h.views sid hsid).symm
  entries e he := (h.entries e he).symm

/-- On both sides something happens that leaves the guard and the counter alone. -/
theorem Alike.of_views {s' t' : UdpGateway} (h : Alike A P s t)
    (hs : s'.guard = s.guard ∧ s'.counter = s.counter)
    (ht : t'.guard = t.guard ∧ t'.counter = t.counter)
    (hviews : ∀ sid, P sid → s'.view sid = t'.view sid) : Alike A P s' t' where
  counter := by
    rw [hs.2, ht.2]
    exact h.counter
  views := hviews
  entries e he := by
    rw [hs.1, ht.1]
    exact h.entries e he

theorem request_eq (hbind : isBindRequest d = true)
    (hparse : parseUdpBindReq (bindPayload d) = some req) :
    (e, req, now, bindNow) ∈ (Input.datagram e d now bindNow order).request := by
  rw [Input.request, requestOf, if_pos hbind, hparse]
  rfl

/-- A bind request from `A`, on one side only. -/
theorem Alike.bindFrom (h : Alike A P s t) (he : A e) (hbind : isBindRequest d = true)
    (hsep : Separated A P s (.datagram e d now bindNow order)) :
    Alike A P (s.receiveBind cfg e d now bindNow).1 t := by
  refine ⟨counter_receiveBind.trans h.counter, fun sid hsid => ?_, fun e' he' => ?_⟩
  · rw [← h.views sid hsid]
    apply view_receiveBind
    intro req hparse hreq
    exact (hsep _ (request_eq hbind hparse)).1 he (hreq ▸ hsid)
  · have hkey : endpointKey e' ≠ endpointKey e := by
      intro hkey
      rw [endpointKey_injective hkey] at he'
      exact he' he
    rw [← h.entries e' he']
    exact guard_receiveBind_of_ne hkey

/-- A bind request from outside `A`, on both sides: the answers are the same. -/
theorem Alike.bindOutside (h : Alike A P s t) (he : ¬A e) (hbind : isBindRequest d = true)
    (hsep : Separated A P s (.datagram e d now bindNow order)) :
    Alike A P (s.receiveBind cfg e d now bindNow).1 (t.receiveBind cfg e d now bindNow).1 ∧
      (s.receiveBind cfg e d now bindNow).2 = (t.receiveBind cfg e d now bindNow).2 := by
  obtain ⟨hanswer, hentry, hviews⟩ := @receiveBind_alike cfg s t e d now bindNow (h.entries e he)
    fun req hparse => h.views _ ((hsep _ (request_eq hbind hparse)).2 he)
  refine ⟨⟨?_, fun sid hsid => hviews sid (h.views sid hsid), fun e' he' => ?_⟩, hanswer⟩
  · rw [counter_receiveBind, counter_receiveBind]
    exact h.counter
  · by_cases hkey : endpointKey e' = endpointKey e
    · rw [hkey]
      exact hentry
    · rw [guard_receiveBind_of_ne hkey, guard_receiveBind_of_ne hkey]
      exact h.entries e' he'

theorem Alike.data (h : Alike A P s t) (order : List Bytes) :
    Alike A P (s.receiveData cfg e d now order).1 (t.receiveData cfg e d now order).1 := by
  have hsame : ∀ s : UdpGateway, (s.receiveData cfg e d now order).1.guard = s.guard ∧
      (s.receiveData cfg e d now order).1.counter = s.counter := by
    intro s
    unfold receiveData
    repeat' split
    all_goals exact ⟨rfl, rfl⟩
  refine h.of_views (hsame s) (hsame t) fun sid hsid => ?_
  rw [view_receiveData, view_receiveData]
  exact h.views sid hsid

theorem Alike.opening (h : Alike A P s t) (client : Bytes) :
    Alike A P (s.opening cfg client).1 (t.opening cfg client).1 := by
  have hnext : s.nextSessionId cfg = t.nextSessionId cfg := by
    unfold nextSessionId
    rw [h.counter]
  refine ⟨congrArg (· + 1) h.counter, fun sid hsid => ?_, h.entries⟩
  show ((s.sessions.insert _ _).lookup sid).map SessionState.view =
    ((t.sessions.insert _ _).lookup sid).map SessionState.view
  rw [map_view_insert, map_view_insert, hnext]
  split_ifs
  · rfl
  · exact h.views sid hsid

theorem view_issueTicket (nonce : UInt64) (sid' : Bytes) :
    (s.issueTicket cfg sid' nonce now).1.view sid =
      if sid = sid' then
        (s.view sid).map fun v => match tokenFor cfg sid' nonce now with
          | some token => (({ clientId := [] } : SessionState).issue cfg sid' nonce now token).view
          | none => v
      else s.view sid := by
  unfold issueTicket view
  cases hst : s.sessions.lookup sid' with
  | none =>
    split_ifs with hsid
    · rw [hsid, hst]
      rfl
    · rfl
  | some st =>
    cases tokenFor cfg sid' nonce now with
    | none =>
      split_ifs
      · exact Option.map_id'.symm
      · rfl
    | some token =>
      rw [map_view_insert]
      split_ifs with hsid
      · rw [hsid, hst]
        rfl
      · rfl

theorem Alike.ticket (h : Alike A P s t) (sid' : Bytes) (nonce : UInt64) :
    Alike A P (s.issueTicket cfg sid' nonce now).1 (t.issueTicket cfg sid' nonce now).1 := by
  have hsame : ∀ s : UdpGateway, (s.issueTicket cfg sid' nonce now).1.guard = s.guard ∧
      (s.issueTicket cfg sid' nonce now).1.counter = s.counter := by
    intro s
    unfold issueTicket
    split <;> exact ⟨rfl, rfl⟩
  refine h.of_views (hsame s) (hsame t) fun sid hsid => ?_
  rw [view_issueTicket, view_issueTicket, h.views sid hsid]

theorem Alike.close (h : Alike A P s t) (sid' : Bytes) :
    Alike A P (s.close sid') (t.close sid') := by
  refine h.of_views ⟨rfl, rfl⟩ ⟨rfl, rfl⟩ fun sid hsid => ?_
  show ((s.sessions.erase sid').lookup sid).map _ = ((t.sessions.erase sid').lookup sid).map _
  by_cases hclosed : sid = sid'
  · rw [hclosed, lookup_erase, lookup_erase]
  · rw [lookup_erase_ne hclosed, lookup_erase_ne hclosed]
    exact h.views sid hsid

/-- An input that is no bind request from `A`, on both sides. -/
theorem Alike.low {i : Input} (h : Alike A P s t) (hlow : ¬BindsFrom A i)
    (hsep : Separated A P s i) : Alike A P (s.step cfg i).1 (t.step cfg i).1 := by
  cases i with
  | opening client => exact h.opening client
  | ticket sid nonce now => exact h.ticket sid nonce
  | close sid => exact h.close sid
  | datagram e d now bindNow order =>
    unfold step
    dsimp only
    by_cases hbind : isBindRequest d = true
    · rw [if_pos hbind, if_pos hbind]
      exact (h.bindOutside (fun he => hlow ⟨he, hbind⟩) hbind hsep).1
    · rw [if_neg hbind, if_neg hbind]
      exact h.data order

/-- The gateway is unwound by `Alike`. -/
theorem unwinding [DecidablePred A] :
    Unwinding (machine cfg) (BindsFrom A) (Separated A P) (answerTo A) (Alike A P) where
  symm := Alike.symm
  high_silent := by
    intro s i hhigh
    cases i with
    | opening _ | ticket _ _ _ | close _ => rfl
    | datagram e d now bindNow order => exact if_neg fun hc => hc.1 hhigh.1
  high_step := by
    intro s t i hhigh hsep h
    cases i with
    | opening _ | ticket _ _ _ | close _ => exact absurd hhigh id
    | datagram e d now bindNow order =>
      show Alike A P (s.step cfg (.datagram e d now bindNow order)).1 t
      unfold step
      dsimp only
      rw [if_pos hhigh.2]
      exact h.bindFrom hhigh.1 hhigh.2 hsep
  low_step := fun hlow hsep _ h => h.low hlow hsep
  low_seen := by
    intro s t i hlow hsep _ h
    cases i with
    | opening _ | ticket _ _ _ | close _ => rfl
    | datagram e d now bindNow order =>
      unfold answerTo
      dsimp only
      split_ifs with hasked
      · show (s.step cfg _).2.reply.map _ = (t.step cfg _).2.reply.map _
        unfold step
        dsimp only
        rw [if_pos hasked.2, if_pos hasked.2, (h.bindOutside hasked.1 hasked.2 hsep).2]
      · rfl

end TwoRuns

/-- **Non-interference of bind requests**, from every state.  Two runs differ only in bind requests
    from endpoints in `A`.  In both, every request from `A` for a session of `P` is turned away,
    and the other endpoints ask for sessions of `P` only.  Then all bind requests from endpoints
    outside `A` get the same answers in both. -/
theorem bind_noninterference (cfg : BindConfig) (s : UdpGateway) (A : Endpoint → Prop)
    [DecidablePred A] (P : Bytes → Prop) {is js : List Input}
    (hsame : is.filter (fun i => ¬BindsFrom A i) = js.filter (fun i => ¬BindsFrom A i))
    (his : (machine cfg).Guarded (Separated A P) s is)
    (hjs : (machine cfg).Guarded (Separated A P) s js) :
    ((machine cfg).trace s is).filterMap (answerTo A) =
      ((machine cfg).trace s js).filterMap (answerTo A) := by
  have halike : Alike A P s s := ⟨rfl, fun _ _ => rfl, fun _ _ => rfl⟩
  exact unwinding.observed_eq halike hsame his hjs

/-- Someone else's endpoint. -/
def stranger : Endpoint := ⟨"10.0.0.66", 5000⟩

/-- A session is created and gets a ticket that expires at 6000. -/
def ticketIssued : UdpGateway :=
  (machine plainConfig).run {} [.opening [1], .ticket firstSession 5 1000]

/-- The client presents the ticket. -/
def clientBinds : Input :=
  .datagram ⟨"10.0.0.9", 4000⟩ (bindDatagram ⟨firstSession, 5, 6000, [0x61]⟩) 1002 1002 []

/-- A stranger sends a bind request. -/
def strangerBinds (ticket : UdpBindTicket) : Input :=
  .datagram stranger (bindDatagram ticket) 1001 1001 []

/-- The codes of the answers that everybody but the stranger gets. -/
def codes (is : List Input) : List UInt16 :=
  (((machine plainConfig).trace ticketIssued is).filterMap (answerTo (· = stranger))).map
    fun answer => answer.2.2.code

/-- Requests for another session and without a token do no harm. -/
theorem bind_noninterference_harmless :
    ((machine plainConfig).trace ticketIssued [clientBinds]).filterMap (answerTo (· = stranger)) =
      ((machine plainConfig).trace ticketIssued
        [strangerBinds ⟨secondSession, 0, 0, [0x62]⟩, strangerBinds ⟨firstSession, 0, 0, []⟩,
          clientBinds]).filterMap (answerTo (· = stranger)) :=
  bind_noninterference plainConfig ticketIssued (· = stranger) (· = firstSession)
    (by decide +kernel) (by decide +kernel) (by decide +kernel)

/-- **Interference.** A stranger names the session, with a wrong token and without nonce or expiry.
    The session backs off, and the client's valid request is refused. -/
theorem client_refused : codes [clientBinds] = [0] ∧
      codes [strangerBinds ⟨firstSession, 0, 0, [0x62]⟩, clientBinds] = [SERVER_BUSY] := by
  decide +kernel

end UdpGateway

end Knights.Gateway
