import Knights.Gateway.UdpBind

namespace Knights.Gateway.UdpGateway

open Knights.Lib Knights.Protocol Knights.Rudp List Machine

/-!
# Gateway — which session an endpoint belongs to

Two results about every run of the session table, whatever arrives and whatever the clock says.

* `bind_safety` — a session is bound to an endpoint only because that endpoint presented its
  latest ticket in time; it stays bound until a new ticket or its end; and a refused request
  changes no binding;
* `demultiplexing_iff` — no endpoint has two sessions, and its datagrams go to the session it was
  bound to last, exactly if every accepted request came from an endpoint without another session.
  `bound_twice` shows that nothing in the checks makes sure of that.

Both are invariants between the events so far and the state (`Machine.trace_invariant`), and both
read what a step does to a session off `touched_step`.
-/

variable {cfg : BindConfig} {s : UdpGateway} {sid : Bytes} {e : Endpoint} {i : Input}
  {tr : List Happened}

/-- An event of a run. -/
abbrev Happened := Event UdpGateway Input UdpOut

/-- The event of an input. -/
def happening (cfg : BindConfig) (s : UdpGateway) (i : Input) : Happened :=
  ⟨s, i, (s.step cfg i).2⟩

/-- Data changes no binding. -/
theorem udpBound_receive (u : UdpSession) (c : UdpConfig) (d : Datagram) (now : UInt64) :
    (u.receive c d now).1.udpBound = u.udpBound := by
  unfold UdpSession.receive
  split
  · unfold UdpSession.receiveRudp
    cases u.rudpEngine <;> dsimp only <;> split_ifs <;> rfl
  · unfold UdpSession.receivePlain
    dsimp only
    split_ifs <;> rfl

/-! ### Bind safety -/

/-- The end of what is known of a session: a new ticket, its close, or its creation. -/
def Ends (sid : Bytes) (ev : Happened) : Prop :=
  (∃ ticket, ev.output.ticket = some ticket ∧ ticket.sessionId = sid) ∨ ev.input = .close sid ∨
    ev.output.opened = some sid

/-- A request from `e` that repeats the ticket, not after its expiry. -/
def Presents (e : Endpoint) (ticket : UdpBindTicket) (ev : Happened) : Prop :=
  ∃ d now bindNow order, ev.input = .datagram e d now bindNow order ∧
    requestOf d = some ticket ∧ bindNow ≤ ticket.expiresUnixMs

/-- The latest ticket of a session, and what happened since. -/
def Latest (tr : List Happened) (sid : Bytes) (ticket : UdpBindTicket) (since : List Happened) :
    Prop :=
  ∃ before ev, tr = before ++ ev :: since ∧ ev.output.ticket = some ticket ∧
    ticket.sessionId = sid ∧ ∀ ev' ∈ since, ¬Ends sid ev'

theorem Latest.snoc {since : List Happened} {ticket : UdpBindTicket}
    (h : Latest tr sid ticket since) {ev : Happened} (hev : ¬Ends sid ev) :
    Latest (tr ++ [ev]) sid ticket (since ++ [ev]) := by
  obtain ⟨before, ev₀, rfl, hticket, hsid, hsince⟩ := h
  refine ⟨before, ev₀, by simp, hticket, hsid, ?_⟩
  intro ev' hev'
  rcases mem_append.mp hev' with hold | hnew
  · exact hsince ev' hold
  · rw [mem_singleton.mp hnew]
    exact hev

/-- The ticket that a session holds. -/
def ticketOf (sid : Bytes) (st : SessionState) : UdpBindTicket :=
  ⟨sid, st.bind.udpNonce, st.bind.udpExpiresUnixMs, st.bind.udpToken⟩

/-- What the events say about a session: it has no ticket and is not bound; or it holds its latest
    ticket, and is bound only to an endpoint that presented it since. -/
def Accounted (tr : List Happened) (sid : Bytes) (st : SessionState) : Prop :=
  st.bind.udpToken = [] ∧ st.udp.udpBound = false ∨ ∃ since, Latest tr sid (ticketOf sid st) since ∧
      ∀ e, st.BoundTo e → ∃ ev ∈ since, Presents e (ticketOf sid st) ev

/-- An event that leaves ticket and binding alone. -/
theorem Accounted.snoc {st st' : SessionState} (h : Accounted tr sid st) {ev : Happened}
    (hev : ¬Ends sid ev) (hticket : ticketOf sid st' = ticketOf sid st)
    (hbound : st'.udp.udpBound = st.udp.udpBound)
    (hendpoint : st'.bind.udpEndpoint = st.bind.udpEndpoint) : Accounted (tr ++ [ev]) sid st' := by
  rcases h with ⟨htoken, hfree⟩ | ⟨since, hlatest, hpresented⟩
  · refine .inl ⟨?_, hbound.trans hfree⟩
    exact (congrArg UdpBindTicket.token hticket).trans htoken
  · refine .inr ⟨since ++ [ev], ?_, fun e he => ?_⟩
    · rw [hticket]
      exact hlatest.snoc hev
    · obtain ⟨ev', hev', hpres⟩ := hpresented e ⟨hbound ▸ he.1, hendpoint ▸ he.2⟩
      rw [hticket]
      exact ⟨ev', mem_append_left _ hev', hpres⟩

theorem not_ends_of_apart {ev : Happened} (h : Apart sid ev.input ev.output) : ¬Ends sid ev := by
  rintro (⟨ticket, hticket, hsid⟩ | hclose | hopened)
  · exact h.ticket ticket hticket hsid
  · exact h.close hclose
  · exact h.opened hopened

theorem not_ends_datagram {d : Datagram} {now bindNow : UInt64} {order : List Bytes} :
    ¬Ends sid (happening cfg s (.datagram e d now bindNow order)) := by
  obtain ⟨hopened, hticket⟩ := quiet_datagram
  rintro (⟨ticket, h, -⟩ | h | h)
  · cases hticket.symm.trans h
  · cases h
  · cases hopened.symm.trans h

/-- **One step keeps the account of every session.** -/
theorem accounted_step (h : ∀ sid st, s.sessions.lookup sid = some st → Accounted tr sid st)
    (i : Input) :
    ∀ sid st, (s.step cfg i).1.sessions.lookup sid = some st →
      Accounted (tr ++ [happening cfg s i]) sid st := by
  intro sid st hst
  obtain ⟨after, out, hlookup, hout, htouched⟩ := touched_step cfg s sid i
  obtain rfl := hst.symm.trans hlookup
  have hevent : (happening cfg s i).output = out := hout
  cases htouched with
  | apart hsame hapart =>
    refine (h sid st hsame).snoc (not_ends_of_apart ?_) rfl rfl rfl
    rw [hevent]
    exact hapart
  | opened hsid => exact .inl ⟨rfl, rfl⟩
  | issued hst₀ hticket =>
    refine .inr ⟨[], ⟨tr, _, rfl, hevent ▸ hticket, rfl, nofun⟩, fun e he => ?_⟩
    cases he.1
  | data hbind hst₀ =>
    refine (h sid _ hst₀).snoc not_ends_datagram rfl ?_ rfl
    exact udpBound_receive ..
  | @bound st₀ e d now bindNow order req _ hreq hsid hst₀ _ _ hreply =>
    have hends : ¬Ends sid (happening cfg s (.datagram e d now bindNow order)) :=
      not_ends_datagram
    have hold := h sid st₀ hst₀
    rcases bind_outcome hreq hreply with ⟨attempts, retryAfter, hafter, -⟩ | ⟨hnone, hafter, -⟩
    · rw [hafter]
      exact hold.snoc hends rfl rfl rfl
    · -- Accepted: the session had a ticket, and the request repeats it.
      obtain ⟨htoken, hn, hx, ht, hnow, hendpoint⟩ := SessionState.of_refusal_eq_none hnone
      rw [hafter]
      rcases hold with ⟨hempty, -⟩ | ⟨since, hlatest, hpresented⟩
      · exact absurd hempty htoken
      · refine .inr ⟨_, hlatest.snoc hends, fun x hx' => ⟨_, mem_append_right _
          (mem_singleton.mpr rfl), ?_⟩⟩
        obtain rfl : e = x := hx'.2
        obtain ⟨rsid, rnonce, rexpires, rtoken⟩ := req
        obtain ⟨rfl, rfl, rfl, rfl⟩ : sid = rsid ∧ st₀.bind.udpNonce = rnonce ∧
          st₀.bind.udpExpiresUnixMs = rexpires ∧ st₀.bind.udpToken = rtoken :=
          ⟨hsid.symm, hn.symm, hx.symm, ht.symm⟩
        exact ⟨d, now, bindNow, order, rfl, hreq, hnow⟩

/-- A bound session stays bound to its endpoint. -/
theorem boundTo_step {st : SessionState} (hst : s.sessions.lookup sid = some st)
    (hbound : st.BoundTo e) (hends : ¬Ends sid (happening cfg s i)) :
    ∃ st', (s.step cfg i).1.sessions.lookup sid = some st' ∧ st'.BoundTo e := by
  obtain ⟨after, out, hlookup, hout, htouched⟩ := touched_step cfg s sid i
  rw [hlookup]
  have hevent : (happening cfg s i).output = out := hout
  cases htouched with
  | apart hsame _ => exact ⟨st, hsame.symm.trans hst, hbound⟩
  | opened _ => exact absurd (.inr (.inr (by rw [hevent]))) hends
  | issued _ hticket => exact absurd (.inl ⟨_, hevent ▸ hticket, rfl⟩) hends
  | closed => exact absurd (.inr (.inl rfl)) hends
  | data _ hst₀ =>
    obtain rfl := Option.mem_unique hst hst₀
    exact ⟨_, rfl, (udpBound_receive ..).trans hbound.1, hbound.2⟩
  | bound hreq _ hst₀ _ _ hreply =>
    obtain rfl := Option.mem_unique hst hst₀
    refine ⟨_, rfl, ?_⟩
    rcases bind_outcome hreq hreply with ⟨attempts, retryAfter, hafter, -⟩ | ⟨hnone, hafter, -⟩
    · rw [hafter]
      exact hbound
    · -- Only the endpoint it is bound to is accepted.
      have hsame := (SessionState.of_refusal_eq_none hnone).2.2.2.2.2 hbound.1
      rw [hafter]
      exact ⟨rfl, hsame.symm.trans hbound.2⟩

theorem boundTo_run {st : SessionState} (hst : s.sessions.lookup sid = some st)
    (hbound : st.BoundTo e) {is : List Input}
    (hends : ∀ ev ∈ (machine cfg).trace s is, ¬Ends sid ev) :
    ∃ st', ((machine cfg).run s is).sessions.lookup sid = some st' ∧ st'.BoundTo e := by
  induction is generalizing s st with
  | nil => exact ⟨st, hst, hbound⟩
  | cons i is ih =>
    rw [trace_cons, forall_mem_cons] at hends
    obtain ⟨st', hst', hbound'⟩ := boundTo_step hst hbound hends.1
    exact ih hst' hbound' hends.2

/-- What routing reads of a session. -/
def binding (s : UdpGateway) (sid : Bytes) : Option (Bool × Endpoint) :=
  (s.sessions.lookup sid).map fun st => (st.udp.udpBound, st.bind.udpEndpoint)

/-- A bind request that was answered with an error. -/
def Rejected (ev : Happened) : Prop :=
  ∃ e d now bindNow order r, ev.input = .datagram e d now bindNow order ∧
    isBindRequest d = true ∧ ev.output.reply = some r ∧ r.code ≠ 0

theorem binding_of_rejected (h : Rejected (happening cfg s i)) (sid : Bytes) :
    (s.step cfg i).1.binding sid = s.binding sid := by
  obtain ⟨e, d, now, bindNow, order, r, hinput, hbind, hreply, hcode⟩ := h
  obtain rfl : i = .datagram e d now bindNow order := hinput
  obtain ⟨after, out, hlookup, hout, htouched⟩ :=
    touched_step cfg s sid (.datagram e d now bindNow order)
  have hevent : (happening cfg s (.datagram e d now bindNow order)).output = out := hout
  rw [hevent] at hreply
  unfold binding
  rw [hlookup]
  cases htouched with
  | apart hsame _ => rw [hsame]
  | data hdata => rw [hbind] at hdata; cases hdata
  | bound hreq _ hst₀ _ _ hr =>
    rw [hst₀]
    rcases bind_outcome hreq hr with ⟨attempts, retryAfter, hafter, -⟩ | ⟨-, -, haccepted⟩
    · rw [hafter]
      rfl
    · have hcontra := haccepted now order
      rw [acceptedBind_of_reply hreq hreply, if_neg hcode] at hcontra
      cases hcontra

/-- **Bind safety**, for every run from the start.  A session is bound to an endpoint only if that
    endpoint presented the session's latest ticket since it was issued, and not after it expired.
    Once bound it stays bound to the same endpoint until its next ticket or its end.  And a request
    that is rejected changes the binding of no session. -/
theorem bind_safety (cfg : BindConfig) (is : List Input) :
    (∀ sid st e, ((machine cfg).run {} is).sessions.lookup sid = some st → st.BoundTo e →
        ∃ ticket since, Latest ((machine cfg).trace {} is) sid ticket since ∧
          ∃ ev ∈ since, Presents e ticket ev) ∧
      (∀ pre post sid st e, is = pre ++ post →
        ((machine cfg).run {} pre).sessions.lookup sid = some st → st.BoundTo e →
        (∀ ev ∈ (machine cfg).trace ((machine cfg).run {} pre) post, ¬Ends sid ev) →
        ∃ st', ((machine cfg).run {} is).sessions.lookup sid = some st' ∧ st'.BoundTo e) ∧
      (∀ ev ∈ (machine cfg).trace {} is, Rejected ev →
        ∀ sid, (ev.pre.step cfg ev.input).1.binding sid = ev.pre.binding sid) := by
  refine ⟨?_, ?_, ?_⟩
  · intro sid st e hst hbound
    have hempty : ∀ sid st, ({} : UdpGateway).sessions.lookup sid = some st →
        Accounted [] sid st := by
      intro sid st h
      simp at h
    have hall := (machine cfg).trace_invariant
      (fun tr s => ∀ sid st, s.sessions.lookup sid = some st → Accounted tr sid st)
      (fun tr s i h => accounted_step h i) hempty is
    rcases hall sid st hst with ⟨-, hfree⟩ | ⟨since, hlatest, hpresented⟩
    · rw [hbound.1] at hfree
      cases hfree
    · exact ⟨_, since, hlatest, hpresented e hbound⟩
  · rintro pre post sid st e rfl hst hbound hends
    rw [run_append]
    exact boundTo_run hst hbound hends
  · intro ev hev hrejected
    obtain ⟨pre, post, -, hpre, hout⟩ := (machine cfg).mem_trace.mp hev
    apply binding_of_rejected
    obtain ⟨evpre, evinput, evoutput⟩ := ev
    obtain rfl : evoutput = (evpre.step cfg evinput).2 := hout
    exact hrejected

/-! ### Demultiplexing -/

/-- The session whose bind request from the endpoint was accepted last. -/
def lastAccepted (tr : List Happened) (e : Endpoint) : Option Bytes :=
  tr.foldl (fun last ev => match acceptedBind ev.input ev.output with
    | some (e', sid) => if e' = e then some sid else last
    | none => last) none

/-- The session is bound to the endpoint. -/
def Holds (s : UdpGateway) (sid : Bytes) (e : Endpoint) : Prop :=
  ∃ st, s.sessions.lookup sid = some st ∧ st.BoundTo e

instance (s : UdpGateway) (sid : Bytes) (e : Endpoint) : Decidable (s.Holds sid e) :=
  inferInstanceAs (Decidable (∃ st, st ∈ s.sessions.lookup sid ∧ st.BoundTo e))

/-- The loop over the table meets every session. -/
def Lists (s : UdpGateway) (order : List Bytes) : Prop := ∀ sid, sid ∈ order ↔ sid ∈ s.sessions

/-- **Unambiguous demultiplexing.** No two sessions are bound to one endpoint; in whatever order the
    loop meets the sessions, it finds the one that is bound to the endpoint; and that is the one
    whose request from the endpoint was accepted last. -/
structure Unambiguous (tr : List Happened) (s : UdpGateway) : Prop where
  single : ∀ sid sid' e, s.Holds sid e → s.Holds sid' e → sid = sid'
  routed : ∀ e order sid, s.Lists order → (s.route e order = some sid ↔ s.Holds sid e)
  recent : ∀ e sid, s.Holds sid e → lastAccepted tr e = some sid

/-- **The condition.** An accepted bind request comes from an endpoint that no other session is
    bound to. -/
def Exclusive (cfg : BindConfig) (s : UdpGateway) (i : Input) : Prop :=
  ∀ e sid, acceptedBind i (s.step cfg i).2 = some (e, sid) → ∀ sid', s.Holds sid' e → sid' = sid

/-- If the bound sessions are the ones accepted last, demultiplexing is unambiguous. -/
theorem unambiguous_of_recent (h : ∀ e sid, s.Holds sid e → lastAccepted tr e = some sid) :
    Unambiguous tr s where
  single sid sid' e hsid hsid' := Option.mem_unique (h e sid hsid) (h e sid' hsid')
  recent := h
  routed := by
    intro e order sid hlists
    refine ⟨boundTo_of_route, fun hholds => ?_⟩
    obtain ⟨st, hst, hbound⟩ := hholds
    have hmem : sid ∈ order := (hlists sid).mpr (Finmap.mem_iff.mpr ⟨st, hst⟩)
    have hsome : (s.route e order).isSome := by
      rw [route, List.find?_isSome]
      exact ⟨sid, hmem, by simp [hst, hbound]⟩
    -- Whatever the loop finds is bound to the endpoint too, so it is this session.
    obtain ⟨sid', hsid'⟩ := Option.isSome_iff_exists.mp hsome
    have hrecent := h e sid' (boundTo_of_route hsid')
    rw [h e sid ⟨st, hst, hbound⟩] at hrecent
    rw [hsid', hrecent]

/-- A session that is bound after a step was bound before, or its request was accepted. -/
theorem holds_step (h : (s.step cfg i).1.Holds sid e) :
    acceptedBind i (s.step cfg i).2 = some (e, sid) ∨
      s.Holds sid e ∧ ∀ e', acceptedBind i (s.step cfg i).2 ≠ some (e', sid) := by
  obtain ⟨st, hst, hbound⟩ := h
  obtain ⟨after, out, hlookup, hout, htouched⟩ := touched_step cfg s sid i
  obtain rfl := hst.symm.trans hlookup
  rw [hout]
  cases htouched with
  | apart hsame hapart => exact .inr ⟨⟨st, hsame, hbound⟩, hapart.accepted⟩
  | opened | issued => cases hbound.1
  | @data st₀ _ _ _ _ _ _ hbind hst₀ =>
    refine .inr ⟨⟨st₀, hst₀, (udpBound_receive ..).symm.trans hbound.1, hbound.2⟩, fun e' => ?_⟩
    simp [acceptedBind, hbind]
  | @bound st₀ e' d now bindNow order req _ hreq hsid hst₀ _ _ hreply =>
    rcases bind_outcome hreq hreply with ⟨attempts, retryAfter, hafter, hnone⟩ |
      ⟨-, hafter, haccepted⟩
    · rw [hafter] at hbound
      refine .inr ⟨⟨st₀, hst₀, hbound⟩, fun x hyes => ?_⟩
      cases (hnone now order).symm.trans hyes
    · rw [hafter] at hbound
      obtain rfl : e' = e := hbound.2
      exact .inl (haccepted now order)

/-- An accepted request binds its session. -/
theorem holds_of_accepted (h : acceptedBind i (s.step cfg i).2 = some (e, sid)) :
    (s.step cfg i).1.Holds sid e := by
  obtain ⟨after, out, hlookup, hout, htouched⟩ := touched_step cfg s sid i
  rw [hout] at h
  cases htouched with
  | apart _ hapart => exact absurd h (hapart.accepted e)
  | opened | issued | closed => cases h
  | data hbind => simp [acceptedBind, hbind] at h
  | bound hreq _ _ _ _ hreply =>
    rcases bind_outcome hreq hreply with ⟨_, _, -, hnone⟩ | ⟨-, hafter, haccepted⟩
    · cases (hnone _ _).symm.trans h
    · obtain rfl := congrArg Prod.fst (Option.mem_unique (haccepted _ _) h)
      exact ⟨_, hlookup.trans (congrArg some hafter), rfl, rfl⟩

/-- A step that accepts a request takes no binding away. -/
theorem holds_of_accepting {x : Endpoint × Bytes} (h : acceptedBind i (s.step cfg i).2 = some x)
    (hholds : s.Holds sid e) : (s.step cfg i).1.Holds sid e := by
  obtain ⟨st, hst, hbound⟩ := hholds
  cases i with
  | datagram e' d now bindNow order =>
    exact boundTo_step hst hbound not_ends_datagram
  | opening _ | ticket _ _ _ | close _ => cases h

/-- Under the condition the bound sessions are the ones accepted last. -/
theorem recent_step (hexclusive : Exclusive cfg s i)
    (h : ∀ e sid, s.Holds sid e → lastAccepted tr e = some sid) :
    ∀ e sid, (s.step cfg i).1.Holds sid e →
      lastAccepted (tr ++ [happening cfg s i]) e = some sid := by
  intro e sid hholds
  rw [lastAccepted, foldl_append]
  show (match acceptedBind i (s.step cfg i).2 with
    | some (e', sid) => if e' = e then some sid else lastAccepted tr e
    | none => lastAccepted tr e) = some sid
  rcases holds_step hholds with haccepted | ⟨hbefore, hother⟩
  · rw [haccepted]
    exact if_pos rfl
  · cases haccepted : acceptedBind i (s.step cfg i).2 with
    | none => exact h e sid hbefore
    | some x =>
      obtain ⟨e', sid'⟩ := x
      by_cases he : e' = e
      · -- The endpoint had this session, so by the condition the request was for it.
        subst he
        obtain rfl := hexclusive e' sid' haccepted sid hbefore
        exact absurd haccepted (hother e')
      · dsimp only
        rw [if_neg he]
        exact h e sid hbefore

/-- **Unambiguous demultiplexing, exactly.** In every state of a run the endpoints determine their
    sessions, and datagrams go to the session that was accepted last from their endpoint, if and
    only if every accepted bind request came from an endpoint that no other session was bound
    to. -/
theorem demultiplexing_iff (cfg : BindConfig) (is : List Input) :
    (∀ pre, pre <+: is → Unambiguous ((machine cfg).trace {} pre) ((machine cfg).run {} pre)) ↔
      (machine cfg).Guarded (Exclusive cfg) {} is := by
  refine ⟨fun h => ?_, fun h pre hpre => ?_⟩
  · induction is using List.reverseRecOn with
    | nil => trivial
    | append_singleton is i ih =>
      rw [guarded_append]
      refine ⟨ih fun pre hpre => h pre (hpre.trans (prefix_append is [i])), ?_, trivial⟩
      -- If another session held the endpoint, both would hold it after the step.
      intro e sid haccepted sid' hholds
      have hafter := (h (is ++ [i]) (prefix_refl _)).single sid' sid e
      rw [run_append] at hafter
      exact hafter (holds_of_accepting haccepted hholds) (holds_of_accepted haccepted)
  · obtain ⟨post, rfl⟩ := hpre
    have hguard := ((machine cfg).guarded_append _ _ pre post |>.mp h).1
    apply unambiguous_of_recent
    refine (machine cfg).guarded_trace_invariant
      (fun tr s => ∀ e sid, s.Holds sid e → lastAccepted tr e = some sid) (Exclusive cfg)
      (fun tr s i hrecent hexclusive => recent_step hexclusive hrecent) ?_ hguard
    rintro e sid ⟨st, hst, -⟩
    simp at hst

/-- A gateway whose tokens are one letter. -/
def plainConfig : BindConfig where
  gatewayId := [0x67]
  bootId := [0x62]
  udpListenPort := 7000
  udpBindSecret := [0x6B]
  hmac _ _ := [0x61]
  sessionSelected _ _ := false

/-- The session ids `g-b-1` and `g-b-2`. -/
def firstSession : Bytes := [0x67, 0x2D, 0x62, 0x2D, 0x31]

@[inherit_doc firstSession]
def secondSession : Bytes := [0x67, 0x2D, 0x62, 0x2D, 0x32]

/-- One endpoint presents the tickets of two sessions. -/
def bindTwice : List Input :=
  [.opening [1], .opening [2], .ticket firstSession 5 1000, .ticket secondSession 6 1000,
    .datagram ⟨"10.0.0.9", 4000⟩ (bindDatagram ⟨firstSession, 5, 6000, [0x61]⟩) 1001 1001 [],
    .datagram ⟨"10.0.0.9", 4000⟩ (bindDatagram ⟨secondSession, 6, 6000, [0x61]⟩) 1002 1002 []]

/-- Both sessions end up bound to the endpoint, and which of them gets its datagrams depends on the
    order of the table; met first, it is the one that was not accepted last. -/
theorem bound_twice :
    ((machine plainConfig).run {} bindTwice).Holds firstSession ⟨"10.0.0.9", 4000⟩ ∧
      ((machine plainConfig).run {} bindTwice).Holds secondSession ⟨"10.0.0.9", 4000⟩ ∧
      ((machine plainConfig).run {} bindTwice).route ⟨"10.0.0.9", 4000⟩
        [firstSession, secondSession] = some firstSession ∧
      ((machine plainConfig).run {} bindTwice).route ⟨"10.0.0.9", 4000⟩
        [secondSession, firstSession] = some secondSession ∧
      lastAccepted ((machine plainConfig).trace {} bindTwice) ⟨"10.0.0.9", 4000⟩ =
        some secondSession := by
  refine ⟨?_, ?_, ?_, ?_, ?_⟩ <;> decide +kernel

end Knights.Gateway.UdpGateway
