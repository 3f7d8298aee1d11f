import Knights.Gateway.BindSafety

namespace Knights.Gateway.UdpGateway

open Knights.Lib Knights.Protocol Knights.Rudp List

/-!
# Gateway — replay protection and fallback during the life of a ticket

Between a ticket of a session and the next one (or its close), frames of the unreliable sequenced
class should reach the backend in strictly increasing order, and after the session has fallen back
to TCP nothing should come through RUDP any more.  Both are enforced where datagrams are received
and reset where a bind request is accepted, and a valid request can be sent again.

* `Guarding` — what the tracker and the flag know about the events since the ticket;
* `replay_protected` — where no accepted request resets anything, both properties hold;
* `sequence_replayed` — a bind request that is sent twice lets an old frame through again.
-/

variable {cfg : BindConfig} {s s' : UdpGateway} {sid : Bytes} {i : Input} {tr : List Happened}
  {ev : Happened}

/-! ### The two properties -/

/-- The sequence number of a sequenced frame that an event forwards for a session over plain
    UDP. -/
def sequencedSeq (cfg : BindConfig) (sid : Bytes) (ev : Happened) : Option UInt32 :=
  match ev.input with
  | .datagram _ d _ _ _ =>
    if ev.output.session = some sid ∧ looksLikeRudp d = false ∧ ev.output.forwarded ≠ [] ∧
        (cfg.udp.policy (Protocol.decodeHeader d).msgId).delivery = .kUnreliableSequenced then
      some (Protocol.decodeHeader d).seq
    else none
  | _ => none

/-- The sequence numbers that were forwarded for a session, in order. -/
def sequencedSeqs (cfg : BindConfig) (sid : Bytes) (tr : List Happened) : List UInt32 :=
  tr.filterMap (sequencedSeq cfg sid)

/-- The session has fallen back to TCP. -/
def FellBack (s : UdpGateway) (sid : Bytes) : Prop :=
  ∃ st, s.sessions.lookup sid = some st ∧ st.udp.rudpFallbackToTcp = true

/-- The event forwards an inner frame of a RUDP packet for the session. -/
def ForwardsInner (sid : Bytes) (ev : Happened) : Prop :=
  ∃ e d now bindNow order, ev.input = .datagram e d now bindNow order ∧
    looksLikeRudp d = true ∧ ev.output.session = some sid ∧ ev.output.forwarded ≠ []

/-- **The condition.** An accepted bind request of the session finds the sequence tracker unused
    and the fallback flag unset. -/
def ResetsNothing (cfg : BindConfig) (sid : Bytes) (s : UdpGateway) (i : Input) : Prop :=
  ∀ e, acceptedBind i (s.step cfg i).2 = some (e, sid) → ∀ st, s.sessions.lookup sid = some st →
      st.udp.udpSequencedMetrics.initialized = false ∧ st.udp.rudpFallbackToTcp = false

/-! ### The receive path of one session -/

section Receive

variable (u : UdpSession) (c : UdpConfig) (d : Datagram) (now : UInt64)

/-- A session that has fallen back stays so. -/
theorem fallback_receive (h : u.rudpFallbackToTcp = true) :
    (u.receive c d now).1.rudpFallbackToTcp = true := by
  unfold UdpSession.receive
  split
  · unfold UdpSession.receiveRudp
    cases u.rudpEngine with
    | none => dsimp only; split_ifs <;> first | exact h | rfl
    | some engine => simp only [h, Bool.or_true, if_true]; split_ifs <;> first | exact h | rfl
  · unfold UdpSession.receivePlain
    dsimp only
    split_ifs <;> exact h

/-- A session that has fallen back forwards no inner frame. -/
theorem forwarded_of_fallback (h : u.rudpFallbackToTcp = true) (hrudp : looksLikeRudp d = true) :
    (u.receive c d now).2.forwarded = [] := by
  rw [UdpSession.receive, if_pos hrudp]
  unfold UdpSession.receiveRudp
  cases u.rudpEngine with
  | none => dsimp only; split_ifs <;> rfl
  | some engine => simp only [h, Bool.or_true, if_true]; split_ifs <;> rfl

/-- The tracker and a plain datagram: a sequenced frame that is forwarded was accepted by the
    tracker, and anything else leaves the tracker alone. -/
theorem metrics_receivePlain (hrudp : looksLikeRudp d = false) :
    ((c.policy (Protocol.decodeHeader d).msgId).delivery = .kUnreliableSequenced ∧
        (u.receive c d now).2.forwarded ≠ [] ∧
        (u.udpSequencedMetrics.onPacket (Protocol.decodeHeader d).seq now).2.accepted = true ∧
        (u.receive c d now).1.udpSequencedMetrics =
          (u.udpSequencedMetrics.onPacket (Protocol.decodeHeader d).seq now).1) ∨
      ((c.policy (Protocol.decodeHeader d).msgId).delivery = .kUnreliableSequenced →
        (u.receive c d now).2.forwarded = []) ∧
        (u.receive c d now).1.udpSequencedMetrics = u.udpSequencedMetrics := by
  rw [UdpSession.receive, if_neg (by simp [hrudp])]
  unfold UdpSession.receivePlain
  dsimp only
  split_ifs with hsize hbind hbound hknown hlist hudp hseq hacc
  case pos | pos | pos | pos | pos | pos => exact .inr ⟨fun _ => rfl, rfl⟩
  · -- A sequenced frame that the tracker refuses.
    refine .inr ⟨fun _ => rfl, ?_⟩
    obtain ⟨_, _, hyes, -⟩ | ⟨-, hsame⟩ := u.udpSequencedMetrics.onPacket_cases _ now
    · rw [hyes] at hacc
      cases hacc
    · exact congrArg Prod.fst hsame
  · exact .inl ⟨hseq, by simp, by simpa using hacc, rfl⟩
  · exact .inr ⟨fun h => absurd h hseq, rfl⟩

end Receive

/-! ### The invariant -/

/-- What the tracker of a session knows: if it is unused, nothing was forwarded; otherwise no
    number was above its last one; and the numbers so far increase. -/
def Guarding (cfg : BindConfig) (sid : Bytes) (tr : List Happened) (s : UdpGateway) : Prop :=
  ∃ st, s.sessions.lookup sid = some st ∧
    (st.udp.udpSequencedMetrics.initialized = false → sequencedSeqs cfg sid tr = []) ∧
    (∀ x ∈ sequencedSeqs cfg sid tr, x ≤ st.udp.udpSequencedMetrics.lastSeq) ∧
    (sequencedSeqs cfg sid tr).Pairwise (· < ·)

theorem sequencedSeqs_snoc (tr : List Happened) (ev : Happened) :
    sequencedSeqs cfg sid (tr ++ [ev]) =
      sequencedSeqs cfg sid tr ++ (sequencedSeq cfg sid ev).toList := by
  unfold sequencedSeqs
  cases h : sequencedSeq cfg sid ev <;> simp [h]

/-- An event that forwards nothing sequenced and leaves the tracker alone. -/
theorem Guarding.snoc {st st' : SessionState} (h : Guarding cfg sid tr s)
    (hst : s.sessions.lookup sid = some st) (hst' : s'.sessions.lookup sid = some st')
    (hev : sequencedSeq cfg sid ev = none)
    (hmetrics : st'.udp.udpSequencedMetrics = st.udp.udpSequencedMetrics) :
    Guarding cfg sid (tr ++ [ev]) s' := by
  obtain ⟨st₀, hst₀, hunused, hlast, hsorted⟩ := h
  obtain rfl := Option.mem_unique hst hst₀
  refine ⟨st', hst', ?_⟩
  rw [sequencedSeqs_snoc, hev, hmetrics]
  simpa using ⟨hunused, hlast, hsorted⟩

/-- A sequenced frame that the tracker accepts. -/
theorem Guarding.push {st st' : SessionState} {seq : UInt32} {now : UInt64}
    (h : Guarding cfg sid tr s) (hst : s.sessions.lookup sid = some st)
    (hst' : s'.sessions.lookup sid = some st') (hev : sequencedSeq cfg sid ev = some seq)
    (haccepted : (st.udp.udpSequencedMetrics.onPacket seq now).2.accepted = true)
    (hmetrics : st'.udp.udpSequencedMetrics = (st.udp.udpSequencedMetrics.onPacket seq now).1) :
    Guarding cfg sid (tr ++ [ev]) s' := by
  obtain ⟨st₀, hst₀, hunused, hlast, hsorted⟩ := h
  obtain rfl := Option.mem_unique hst hst₀
  obtain ⟨lost, -, -, hinit, hseq, hcase⟩ | ⟨-, hno⟩ :=
    st.udp.udpSequencedMetrics.onPacket_cases seq now
  swap
  · rw [hno] at haccepted
    cases haccepted
  have hbelow : ∀ x ∈ sequencedSeqs cfg sid tr, x < seq := by
    intro x hx
    obtain ⟨hinit₀, -⟩ | ⟨-, habove⟩ := hcase
    · rw [hunused hinit₀] at hx
      cases hx
    · exact UInt32.lt_of_le_of_lt (hlast x hx) (UInt32.lt_iff_toNat_lt.mpr (by omega))
  refine ⟨st', hst', ?_⟩
  rw [sequencedSeqs_snoc, hev, hmetrics, hinit, hseq]
  refine ⟨nofun, ?_, ?_⟩
  · intro x hx
    rcases mem_append.mp hx with hold | hnew
    · exact UInt32.le_of_lt (hbelow x hold)
    · rw [mem_singleton.mp hnew]
      exact UInt32.le_refl seq
  · rw [pairwise_append]
    refine ⟨hsorted, pairwise_singleton .., fun x hx y hy => ?_⟩
    rw [mem_singleton.mp hy]
    exact hbelow x hx

theorem sequencedSeq_of_session (h : ev.output.session ≠ some sid) :
    sequencedSeq cfg sid ev = none := by
  unfold sequencedSeq
  split
  · exact if_neg fun hc => h hc.1
  · rfl

/-- **One step** in the life of a ticket. -/
theorem guarding_step (h : Guarding cfg sid tr s) (hlife : ¬Ends sid (happening cfg s i))
    (hreset : ResetsNothing cfg sid s i) :
    Guarding cfg sid (tr ++ [happening cfg s i]) (s.step cfg i).1 := by
  obtain ⟨st, hst, hrest⟩ := h
  have hguard : Guarding cfg sid tr s := ⟨st, hst, hrest⟩
  obtain ⟨after, out, hlookup, hout, htouched⟩ := touched_step cfg s sid i
  have hevent : (happening cfg s i).output = out := hout
  cases htouched with
  | apart hsame hapart =>
    refine hguard.snoc hst (hlookup.trans (hsame.symm.trans hst)) ?_ rfl
    exact sequencedSeq_of_session (hevent ▸ hapart.session)
  | opened _ => exact absurd (.inr (.inr (by rw [hevent]))) hlife
  | issued _ hticket => exact absurd (.inl ⟨_, hevent ▸ hticket, rfl⟩) hlife
  | closed => exact absurd (.inr (.inl rfl)) hlife
  | @data st₀ e d now bindNow order _ hbind hst₀ hroute hsession hforwarded =>
    obtain rfl := Option.mem_unique hst hst₀
    cases hrudp : looksLikeRudp d with
    | true =>
      refine hguard.snoc hst hlookup ?_ ?_
      · simp [sequencedSeq, happening, hrudp]
      · rw [UdpSession.receive, if_pos hrudp, UdpSession.receiveRudp]
        cases st.udp.rudpEngine <;> dsimp only <;> split_ifs <;> rfl
    | false =>
      rcases metrics_receivePlain st.udp cfg.udp d now hrudp with
        ⟨hclass, hfw, haccepted, hmetrics⟩ | ⟨hfw, hmetrics⟩
      · refine hguard.push hst hlookup ?_ haccepted hmetrics
        unfold sequencedSeq
        rw [hevent]
        exact if_pos ⟨hsession, hrudp, hforwarded ▸ hfw, hclass⟩
      · refine hguard.snoc hst hlookup ?_ hmetrics
        unfold sequencedSeq
        rw [hevent]
        exact if_neg fun hc => hc.2.2.1 (hforwarded.trans (hfw hc.2.2.2))
  | @bound st₀ e d now bindNow order req _ hreq hsid hst₀ hblocked hsession hreply =>
    obtain rfl := Option.mem_unique hst hst₀
    have hnone : sequencedSeq cfg sid (happening cfg s (.datagram e d now bindNow order)) = none :=
      sequencedSeq_of_session (by rw [hevent, hsession]; nofun)
    rcases bind_outcome hreq hreply with ⟨attempts, retryAfter, hafter, -⟩ | ⟨-, -, haccepted⟩
    · rw [hafter] at hlookup
      exact hguard.snoc hst hlookup hnone rfl
    · -- Accepted: by the condition the tracker was unused, so nothing was forwarded yet.
      have hunused := (hreset e (hout ▸ haccepted _ _) st hst).1
      refine ⟨_, hlookup, ?_⟩
      rw [sequencedSeqs_snoc, hnone, hrest.1 hunused]
      exact ⟨fun _ => rfl, nofun, List.Pairwise.nil⟩

/-! ### Fallback -/

/-- A session that has fallen back stays so for the life of its ticket. -/
theorem fellBack_step (h : s.FellBack sid) (hlife : ¬Ends sid (happening cfg s i))
    (hreset : ResetsNothing cfg sid s i) : (s.step cfg i).1.FellBack sid := by
  obtain ⟨st, hst, hflag⟩ := h
  obtain ⟨after, out, hlookup, hout, htouched⟩ := touched_step cfg s sid i
  have hevent : (happening cfg s i).output = out := hout
  cases htouched with
  | apart hsame _ => exact ⟨st, hlookup.trans (hsame.symm.trans hst), hflag⟩
  | opened _ => exact absurd (.inr (.inr (by rw [hevent]))) hlife
  | issued _ hticket => exact absurd (.inl ⟨_, hevent ▸ hticket, rfl⟩) hlife
  | closed => exact absurd (.inr (.inl rfl)) hlife
  | data _ hst₀ =>
    obtain rfl := Option.mem_unique hst hst₀
    exact ⟨_, hlookup, fallback_receive _ _ _ _ hflag⟩
  | bound hreq _ hst₀ _ _ hreply =>
    obtain rfl := Option.mem_unique hst hst₀
    rcases bind_outcome hreq hreply with ⟨attempts, retryAfter, hafter, -⟩ | ⟨-, -, haccepted⟩
    · rw [hafter] at hlookup
      exact ⟨_, hlookup, hflag⟩
    · -- An accepted request would have found the flag unset.
      have hunset := (hreset _ (hout ▸ haccepted _ _) st hst).2
      rw [hflag] at hunset
      cases hunset

/-- Nothing of a session that has fallen back comes through RUDP. -/
theorem not_forwardsInner (h : s.FellBack sid) : ¬ForwardsInner sid (happening cfg s i) := by
  rintro ⟨e, d, now, bindNow, order, hinput, hrudp, hsession, hforwarded⟩
  obtain ⟨st, hst, hflag⟩ := h
  obtain ⟨after, out, -, hout, htouched⟩ := touched_step cfg s sid i
  have hevent : (happening cfg s i).output = out := hout
  rw [hevent] at hsession hforwarded
  cases htouched with
  | apart _ hapart => exact hapart.session hsession
  | opened | issued | closed => cases hinput
  | data _ hst₀ _ _ hfw =>
    obtain rfl := Option.mem_unique hst hst₀
    cases hinput
    exact hforwarded (hfw.trans (forwarded_of_fallback _ _ _ _ hflag hrudp))
  | bound _ _ _ _ hnone => cases hnone.symm.trans hsession

/-! ### The life of a ticket -/

/-- A step in the life of a session's ticket that resets nothing. -/
def Protected (cfg : BindConfig) (sid : Bytes) (s : UdpGateway) (i : Input) : Prop :=
  ¬Ends sid (happening cfg s i) ∧ ResetsNothing cfg sid s i

theorem fellBack_run (h : s.FellBack sid) {is : List Input}
    (hlife : (machine cfg).Guarded (Protected cfg sid) s is) :
    ∀ ev ∈ (machine cfg).trace s is, ¬ForwardsInner sid ev := by
  induction is generalizing s with
  | nil => exact fun ev hev => absurd hev not_mem_nil
  | cons i is ih =>
    rw [Machine.trace_cons, forall_mem_cons]
    exact ⟨not_forwardsInner h, ih (fellBack_step h hlife.1.1 hlife.1.2) hlife.2⟩

/-- A ticket starts a clean life. -/
theorem guarding_issued {nonce now : UInt64} {ticket : UdpBindTicket}
    (hticket : (s.step cfg (.ticket sid nonce now)).2.ticket = some ticket) :
    Guarding cfg sid [] (s.step cfg (.ticket sid nonce now)).1 := by
  cases hst : s.sessions.lookup sid with
  | none => simp [step, issueTicket, hst] at hticket
  | some st =>
    cases htoken : tokenFor cfg sid nonce now with
    | none => simp [step, issueTicket, hst, htoken] at hticket
    | some token =>
      simp only [step, issueTicket, hst, htoken]
      refine ⟨_, Finmap.lookup_insert s.sessions, fun _ => rfl, fun x hx => ?_, List.Pairwise.nil⟩
      cases hx

/-- **Replay protection.** In every state a ticket is issued to a session; until its next ticket or
    its end every accepted bind request finds the tracker unused and the flag unset.  Then the
    sequenced frames that are forwarded for the session over plain UDP have strictly increasing
    numbers, and once the session has fallen back no inner frame of it is forwarded. -/
theorem replay_protected {nonce now : UInt64} {ticket : UdpBindTicket} {is : List Input}
    (hticket : (s.step cfg (.ticket sid nonce now)).2.ticket = some ticket)
    (hlife : (machine cfg).Guarded (Protected cfg sid) (s.step cfg (.ticket sid nonce now)).1 is) :
    (sequencedSeqs cfg sid
        ((machine cfg).trace (s.step cfg (.ticket sid nonce now)).1 is)).Pairwise (· < ·) ∧
      ∀ before after, is = before ++ after →
        ((machine cfg).run (s.step cfg (.ticket sid nonce now)).1 before).FellBack sid →
        ∀ ev ∈ (machine cfg).trace
            ((machine cfg).run (s.step cfg (.ticket sid nonce now)).1 before) after,
          ¬ForwardsInner sid ev := by
  refine ⟨?_, ?_⟩
  · obtain ⟨st, -, -, -, hsorted⟩ := (machine cfg).guarded_trace_invariant (Guarding cfg sid)
      (Protected cfg sid) (fun tr s i h hi => guarding_step h hi.1 hi.2) (guarding_issued hticket)
      hlife
    exact hsorted
  · rintro before after rfl hfell
    exact fellBack_run hfell ((machine cfg).guarded_append _ _ before after |>.mp hlife).2

/-- A gateway with one game message, `0x0200`, which is sequenced and allowed on UDP. -/
def sequencedConfig : BindConfig :=
  { plainConfig with
    udp :=
      { game :=
          { opcodeName := fun msgId => if msgId = 0x0200 then "MSG_STATE" else ""
            opcodePolicy := fun _ =>
              { transport := .kBoth, delivery := .kUnreliableSequenced } }
        udpOpcodeAllowlist := [0x0200] } }

/-- A session is created. -/
def withSession : UdpGateway := (machine sequencedConfig).run {} [.opening [1]]

/-- It gets a ticket that expires at 6000. -/
def withTicket : UdpGateway := (withSession.step sequencedConfig (.ticket firstSession 5 1000)).1

/-- The client presents its ticket. -/
def present (now : UInt64) : Input :=
  .datagram ⟨"10.0.0.9", 4000⟩ (bindDatagram ⟨firstSession, 5, 6000, [0x61]⟩) now now []

/-- The client sends a sequenced frame. -/
def sendState (seq : UInt32) (now : UInt64) : Input :=
  .datagram ⟨"10.0.0.9", 4000⟩ (encodeHeader { msgId := 0x0200, seq := seq }) now now [firstSession]

/-- A life of a ticket in which only the first request is accepted. -/
theorem protected_fresh : (machine sequencedConfig).Guarded (Protected sequencedConfig firstSession)
    withTicket [present 1001, sendState 9 1002, sendState 10 1003] := by
  have hunused : ((withTicket.sessions.lookup firstSession).all fun st =>
      !st.udp.udpSequencedMetrics.initialized && !st.udp.rudpFallbackToTcp) = true := by
    decide +kernel
  have hdata : ∀ (s : UdpGateway) (seq : UInt32) (now : UInt64),
      isBindRequest (encodeHeader { msgId := 0x0200, seq := seq }) = false →
      Protected sequencedConfig firstSession s (sendState seq now) := by
    intro s seq now hnot
    refine ⟨not_ends_datagram, fun e haccepted => ?_⟩
    simp [sendState, acceptedBind, hnot] at haccepted
  refine ⟨⟨not_ends_datagram, fun e _ st hst => ?_⟩, hdata _ 9 1002 (by decide +kernel),
    hdata _ 10 1003 (by decide +kernel), trivial⟩
  rw [hst] at hunused
  simpa using hunused

/-- Frames 9 and 10 are forwarded in this order. -/
theorem replay_protected_fresh :
    sequencedSeqs sequencedConfig firstSession ((machine sequencedConfig).trace withTicket
        [present 1001, sendState 9 1002, sendState 10 1003]) = [9, 10] ∧
      (sequencedSeqs sequencedConfig firstSession ((machine sequencedConfig).trace withTicket
        [present 1001, sendState 9 1002, sendState 10 1003])).Pairwise (· < ·) := by
  have hticket : (withSession.step sequencedConfig (.ticket firstSession 5 1000)).2.ticket =
      some ⟨firstSession, 5, 6000, [0x61]⟩ := by decide +kernel
  exact ⟨by decide +kernel, (replay_protected hticket protected_fresh).1⟩

/-- **An old frame gets through again.** The client binds, sends frame 9, binds again and sends
    frame 9 again: both are forwarded. -/
theorem sequence_replayed :
    sequencedSeqs sequencedConfig firstSession ((machine sequencedConfig).trace withTicket
      [present 1001, sendState 9 1002, present 1003, sendState 9 1004]) = [9, 9] := by
  decide +kernel

end Knights.Gateway.UdpGateway
