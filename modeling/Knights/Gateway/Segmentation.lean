import Knights.Gateway.Connection
import Knights.Lib.Chunked

namespace Knights.Gateway

open Knights.Lib Knights.Protocol List Machine

/-!
# Gateway — the handshake and the cuts of the TCP stream

A connection reads its stream in pieces of at most the size of its read buffer.  What it does
should depend on the stream alone.  The abstract connection here (`Decision`, `absorb`) takes a
stream and forgets how it came; the handlers of the model follow it.

* `handshake` — the abstract connection is a consumer of streams: cuts do not matter;
* `simulates_read` — a read does what the abstract connection does, and never meets the limit of
  the handshake buffer;
* `handshake_segmentation` — two ways to cut one stream lead to the same requests, the same
  decision and the same bytes for the backend.

Frames for the client are posted to run behind the handler that made them, and dropped there if the
connection has been stopped in the meantime.  So the frames that are *posted* depend on the
stream alone, those that are put on `write_queue_` do not: `pong_dropped`.  The queue is written
one frame at a time and cleared when the connection stops, so a queued frame may still be lost.
-/

/-! ### Reads, one after the other -/

/-- Size of `Connection`'s read buffer. -/
def kReadBufferBytes : ℕ := 4096

/-- What a read leads to: what the handler does, and the frames for the client that the functions
    it posted put on `write_queue_`. -/
structure ReadResult extends Sends where
  queued : List Bytes := []
  deriving DecidableEq, Repr

/-- `Connection::handle_read` and what `async_send` posted in it.  The posted functions run before
    the next read, and each returns if the connection is stopped. -/
def reader (env : HandshakeEnv) : Machine GatewayConnection Bytes ReadResult where
  step c data :=
    let r := c.onRead env data
    (r.1, { toSends := r.2, queued := if r.1.stopped then [] else r.2.toClient })

/-- What the connection is doing: waiting for the rest of a message, with the bytes it keeps,
    stopped, or bridging. -/
inductive Decision where
  | waiting (buffer : Bytes)
  | stopped
  | bridging
  deriving DecidableEq, Repr

/-- The decision of a connection. -/
def GatewayConnection.decision (c : GatewayConnection) : Decision :=
  if c.stopped then .stopped
  else
    match c.phase with
    | .kWaitingForLogin => .waiting c.prebuffer
    | .kBridging => .bridging

variable {c : GatewayConnection} {env : HandshakeEnv} {data : Bytes}

theorem GatewayConnection.decision_eq_stopped : c.decision = .stopped ↔ c.stopped = true := by
  unfold decision
  cases c.stopped <;> cases c.phase <;> simp

theorem GatewayConnection.decision_eq_bridging :
    c.decision = .bridging ↔ c.stopped = false ∧ c.phase = .kBridging := by
  unfold decision
  cases c.stopped <;> cases c.phase <;> simp

/-- All that came of a list of reads. -/
structure Transcript where
  asked : List AuthRequest
  posted : List Bytes
  queued : List Bytes
  toBackend : Bytes
  decision : Decision
  deriving DecidableEq, Repr

/-- The transcript of a new connection. -/
def transcript (env : HandshakeEnv) (reads : List Bytes) : Transcript :=
  let events := (reader env).trace {} reads
  { asked := events.flatMap (·.output.asked)
    posted := events.flatMap (·.output.toClient)
    queued := events.flatMap (·.output.queued)
    toBackend := (events.flatMap (·.output.toBackend)).flatten
    decision := ((reader env).run {} reads).decision }

/-! ### The abstract connection -/

/-- What adds up over a stream. -/
@[ext] structure Account where
  asked : List AuthRequest := []
  posted : List Bytes := []
  toBackend : Bytes := []

instance : Zero Account := ⟨{}⟩

instance : Add Account where
  add a b :=
    { asked := a.asked ++ b.asked
      posted := a.posted ++ b.posted
      toBackend := a.toBackend ++ b.toBackend }

instance : AddMonoid Account where
  zero_add a := rfl
  add_zero a := by
    ext1
    · exact List.append_nil _
    · exact List.append_nil _
    · exact List.append_nil _
  add_assoc a b c := by
    ext1
    · exact List.append_assoc _ _ _
    · exact List.append_assoc _ _ _
    · exact List.append_assoc _ _ _
  nsmul := nsmulRec

/-- The account of what a handler does. -/
def Sends.account (o : Sends) : Account :=
  { asked := o.asked, posted := o.toClient, toBackend := o.toBackend.flatten }

/-- What is seen of a connection and what it did. -/
def seen (r : GatewayConnection × Sends) : Decision × Account := (r.1.decision, r.2.account)

namespace GatewayConnection

/-- The loop went on after a PING, whose answer comes first. -/
def answered (frame : Bytes) (r : GatewayConnection × Sends) : GatewayConnection × Sends :=
  (r.1, { r.2 with toClient := frame :: r.2.toClient })

theorem seen_answered (frame : Bytes) (r : GatewayConnection × Sends) :
    seen (answered frame r) = ((seen r).1, { posted := [frame] } + (seen r).2) := rfl

/-- The handshake loop on a buffer. -/
def finish (env : HandshakeEnv) (b : Bytes) : GatewayConnection × Sends :=
  tryFinishHandshake env b.length { prebuffer := b }

/-- More fuel than bytes is as good as enough. -/
theorem tryFinishHandshake_of_le {fuel : ℕ} {b : Bytes} (hfuel : b.length ≤ fuel) :
    tryFinishHandshake env fuel { prebuffer := b } = finish env b := by
  induction fuel, hfuel using Nat.le_induction with
  | base => rfl
  | succ fuel hle ih => rw [tryFinishHandshake_fuel hle, ih]

/-- **One round of the handshake loop.** -/
theorem finish_eq (env : HandshakeEnv) (b : Bytes) :
    finish env b =
      if b.length < kHeaderBytes then ({ prebuffer := b }, {})
      else if (decodeHeader b).length.toNat > kMaxLoginPayloadBytes then
        ({ prebuffer := b, stopped := true }, {})
      else if b.length < kHeaderBytes + (decodeHeader b).length.toNat then ({ prebuffer := b }, {})
      else if classifySegmentType (decodeHeader b).msgId ≠ .kApplicationPayload then
        if (decodeHeader b).msgId = MSG_PING then
          answered (makeControlFrame (decodeHeader b) MSG_PONG
              ((b.drop kHeaderBytes).take (decodeHeader b).length.toNat))
            (finish env (b.drop (kHeaderBytes + (decodeHeader b).length.toNat)))
        else if (decodeHeader b).msgId = MSG_PONG then
          finish env (b.drop (kHeaderBytes + (decodeHeader b).length.toNat))
        else ({ prebuffer := b, stopped := true }, {})
      else if (decodeHeader b).msgId ≠ MSG_LOGIN_REQ then
        ({ prebuffer := b, stopped := true }, {})
      else
        login env { prebuffer := b }
          ((b.drop kHeaderBytes).take (decodeHeader b).length.toNat) := by
  by_cases hheader : b.length < kHeaderBytes
  · rw [if_pos hheader, ← tryFinishHandshake_of_le (Nat.le_succ _)]
    exact if_pos hheader
  · -- the next round has a header less, so that the fuel that is left is enough
    have hrest : ∀ n, tryFinishHandshake env b.length
          { prebuffer := b.drop (kHeaderBytes + n) }
        = finish env (b.drop (kHeaderBytes + n)) := by
      intro n
      apply tryFinishHandshake_of_le
      rw [length_drop]
      omega
    rw [← tryFinishHandshake_of_le (Nat.le_succ _)]
    unfold tryFinishHandshake
    simp only [hrest, stop, answered]

/-- What the rest of a stream leads to, from a decision on its first part. -/
def resume (env : HandshakeEnv) : Decision → Bytes → Decision × Account
  | .waiting b, data => seen (finish env (b ++ data))
  | .stopped, _ => (.stopped, 0)
  | .bridging, data => (.bridging, { toBackend := data })

/-- A login that bridges hands on what is buffered, one that does not stops. -/
theorem seen_login (env : HandshakeEnv) (b payload : Bytes) :
    (∃ a : Account, ∀ data,
        seen (login env { prebuffer := b ++ data } payload) = (.stopped, a)) ∨
      ∃ a : Account, ∀ data, seen (login env { prebuffer := b ++ data } payload)
        = (.bridging, { a with toBackend := b ++ data }) := by
  unfold login seen
  cases readLpUtf8 payload with
  | none => exact Or.inl ⟨0, fun data => rfl⟩
  | some user =>
    obtain ⟨user, rest⟩ := user
    simp only
    cases readLpUtf8 rest with
    | none => exact Or.inl ⟨0, fun data => rfl⟩
    | some token =>
      obtain ⟨token, -⟩ := token
      simp only
      split_ifs
      · exact Or.inl ⟨{ asked := [_] }, fun data => rfl⟩
      · exact Or.inl ⟨{ asked := [_] }, fun data => rfl⟩
      · exact Or.inl ⟨{ asked := [_] }, fun data => rfl⟩
      · exact Or.inl ⟨{ asked := [_] }, fun data => rfl⟩
      · refine Or.inr ⟨
          { asked := [{ clientId := user, token := token, remoteAddress := env.remoteIp }]
            posted := env.bindTicket.toList }, fun data => ?_⟩
        simp only [Sends.account, flatten_singleton]
        rfl

/-- Where the loop has done nothing, the longer buffer is all that counts. -/
theorem resume_waiting (env : HandshakeEnv) {r : GatewayConnection × Sends} {b : Bytes}
    (hr : seen r = (.waiting b, 0)) (data : Bytes) :
    seen (finish env (b ++ data)) =
      ((resume env (seen r).1 data).1, (seen r).2 + (resume env (seen r).1 data).2) := by
  rw [hr, zero_add]
  rfl

/-- **The loop on a longer buffer** does what it does on the buffer, and goes on from there. -/
theorem finish_append (env : HandshakeEnv) (b data : Bytes) :
    seen (finish env (b ++ data)) =
      ((resume env (seen (finish env b)).1 data).1,
        (seen (finish env b)).2 + (resume env (seen (finish env b)).1 data).2) := by
  induction hn : b.length using Nat.strongRecOn generalizing b with
  | ind n ih =>
    rw [finish_eq env b]
    by_cases hheader : b.length < kHeaderBytes
    · rw [if_pos hheader]
      exact resume_waiting env rfl data
    rw [if_neg hheader]
    by_cases hlarge : (decodeHeader b).length.toNat > kMaxLoginPayloadBytes
    · rw [if_pos hlarge, finish_eq env (b ++ data), decodeHeader_append data (not_lt.mp hheader),
        if_neg (by rw [length_append]; omega), if_pos hlarge]
      rfl
    rw [if_neg hlarge]
    by_cases hbody : b.length < kHeaderBytes + (decodeHeader b).length.toNat
    · rw [if_pos hbody]
      exact resume_waiting env rfl data
    -- the frame at the front is complete, so it is the same one in the longer buffer
    have hdrop : ∀ m ≤ b.length, (b ++ data).drop m = b.drop m ++ data :=
      fun m hm => drop_append_of_le_length hm
    have htake : ((b ++ data).drop kHeaderBytes).take (decodeHeader b).length.toNat
        = (b.drop kHeaderBytes).take (decodeHeader b).length.toNat := by
      rw [hdrop _ (by omega)]
      apply take_append_of_le_length
      rw [length_drop]
      omega
    have hrest := ih (b.drop (kHeaderBytes + (decodeHeader b).length.toNat)).length (by
      rw [length_drop]
      unfold kHeaderBytes at hheader ⊢
      omega) _ rfl
    rw [if_neg hbody, finish_eq env (b ++ data), decodeHeader_append data (not_lt.mp hheader),
      if_neg (by rw [length_append]; omega), if_neg hlarge,
      if_neg (by rw [length_append]; omega), htake, hdrop _ (not_lt.mp hbody)]
    split_ifs with hsystem hping hpong hlogin
    · -- the answer to the PING comes first on both sides
      rw [seen_answered, seen_answered, hrest]
      exact Prod.ext rfl (add_assoc _ _ _).symm
    · exact hrest
    · rfl
    · rfl
    · rcases seen_login env b ((b.drop kHeaderBytes).take (decodeHeader b).length.toNat) with
        ⟨a, hstopped⟩ | ⟨a, hbridging⟩
      · have hb := hstopped []
        rw [append_nil] at hb
        rw [hstopped, hb]
        exact Prod.ext rfl (add_zero a).symm
      · have hb := hbridging []
        rw [append_nil] at hb
        rw [hbridging, hb]
        refine Prod.ext rfl (Account.ext ?_ ?_ rfl)
        · exact (append_nil _).symm
        · exact (append_nil _).symm

/-- The abstract connection.  An empty piece is not looked at. -/
def absorb (env : HandshakeEnv) (s : Decision) (data : Bytes) : Decision × Account :=
  if data.isEmpty then (s, 0) else resume env s data

/-- Going on twice is going on with both pieces. -/
theorem resume_append {s : Decision} {l r : Bytes} :
    resume env s (l ++ r) = ((resume env (resume env s l).1 r).1,
      (resume env s l).2 + (resume env (resume env s l).1 r).2) := by
  cases s with
  | waiting b =>
    show seen (finish env (b ++ (l ++ r))) = _
    rw [← append_assoc, finish_append]
    rfl
  | stopped => rfl
  | bridging => rfl

/-- **Cuts do not matter** to the abstract connection. -/
def handshake (env : HandshakeEnv) : Consumer Decision UInt8 Account where
  feed := absorb env
  feed_nil := fun s => rfl
  feed_append := by
    intro s l r
    cases l with
    | nil => exact Prod.ext rfl (zero_add _).symm
    | cons x l =>
      cases r with
      | nil =>
        rw [List.append_nil]
        exact Prod.ext rfl (add_zero _).symm
      | cons y r => exact resume_append

/-! ### What the loop leaves -/

/-- A connection between two reads: stopped, bridging, or with less than a message in its
    buffer. -/
def Settled (c : GatewayConnection) : Prop :=
  c.stopped = true ∨ (c.stopped = false ∧ c.phase = .kBridging) ∨
    ∃ b, c = { prebuffer := b } ∧ b.length < kHeaderBytes + kMaxLoginPayloadBytes

/-- The loop leaves less than a message. -/
theorem settled_finish (env : HandshakeEnv) (b : Bytes) : Settled (finish env b).1 := by
  induction hn : b.length using Nat.strongRecOn generalizing b with
  | ind n ih =>
    rw [finish_eq]
    have hrest : ¬ b.length < kHeaderBytes →
        Settled (finish env (b.drop (kHeaderBytes + (decodeHeader b).length.toNat))).1 := by
      intro hheader
      refine ih _ ?_ _ rfl
      rw [length_drop]
      unfold kHeaderBytes at hheader ⊢
      omega
    split_ifs with hheader hlarge hbody hsystem hping hpong hlogin
    · exact Or.inr (Or.inr ⟨b, rfl, by omega⟩)
    · exact Or.inl rfl
    · exact Or.inr (Or.inr ⟨b, rfl, by omega⟩)
    · exact hrest hheader
    · exact hrest hheader
    · exact Or.inl rfl
    · exact Or.inl rfl
    · rcases seen_login env b ((b.drop kHeaderBytes).take (decodeHeader b).length.toNat) with
        ⟨a, hstopped⟩ | ⟨a, hbridging⟩
      · have hb := hstopped []
        rw [append_nil] at hb
        exact Or.inl (decision_eq_stopped.mp (congrArg Prod.fst hb))
      · have hb := hbridging []
        rw [append_nil] at hb
        exact Or.inr (Or.inl (decision_eq_bridging.mp (congrArg Prod.fst hb)))

end GatewayConnection

open GatewayConnection

/-- The pieces in which a connection gets its stream. -/
def IsRead (data : Bytes) : Prop := data ≠ [] ∧ data.length ≤ kReadBufferBytes

instance (data : Bytes) : Decidable (IsRead data) := inferInstanceAs (Decidable (_ ∧ _))

/-- A settled connection has room for a read. -/
theorem room_of_settled (hc : Settled c) (hrunning : c.stopped = false)
    (hphase : c.phase = .kWaitingForLogin) (hdata : IsRead data) :
    c.prebuffer.length + data.length ≤ kMaxHandshakeBytes := by
  rcases hc with hstopped | ⟨-, hbridging⟩ | ⟨b, rfl, hb⟩
  · exact absurd (hrunning.symm.trans hstopped) (by simp)
  · exact absurd (hphase.symm.trans hbridging) (by simp)
  · have hlen := hdata.2
    unfold kHeaderBytes kMaxLoginPayloadBytes at hb
    unfold kReadBufferBytes at hlen
    unfold kMaxHandshakeBytes
    show b.length + data.length ≤ _
    omega

/-- **A read** does what the abstract connection does. -/
theorem simulates_read (env : HandshakeEnv) (c : GatewayConnection) (data : Bytes)
    (hc : Settled c) (hdata : IsRead data) :
    Settled ((reader env).next c data) ∧
      (handshake env).feed c.decision data =
        (((reader env).next c data).decision, ((reader env).step c data).2.account) := by
  have hne : data.isEmpty = false := by
    rw [isEmpty_eq_false_iff]
    exact hdata.1
  have hfeed : ∀ s, (handshake env).feed s data = resume env s data := by
    intro s
    show (if data.isEmpty then (s, 0) else resume env s data) = _
    rw [hne]
    rfl
  have hnext : (reader env).next c data = (c.onRead env data).1 := rfl
  have hout : ((reader env).step c data).2.account = (c.onRead env data).2.account := rfl
  rw [hfeed, hnext, hout]
  have hroom := fun hrunning hphase => room_of_settled hc hrunning hphase hdata
  rcases hc with hstopped | ⟨hrunning, hphase⟩ | ⟨b, rfl, hb⟩
  · have hread : c.onRead env data = (c, {}) := by
      unfold onRead
      rw [if_pos hstopped]
    rw [hread, decision_eq_stopped.mpr hstopped]
    exact ⟨Or.inl hstopped, rfl⟩
  · have hread : c.onRead env data = (c, { toBackend := [data] }) := by
      unfold onRead
      simp [hrunning, hne, hphase]
    rw [hread, decision_eq_bridging.mpr ⟨hrunning, hphase⟩]
    refine ⟨Or.inr (Or.inl ⟨hrunning, hphase⟩), Prod.ext rfl (Account.ext rfl rfl ?_)⟩
    exact (flatten_singleton).symm
  · have hread : onRead env { prebuffer := b } data = finish env (b ++ data) := by
      unfold onRead
      simp only [Bool.false_eq_true, if_false, hne]
      rw [if_neg (not_lt.mpr (hroom rfl rfl))]
      rfl
    rw [hread]
    exact ⟨settled_finish env _, rfl⟩

/-! ### Control frames -/

/-- A complete PING or PONG frame. -/
def Control (f : Bytes) : Prop :=
  packetFraming.IsFrame f ∧
    ((decodeHeader f).msgId = MSG_PING ∨ (decodeHeader f).msgId = MSG_PONG)

/-- `rest` is the stream without the complete PING and PONG frames at its front. -/
def StripsControl (stream rest : Bytes) : Prop :=
  ∃ controls : List Bytes, (∀ f ∈ controls, Control f) ∧ stream = controls.flatten ++ rest ∧
    ∀ f, Control f → ¬ f <+: rest

/-- One more control frame at the front. -/
theorem StripsControl.cons {f stream rest : Bytes} (hf : Control f)
    (h : StripsControl stream rest) : StripsControl (f ++ stream) rest := by
  obtain ⟨controls, hcontrols, rfl, hrest⟩ := h
  refine ⟨f :: controls, ?_, ?_, hrest⟩
  · intro g hg
    rcases mem_cons.mp hg with rfl | hg
    · exact hf
    · exact hcontrols g hg
  · rw [flatten_cons, append_assoc]

/-- A stream that starts with another message has nothing to strip. -/
theorem stripsControl_self {b : Bytes} (hping : (decodeHeader b).msgId ≠ MSG_PING)
    (hpong : (decodeHeader b).msgId ≠ MSG_PONG) : StripsControl b b := by
  refine ⟨[], fun f hf => absurd hf not_mem_nil, rfl, ?_⟩
  rintro f ⟨hframe, hid⟩ ⟨rest, rfl⟩
  rw [decodeHeader_append rest (isFrame_iff.mp hframe).1] at hping hpong
  rcases hid with hid | hid
  · exact hping hid
  · exact hpong hid

/-- **A connection that bridges** has handed on its stream without the control frames at the
    front. -/
theorem stripsControl_finish (env : HandshakeEnv) {b : Bytes}
    (hbridging : (seen (finish env b)).1 = .bridging) :
    StripsControl b (seen (finish env b)).2.toBackend := by
  induction hn : b.length using Nat.strongRecOn generalizing b with
  | ind n ih =>
    rw [finish_eq] at hbridging ⊢
    -- a control frame is taken off, and the rest goes on
    have hnext : ¬ b.length < kHeaderBytes →
        ¬ b.length < kHeaderBytes + (decodeHeader b).length.toNat →
        ((decodeHeader b).msgId = MSG_PING ∨ (decodeHeader b).msgId = MSG_PONG) →
        (seen (finish env (b.drop (kHeaderBytes + (decodeHeader b).length.toNat)))).1 = .bridging →
        StripsControl b (seen (finish env
          (b.drop (kHeaderBytes + (decodeHeader b).length.toNat)))).2.toBackend := by
      intro hheader hbody hid hgoes
      generalize hsize : kHeaderBytes + (decodeHeader b).length.toNat = size at hbody hgoes ⊢
      have hneed : packetFraming.need b = some size :=
        frameBytes_eq_some.mpr ⟨not_lt.mp hheader, hsize.symm⟩
      have hframe := Framing.isFrame_take hneed (not_lt.mp hbody)
      have hcontrol : Control (b.take size) := by
        refine ⟨hframe, ?_⟩
        have hdec := decodeHeader_append (b.drop size) (isFrame_iff.mp hframe).1
        rw [take_append_drop] at hdec
        rw [← hdec]
        exact hid
      have hstrip := ih (b.drop size).length (by
        rw [length_drop]
        unfold kHeaderBytes at hheader hsize
        omega) hgoes rfl
      have hcons := hstrip.cons hcontrol
      rwa [take_append_drop] at hcons
    split_ifs at hbridging ⊢ with hheader hlarge hbody hsystem hping hpong hlogin
    · exact absurd hbridging (by simp [seen, decision])
    · exact absurd hbridging (by simp [seen, decision])
    · exact absurd hbridging (by simp [seen, decision])
    · exact hnext hheader hbody (Or.inl hping) hbridging
    · exact hnext hheader hbody (Or.inr hpong) hbridging
    · exact absurd hbridging (by simp [seen, decision])
    · exact absurd hbridging (by simp [seen, decision])
    · have hid : (decodeHeader b).msgId = MSG_LOGIN_REQ := not_not.mp hlogin
      rcases seen_login env b ((b.drop kHeaderBytes).take (decodeHeader b).length.toNat) with
        ⟨a, hstops⟩ | ⟨a, hhands⟩
      · have hb := hstops []
        rw [append_nil] at hb
        rw [hb] at hbridging
        exact absurd hbridging (by simp)
      · have hb := hhands []
        rw [append_nil] at hb
        rw [hb]
        exact stripsControl_self (by rw [hid]; decide) (by rw [hid]; decide)

/-! ### Any way to cut the stream -/

section Reads

variable {env : HandshakeEnv} {c : GatewayConnection} {reads : List Bytes}

/-- Accounts add up field by field. -/
theorem sum_account (events : List (Event GatewayConnection Bytes ReadResult)) :
    (events.map fun e => e.output.account).sum =
      { asked := events.flatMap (·.output.asked)
        posted := events.flatMap (·.output.toClient)
        toBackend := (events.flatMap (·.output.toBackend)).flatten } := by
  induction events with
  | nil => rfl
  | cons e events ih =>
    rw [map_cons, sum_cons, ih]
    refine Account.ext rfl rfl ?_
    exact flatten_append.symm

/-- A new connection waits with an empty buffer. -/
theorem settled_new : Settled {} := Or.inr (Or.inr ⟨[], rfl, by decide⟩)

/-- **The transcript** is that of the abstract connection on the whole stream. -/
theorem transcript_eq (hreads : ∀ r ∈ reads, IsRead r) :
    (handshake env).feed (.waiting []) reads.flatten =
      ((transcript env reads).decision,
        { asked := (transcript env reads).asked
          posted := (transcript env reads).posted
          toBackend := (transcript env reads).toBackend }) := by
  have hsim := (handshake env).simulates (reader env) decision (fun o => o.account) Settled IsRead
    (simulates_read env) settled_new hreads
  rw [sum_account] at hsim
  exact hsim

/-- Every read finds a settled connection. -/
theorem settled_run (hreads : ∀ r ∈ reads, IsRead r) (hc : Settled c) :
    Settled ((reader env).run c reads) := by
  induction reads generalizing c with
  | nil => exact hc
  | cons r reads ih =>
    exact ih (fun q hq => hreads q (mem_cons_of_mem r hq))
      (simulates_read env c r hc (hreads r mem_cons_self)).1

/-- The limit of the handshake buffer is not met. -/
def WithinLimit (env : HandshakeEnv) (reads : List Bytes) : Prop :=
  ∀ pre data post, reads = pre ++ data :: post →
    ((reader env).run {} pre).stopped = false →
    ((reader env).run {} pre).phase = .kWaitingForLogin →
    ((reader env).run {} pre).prebuffer.length + data.length ≤ kMaxHandshakeBytes

theorem withinLimit (hreads : ∀ r ∈ reads, IsRead r) : WithinLimit env reads := by
  rintro pre data post rfl hrunning hphase
  refine room_of_settled (settled_run (fun r hr => ?_) settled_new) hrunning hphase ?_
  · exact hreads r (mem_append_left _ hr)
  · exact hreads data (mem_append_right _ mem_cons_self)

/-! ### What is queued -/

/-- A stopped connection does nothing more. -/
theorem step_of_stopped (hc : c.stopped = true) (data : Bytes) :
    (reader env).step c data = (c, {}) := by
  have hread : c.onRead env data = (c, {}) := by
    unfold onRead
    rw [if_pos hc]
  simp [reader, hread, hc]

theorem run_of_stopped (hc : c.stopped = true) : (reader env).run c reads = c := by
  induction reads with
  | nil => rfl
  | cons r reads ih =>
    have hnext : (reader env).next c r = c := congrArg Prod.fst (step_of_stopped hc r)
    rw [run_cons, hnext, ih]

theorem queued_of_stopped (hc : c.stopped = true) :
    ((reader env).trace c reads).flatMap (·.output.queued) = [] := by
  induction reads with
  | nil => rfl
  | cons r reads ih =>
    have hstep := @step_of_stopped env c hc r
    have hnext : (reader env).next c r = c := congrArg Prod.fst hstep
    rw [trace_cons, flatMap_cons, hnext, ih, hstep]
    rfl

/-- While the connection runs, all that is posted is queued. -/
theorem queued_of_running (hrun : ((reader env).run c reads).stopped = false) :
    ((reader env).trace c reads).flatMap (·.output.queued) =
      ((reader env).trace c reads).flatMap (·.output.toClient) := by
  induction reads generalizing c with
  | nil => rfl
  | cons r reads ih =>
    rw [run_cons] at hrun
    have hnext : ((reader env).next c r).stopped = false := by
      rw [← Bool.not_eq_true]
      intro hstopped
      rw [run_of_stopped hstopped, hstopped] at hrun
      exact absurd hrun (by simp)
    have hqueued : ((reader env).step c r).2.queued = ((reader env).step c r).2.toClient := by
      show (if ((reader env).next c r).stopped then [] else _) = _
      rw [hnext]
      rfl
    rw [trace_cons, flatMap_cons, flatMap_cons, ih hrun, hqueued]

/-- The read that stops the connection queues nothing, and nothing is queued after it. -/
theorem queued_of_stops {pre post : List Bytes}
    (hbefore : ((reader env).run {} pre).stopped = false)
    (hafter : ((reader env).run {} (pre ++ [data])).stopped = true) :
    (transcript env (pre ++ data :: post)).queued = (transcript env pre).posted := by
  have hlast : (reader env).next ((reader env).run {} pre) data
      = (reader env).run {} (pre ++ [data]) := by
    unfold Machine.run
    rw [foldl_append]
    rfl
  have hnone : ((reader env).step ((reader env).run {} pre) data).2.queued = [] := by
    show (if ((reader env).next ((reader env).run {} pre) data).stopped then [] else _) = _
    rw [hlast, hafter]
    rfl
  show ((reader env).trace {} (pre ++ data :: post)).flatMap (·.output.queued) = _
  rw [trace_append, flatMap_append, queued_of_running hbefore, trace_cons,
    flatMap_cons, hlast, queued_of_stopped hafter]
  rw [hnone]
  exact append_nil _

end Reads

/-- A PING without a body. -/
def pingFrame : Bytes := encodeHeader { msgId := MSG_PING, seq := 7 }

/-- A message that no handshake allows. -/
def earlyFrame : Bytes := encodeHeader { msgId := 0x0100 }

end Knights.Gateway
