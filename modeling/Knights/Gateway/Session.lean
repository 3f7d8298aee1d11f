import Knights.Gateway.Connection
import Knights.Gateway.UdpIngress

namespace Knights.Gateway

open Knights.Lib Knights.Protocol Knights.Rudp List Machine

/-!
# Gateway — one session, two ways to its backend

A session has one `BackendConnection`, and two handlers write to it: the client connection hands on
what it reads from TCP, however the stream is cut into reads, and the UDP handler hands on the
frames of the bound endpoint.  Both sources are chunks of one byte stream to the backend
(`first` is TCP, `second` is UDP).

* `forwards_step` — what is written of TCP is what was read, but for dropped frames;
* `aligned_iff_guarded` — when the UDP frames arrive between TCP frames;
* `frames_intact_iff` — exactly then all frames stay whole.
-/

/-! ### The model -/

/-- A session of a client.  `received` is history that no step reads: all bytes of the TCP stream
    so far. -/
structure Session where
  connection : GatewayConnection := {}
  udp : UdpSession := {}
  received : Bytes := []

/-- Something that reaches the gateway from a client: a piece of its TCP stream, a bind request that
    is accepted, or another datagram of its endpoint. -/
inductive Input where
  | read (data : Bytes)
  | bind
  | datagram (d : Datagram) (now : UInt64)
  deriving DecidableEq

/-- The session is in the gateway's table. -/
def Session.live (s : Session) : Bool := s.connection.phase == .kBridging && !s.connection.stopped

/-- The session as a machine; its outputs are the calls of `BackendConnection::send`. -/
def session (env : HandshakeEnv) (cfg : UdpConfig) :
    Machine Session Input (List (Chunk UInt8)) where
  step s a :=
    match a with
    | .read data =>
      let r := s.connection.onRead env data
      ({ s with connection := r.1, received := s.received ++ data },
        r.2.toBackend.map fun buffer => (.first, buffer))
    | .bind => if s.live then ({ s with udp := s.udp.bind cfg }, []) else (s, [])
    | .datagram d now =>
      if s.live then
        let r := s.udp.receive cfg d now
        ({ s with udp := r.1 }, r.2.forwarded.map fun frame => (.second, frame))
      else (s, [])

/-- A session before its first byte; the ticket will decide about RUDP. -/
def Session.start (rudpSelected : Bool) : Session := { udp := { rudpSelected := rudpSelected } }

/-- The client's TCP stream. -/
def tcpStream (inputs : List Input) : Bytes :=
  inputs.flatMap fun
    | .read data => data
    | .bind => []
    | .datagram _ _ => []

section Run

variable (env : HandshakeEnv) (cfg : UdpConfig)

/-- Everything handed to `BackendConnection::send`. -/
def sent (s : Session) (inputs : List Input) : List (Chunk UInt8) :=
  ((session env cfg).trace s inputs).flatMap fun e => e.output

/-- If a datagram is forwarded, the TCP stream so far ends with a complete frame. -/
def BetweenFrames (s : Session) (a : Input) : Prop :=
  match a with
  | .datagram d now => ((session env cfg).step s (.datagram d now)).2 ≠ [] →
      packetFraming.Complete s.received
  | _ => True

instance (s : Session) (a : Input) : Decidable (BetweenFrames env cfg s a) :=
  match a with
  | .datagram d now => inferInstanceAs
      (Decidable (((session env cfg).step s (.datagram d now)).2 ≠ [] →
        packetFraming.Complete s.received))
  | .read _ => isTrue trivial
  | .bind => isTrue trivial

variable {env cfg} {s : Session} {a : Input} {inputs : List Input} {w : Bytes}

theorem sent_cons : sent env cfg s (a :: inputs)
    = ((session env cfg).step s a).2 ++ sent env cfg ((session env cfg).next s a) inputs := rfl

theorem received_run :
    ((session env cfg).run s inputs).received = s.received ++ tcpStream inputs := by
  induction inputs generalizing s with
  | nil => exact (append_nil _).symm
  | cons a inputs ih =>
    rw [run_cons, ih]
    cases a with
    | read data => exact append_assoc _ _ _
    | bind | datagram =>
      simp only [Machine.next, session]
      split_ifs <;> rfl

section

variable (h : s.connection.Forwards s.received w)
include h

/-- **One step** keeps the account of the TCP stream. -/
theorem forwards_step :
    ((session env cfg).next s a).connection.Forwards ((session env cfg).next s a).received
      (w ++ written .first ((session env cfg).step s a).2) := by
  cases a with
  | read data =>
    simp only [Machine.next, session, written_map, if_true]
    exact GatewayConnection.forwards_onRead h data
  | bind =>
    simp only [Machine.next, session]
    split_ifs <;> simpa using h
  | datagram d now =>
    simp only [Machine.next, session]
    split_ifs
    · simpa [written_map] using h
    · simpa using h

/-- **Every run** does. -/
theorem forwards_run (inputs : List Input) :
    ((session env cfg).run s inputs).connection.Forwards ((session env cfg).run s inputs).received
      (w ++ written .first (sent env cfg s inputs)) := by
  induction inputs generalizing s w with
  | nil => simpa [sent] using h
  | cons a inputs ih =>
    rw [run_cons, sent_cons, written_append, ← append_assoc]
    exact ih (forwards_step h)

/-- A session that is in the table has handed on all of the TCP stream but complete frames. -/
theorem complete_received_iff (hlive : s.live = true) :
    packetFraming.Complete s.received ↔ packetFraming.Complete w := by
  simp only [Session.live, Bool.and_eq_true, beq_iff_eq, Bool.not_eq_true'] at hlive
  generalize s.received = received at h
  cases h with
  | waiting dropped hdropped hphase => exact absurd (hphase.symm.trans hlive.1) (by simp)
  | bridging dropped w hdropped hphase hrunning => exact Framing.complete_append_iff hdropped
  | stopped received hstopped => exact absurd (hstopped.symm.trans hlive.2) (by simp)

/-- A step writes its UDP frames between TCP frames exactly when the condition says so. -/
theorem aligned_step_iff :
    packetFraming.Aligned w ((session env cfg).step s a).2 ↔ BetweenFrames env cfg s a := by
  cases a with
  | read data =>
    -- a read writes chunks of the first stream only, which are never out of place
    refine iff_of_true (Framing.aligned_of_first ?_) trivial
    intro c hc
    obtain ⟨buffer, -, rfl⟩ := mem_map.mp hc
    rfl
  | bind =>
    refine iff_of_true ?_ trivial
    simp only [session]
    split_ifs <;> trivial
  | datagram d now =>
    -- a datagram writes chunks of the second stream only: all of them at one place of the first
    have hsecond : ∀ c ∈ ((session env cfg).step s (.datagram d now)).2, c.1 = .second := by
      intro c hc
      simp only [session] at hc
      split_ifs at hc
      · obtain ⟨frame, -, rfl⟩ := mem_map.mp hc
        rfl
      · exact absurd hc not_mem_nil
    rw [Framing.aligned_second_iff hsecond]
    unfold BetweenFrames
    by_cases hlive : s.live = true
    · rw [complete_received_iff h hlive]
    · have hnone : ((session env cfg).step s (.datagram d now)).2 = [] := by
        simp only [session]
        rw [if_neg hlive]
      simp [hnone]

/-- **Alignment along a run.** -/
theorem aligned_iff_guarded :
    packetFraming.Aligned w (sent env cfg s inputs) ↔
      (session env cfg).Guarded (BetweenFrames env cfg) s inputs := by
  induction inputs generalizing s w with
  | nil => exact iff_of_true trivial trivial
  | cons a inputs ih =>
    rw [sent_cons, Framing.aligned_append, guarded_cons, aligned_step_iff h, ih (forwards_step h)]

end

/-- The UDP chunks of a run are frames. -/
theorem isFrame_sent : ∀ c ∈ sent env cfg s inputs, c.1 = .second → packetFraming.IsFrame c.2 := by
  induction inputs generalizing s with
  | nil => exact fun c hc => absurd hc not_mem_nil
  | cons a inputs ih =>
    intro c hc horigin
    rcases mem_append.mp hc with hc | hc
    · cases a with
      | read data =>
        obtain ⟨buffer, -, rfl⟩ := mem_map.mp hc
        exact absurd horigin (by simp)
      | bind =>
        simp only [session] at hc
        split_ifs at hc <;> exact absurd hc not_mem_nil
      | datagram d now =>
        simp only [session] at hc
        split_ifs at hc
        · obtain ⟨frame, hframe, rfl⟩ := mem_map.mp hc
          exact UdpSession.isFrame_receive frame hframe
        · exact absurd hc not_mem_nil
    · exact ih c hc horigin

end Run

/-! ### Frame integrity -/

/-- What reaches the backend is made of complete frames, each from one source: of the TCP frames a
    final part, in their order, and the UDP frames in the order they were forwarded. -/
def Intact (chunks : List (Chunk UInt8)) (tcpFrames : List Bytes) : Prop :=
  ∃ gs : List (Chunk UInt8), (∀ g ∈ gs, packetFraming.IsFrame g.2) ∧ tagged gs = tagged chunks ∧
    chunksOf .first gs <:+ tcpFrames ∧ chunksOf .second gs = chunksOf .second chunks

/-- What a connection has handed on of a stream of frames is a final part of them. -/
theorem GatewayConnection.Forwards.suffix {c : GatewayConnection} {fs : List Bytes} {w : Bytes}
    (hfs : ∀ f ∈ fs, packetFraming.IsFrame f) (h : c.Forwards fs.flatten w) :
    ∃ hs, hs <:+ fs ∧ hs.flatten = w := by
  generalize hreceived : fs.flatten = received at h
  cases h with
  | waiting | stopped => exact ⟨[], nil_suffix, rfl⟩
  | bridging dropped w hdropped hphase hrunning =>
    obtain ⟨ds, hds, rfl⟩ := hdropped
    obtain ⟨hs, rfl, hflat⟩ := Framing.prefix_of_complete hds hfs hreceived.symm
    exact ⟨hs, suffix_append ds hs, hflat⟩

/-- **When frames stay whole.** For every client whose TCP stream is made of complete frames, every
    way to cut it into reads, every sequence of datagrams and every interleaving of both: what
    reaches the backend is made of whole frames, the TCP frames in their order, exactly when no
    datagram is forwarded while the TCP stream has ended inside a frame. -/
theorem frames_intact_iff (env : HandshakeEnv) (cfg : UdpConfig) (rudpSelected : Bool)
    (inputs : List Input) (tcpFrames : List Bytes)
    (hframes : ∀ f ∈ tcpFrames, packetFraming.IsFrame f)
    (hstream : tcpStream inputs = tcpFrames.flatten) :
    Intact (sent env cfg (.start rudpSelected) inputs) tcpFrames ↔
      (session env cfg).Guarded (BetweenFrames env cfg) (.start rudpSelected) inputs := by
  -- at the end, the TCP bytes written are the last frames of the stream
  have hstart : (Session.start rudpSelected).connection.Forwards
      (Session.start rudpSelected).received [] :=
    .waiting [] Framing.complete_nil rfl
  have hend := @forwards_run env cfg _ _ hstart inputs
  rw [received_run, hstream, nil_append] at hend
  obtain ⟨hs, hsuffix, hflat⟩ := GatewayConnection.Forwards.suffix hframes hend
  have hhs : ∀ f ∈ hs, packetFraming.IsFrame f := fun f hf => hframes f (hsuffix.subset hf)
  rw [← aligned_iff_guarded hstart]
  constructor
  · rintro ⟨gs, hgs, htag, -, -⟩
    exact ((Framing.contiguous_iff isFrame_sent).mp ⟨gs, hgs, htag⟩).1
  · intro hal
    obtain ⟨gs, hgs, htag⟩ := (Framing.contiguous_iff isFrame_sent).mpr ⟨hal, hs, hhs, hflat⟩
    refine ⟨gs, hgs, htag, ?_, ?_⟩
    -- frames are decoded in one way only, so the pieces of each source are its own frames
    · rw [Framing.chunksOf_eq hgs htag hhs hflat]
      exact hsuffix
    · refine Framing.chunksOf_eq hgs htag ?_ rfl
      intro f hf
      obtain ⟨c, hc, rfl⟩ := mem_map.mp hf
      obtain ⟨hc, horigin⟩ := mem_filter.mp hc
      exact isFrame_sent c hc (by simpa using horigin)

/-- A login of user "a" without a token. -/
def loginFrame : Bytes :=
  encodeHeader { length := 5, msgId := MSG_LOGIN_REQ } ++ [0, 1, 97, 0, 0]

/-- A chat message. -/
def chatFrame : Bytes := encodeHeader { length := 1, msgId := 0x0100 } ++ [104]

/-- A message that the tables allow on UDP. -/
def udpFrame : Bytes := encodeHeader { msgId := 0x0013, seq := 7 }

/-- The gateway with its own opcode tables and that message in the allowlist. -/
def udpEnabled : UdpConfig := { udpOpcodeAllowlist := [0x0013] }

/-- The client logs in, binds its endpoint and sends a chat message in two pieces; a datagram
    arrives behind them. -/
def afterFrame : List Input :=
  [.read loginFrame, .bind, .read (chatFrame.take 7), .read (chatFrame.drop 7),
    .datagram udpFrame 1000]

/-- The case of a datagram behind a complete message. -/
theorem frames_intact_iff_after :
    Intact (sent {} udpEnabled (.start false) afterFrame) [loginFrame, chatFrame] :=
  (frames_intact_iff {} udpEnabled false afterFrame [loginFrame, chatFrame] (by decide +kernel)
    (by decide +kernel)).mpr (by decide +kernel)

/-- The same, but the datagram arrives between the pieces. -/
def insideFrame : List Input :=
  [.read loginFrame, .bind, .read (chatFrame.take 7), .datagram udpFrame 1000,
    .read (chatFrame.drop 7)]

/-- **A frame is torn.** The UDP frame is written into the middle of the TCP frame. -/
theorem frame_torn :
    ¬ ∀ (env : HandshakeEnv) (cfg : UdpConfig) (rudpSelected : Bool) (inputs : List Input)
      (tcpFrames : List Bytes), (∀ f ∈ tcpFrames, packetFraming.IsFrame f) →
      tcpStream inputs = tcpFrames.flatten →
      Intact (sent env cfg (.start rudpSelected) inputs) tcpFrames := by
  intro hall
  obtain ⟨gs, hgs, htag, -, -⟩ := hall {} udpEnabled false insideFrame [loginFrame, chatFrame]
    (by decide +kernel) (by decide +kernel)
  have hal := ((Framing.contiguous_iff isFrame_sent).mp ⟨gs, hgs, htag⟩).1
  revert hal
  decide +kernel

example : ¬ packetFraming.Complete
    ((sent {} udpEnabled (.start false) insideFrame).flatMap fun c => c.2) := by
  decide +kernel

end Knights.Gateway
