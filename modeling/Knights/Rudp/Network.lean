import Knights.Rudp.Peer

namespace Knights.Rudp

open Knights.Lib List RudpEngine

/-!
# RUDP — two peers and a network

Two engines, each fed only with datagrams the other one made.  The network keeps everything
that was ever sent: delivering a datagram is picking one of these, so that loss, duplication,
delay and reordering are all runs of the one machine `network`.  Besides its engine a peer has
three logs that no call reads: what it sent, the payloads it queued with their packet numbers,
and the payloads it handed on.

* `Linked` — the invariant across both peers and the network: what a window remembers was
  queued by one side and handed on by the other, every packet ever sent carries a truthful
  acknowledgement, and packet numbers are not used twice;
* `Linked.next` — every move that does not wrap the packet counter keeps it;
* `removed_only_if_delivered` — over runs in which no acknowledgement runs 64 or more ahead of
  a pending packet, only packets that were handed on leave the queue;
* `delivered_only_if_queued` — what a side hands on, the other side has queued;
* `removed_without_delivery` — a run of 65 packets in which one leaves it undelivered.
-/

/-- The two ends of a connection. -/
inductive Side where
  | a
  | b
  deriving DecidableEq, Repr

/-- The opposite end. -/
def Side.other : Side → Side
  | .a => .b
  | .b => .a

@[simp] theorem Side.other_other (s : Side) : s.other.other = s := by cases s <;> rfl

/-- An engine with its logs. -/
structure Peer where
  engine : RudpEngine := {}
  sent : List Datagram := []
  queued : List (UInt32 × List UInt8) := []
  delivered : List (UInt32 × List UInt8) := []

/-- The datagrams an answer hands to the network. -/
def RudpEngine.Reply.datagrams : RudpEngine.Reply → List Datagram
  | .result r => r.egressDatagrams
  | .queued out => out.toList
  | .datagram d => [d]
  | .done => []

/-- The packet number a datagram carries. -/
def packetNumberOf (d : Datagram) : UInt32 :=
  match decodePacket d with
  | some (h, _) => h.packetNumber
  | none => 0

namespace Peer

open RudpEngine (Call Reply machine)

/-- What a call adds to the log of queued payloads. -/
def newlyQueued (e : RudpEngine) : Call → Reply → List (UInt32 × List UInt8)
  | .queueReliablePayload p _ _, .queued (some _) => [(e.state.nextPacketNumber, p)]
  | _, _ => []

/-- What a call adds to the log of payloads handed on. -/
def newlyDelivered : Call → Reply → List (UInt32 × List UInt8)
  | .processDatagram d _, .result r => r.innerFrames.map fun p => (packetNumberOf d, p)
  | _, _ => []

/-- A call on the engine, logged. -/
def apply (peer : Peer) (c : Call) : Peer :=
  let r := (machine.step peer.engine c).2
  { engine := machine.next peer.engine c
    sent := peer.sent ++ r.datagrams
    queued := peer.queued ++ newlyQueued peer.engine c r
    delivered := peer.delivered ++ newlyDelivered c r }

/-- **The log of queued payloads.** Only a queued payload enters it, under the number the
    counter then moves past. -/
theorem newlyQueued_cases {e : RudpEngine} {c : Call} (hc : c ≠ .reset) :
    (newlyQueued e c (machine.step e c).2 = [] ∧
        (machine.next e c).state.nextPacketNumber = e.state.nextPacketNumber) ∨
      ∃ p ch now, c = .queueReliablePayload p ch now ∧ p ≠ [] ∧
        (e.queueReliablePayload p ch now).2 ≠ none ∧
        newlyQueued e c (machine.step e c).2 = [(e.state.nextPacketNumber, p)] ∧
        (machine.next e c).state.nextPacketNumber = e.state.nextPacketNumber + 1 := by
  cases c with
  | processDatagram d now =>
    refine Or.inl ⟨rfl, ?_⟩
    show (e.processDatagram d now).1.state.nextPacketNumber = _
    rcases keeps_processDatagram with ⟨h, p, -, -, hkeeps⟩ | ⟨-, hkeeps⟩
    · rw [hkeeps.next, admitted_eq]
    · exact hkeeps.next
  | queueReliablePayload p ch now =>
    have hstep : machine.step e (.queueReliablePayload p ch now)
        = ((e.queueReliablePayload p ch now).1, .queued (e.queueReliablePayload p ch now).2) := rfl
    unfold Machine.next
    rw [hstep]
    rcases queueReliablePayload_cases with hr | ⟨-, hp, -, hr⟩
    · rw [hr]
      exact Or.inl ⟨rfl, rfl⟩
    · refine Or.inr ⟨p, ch, now, rfl, hp, ?_, ?_, ?_⟩
      · rw [hr]
        simp
      · rw [hr]
        rfl
      · rw [hr]
        rfl
  | poll now =>
    refine Or.inl ⟨rfl, ?_⟩
    show (e.poll now).1.state.nextPacketNumber = _
    rcases poll_cases with ⟨reason, hp⟩ | hp <;> rw [hp] <;> rfl
  | makeHello | makeClose => exact Or.inl ⟨rfl, rfl⟩
  | reset => exact absurd rfl hc

/-- A packet with this number waits for its acknowledgement. -/
def Awaits (peer : Peer) (n : UInt32) : Prop :=
  ∃ x ∈ peer.engine.retransmissionQueue.pending, x.packet.packetNumber = n

instance (peer : Peer) (n : UInt32) : Decidable (peer.Awaits n) :=
  inferInstanceAs (Decidable (∃ x ∈ peer.engine.retransmissionQueue.pending, _))

end Peer

/-- Both peers. -/
def Net := Side → Peer

/-- What a side can do: three calls of its own, or the arrival of the `i`-th datagram the other
    side ever sent. -/
inductive Action where
  | makeHello (connectionId : UInt32) (now : UInt64)
  | queue (payload : List UInt8) (channel : UInt8) (now : UInt64)
  | poll (now : UInt64)
  | deliver (i : Nat) (now : UInt64)
  deriving DecidableEq, Repr

/-- An action of one side. -/
structure Move where
  side : Side
  action : Action
  deriving DecidableEq, Repr

namespace Net

open RudpEngine (Call Reply machine Parsed)

/-- The call on the engine that an action amounts to, if any. -/
def call (net : Net) (s : Side) : Action → Option Call
  | .makeHello id now => some (.makeHello id now)
  | .queue p ch now => some (.queueReliablePayload p ch now)
  | .poll now => some (.poll now)
  | .deliver i now => (net s.other).sent[i]?.map fun d => .processDatagram d now

/-- One move. -/
def move (net : Net) (m : Move) : Net :=
  match net.call m.side m.action with
  | none => net
  | some c => Function.update net m.side ((net m.side).apply c)

/-- The network as a machine. -/
def network : Machine Net Move Unit where
  step net m := (net.move m, ())

/-- Two new engines and an empty network. -/
def start (ca cb : RudpConfig) : Net
  | .a => { engine := { config := ca } }
  | .b => { engine := { config := cb } }

variable {net : Net} {s : Side} {m : Move} {d : Datagram} {now : UInt64}

/-! ### Moves -/

/-- **A move is at most one call**, on the side that moves. -/
theorem next_cases (net : Net) (m : Move) (s : Side) :
    network.next net m s = net s ∨ s = m.side ∧ ∃ c, net.call s m.action = some c ∧
      network.next net m s = (net s).apply c := by
  show net.move m s = net s ∨ s = m.side ∧ ∃ c, _ ∧ net.move m s = _
  unfold move
  cases hc : net.call m.side m.action with
  | none => exact Or.inl rfl
  | some c =>
    by_cases hs : s = m.side
    · subst hs
      exact Or.inr ⟨rfl, c, hc, Function.update_self _ _ _⟩
    · exact Or.inl (Function.update_of_ne hs _ _)

/-- A call that arrives over the network is a datagram the other side sent. -/
theorem call_processDatagram {c : Call} (hc : net.call s m.action = some c)
    (hd : c = .processDatagram d now) : d ∈ (net s.other).sent := by
  subst hd
  cases ha : m.action with
  | deliver i now' =>
    rw [ha] at hc
    obtain ⟨d', hd', heq⟩ := Option.map_eq_some_iff.mp hc
    cases heq
    exact mem_of_getElem? hd'
  | _ => simp [ha, call] at hc

/-- No move resets an engine. -/
theorem call_ne_reset {a : Action} {c : Call} (hc : net.call s a = some c) : c ≠ .reset := by
  rintro rfl
  cases a <;> simp [call] at hc

/-! ### The invariant across both sides -/

/-- Packet `n` of the other side arrived at `s`: its payload was queued there and handed on
    here. -/
def Arrived (net : Net) (s : Side) (n : UInt32) : Prop :=
  ∃ p, (n, p) ∈ (net s.other).queued ∧ (n, p) ∈ (net s).delivered

/-- Every number that an acknowledgement from `s` covers, not counting those 64 or more below
    its largest, arrived at `s`.  Number 0 is left out: control packets carry it. -/
def AckTrue (net : Net) (s : Side) (ackLargest : UInt32) (ackMask : UInt64) : Prop :=
  ∀ n : UInt32, n ≠ 0 → ackLargest.toNat < n.toNat + 64 →
    RetransmissionQueue.isAckedByMask n ackLargest ackMask = true → net.Arrived s n

/-- A datagram of side `s` carries a truthful acknowledgement, and a number under which its
    payload was queued. -/
def Truthful (net : Net) (s : Side) (d : Datagram) : Prop :=
  ∃ h p, IsPacket d h p ∧ net.AckTrue s h.ackLargest h.ackMask ∧
    (h.packetNumber ≠ 0 → (h.packetNumber, p) ∈ (net s).queued)

/-- What holds of side `s` between moves, in view of the other side. -/
structure Linked (net : Net) (s : Side) : Prop where
  config : (net s).engine.config = {}
  consistent : (net s).engine.Consistent
  window : ∃ S, AckWindow.Tracks (net s).engine.ackWindow S ∧
    ∀ n : UInt32, n ≠ 0 → n.toNat ∈ S → net.Arrived s n
  sent : ∀ d ∈ (net s).sent, net.Truthful s d
  pending : ∀ x ∈ (net s).engine.retransmissionQueue.pending,
    net.Truthful s x.packet.encodedFrame
  numbers : ∀ q ∈ (net s).queued, q.1 ≠ 0 ∧ q.2 ≠ [] ∧ ((net s).engine.state.nextPacketNumber = 0 ∨
      q.1.toNat < (net s).engine.state.nextPacketNumber.toNat)
  unique : ∀ n p p', (n, p) ∈ (net s).queued → (n, p') ∈ (net s).queued → p = p'

/-- The logs of `net` are part of those of `net'`. -/
def Grows (net net' : Net) : Prop :=
  ∀ s, (net s).queued ⊆ (net' s).queued ∧ (net s).delivered ⊆ (net' s).delivered

variable {net' : Net} {n : UInt32} {l : UInt32} {mask : UInt64} {p : List UInt8} {h : RudpHeader}

theorem Arrived.mono (hg : net.Grows net') (ha : net.Arrived s n) : net'.Arrived s n := by
  obtain ⟨p, hq, hd⟩ := ha
  exact ⟨p, (hg s.other).1 hq, (hg s).2 hd⟩

theorem AckTrue.mono (hg : net.Grows net') (ha : net.AckTrue s l mask) : net'.AckTrue s l mask :=
  fun n hn hnear hack => (ha n hn hnear hack).mono hg

/-- Logs only grow. -/
theorem grows_next (net : Net) (m : Move) : net.Grows (network.next net m) := by
  intro s
  rcases next_cases net m s with hsame | ⟨-, c, -, hside⟩
  · rw [hsame]
    exact ⟨List.Subset.refl _, List.Subset.refl _⟩
  · rw [hside]
    exact ⟨subset_append_left _ _, subset_append_left _ _⟩

theorem Truthful.mono (hg : net.Grows net') (hd : net.Truthful s d) : net'.Truthful s d := by
  obtain ⟨h, p, hp, hack, hnum⟩ := hd
  exact ⟨h, p, hp, hack.mono hg, fun hn => (hg s).1 (hnum hn)⟩

/-- **A side that did not move** stays linked: only what arrived can have grown. -/
theorem Linked.other (hl : net.Linked s) (hg : net.Grows net') (hs : net' s = net s) :
    net'.Linked s where
  config := by rw [hs]; exact hl.config
  consistent := by rw [hs]; exact hl.consistent
  window := by
    obtain ⟨S, hS, harr⟩ := hl.window
    rw [hs]
    exact ⟨S, hS, fun n hn hmem => (harr n hn hmem).mono hg⟩
  sent := by
    intro d hd
    rw [hs] at hd
    exact Truthful.mono hg (hl.sent d hd)
  pending := by
    intro x hx
    rw [hs] at hx
    exact Truthful.mono hg (hl.pending x hx)
  numbers := by rw [hs]; exact hl.numbers
  unique := by rw [hs]; exact hl.unique

/-- **The current acknowledgement is truthful.** -/
theorem ackTrue_engine (hack : (net s).engine.AckFields)
    (hw : ∃ S, AckWindow.Tracks (net s).engine.ackWindow S ∧
      ∀ n : UInt32, n ≠ 0 → n.toNat ∈ S → net.Arrived s n) :
    net.AckTrue s (net s).engine.state.ackLargest (net s).engine.state.ackMask := by
  obtain ⟨S, hS, harr⟩ := hw
  intro n hn hnear hcov
  rw [hack.1] at hnear hcov
  rw [hack.2] at hcov
  rw [RetransmissionQueue.isAckedByMask_iff] at hcov
  generalize (net s).engine.ackWindow = w at hS hnear hcov
  cases hS with
  | fresh =>
    -- before the first packet the largest number is 0, which covers no other
    have hzero : n.toNat ≤ 0 := hcov.1
    exact absurd (UInt32.toNat_inj.mp (Nat.le_zero.mp hzero)) hn
  | @window l m S hcovers =>
    change l.toNat < n.toNat + 64 at hnear
    change n.toNat ≤ l.toNat ∧ (n.toNat = l.toNat ∨ 64 ≤ l.toNat - n.toNat ∨
      m.toNat.testBit (l.toNat - n.toNat) = true) at hcov
    apply harr n hn
    apply hcovers.reported
    rcases hcov.2 with heq | hfar | hbit
    · exact Or.inl heq
    · omega
    · exact Or.inr ⟨hcov.1, by omega, hbit⟩

/-! ### The side that moves -/

/-- A move does not take the packet counter past its last number. -/
def CounterHolds (e : RudpEngine) : Call → Prop
  | .queueReliablePayload p ch now =>
    (e.queueReliablePayload p ch now).2 ≠ none → e.state.nextPacketNumber ≠ 0
  | _ => True

/-- What arrives from the other side is a packet of its log, or a control packet. -/
theorem Linked.parsed (hl : net.Linked s) (hd : d ∈ (net s).sent) (hp : Parsed d h p) :
    net.AckTrue s h.ackLargest h.ackMask ∧
      (h.packetNumber ≠ 0 → (h.packetNumber, p) ∈ (net s).queued) := by
  obtain ⟨h₀, p₀, hpack, hack, hnum⟩ := hl.sent d hd
  obtain ⟨rfl, rfl⟩ := (parsed_iff_of_isPacket hpack).mp hp
  exact ⟨hack, hnum⟩

/-- A queued payload enters the log. -/
theorem mem_queued_apply {ch : UInt8} (hs : net' s = (net s).apply (.queueReliablePayload p ch now))
    (hsome : ((net s).engine.queueReliablePayload p ch now).2 ≠ none) :
    ((net s).engine.state.nextPacketNumber, p) ∈ (net' s).queued := by
  obtain ⟨out, hout⟩ := Option.ne_none_iff_exists'.mp hsome
  rw [hs]
  apply mem_append_right
  simp [Peer.newlyQueued, machine, hout]

section Apply

variable {c : Call} (hl : net.Linked s) (hg : net.Grows net')
include hl hg

/-- The packet that a queued payload makes carries what its side knows. -/
theorem isPacket_queued (ch : UInt8) (now : UInt64)
    (hp : p.length ≤ (net s).engine.config.mtuPayloadBytes)
    (hq : ((net s).engine.state.nextPacketNumber, p) ∈ (net' s).queued) :
    net'.Truthful s ((net s).engine.makePacket .kData 0 ch
      (net s).engine.state.nextPacketNumber now p) := by
  rw [hl.config] at hp
  have hfits : p.length < 65536 := lt_of_le_of_lt hp (by decide)
  exact ⟨_, p, isPacket_makePacket hfits _ _ _ _,
    (ackTrue_engine hl.consistent.ack hl.window).mono hg, fun _ => hq⟩

variable (hs : net' s = (net s).apply c)
include hs

/-- **The window after a call.** A new number of the other side was handed on. -/
theorem window_apply (ho : net.Linked s.other) (hc : c ≠ .reset)
    (hin : ∀ d now, c = .processDatagram d now → d ∈ (net s.other).sent) :
    ∃ S, AckWindow.Tracks (net' s).engine.ackWindow S ∧
      ∀ n : UInt32, n ≠ 0 → n.toNat ∈ S → net'.Arrived s n := by
  obtain ⟨S, hS, harr⟩ := hl.window
  have hold : ∀ n : UInt32, n ≠ 0 → n.toNat ∈ S → net'.Arrived s n :=
    fun n hn hmem => (harr n hn hmem).mono hg
  by_cases hd : ∃ d now, c = .processDatagram d now
  · obtain ⟨d, now, rfl⟩ := hd
    have hw : (net' s).engine.ackWindow
        = ((net s).engine.processDatagram d now).1.ackWindow := by rw [hs]; rfl
    rw [hw]
    rcases processDatagram_window hS d now with ⟨-, -, hsame⟩ | ⟨h, p, ⟨hp, -⟩, -, hin', hT⟩
    · rw [hsame]
      exact ⟨S, hS, hold⟩
    · refine ⟨_, hT, fun n hn hmem => ?_⟩
      rcases Set.mem_insert_iff.mp hmem with heq | hmem
      · -- the number just accepted: its payload is queued over there and handed on here
        rw [UInt32.toNat_inj.mp heq] at hn ⊢
        have hq := (ho.parsed (hin d now rfl) hp).2 hn
        have hpne : p ≠ [] := (ho.numbers _ hq).2.1
        refine ⟨p, (hg s.other).1 hq, ?_⟩
        rw [hs]
        apply mem_append_right
        show _ ∈ ((net s).engine.processDatagram d now).2.innerFrames.map _
        rw [hin']
        simp [RudpEngine.deliveredFrames, hpne, packetNumberOf, hp.2.1]
      · exact hold n hn hmem
  · have hw : (net' s).engine.ackWindow = (net s).engine.ackWindow := by
      rw [hs]
      exact next_window (fun d now h => hd ⟨d, now, h⟩) hc
    rw [hw]
    exact ⟨S, hS, hold⟩

/-- **What a call sends** carries a truthful acknowledgement and a number of the log. -/
theorem sent_apply (hc : c ≠ .reset)
    (hack' : net'.AckTrue s (machine.next (net s).engine c).state.ackLargest
      (machine.next (net s).engine c).state.ackMask)
    (hd : d ∈ (machine.step (net s).engine c).2.datagrams) :
    net'.Truthful s d := by
  have hack := (ackTrue_engine hl.consistent.ack hl.window).mono hg
  cases c with
  | processDatagram d' now =>
    -- the answers to a datagram carry the acknowledgement as it is after it
    obtain ⟨h, hp, hzero, hlar, hmask⟩ := egress_processDatagram hd
    refine ⟨h, [], hp, ?_, fun hn => absurd hzero hn⟩
    rw [hlar, hmask]
    exact hack'
  | queueReliablePayload p ch now =>
    change d ∈ (((net s).engine.queueReliablePayload p ch now).2).toList at hd
    rcases queueReliablePayload_cases with
      hr | ⟨-, -, hmtu, hr⟩
    · rw [hr] at hd
      exact absurd hd (by simp)
    · have hq := mem_queued_apply hs (by rw [hr]; simp)
      rw [hr, Option.toList_some, mem_singleton] at hd
      rw [hd]
      exact isPacket_queued hl hg ch now hmtu hq
  | poll now =>
    -- a retransmission carries the acknowledgement of the first time it was sent
    obtain ⟨x, hx, rfl⟩ := egress_poll hd
    obtain ⟨h, p, hp, hrest⟩ := Truthful.mono hg (hl.pending x hx)
    exact ⟨_, p, isPacket_setRetransmit hp, hrest⟩
  | makeHello | makeClose =>
    rw [mem_singleton.mp hd]
    exact ⟨_, [], isPacket_makePacket (by simp) _ _ _ _, hack, fun hn => absurd rfl hn⟩
  | reset => exact absurd rfl hc

/-- **What is pending after a call** carries a truthful acknowledgement and a number of the
    log. -/
theorem pending_apply {x : Entry}
    (hx : x ∈ (machine.next (net s).engine c).retransmissionQueue.pending) :
    net'.Truthful s x.packet.encodedFrame := by
  rcases pending_next hl.consistent.settled c hx with
    ⟨y, hy, hbody⟩ | ⟨p, ch, now, rfl, -, hmtu, hsome, hbody⟩
  · rw [← show y.packet.encodedFrame = x.packet.encodedFrame from congrArg (·.2.1) hbody]
    exact Truthful.mono hg (hl.pending y hy)
  · rw [show x.packet.encodedFrame = _ from congrArg (·.2.1) hbody]
    exact isPacket_queued hl hg ch now hmtu (mem_queued_apply hs hsome)

omit hg in
/-- **The numbers in use after a call** lie below the counter, and none is used twice. -/
theorem numbers_apply (hc : c ≠ .reset) (hcount : CounterHolds (net s).engine c) :
    (∀ q ∈ (net' s).queued, q.1 ≠ 0 ∧ q.2 ≠ [] ∧ ((net' s).engine.state.nextPacketNumber = 0 ∨
          q.1.toNat < (net' s).engine.state.nextPacketNumber.toNat)) ∧
      ∀ n p p', (n, p) ∈ (net' s).queued → (n, p') ∈ (net' s).queued → p = p' := by
  have hqueued : (net' s).queued
      = (net s).queued ++ Peer.newlyQueued (net s).engine c (machine.step (net s).engine c).2 := by
    rw [hs]
    rfl
  have hengine : (net' s).engine = machine.next (net s).engine c := by
    rw [hs]
    rfl
  rw [hqueued, hengine]
  rcases Peer.newlyQueued_cases (e := (net s).engine) hc with
    ⟨hlog, hnext⟩ | ⟨p, ch, now, rfl, hp, hsome, hlog, hnext⟩
  · rw [hlog, hnext, append_nil]
    exact ⟨hl.numbers, hl.unique⟩
  · -- the counter has not wrapped, so all numbers in use lie below the new one
    have hne : (net s).engine.state.nextPacketNumber ≠ 0 := hcount hsome
    have hbelow : ∀ q ∈ (net s).queued,
        q.1.toNat < (net s).engine.state.nextPacketNumber.toNat := fun q hq =>
      ((hl.numbers q hq).2.2).resolve_left hne
    rw [hlog, hnext]
    generalize (net s).engine.state.nextPacketNumber = k at hne hbelow
    have hsucc : k + 1 = 0 ∨ (k + 1).toNat = k.toNat + 1 := by
      have hk := k.toNat_lt
      rw [← UInt32.toNat_inj, UInt32.toNat_add]
      simp only [UInt32.reduceToNat]
      omega
    refine ⟨fun q hq => ?_, fun n p₁ p₂ h₁ h₂ => ?_⟩
    · rcases mem_append.mp hq with hq | hq
      · have hlt := hbelow q hq
        refine ⟨(hl.numbers q hq).1, (hl.numbers q hq).2.1, ?_⟩
        exact hsucc.imp id fun h => by omega
      · rw [mem_singleton.mp hq]
        refine ⟨hne, hp, hsucc.imp id fun h => ?_⟩
        show k.toNat < (k + 1).toNat
        omega
    · -- a number that occurs twice would have to be the new one and lie below it
      simp only [mem_append, mem_singleton, Prod.mk.injEq] at h₁ h₂
      rcases h₁ with h₁ | ⟨rfl, rfl⟩ <;> rcases h₂ with h₂ | ⟨hn, rfl⟩
      · exact hl.unique n p₁ p₂ h₁ h₂
      · exact absurd (hbelow _ h₁) (by rw [hn]; exact lt_irrefl _)
      · exact absurd (hbelow _ h₂) (lt_irrefl _)
      · rfl

/-- **The side that moved** stays linked. -/
theorem Linked.apply (ho : net.Linked s.other) (hc : c ≠ .reset)
    (hin : ∀ d now, c = .processDatagram d now → d ∈ (net s.other).sent)
    (hcount : CounterHolds (net s).engine c) : net'.Linked s := by
  have hengine : (net' s).engine = machine.next (net s).engine c := by
    rw [hs]
    rfl
  have hcons : (net' s).engine.Consistent := by
    rw [hengine]
    exact hl.consistent.next c
  have hwin := window_apply hl hg hs ho hc hin
  have hack := ackTrue_engine hcons.ack hwin
  rw [hengine] at hack
  obtain ⟨hnum, huniq⟩ := numbers_apply hl hs hc hcount
  refine ⟨?_, hcons, hwin, ?_, ?_, hnum, huniq⟩
  · rw [hengine, config_next]
    exact hl.config
  · intro d hd
    rw [hs] at hd
    rcases mem_append.mp hd with hd | hd
    · exact Truthful.mono hg (hl.sent d hd)
    · exact sent_apply hl hg hs hc hack hd
  · intro x hx
    rw [hengine] at hx
    exact pending_apply hl hg hs hx

end Apply

/-! ### Runs -/

/-- **A move between linked sides** leaves them linked. -/
theorem linked_next (hl : ∀ s, net.Linked s)
    (hcount : ∀ c, net.call m.side m.action = some c → CounterHolds (net m.side).engine c) :
    ∀ s, (network.next net m).Linked s := by
  have hg := grows_next net m
  intro s
  rcases next_cases net m s with hsame | ⟨rfl, c, hcall, hside⟩
  · exact (hl s).other hg hsame
  · exact (hl _).apply hg hside (hl _) (call_ne_reset hcall)
      (fun d now h => call_processDatagram hcall h) (hcount c hcall)

/-- New engines are linked. -/
theorem linked_start (s : Side) : (start {} {}).Linked s where
  config := by cases s <;> rfl
  consistent := by cases s <;> exact consistent_reset {}
  window := ⟨∅, by cases s <;> exact AckWindow.Tracks.fresh, fun _ _ h => absurd h (by simp)⟩
  sent := fun _ hd => absurd hd (by cases s <;> simp [start])
  pending := fun _ hx => absurd hx (by cases s <;> simp [start])
  numbers := fun _ hq => absurd hq (by cases s <;> simp [start])
  unique := fun _ _ _ hq => absurd hq (by cases s <;> simp [start])

/-! ### Removal from the queue -/

/-- Over this event, a payload of either side left the queue only if the other side had handed
    it on before. -/
def RemovalsDelivered (ev : Event Net Move Unit) : Prop :=
  ∀ s n p, (n, p) ∈ (ev.pre s).queued → (ev.pre s).Awaits n →
    ¬ (network.next ev.pre ev.input s).Awaits n → (n, p) ∈ (ev.pre s.other).delivered

/-- The move neither delivers an acknowledgement whose largest number is 64 or more above a
    pending packet, nor wraps the packet counter. -/
def KeepsUp (net : Net) (m : Move) : Prop :=
  match m.action with
  | .deliver i _ => ∀ hp ∈ (net m.side.other).sent[i]?.bind decodePacket,
      (net m.side).engine.connectionMismatch hp.1 = false →
        ∀ x ∈ (net m.side).engine.retransmissionQueue.pending,
          hp.1.ackLargest.toNat < x.packet.packetNumber.toNat + 64
  | .queue p ch now => ((net m.side).engine.queueReliablePayload p ch now).2 ≠ none →
      (net m.side).engine.state.nextPacketNumber ≠ 0
  | _ => True

instance decidableKeepsUp (net : Net) : ∀ m, Decidable (net.KeepsUp m)
  | ⟨_, .deliver _ _⟩ => inferInstanceAs (Decidable (∀ _ ∈ Option.bind _ _, _))
  | ⟨_, .queue _ _ _⟩ => inferInstanceAs (Decidable (_ → _))
  | ⟨_, .makeHello _ _⟩ => isTrue trivial
  | ⟨_, .poll _⟩ => isTrue trivial

/-- A move that keeps up does not wrap the counter. -/
theorem KeepsUp.counterHolds (hk : net.KeepsUp m) {c : Call}
    (hc : net.call m.side m.action = some c) : CounterHolds (net m.side).engine c := by
  obtain ⟨s, a⟩ := m
  cases a with
  | queue p ch now =>
    obtain rfl := Option.some.inj hc
    exact hk
  | makeHello | poll =>
    obtain rfl := Option.some.inj hc
    trivial
  | deliver i now =>
    obtain ⟨d, -, rfl⟩ := Option.map_eq_some_iff.mp hc
    trivial

/-- A move that keeps up brings no acknowledgement too far ahead. -/
theorem KeepsUp.near (hk : net.KeepsUp m)
    (hc : net.call m.side m.action = some (.processDatagram d now))
    (hd : decodePacket d = some (h, p)) (hm : (net m.side).engine.connectionMismatch h = false) :
    ∀ x ∈ (net m.side).engine.retransmissionQueue.pending,
      h.ackLargest.toNat < x.packet.packetNumber.toNat + 64 := by
  obtain ⟨s, a⟩ := m
  cases a with
  | deliver i now' =>
    obtain ⟨d', hd', heq⟩ := Option.map_eq_some_iff.mp hc
    cases heq
    refine hk (h, p) ?_ hm
    rw [hd']
    exact hd
  | makeHello | queue | poll => exact absurd hc (by simp [call])

/-- A call other than the arrival of a datagram removes nothing from the queue. -/
theorem awaits_apply {peer : Peer} {c : Call} (hc : c ≠ .reset)
    (hd : ∀ d now, c ≠ .processDatagram d now) (ha : peer.Awaits n) :
    (peer.apply c).Awaits n := by
  obtain ⟨x, hx, rfl⟩ := ha
  cases c with
  | processDatagram d now => exact absurd rfl (hd d now)
  | queueReliablePayload p ch now =>
    refine ⟨x, ?_, rfl⟩
    show x ∈ (peer.engine.queueReliablePayload p ch now).1.retransmissionQueue.pending
    rcases queueReliablePayload_cases with hr | ⟨-, -, -, hr⟩
    · rw [hr]
      exact hx
    · rw [hr, pending_queued]
      exact mem_append_left _ hx
  | poll now =>
    have hmem := mem_map_of_mem (f := Entry.body) hx
    rw [← pending_poll] at hmem
    obtain ⟨y, hy, hbody⟩ := mem_map.mp hmem
    exact ⟨y, hy, congrArg (·.1) hbody⟩
  | makeHello | makeClose => exact ⟨x, hx, rfl⟩
  | reset => exact absurd rfl hc

/-- **One removal.** On linked sides, a move that keeps up removes only what was handed on. -/
theorem removalsDelivered (hl : ∀ s, net.Linked s) (hk : net.KeepsUp m) :
    RemovalsDelivered ⟨net, m, ()⟩ := by
  intro s n p hq hbefore hafter
  rcases next_cases net m s with hsame | ⟨rfl, c, hcall, hside⟩
  · rw [hsame] at hafter
    exact absurd hbefore hafter
  · rw [hside] at hafter
    by_cases hd : ∃ d now, c = .processDatagram d now
    · obtain ⟨d, now, rfl⟩ := hd
      obtain ⟨x, hx, rfl⟩ := hbefore
      have hgone : x ∉ ((net m.side).engine.processDatagram d now).1.retransmissionQueue.pending :=
        fun hmem => hafter ⟨x, hmem, rfl⟩
      rcases queue_processDatagram with
        hkeep | ⟨h, p', hparsed, hmatch, hmark⟩
      · rw [hkeep] at hgone
        exact absurd hx hgone
      · -- the acknowledgement covers the packet, and is less than 64 above it
        rw [hmark, RetransmissionQueue.mem_markAcked (hl m.side).consistent.settled] at hgone
        have hcov : RetransmissionQueue.isAckedByMask x.packet.packetNumber h.ackLargest
            h.ackMask = true := by
          by_contra hno
          exact hgone ⟨hx, Bool.not_eq_true _ ▸ hno⟩
        have hnear := hk.near hcall hparsed.2.1 hmatch x hx
        have hin := call_processDatagram hcall rfl
        have htrue := ((hl m.side.other).parsed hin hparsed).1
        have hne := ((hl m.side).numbers _ hq).1
        obtain ⟨p'', hq', hdel⟩ := htrue _ hne hnear hcov
        rw [Side.other_other] at hq'
        rw [(hl m.side).unique _ _ _ hq hq']
        exact hdel
    · exact absurd (awaits_apply (call_ne_reset hcall) (fun d now h => hd ⟨d, now, h⟩) hbefore)
        hafter

/-- **Removed only if delivered.** Two default engines, each fed only what the other one made,
    in any order and any number of times: if every move keeps up, a payload leaves the queue
    only after the other side handed it on. -/
theorem removed_only_if_delivered (moves : List Move)
    (hk : network.Guarded KeepsUp (start {} {}) moves) :
    ∀ ev ∈ network.trace (start {} {}) moves, RemovalsDelivered ev := by
  rintro ⟨net, m, out⟩ hev
  obtain ⟨before, after, rfl, hpre, -⟩ := network.mem_trace.mp hev
  obtain ⟨hbefore, hrest⟩ := (network.guarded_append KeepsUp _ _ _).mp hk
  subst hpre
  have hl : ∀ s, (network.run (start {} {}) before).Linked s :=
    network.guarded_invariant (fun net => ∀ s, net.Linked s) KeepsUp
      (fun _ _ hl hk => linked_next hl fun _ hc => hk.counterHolds hc) linked_start hbefore
  exact removalsDelivered hl hrest.1

/-- The handshake between the two sides. -/
def handshake : List Move :=
  [⟨.a, .makeHello 7 1000⟩, ⟨.b, .deliver 0 1001⟩, ⟨.a, .deliver 0 1002⟩]

/-- One payload, delivered and acknowledged. -/
theorem removed_only_if_delivered_single :
    let moves := handshake ++ [⟨.a, .queue [42] 0 1003⟩, ⟨.b, .deliver 1 1020⟩,
      ⟨.a, .deliver 1 1021⟩]
    network.Guarded KeepsUp (start {} {}) moves ∧
      ∀ ev ∈ network.trace (start {} {}) moves, RemovalsDelivered ev :=
  ⟨by decide +kernel, removed_only_if_delivered _ (by decide +kernel)⟩

/-- What a call hands on under a number, the other side has queued under it.  Number 0 is left to
    control packets. -/
theorem queued_of_newlyDelivered (hl : ∀ s, net.Linked s) {c : Call}
    (hcall : net.call s m.action = some c) {q : UInt32 × List UInt8} (hne : q.1 ≠ 0)
    (hq : q ∈ Peer.newlyDelivered c (machine.step (net s).engine c).2) :
    q ∈ (net s.other).queued := by
  cases c with
  | processDatagram d now =>
    obtain ⟨p, hp, rfl⟩ := mem_map.mp hq
    obtain ⟨S, hS, -⟩ := (hl s).window
    rcases processDatagram_window hS d now with ⟨-, hnone, -⟩ | ⟨h, p', ⟨hparsed, -⟩, -, hin, -⟩
    · rw [hnone] at hp
      cases hp
    · have hnumber : packetNumberOf d = h.packetNumber := by simp [packetNumberOf, hparsed.2.1]
      rw [hin, deliveredFrames] at hp
      split_ifs at hp
      · cases hp
      · rw [mem_singleton.mp hp, hnumber]
        exact ((hl _).parsed (call_processDatagram hcall rfl) hparsed).2 (hnumber ▸ hne)
  | _ => cases hq

/-- **Delivered only if queued.** As long as no packet counter wraps, every payload that a side has
    handed on under a number is one that the other side queued under it. -/
theorem delivered_only_if_queued (moves : List Move) (hk : network.Guarded
    (fun net m => (net m.side).engine.state.nextPacketNumber ≠ 0) (start {} {}) moves) (s : Side) :
    ∀ q ∈ (network.run (start {} {}) moves s).delivered, q.1 ≠ 0 →
      q ∈ (network.run (start {} {}) moves s.other).queued := by
  refine (network.guarded_invariant (fun net => (∀ s, net.Linked s) ∧ ∀ s, ∀ q ∈ (net s).delivered,
    q.1 ≠ 0 → q ∈ (net s.other).queued) _ ?_ ⟨linked_start, ?_⟩ hk).2 s
  · rintro net m ⟨hl, hall⟩ hm
    refine ⟨linked_next hl fun c _ => ?_, fun s q hq hne => ?_⟩
    · cases c <;> first | trivial | exact fun _ => hm
    apply (grows_next net m s.other).1
    rcases next_cases net m s with hsame | ⟨rfl, c, hcall, hside⟩
    · exact hall s q (hsame ▸ hq) hne
    · rw [hside] at hq
      rcases mem_append.mp hq with hq | hq
      · exact hall _ q hq hne
      · exact queued_of_newlyDelivered hl hcall hne hq
  · intro s
    cases s <;> simp [start]

/-- The payload of the run above. -/
theorem delivered_only_if_queued_single : (1, [42]) ∈ (network.run (start {} {})
    (handshake ++ [⟨.a, .queue [42] 0 1003⟩, ⟨.b, .deliver 1 1020⟩]) .a).queued :=
  delivered_only_if_queued _ (by decide +kernel) .b (1, [42]) (by decide +kernel) (by decide)

/-- The handshake, 65 payloads, of which only the last one arrives. -/
def lastOf65 : List Move :=
  handshake ++ (List.range 65).map (fun i => ⟨.a, .queue [i.toUInt8] 0 1003⟩) ++
    [⟨.b, .deliver 65 1020⟩]

/-- **A packet is removed without being delivered.** The acknowledgement of packet 65 removes
    packet 1, which never arrived. -/
theorem removed_without_delivery :
    ¬ ∀ moves, ∀ ev ∈ network.trace (start {} {}) moves, RemovalsDelivered ev := by
  intro hall
  have hmem := network.mem_trace_last (start {} {}) lastOf65 ⟨.a, .deliver 1 1021⟩
  have hqueued : (1, [0]) ∈ (network.run (start {} {}) lastOf65 .a).queued := by decide +kernel
  have hbefore : (network.run (start {} {}) lastOf65 .a).Awaits 1 := by decide +kernel
  have hafter : ¬ (network.next (network.run (start {} {}) lastOf65)
      ⟨.a, .deliver 1 1021⟩ .a).Awaits 1 := by decide +kernel
  have hlost : (1, [0]) ∉ (network.run (start {} {}) lastOf65 .b).delivered := by decide +kernel
  have hrem := hall _ _ hmem
  -- the run is not to be evaluated again here
  generalize network.run (start {} {}) lastOf65 = net at hqueued hbefore hafter hlost hrem
  exact hlost (hrem .a 1 [0] hqueued hbefore hafter)

end Net

end Knights.Rudp
