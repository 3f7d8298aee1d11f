import Knights.Rudp.Network

namespace Knights.Rudp

open Knights.Lib List AckWindow

/-!
# RUDP — is a retransmission acknowledged?

One round of recovery: a side polls, all it retransmits reaches the other side, and all the
other side answers comes back.  The receiver answers only packets it accepts as new: a
duplicate returns before the acknowledgement is made, and of several new packets at one time
only the first is answered, unless `ack_delay_ms` is 0.

* `receive_step` — one retransmitted packet at an established receiver;
* `receive_none`, `receive_final` — a batch without a new packet is not answered at all; a batch
  that is answered for its last new packet is answered for every packet in it;
* `mem_arrive_iff` — what the answers remove at the sender;
* `Net.round_cleared_iff` — when the round leaves none of its packets pending, in every
  reachable state of the network;
* `Net.retransmission_unanswered` — a lost acknowledgement that no retransmission brings back.
-/

/-- The connection id a datagram carries. -/
def connectionIdOf (d : Datagram) : UInt32 :=
  match decodePacket d with
  | some (h, _) => h.connectionId
  | none => 0

/-- The id is `c`, or not yet known. -/
def OnConnection (c id : UInt32) : Prop := id = 0 ∨ id = c

instance (c id : UInt32) : Decidable (OnConnection c id) :=
  inferInstanceAs (Decidable (id = 0 ∨ id = c))

namespace RudpEngine

open AckWindow (Tracks)

variable {e : RudpEngine} {d : Datagram} {h : RudpHeader} {p : List UInt8} {now : UInt64}
  {c n : UInt32} {S : Set ℕ}

/-! ### The connection id -/

theorem connectionMismatch_eq_false (he : OnConnection c e.state.connectionId)
    (hh : OnConnection c h.connectionId) : e.connectionMismatch h = false := by
  unfold connectionMismatch
  rcases he with he | he
  · simp [he]
  · rcases hh with hh | hh
    · simp [hh]
    · simp [he, hh]

theorem onConnection_admitted (he : OnConnection c e.state.connectionId)
    (hh : OnConnection c h.connectionId) :
    OnConnection c (e.admitted h now).state.connectionId := by
  unfold admitted adoptConnection
  split
  · exact hh
  · exact he

/-! ### Receiving retransmissions -/

/-- `d` is a retransmitted data packet with number `n`, of connection `c`. -/
structure Resent (c n : UInt32) (d : Datagram) (h : RudpHeader) (p : List UInt8) : Prop where
  packet : IsPacket d h p
  type : h.type = .kData
  flags : h.flags = kFlagRetransmit
  number : h.packetNumber = n
  connection : OnConnection c h.connectionId

/-- An established receiver on connection `c`. -/
structure Receiving (c : UInt32) (e : RudpEngine) : Prop where
  established : e.state.lifecycle = .kEstablished
  connection : OnConnection c e.state.connectionId
  ack : e.AckFields

/-- `d` acknowledges what the window `w` says, on connection `c`. -/
def Acknowledges (c : UInt32) (w : AckWindow) (d : Datagram) : Prop :=
  ∃ h, IsPacket d h [] ∧ h.ackLargest = w.largest ∧ h.ackMask = w.mask ∧
    OnConnection c h.connectionId

/-- The time for an acknowledgement has come. -/
def AckDue (e : RudpEngine) (now : UInt64) : Prop :=
  now ≥ e.state.lastAckEmitUnixMs + e.config.ackDelayMs.toUInt64

/-- What one retransmitted packet does to the receiver: it is refused and nothing happens, or
    it is accepted and acknowledged if it is time. -/
inductive Received (c n : UInt32) (e : RudpEngine) (now : UInt64) :
    RudpEngine → List Datagram → Prop
  | refused {e' : RudpEngine} (ha : e.ackWindow.accepts n = false)
      (hw : e'.ackWindow = e.ackWindow) (hr : Receiving c e') (hc : e'.config = e.config)
      (hl : e'.state.lastAckEmitUnixMs = e.state.lastAckEmitUnixMs) : Received c n e now e' []
  | answered {e' : RudpEngine} {ack : Datagram} (ha : e.ackWindow.accepts n = true)
      (hw : e'.ackWindow = e.ackWindow.after n) (hr : Receiving c e') (hc : e'.config = e.config)
      (hdue : e.AckDue now) (hl : e'.state.lastAckEmitUnixMs = now)
      (hack : Acknowledges c e'.ackWindow ack) : Received c n e now e' [ack]
  | accepted {e' : RudpEngine} (ha : e.ackWindow.accepts n = true)
      (hw : e'.ackWindow = e.ackWindow.after n) (hr : Receiving c e') (hc : e'.config = e.config)
      (hdue : ¬ e.AckDue now)
      (hl : e'.state.lastAckEmitUnixMs = e.state.lastAckEmitUnixMs) : Received c n e now e' []

/-- A data packet at an established receiver goes through the window. -/
theorem processDatagram_data (hd : Parsed d h p) (hm : e.connectionMismatch h = false)
    (ht : h.type = .kData) (hs : e.state.lifecycle = .kEstablished) :
    (e.ackWindow.accepts h.packetNumber = false ∧ e.processDatagram d now
        = ((e.admitted h now).observePacket h.packetNumber, { consumed := true, parsed := true })) ∨
      (e.ackWindow.accepts h.packetNumber = true ∧
        (e.processDatagram d now).1 = (e.admitted h now).accepted h now ∧
        (e.processDatagram d now).2.egressDatagrams
          = ((e.admitted h now).observePacket h.packetNumber).emittedAcks h now) := by
  have hproc := processed e d now
  generalize e.processDatagram d now = r at hproc
  cases hproc with
  | ignored hl => exact absurd hl (by simp [hd.1])
  | invalid hno => exact absurd hd (hno h p)
  | mismatch hd' hm' =>
    rw [(hd'.unique hd).1, hm] at hm'
    exact absurd hm' (by simp)
  | hello hd' hm' ht' | helloAck hd' hm' ht' | close hd' hm' ht' | ping hd' hm' ht' =>
    exact absurd ht' (by simp [(hd'.unique hd).1, ht])
  | notEstablished hd' hm' ht' hs' => exact absurd hs hs'
  | refused hd' hm' ht' hs' ha =>
    obtain ⟨rfl, rfl⟩ := hd'.unique hd
    exact Or.inl ⟨ha, rfl⟩
  | accepted hd' hm' ht' hs' ha =>
    obtain ⟨rfl, rfl⟩ := hd'.unique hd
    exact Or.inr ⟨ha, rfl, rfl⟩

/-- A packet that is not a bare acknowledgement is answered when it is time. -/
theorem shouldEmitAck_iff (hf : h.flags = kFlagRetransmit) (n : UInt32) :
    ((e.admitted h now).observePacket n).shouldEmitAck h now = true ↔ e.AckDue now := by
  have hlast : ((e.admitted h now).observePacket n).state.lastAckEmitUnixMs
      = e.state.lastAckEmitUnixMs := admitted_lastAckEmit
  have hconf : ((e.admitted h now).observePacket n).config = e.config := admitted_config
  unfold shouldEmitAck AckDue
  rw [hf, hlast, hconf]
  simp only [Bool.and_eq_true, decide_eq_true_iff]
  exact and_iff_right (by decide)

/-- **One retransmitted packet at an established receiver.** -/
theorem receive_step (hr : Receiving c e) (hS : Tracks e.ackWindow S) (hd : Resent c n d h p) :
    Received c n e now (e.processDatagram d now).1 (e.processDatagram d now).2.egressDatagrams := by
  -- the header as it is read back
  obtain ⟨h', hp', htype, hflags, rfl, hconn⟩ : ∃ h', Parsed d h' p ∧ h'.type = .kData ∧
      h'.flags = kFlagRetransmit ∧ h'.packetNumber = n ∧ OnConnection c h'.connectionId :=
    ⟨_, (parsed_iff_of_isPacket hd.packet).mpr ⟨rfl, rfl⟩, hd.type, hd.flags, hd.number,
      hd.connection⟩
  have hid := @onConnection_admitted _ _ now _ hr.connection hconn
  have hest : (e.admitted h' now).state.lifecycle = .kEstablished := by
    rw [admitted_lifecycle]
    exact hr.established
  have hdue := @shouldEmitAck_iff e h' now hflags h'.packetNumber
  have hmatch := connectionMismatch_eq_false hr.connection hconn
  rcases @processDatagram_data _ _ _ _ now hp' hmatch htype hr.established with
    ⟨ha, heq⟩ | ⟨ha, h₁, h₂⟩
  · -- a refused packet still refreshes the acknowledgement fields of the state
    rw [heq]
    refine Received.refused ha ?_ ⟨hest, hid, ?_⟩ admitted_config admitted_lastAckEmit
    · rw [observePacket_window, admitted_window]
      exact after_of_not_accepts hS ha
    · exact ⟨observePacket_ackLargest, observePacket_ackMask⟩
  · have hr' : Receiving c ((e.admitted h' now).accepted h' now) := by
      rw [accepted_eq]
      exact ⟨hest, hid, rfl, rfl⟩
    have hwin : ((e.admitted h' now).accepted h' now).ackWindow
        = e.ackWindow.after h'.packetNumber := by
      rw [accepted_eq, admitted_window]
    have hconf : ((e.admitted h' now).accepted h' now).config = e.config := by
      rw [accepted_eq, admitted_config]
    have hlast : ((e.admitted h' now).accepted h' now).state.lastAckEmitUnixMs
        = if ((e.admitted h' now).observePacket h'.packetNumber).shouldEmitAck h' now then now
          else e.state.lastAckEmitUnixMs := by
      rw [accepted_eq]
      exact congrArg (ite _ now) admitted_lastAckEmit
    rw [h₁, h₂]
    unfold emittedAcks
    by_cases hd : e.AckDue now
    · rw [if_pos (hdue.mpr hd)] at hlast ⊢
      refine Received.answered ha hwin hr' hconf hd hlast ⟨_, isPacket_makePacket (by simp) _ _ _ _,
        ?_, ?_, hid⟩
      · rw [hwin]
        simp [header]
      · rw [hwin]
        simp [header]
    · rw [if_neg (fun h => hd (hdue.mp h))] at hlast ⊢
      exact Received.accepted ha hwin hr' hconf hd hlast

/-! ### Receiving a batch -/

/-- The engine after a batch of datagrams that all arrive now. -/
def receive (e : RudpEngine) (ds : List Datagram) (now : UInt64) : RudpEngine :=
  machine.run e (ds.map (.processDatagram · now))

/-- What the engine sends in answer to a batch. -/
def answers (e : RudpEngine) (ds : List Datagram) (now : UInt64) : List Datagram :=
  (machine.trace e (ds.map (.processDatagram · now))).flatMap (·.output.datagrams)

/-- The packets of a batch that the window would accept as it is now. -/
def fresh (w : AckWindow) (d : Datagram) : Bool := w.accepts (packetNumberOf d)

/-- A batch of retransmitted packets of connection `c`. -/
def Batch (c : UInt32) (ds : List Datagram) : Prop :=
  ∀ d ∈ ds, ∃ h p, Resent c (packetNumberOf d) d h p

variable {ds : List Datagram} {e' : RudpEngine} {w : AckWindow}

theorem Batch.tail (hb : Batch c (d :: ds)) : Batch c ds :=
  fun d' hd' => hb d' (mem_cons_of_mem d hd')

/-- **One packet of a batch.** -/
theorem Batch.step (hb : Batch c (d :: ds)) (now : UInt64) (hr : Receiving c e)
    (hS : Tracks e.ackWindow S) :
    ∃ e' out, Received c (packetNumberOf d) e now e' out ∧
      e.answers (d :: ds) now = out ++ e'.answers ds now ∧
      e.receive (d :: ds) now = e'.receive ds now := by
  obtain ⟨h, p, hd⟩ := hb d mem_cons_self
  exact ⟨_, _, receive_step hr hS hd, rfl, rfl⟩

/-- Whether it is time depends on the configuration and the last acknowledgement. -/
theorem ackDue_congr (hc : e'.config = e.config)
    (hl : e'.state.lastAckEmitUnixMs = e.state.lastAckEmitUnixMs) :
    e'.AckDue now ↔ e.AckDue now := by
  unfold AckDue
  rw [hl, hc]

/-- What a window refuses it refuses later, too. -/
theorem fresh_anti {w' : AckWindow} {T : Set ℕ} (hS : Tracks w S) (hT : Tracks w' T) (hST : S ⊆ T)
    (hf : fresh w' d = true) : fresh w d = true := by
  unfold fresh at hf ⊢
  rw [accepts_iff hT] at hf
  rw [accepts_iff hS]
  exact hf.anti hST

/-- An engine that took a packet tracks its number, too. -/
theorem tracks_of_after (hS : Tracks e.ackWindow S) (ha : e.ackWindow.accepts n = true)
    (hw : e'.ackWindow = e.ackWindow.after n) :
    Tracks e'.ackWindow (insert n.toNat S) := by
  rw [hw]
  exact tracks_of_accepts hS ha

/-- The receiver stays one, and does not take the number again. -/
theorem Received.keeps {out : List Datagram} (h : Received c n e now e' out)
    (hS : Tracks e.ackWindow S) :
    Receiving c e' ∧ ∃ T, Tracks e'.ackWindow T ∧ S ⊆ T ∧ ¬ Takes 64 T n.toNat := by
  cases h with
  | refused ha hw hr' =>
    refine ⟨hr', S, by rw [hw]; exact hS, subset_rfl, ?_⟩
    rw [← accepts_iff hS, ha]
    simp
  | answered ha hw hr' | accepted ha hw hr' =>
    exact ⟨hr', _, tracks_of_after hS ha hw, Set.subset_insert _ _,
      fun ht => ht.1 (Set.mem_insert _ _)⟩

/-- An acknowledgement covers what its window does not take. -/
theorem isAckedByMask_iff_of_tracks (hS : Tracks w S) (hne : S.Nonempty) (n : UInt32) :
    RetransmissionQueue.isAckedByMask n w.largest w.mask = true ↔ ¬ Takes 64 S n.toNat := by
  cases hS with
  | fresh => exact absurd hne (by simp)
  | window hcov => rw [RetransmissionQueue.isAckedByMask_iff, not_takes_iff hcov]

section

variable (hr : Receiving c e) (hS : Tracks e.ackWindow S) (hb : Batch c ds)
include hr hS hb

/-- **A batch without a new packet** is not answered and changes no window. -/
theorem receive_none (hold : ds.countP (fresh e.ackWindow) = 0) :
    e.answers ds now = [] ∧ (e.receive ds now).ackWindow = e.ackWindow := by
  induction ds generalizing e with
  | nil => exact ⟨rfl, rfl⟩
  | cons d ds ih =>
    obtain ⟨e', out, hstep, hans, hrec⟩ := hb.step now hr hS
    rw [countP_cons] at hold
    have hrefused : ¬ fresh e.ackWindow d = true := fun hf => by simp [hf] at hold
    rw [hans, hrec]
    cases hstep with
    | refused ha hw hr' hc hl =>
      rw [← hw] at hS hold ⊢
      exact ih hr' hS hb.tail (by omega)
    | answered ha | accepted ha => exact absurd ha hrefused

/-- **After a batch** the window takes none of its numbers any more. -/
theorem receive_takes :
    ∃ T, Tracks (e.receive ds now).ackWindow T ∧ S ⊆ T ∧
      ∀ d ∈ ds, ¬ Takes 64 T (packetNumberOf d).toNat := by
  induction ds generalizing e S with
  | nil => exact ⟨S, hS, subset_rfl, fun d hd => absurd hd (by simp)⟩
  | cons d ds ih =>
    obtain ⟨e', out, hstep, -, hrec⟩ := hb.step now hr hS
    rw [hrec]
    obtain ⟨hr', T, hT, hST, hno⟩ := hstep.keeps hS
    obtain ⟨T', hT', hTT', hall⟩ := ih hr' hT hb.tail
    refine ⟨T', hT', hST.trans hTT', fun d' hd' => ?_⟩
    rcases mem_cons.mp hd' with rfl | hd'
    · exact fun htakes => hno (htakes.anti hTT')
    · exact hall d' hd'

/-- **The last new packet is answered.** If it is time for an acknowledgement, and the batch has
    one new packet or acknowledgements are not delayed, then some answer tells of the window as
    it is after the batch. -/
theorem receive_final (hdue : e.AckDue now) (hnew : 0 < ds.countP (fresh e.ackWindow))
    (hone : e.config.ackDelayMs = 0 ∨ ds.countP (fresh e.ackWindow) = 1) :
    ∃ ack ∈ e.answers ds now, Acknowledges c (e.receive ds now).ackWindow ack := by
  induction ds generalizing e S with
  | nil => exact absurd hnew (by simp)
  | cons d ds ih =>
    obtain ⟨e', out, hstep, hans, hrec⟩ := hb.step now hr hS
    rw [hans, hrec]
    rw [countP_cons] at hnew hone
    cases hstep with
    | refused ha hw hr' hc hl =>
      -- nothing happened: the rest of the batch decides
      have hold : ¬ fresh e.ackWindow d = true := by simp [fresh, ha]
      rw [if_neg hold, Nat.add_zero, ← hw] at hnew hone
      rw [← hw] at hS
      rw [← hc] at hone
      exact ih hr' hS hb.tail ((ackDue_congr hc hl).mpr hdue) hnew hone
    | @answered ack ha hw hr' hc hdue' hl hack =>
      have hT := tracks_of_after hS ha hw
      by_cases hmore : ds.countP (fresh e'.ackWindow) = 0
      · -- this was the last new packet, so its answer stands
        obtain ⟨-, hsame⟩ := @receive_none _ now _ _ _ hr' hT hb.tail hmore
        exact ⟨ack, mem_append_left _ (mem_singleton.mpr rfl), by rw [hsame]; exact hack⟩
      · -- a second new packet follows, so acknowledgements are not delayed and it is due again
        have hfewer : ds.countP (fresh e'.ackWindow) ≤ ds.countP (fresh e.ackWindow) :=
          countP_mono_left fun d' _ hf =>
            fresh_anti hS hT (Set.subset_insert _ _) hf
        have hfresh : fresh e.ackWindow d = true := ha
        rw [if_pos hfresh] at hone
        have hzero : e.config.ackDelayMs = 0 := hone.resolve_right (by omega)
        have hdue'' : e'.AckDue now := by
          unfold AckDue
          rw [hl, hc, hzero]
          simp
        obtain ⟨ack', hmem, hack'⟩ :=
          ih hr' hT hb.tail hdue'' (by omega) (Or.inl (by rw [hc, hzero]))
        exact ⟨ack', mem_append_right _ hmem, hack'⟩
    | accepted ha hw hr' hc hno hl => exact absurd hdue hno

/-- **Too early for an acknowledgement**, a batch is not answered. -/
theorem receive_quiet (hdue : ¬ e.AckDue now) : e.answers ds now = [] := by
  induction ds generalizing e S with
  | nil => rfl
  | cons d ds ih =>
    obtain ⟨e', out, hstep, hans, -⟩ := hb.step now hr hS
    rw [hans]
    obtain ⟨hr', T, hT, -⟩ := hstep.keeps hS
    cases hstep with
    | refused _ _ _ hc hl | accepted _ _ _ hc _ hl =>
      exact ih hr' hT hb.tail ((ackDue_congr hc hl).not.mpr hdue)
    | answered _ _ _ _ hdue' => exact absurd hdue' hdue

/-- **Two new packets, one answer.** With delayed acknowledgements, in a batch with rising
    numbers, the second new packet is covered by no answer. -/
theorem receive_uncovered
    (hrise : ds.Pairwise fun d d' => packetNumberOf d < packetNumberOf d')
    (hdelay : ¬ now ≥ now + e.config.ackDelayMs.toUInt64)
    (hnew : 2 ≤ ds.countP (fresh e.ackWindow)) :
    ∃ d ∈ ds, ∀ ack ∈ e.answers ds now, ∃ w, Acknowledges c w ack ∧
      RetransmissionQueue.isAckedByMask (packetNumberOf d) w.largest w.mask = false := by
  induction ds generalizing e S with
  | nil => exact absurd hnew (by simp)
  | cons d ds ih =>
    obtain ⟨e', out, hstep, hans, -⟩ := hb.step now hr hS
    rw [hans]
    rw [countP_cons] at hnew
    obtain ⟨hfirst, hrise'⟩ := pairwise_cons.mp hrise
    cases hstep with
    | refused ha hw hr' hc hl =>
      have hold : ¬ fresh e.ackWindow d = true := by simp [fresh, ha]
      rw [if_neg hold, Nat.add_zero, ← hw] at hnew
      rw [← hw] at hS
      rw [← hc] at hdelay
      obtain ⟨d', hd', hunc⟩ := ih hr' hS hb.tail hrise' hdelay hnew
      exact ⟨d', mem_cons_of_mem d hd', hunc⟩
    | @answered ack ha hw hr' hc hdue hl hack =>
      have hT := tracks_of_after hS ha hw
      -- the acknowledgement just sent puts off all others
      have hquiet : e'.answers ds now = [] := receive_quiet hr' hT hb.tail (by
        unfold AckDue
        rw [hl, hc]
        exact hdelay)
      have hpos : 0 < ds.countP (fresh e.ackWindow) := by
        have : (if fresh e.ackWindow d = true then 1 else 0) ≤ 1 := by split <;> simp
        omega
      -- the only answer tells of a window that would still take the second new packet
      obtain ⟨d', hd', hf⟩ := countP_pos_iff.mp hpos
      refine ⟨d', mem_cons_of_mem d hd', fun ack' hack' => ?_⟩
      rw [hquiet, append_nil, mem_singleton] at hack'
      subst hack'
      refine ⟨e'.ackWindow, hack, ?_⟩
      have htakes : Takes 64 (insert (packetNumberOf d).toNat S) (packetNumberOf d').toNat :=
        ((accepts_iff hS _).mp hf).insert_of_lt (UInt32.lt_iff_toNat_lt.mp (hfirst d' hd'))
      rw [← Bool.not_eq_true, isAckedByMask_iff_of_tracks hT (Set.insert_nonempty _ _)]
      exact not_not.mpr htakes
    | accepted ha hw hr' hc hno hl =>
      -- nothing is answered at all
      have hquiet : e'.answers ds now = [] := receive_quiet hr' (tracks_of_after hS ha hw) hb.tail
        ((ackDue_congr hc hl).not.mpr hno)
      refine ⟨d, mem_cons_self, fun ack hack => ?_⟩
      rw [hquiet] at hack
      exact absurd hack (by simp)

/-- Everything a receiver answers acknowledges some window on the connection. -/
theorem acknowledges_answers : ∀ ack ∈ e.answers ds now, ∃ w, Acknowledges c w ack := by
  induction ds generalizing e S with
  | nil =>
    intro ack hack
    exact absurd hack (by simp [answers])
  | cons d ds ih =>
    obtain ⟨e', out, hstep, hans, -⟩ := hb.step now hr hS
    rw [hans]
    intro ack hmem
    obtain ⟨hr', T, hT, -⟩ := hstep.keeps hS
    cases hstep with
    | refused | accepted => exact ih hr' hT hb.tail ack hmem
    | answered _ _ _ _ _ _ hack =>
      rcases mem_append.mp hmem with hmem | hmem
      · rw [mem_singleton.mp hmem]
        exact ⟨_, hack⟩
      · exact ih hr' hT hb.tail ack hmem

end

/-! ### The answers come back -/

/-- The engine after datagrams that arrive one by one. -/
def arrive (e : RudpEngine) (arrivals : List (Datagram × UInt64)) : RudpEngine :=
  machine.run e (arrivals.map fun a => .processDatagram a.1 a.2)

@[simp] theorem arrive_cons (a : Datagram × UInt64) (arrivals : List (Datagram × UInt64)) :
    e.arrive (a :: arrivals) = (e.processDatagram a.1 a.2).1.arrive arrivals := rfl

/-- The datagram acknowledges this packet number. -/
def Covers (d : Datagram) (n : UInt32) : Prop :=
  ∃ h p, Parsed d h p ∧ RetransmissionQueue.isAckedByMask n h.ackLargest h.ackMask = true

/-- An acknowledgement made from a window covers what the window says. -/
theorem covers_iff (hack : Acknowledges c w d) (n : UInt32) :
    Covers d n ↔ RetransmissionQueue.isAckedByMask n w.largest w.mask = true := by
  obtain ⟨h, hp, hl, hm, -⟩ := hack
  rw [← hl, ← hm]
  constructor
  · rintro ⟨h', p', hd, hcov⟩
    obtain ⟨rfl, rfl⟩ := (parsed_iff_of_isPacket hp).mp hd
    exact hcov
  · intro hcov
    exact ⟨_, _, (parsed_iff_of_isPacket hp).mpr ⟨rfl, rfl⟩, hcov⟩

/-- **What the answers leave pending.** Of acknowledgements on the engine's own connection, each
    removes what it covers and nothing else. -/
theorem mem_arrive_iff {arrivals : List (Datagram × UInt64)}
    (hq : e.retransmissionQueue.Settled) (hc : OnConnection c e.state.connectionId)
    (hacks : ∀ a ∈ arrivals, ∃ w, Acknowledges c w a.1) (x : Entry) :
    x ∈ (e.arrive arrivals).retransmissionQueue.pending ↔ x ∈ e.retransmissionQueue.pending ∧
        ∀ a ∈ arrivals, ¬ Covers a.1 x.packet.packetNumber := by
  induction arrivals generalizing e with
  | nil =>
    show x ∈ e.retransmissionQueue.pending ↔ _
    simp
  | cons a arrivals ih =>
    obtain ⟨w, hack⟩ := hacks a mem_cons_self
    have hcov := covers_iff hack x.packet.packetNumber
    obtain ⟨h, hp, hl, hm, hconn⟩ := hack
    have hparsed := (parsed_iff_of_isPacket hp).mpr ⟨rfl, rfl⟩
    have hmatch := connectionMismatch_eq_false hc
      (show OnConnection c { h with payloadLength := _ }.connectionId from hconn)
    have hkeeps := @keeps_of_parsed e _ _ _ a.2 hparsed hmatch
    have hqueue := hkeeps.queue.trans admitted_queue
    have hid := hkeeps.connectionId
    have hc' : OnConnection c (e.processDatagram a.1 a.2).1.state.connectionId := by
      rw [hid]
      exact onConnection_admitted hc hconn
    have hq' : (e.processDatagram a.1 a.2).1.retransmissionQueue.Settled := by
      rw [hqueue]
      exact hq.markAcked _ _
    rw [arrive_cons, ih hq' hc' fun a' ha' => hacks a' (mem_cons_of_mem a ha'), hqueue,
      RetransmissionQueue.mem_markAcked hq, forall_mem_cons, hcov, Bool.not_eq_true, ← hl,
      ← hm]
    exact and_assoc

/-! ### What a poll retransmits -/

/-- **A retransmission is the pending packet.** -/
theorem resent_poll (he : e.Consistent) (hmtu : e.config.mtuPayloadBytes < 65536)
    (hd : d ∈ (e.poll now).2.egressDatagrams) (hc : OnConnection c (connectionIdOf d)) :
    ∃ x ∈ e.retransmissionQueue.pending, packetNumberOf d = x.packet.packetNumber ∧
      ∃ h p, Resent c (packetNumberOf d) d h p := by
  obtain ⟨x, hx, hset⟩ := egress_poll hd
  obtain ⟨h, p, hf⟩ := he.frames x hx
  have hfits : p.length < 65536 := lt_of_le_of_lt hf.length_le hmtu
  have hpack : IsPacket d { h with flags := h.flags ||| kFlagRetransmit } p := by
    rw [hset]
    exact isPacket_setRetransmit ⟨hf.eq, hf.magic, hf.version, hfits⟩
  have hdec := ((parsed_iff_of_isPacket hpack).mpr ⟨rfl, rfl⟩).2.1
  have hnum : packetNumberOf d = x.packet.packetNumber := by
    unfold packetNumberOf
    rw [hdec]
    exact hf.number
  refine ⟨x, hx, hnum, _, p, hpack, hf.type, ?_, ?_, ?_⟩
  · show h.flags ||| kFlagRetransmit = kFlagRetransmit
    rw [hf.flags]
    decide
  · rw [hnum]
    exact hf.number
  · unfold connectionIdOf at hc
    rw [hdec] at hc
    exact hc

end RudpEngine

namespace Net

open RudpEngine

/-- Every reachable engine is consistent. -/
theorem consistent_reachable {ca cb : RudpConfig} {moves : List Move} {s : Side} :
    (network.run (start ca cb) moves s).engine.Consistent := by
  have hinv : ∀ s, (network.run (start ca cb) moves s).engine.Consistent := by
    apply network.run_invariant (fun net => ∀ s, (net s).engine.Consistent)
    · intro net m hc s
      rcases next_cases net m s with hsame | ⟨-, c, -, hside⟩
      · rw [hsame]
        exact hc s
      · rw [hside]
        exact (hc s).next c
    · intro s
      cases s
      · exact consistent_reset { config := ca }
      · exact consistent_reset { config := cb }
  exact hinv s

/-- One round of recovery: `sender` polls at `polled`, everything it retransmits reaches
    `receiver` at `now`, in order, and everything the receiver answers comes back, in any order
    and at any time. -/
structure Round where
  sender : RudpEngine
  receiver : RudpEngine
  polled : UInt64
  now : UInt64
  arrivals : List (Datagram × UInt64)

namespace Round

/-- The retransmitted datagrams. -/
def batch (r : Round) : List Datagram := (r.sender.poll r.polled).2.egressDatagrams

/-- All the answers come back, each once. -/
def Complete (r : Round) : Prop :=
  (r.arrivals.map Prod.fst).Perm (r.receiver.answers r.batch r.now)

/-- At the end no packet of the batch is pending. -/
def Cleared (r : Round) : Prop :=
  ∀ x ∈ ((r.sender.poll r.polled).1.arrive r.arrivals).retransmissionQueue.pending,
    ∀ d ∈ r.batch, x.packet.packetNumber ≠ packetNumberOf d

/-- The number of packets in the batch that the receiver has not accepted yet, and that are not
    too old for its window. -/
def news (r : Round) : Nat := r.batch.countP (fresh r.receiver.ackWindow)

/-- The batch is empty, or it brings exactly one new packet, or it brings some and the receiver
    does not delay acknowledgements. -/
def Answerable (r : Round) : Prop :=
  r.batch = [] ∨ r.news = 1 ∨ (0 < r.news ∧ r.receiver.config.ackDelayMs = 0)

/-- Both ends and the batch are on one connection, or do not know theirs yet. -/
def OneConnection (r : Round) : Prop :=
  ∃ c, OnConnection c r.sender.state.connectionId ∧ OnConnection c r.receiver.state.connectionId ∧
    ∀ d ∈ r.batch, OnConnection c (connectionIdOf d)

variable {r : Round} {c : UInt32}

/-- The batch consists of retransmissions of pending packets. -/
theorem batch_resent (hs : r.sender.Consistent) (hmtu : r.sender.config.mtuPayloadBytes < 65536)
    (hc : ∀ d ∈ r.batch, OnConnection c (connectionIdOf d)) : Batch c r.batch := by
  intro d hd
  obtain ⟨x, -, -, hres⟩ := resent_poll hs hmtu hd (hc d hd)
  exact hres

section

variable {S : Set ℕ} (hs : r.sender.Consistent) (hr : Receiving c r.receiver)
  (hS : AckWindow.Tracks r.receiver.ackWindow S)
  (hsc : OnConnection c r.sender.state.connectionId) (hb : Batch c r.batch) (hall : r.Complete)
include hs hr hS hsc hb hall

/-- What the round leaves pending, in terms of the answers. -/
theorem mem_end_iff (x : Entry) :
    x ∈ ((r.sender.poll r.polled).1.arrive r.arrivals).retransmissionQueue.pending ↔
      x ∈ (r.sender.poll r.polled).1.retransmissionQueue.pending ∧
        ∀ ack ∈ r.receiver.answers r.batch r.now,
          ¬ RudpEngine.Covers ack x.packet.packetNumber := by
  have hcons : (r.sender.poll r.polled).1.Consistent := hs.next (.poll r.polled)
  have hid : (r.sender.poll r.polled).1.state.connectionId = r.sender.state.connectionId := by
    rcases poll_cases with ⟨reason, hp⟩ | hp <;> rw [hp] <;> rfl
  have hacks : ∀ a ∈ r.arrivals, ∃ w, Acknowledges c w a.1 := fun a ha =>
    acknowledges_answers hr hS hb a.1 (hall.mem_iff.mp (mem_map_of_mem ha))
  rw [mem_arrive_iff hcons.settled (by rw [hid]; exact hsc) hacks]
  simp only [← hall.mem_iff, forall_mem_map]

/-- **Answerable rounds clear their batch.** -/
theorem cleared_of_answerable (hdue : r.receiver.AckDue r.now) (h : r.Answerable) : r.Cleared := by
  intro x hx d hd hnum
  obtain ⟨hpos, hone⟩ : 0 < r.news ∧ (r.receiver.config.ackDelayMs = 0 ∨ r.news = 1) := by
    rcases h with hnil | hone | ⟨hpos, hzero⟩
    · rw [hnil] at hd
      exact absurd hd (by simp)
    · exact ⟨by omega, Or.inr hone⟩
    · exact ⟨hpos, Or.inl hzero⟩
  -- some answer tells of the window after the batch, which refuses all of it
  obtain ⟨ack, hack, htells⟩ := receive_final hr hS hb hdue hpos hone
  obtain ⟨T, hT, hST, hrefuses⟩ := @receive_takes _ r.now _ _ _ hr hS hb
  have hTne : T.Nonempty := by
    by_contra hempty
    rw [Set.not_nonempty_iff_eq_empty.mp hempty] at hrefuses
    exact hrefuses d hd (takes_empty _ _)
  have hcov : RudpEngine.Covers ack x.packet.packetNumber := by
    rw [covers_iff htells, isAckedByMask_iff_of_tracks hT hTne, hnum]
    exact hrefuses d hd
  exact ((mem_end_iff hs hr hS hsc hb hall x).mp hx).2 ack hack hcov

/-- **Only answerable rounds do**, if the numbers of the batch rise and the clock does not
    overflow. -/
theorem answerable_of_cleared (hmtu : r.sender.config.mtuPayloadBytes < 65536)
    (hbc : ∀ d ∈ r.batch, OnConnection c (connectionIdOf d))
    (hrise : r.batch.Pairwise fun d d' => packetNumberOf d < packetNumberOf d')
    (hclock : r.receiver.config.ackDelayMs ≠ 0 →
      ¬ r.now ≥ r.now + r.receiver.config.ackDelayMs.toUInt64)
    (h : r.Cleared) : r.Answerable := by
  -- a packet of the batch that no answer covers is still pending at the end
  have hstays : ∀ d ∈ r.batch, ∃ ack ∈ r.receiver.answers r.batch r.now,
      RudpEngine.Covers ack (packetNumberOf d) := by
    intro d hd
    by_contra hnone
    obtain ⟨x, hx, hnum, -⟩ := resent_poll hs hmtu hd (hbc d hd)
    have hmem := mem_map_of_mem (f := Entry.body) hx
    rw [← pending_poll] at hmem
    obtain ⟨y, hy, hbody⟩ := mem_map.mp hmem
    have hny : y.packet.packetNumber = packetNumberOf d :=
      (show y.packet.packetNumber = x.packet.packetNumber from congrArg (·.1) hbody).trans hnum.symm
    refine h y ((mem_end_iff hs hr hS hsc hb hall y).mpr ⟨hy, fun ack hack hcov => ?_⟩) d hd hny
    rw [hny] at hcov
    exact hnone ⟨ack, hack, hcov⟩
  by_contra hnot
  unfold Answerable at hnot
  push Not at hnot
  obtain ⟨hne, hnews, hdelay⟩ := hnot
  by_cases hzero : r.news = 0
  · -- nothing new: no answer at all
    obtain ⟨d, hd⟩ := exists_mem_of_ne_nil _ hne
    obtain ⟨ack, hack, -⟩ := hstays d hd
    rw [(receive_none hr hS hb hzero).1] at hack
    exact absurd hack (by simp)
  · -- two new packets or more: one answer, which does not cover the second
    obtain ⟨d, hd, hunc⟩ := receive_uncovered hr hS hb hrise
      (hclock (hdelay (Nat.pos_of_ne_zero hzero))) (show 2 ≤ r.news by omega)
    obtain ⟨ack, hack, hcov⟩ := hstays d hd
    obtain ⟨w, htells, hno⟩ := hunc ack hack
    rw [covers_iff htells, hno] at hcov
    exact absurd hcov (by simp)

end

end Round

/-! ### Reachable states -/

/-- The round that side `s` starts in a state of the network. -/
def round (net : Net) (s : Side) (polled now : UInt64) (arrivals : List (Datagram × UInt64)) :
    Round :=
  { sender := (net s).engine, receiver := (net s.other).engine, polled := polled, now := now,
    arrivals := arrivals }

/-- Enough time has passed since the receiver's last acknowledgement. -/
def Round.AckTimeReached (r : Round) : Prop :=
  r.receiver.state.lastAckEmitUnixMs.toNat + r.receiver.config.ackDelayMs.toNat ≤ r.now.toNat

/-- **When a retransmission round is acknowledged.** In every reachable state of two engines
    over the network, with the receiver established, both ends on one connection and payloads
    that fit a packet: if the batch is answerable, none of its packets is left pending once the
    answers are back.  If moreover the numbers of the batch rise, which they do until the packet
    counter wraps, and the clock does not overflow, only answerable batches are cleared. -/
theorem round_cleared_iff (ca cb : RudpConfig) (moves : List Move) (s : Side)
    (polled now : UInt64) (arrivals : List (Datagram × UInt64)) (r : Round)
    (hround : r = round (network.run (start ca cb) moves) s polled now arrivals)
    (hest : r.receiver.state.lifecycle = .kEstablished)
    (hmtu : r.sender.config.mtuPayloadBytes < 65536) (hone : r.OneConnection)
    (htime : r.AckTimeReached) (hall : r.Complete) :
    (r.Answerable → r.Cleared) ∧
      (r.batch.Pairwise (fun d d' => packetNumberOf d < packetNumberOf d') →
        r.now.toNat + r.receiver.config.ackDelayMs.toNat < 2 ^ 64 → r.Cleared → r.Answerable) := by
  have hs : r.sender.Consistent := by
    rw [hround]
    exact consistent_reachable
  have hr : r.receiver.Consistent := by
    rw [hround]
    exact consistent_reachable
  obtain ⟨c, hsc, hrc, hbc⟩ := hone
  have hrec : Receiving c r.receiver := ⟨hest, hrc, hr.ack⟩
  have hb := Round.batch_resent hs hmtu hbc
  obtain ⟨S, hS⟩ := hr.tracks
  refine ⟨fun h => ?_, fun hrise hclock h => ?_⟩
  · exact Round.cleared_of_answerable hs hrec hS hsc hb hall (le_trans (Nat.mod_le _ _) htime) h
  · refine Round.answerable_of_cleared hs hrec hS hsc hb hall hmtu hbc hrise (fun hne => ?_) h
    have hpos : 0 < r.receiver.config.ackDelayMs.toNat :=
      Nat.pos_of_ne_zero fun h0 => hne (UInt32.toNat_inj.mp h0)
    rw [ge_iff_le, UInt64.le_iff_toNat_le, UInt64.toNat_add, UInt32.toNat_toUInt64,
      Nat.mod_eq_of_lt hclock]
    omega

/-- A packet that was lost, retransmitted, and acknowledged. -/
def lostOnce : List Move := handshake ++ [⟨.a, .queue [42] 0 1003⟩]

/-- Its round: one new packet, one answer, and nothing left pending. -/
theorem round_cleared_iff_lost :
    let net := network.run (start {} {}) lostOnce
    let answers := (net .b).engine.answers ((net .a).engine.poll 1300).2.egressDatagrams 1310
    let r := round net .a 1300 1310 (answers.map fun d => (d, 1320))
    r.batch.length = 1 ∧ r.Answerable ∧ ((r.Answerable → r.Cleared) ∧
        (r.batch.Pairwise (fun d d' => packetNumberOf d < packetNumberOf d') →
          r.now.toNat + r.receiver.config.ackDelayMs.toNat < 2 ^ 64 →
            r.Cleared → r.Answerable)) := by
  refine ⟨by decide +kernel, Or.inr (Or.inl (by decide +kernel)), ?_⟩
  refine round_cleared_iff {} {} lostOnce .a 1300 1310 _ _ rfl (by decide +kernel)
    (by decide +kernel) ⟨7, by decide +kernel, by decide +kernel, by decide +kernel⟩ ?_ ?_
  · unfold Round.AckTimeReached
    decide +kernel
  · unfold Round.Complete
    decide +kernel

/-- A packet that arrived, but whose acknowledgement is lost. -/
def ackLost : List Move := lostOnce ++ [⟨.b, .deliver 1 1020⟩]

/-- **A retransmission that is not answered.** The packet arrived and its acknowledgement was
    lost.  The retransmission gets through, is a duplicate for the receiver, and is not
    answered: the packet stays pending. -/
theorem retransmission_unanswered :
    ¬ ∀ (ca cb : RudpConfig) (moves : List Move) (s : Side) (polled now : UInt64)
        (arrivals : List (Datagram × UInt64)),
      let r := round (network.run (start ca cb) moves) s polled now arrivals
      r.sender.state.lifecycle = .kEstablished → r.receiver.state.lifecycle = .kEstablished →
      r.AckTimeReached →
      now.toNat ≤ r.receiver.state.lastRecvUnixMs.toNat + r.receiver.config.idleTimeoutMs.toNat →
      r.Complete → r.Cleared := by
  intro hall
  have hcleared := hall {} {} ackLost .a 1300 1310 [] (by decide +kernel) (by decide +kernel)
    (by unfold Round.AckTimeReached; decide +kernel) (by decide +kernel)
    (by unfold Round.Complete; decide +kernel)
  revert hcleared
  unfold Round.Cleared
  decide +kernel

end Net

end Knights.Rudp
