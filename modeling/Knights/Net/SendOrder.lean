import Knights.Net.SendQueue

namespace Knights.Net

open Knights.Lib Knights.Protocol List

/-!
# Net — the numbers of outgoing packets

`Session::async_send(msg_id, payload, flags)` takes the next number from `tx_seq_` and builds the
packet on the calling thread, and then dispatches to the strand of the session, where the packet
joins the send queue.  What is dispatched waits behind what was dispatched before it, except that
a thread which is running a handler of the strand goes on with it at once.

Any number of threads call, and each of the three steps may be followed by a step of another
thread.  So the order of the numbers and that of the queue are decided at different times:

* `Orderly` — a packet is dispatched while no smaller number is on its way to the strand;
* `sends_in_order` — then packets are written in the order of their numbers;
* `sends_out_of_order` — without it they are not.
-/

/-- A packet, with its number in the header. -/
structure OutPacket where
  header : PacketHeader
  payload : Bytes
  deriving DecidableEq, Repr

namespace OutPacket

/-- The number of a packet. -/
def seq (p : OutPacket) : UInt32 := p.header.seq

/-- The size that counts in the send queue. -/
def size (p : OutPacket) : ℕ := kHeaderBytes + p.payload.length

end OutPacket

/-- The arguments of a call that has taken its number. -/
structure SendCall where
  msgId : UInt16
  flags : UInt16 := 0
  payload : Bytes := []
  seq : UInt32
  utcTsMs32 : UInt32
  deriving DecidableEq, Repr

/-- Build the packet of a call, unless it is larger than a block of the pool or the pool has no
    block. -/
def makePacket (blockSize : ℕ) (acquired : Bool) (c : SendCall) : Option OutPacket :=
  if kHeaderBytes + c.payload.length > blockSize then none
  else if !acquired then none
  else some
    { header := ⟨UInt16.ofNat c.payload.length, c.msgId, c.flags, c.seq, c.utcTsMs32⟩
      payload := c.payload }

/-- How far a thread is with its call of `async_send`. -/
inductive Sender where
  | idle
  | numbered (c : SendCall)
  | built (p : OutPacket)
  deriving DecidableEq, Repr

/-- The number that a thread has taken and not dispatched yet. -/
def Sender.held : Sender → Option UInt32
  | .idle => none
  | .numbered c => some c.seq
  | .built p => some p.seq

/-- A session and the threads that send on it. -/
structure Traffic where
  txSeq : UInt32 := 1
  senders : ℕ → Sender := fun _ => .idle
  /-- The thread that is running a handler of the strand other than a send. -/
  running : Option ℕ := none
  /-- The sends that wait for the strand. -/
  posted : List OutPacket := []
  send : SendState OutPacket := {}

/-- The steps of the threads and of the strand. -/
inductive TrafficInput where
  /-- A call begins: `tx_seq_++`. -/
  | take (t : ℕ) (msgId flags : UInt16) (payload : Bytes) (utcTsMs32 : UInt32)
  /-- `make_packet`; the pool may be empty. -/
  | build (t : ℕ) (acquired : Bool)
  /-- `asio::dispatch` -/
  | dispatch (t : ℕ)
  /-- A thread begins to run a handler of the strand, from which it may send. -/
  | enter (t : ℕ)
  | leave (t : ℕ)
  /-- The strand runs the send that has waited longest. -/
  | runPosted
  /-- A write completes, or the session is stopped. -/
  | other (i : SendInput OutPacket)
  deriving DecidableEq, Repr

namespace Traffic

variable (options : Option ℕ) (blockSize : ℕ) {t : ℕ} {i : TrafficInput} {p : OutPacket}

/-- Thread `t` is now at `c`. -/
def setSender (s : Traffic) (t : ℕ) (c : Sender) : Traffic :=
  { s with senders := Function.update s.senders t c }

/-- A handler of the session runs. -/
def handle (s : Traffic) (i : SendInput OutPacket) : Traffic × List (SendEffect OutPacket) :=
  ({ s with send := (Session.step OutPacket.size options s.send i).1 },
    (Session.step OutPacket.size options s.send i).2)

/-- What cannot happen now: a send only comes by way of `dispatch`, and completions wait until
    the strand is free. -/
def blocked (s : Traffic) : SendInput OutPacket → Bool
  | .asyncSend _ => true
  | .completed _ _ | .finalize => s.running.isSome
  | .stop | .stopElsewhere => false

/-- One step; a step that is not possible does nothing. -/
def step (s : Traffic) : TrafficInput → Traffic × List (SendEffect OutPacket)
  | .take t msgId flags payload utc =>
    match s.senders t with
    | .idle =>
      let c : SendCall := ⟨msgId, flags, payload, s.txSeq, utc⟩
      ({ s.setSender t (.numbered c) with txSeq := s.txSeq + 1 }, [])
    | _ => (s, [])
  | .build t acquired =>
    match s.senders t with
    | .numbered c =>
      match makePacket blockSize acquired c with
      | some p => (s.setSender t (.built p), [])
      | none => (s.setSender t .idle, [])
    | _ => (s, [])
  | .dispatch t =>
    match s.senders t with
    | .built p =>
      let s := s.setSender t .idle
      if s.running = some t then s.handle options (.asyncSend p)
      else ({ s with posted := s.posted ++ [p] }, [])
    | _ => (s, [])
  | .enter t =>
    if s.running = none ∧ s.senders t = .idle then ({ s with running := some t }, []) else (s, [])
  | .leave t =>
    if s.running = some t ∧ s.senders t = .idle then ({ s with running := none }, [])
    else (s, [])
  | .runPosted =>
    match s.running, s.posted with
    | none, p :: rest => handle options { s with posted := rest } (.asyncSend p)
    | _, _ => (s, [])
  | .other i => if s.blocked i then (s, []) else s.handle options i

/-- A session with its threads as a machine. -/
def machine : Machine Traffic TrafficInput (List (SendEffect OutPacket)) where
  step := step options blockSize

/-! ### What keeps the order -/

/-- A packet is dispatched while no other thread is on its way with a smaller number, and by a
    thread on the strand while no send waits there. -/
def Orderly (s : Traffic) : TrafficInput → Prop
  | .dispatch t => ∀ p, s.senders t = .built p →
    (∀ t' n, (s.senders t').held = some n → p.seq ≤ n) ∧ (s.running = some t → s.posted = [])
  | _ => True

/-- No number is taken after the counter has come back to 0. -/
def NoWraparound (s : Traffic) : TrafficInput → Prop
  | .take .. => s.txSeq ≠ 0
  | _ => True

/-- The order of the numbers, when `q` has been queued and `w` written so far. -/
structure InOrder (q w : List OutPacket) (s : Traffic) : Prop where
  kept : Kept OutPacket.size (options.getD 0) q w s.send
  /-- What is queued and what waits for the strand is in order, … -/
  sorted : (q ++ s.posted).Pairwise fun p p' => p.seq < p'.seq
  /-- … before all numbers that are on their way, … -/
  below : ∀ p ∈ q ++ s.posted, ∀ t n, (s.senders t).held = some n → p.seq < n
  /-- … which are different, … -/
  apart : ∀ t t' n, (s.senders t).held = some n → (s.senders t').held = some n → t = t'
  /-- … and before the next number. -/
  fresh : s.txSeq ≠ 0 → (∀ p ∈ q ++ s.posted, p.seq < s.txSeq) ∧
    ∀ t n, (s.senders t).held = some n → n < s.txSeq

variable {options blockSize} {q w : List OutPacket} {s : Traffic}

theorem senders_setSender (t : ℕ) (c : Sender) (t' : ℕ) :
    (s.setSender t c).senders t' = if t' = t then c else s.senders t' :=
  Function.update_apply ..

theorem makePacket_seq {acquired : Bool} {c : SendCall}
    (h : makePacket blockSize acquired c = some p) : p.seq = c.seq := by
  unfold makePacket at h
  split_ifs at h
  cases h
  rfl

/-- A number up to the counter is smaller than the next one, if that is not 0. -/
theorem lt_succ_of_le {n m : UInt32} (h : n ≤ m) (hm : m + 1 ≠ 0) : n < m + 1 := by
  rw [UInt32.le_iff_toNat_le] at h
  have hne : (m + 1).toNat ≠ 0 := fun hzero => hm (UInt32.toNat_inj.mp hzero)
  rw [UInt32.lt_iff_toNat_lt]
  rw [UInt32.toNat_add, UInt32.toNat_one] at hne ⊢
  have hlt := m.toNat_lt
  omega

namespace InOrder

/-- A thread that gives up its number, or keeps the one it has. -/
theorem setSender (h : InOrder options q w s) {c : Sender}
    (hc : ∀ n, c.held = some n → (s.senders t).held = some n) :
    InOrder options q w (s.setSender t c) := by
  have hheld : ∀ t' n, ((s.setSender t c).senders t').held = some n →
      (s.senders t').held = some n := by
    intro t' n hn
    rw [senders_setSender] at hn
    split at hn
    case isTrue heq => exact heq ▸ hc n hn
    case isFalse => exact hn
  exact
    { kept := h.kept
      sorted := h.sorted
      below := fun p hp t' n hn => h.below p hp t' n (hheld t' n hn)
      apart := fun t₁ t₂ n h₁ h₂ => h.apart t₁ t₂ n (hheld t₁ n h₁) (hheld t₂ n h₂)
      fresh := fun hne => ⟨(h.fresh hne).1, fun t' n hn => (h.fresh hne).2 t' n (hheld t' n hn)⟩ }

/-- A thread takes a number. -/
theorem take (h : InOrder options q w s) (hne : s.txSeq ≠ 0) {c : SendCall} (hc : c.seq = s.txSeq) :
    InOrder options q w { s.setSender t (.numbered c) with txSeq := s.txSeq + 1 } := by
  obtain ⟨hqueued, hheld⟩ := h.fresh hne
  -- The new number is larger than all others.
  have hcases : ∀ t' n, ((s.setSender t (.numbered c)).senders t').held = some n →
      t' = t ∧ n = s.txSeq ∨ (s.senders t').held = some n := by
    intro t' n hn
    rw [senders_setSender] at hn
    split at hn
    case isTrue heq => exact .inl ⟨heq, by simpa [Sender.held, hc] using hn.symm⟩
    case isFalse => exact .inr hn
  refine ⟨h.kept, h.sorted, fun p hp t' n hn => ?_, fun t₁ t₂ n h₁ h₂ => ?_, fun hnext => ?_⟩
  · obtain ⟨-, rfl⟩ | hn := hcases t' n hn
    · exact hqueued p hp
    · exact h.below p hp t' n hn
  · obtain ⟨rfl, rfl⟩ | hold₁ := hcases t₁ n h₁
    · obtain ⟨rfl, -⟩ | hold₂ := hcases t₂ _ h₂
      · rfl
      · exact absurd (hheld t₂ _ hold₂) (UInt32.lt_irrefl _)
    · obtain ⟨rfl, rfl⟩ | hold₂ := hcases t₂ _ h₂
      · exact absurd (hheld t₁ _ hold₁) (UInt32.lt_irrefl _)
      · exact h.apart t₁ t₂ n hold₁ hold₂
  · refine ⟨fun p hp => lt_succ_of_le (UInt32.le_of_lt (hqueued p hp)) hnext, fun t' n hn => ?_⟩
    obtain ⟨-, rfl⟩ | hn := hcases t' n hn
    · exact lt_succ_of_le (UInt32.le_refl _) hnext
    · exact lt_succ_of_le (UInt32.le_of_lt (hheld t' n hn)) hnext

/-- A packet is dispatched whose number is the smallest on its way. -/
theorem post (h : InOrder options q w s) (ht : s.senders t = .built p)
    (hleast : ∀ t' n, (s.senders t').held = some n → p.seq ≤ n) :
    InOrder options q w { s.setSender t .idle with posted := s.posted ++ [p] } := by
  have hp : (s.senders t).held = some p.seq := by rw [ht]; rfl
  have hidle := h.setSender (t := t) (c := .idle) nofun
  have hmem : ∀ p' ∈ q ++ (s.posted ++ [p]), p' ∈ q ++ s.posted ∨ p' = p := by
    intro p' hp'
    rw [← append_assoc, mem_append, mem_singleton] at hp'
    exact hp'
  refine ⟨h.kept, ?_, fun p' hp' t' n hn => ?_, hidle.apart, fun hne => ⟨fun p' hp' => ?_, ?_⟩⟩
  · rw [← append_assoc, pairwise_append]
    refine ⟨h.sorted, pairwise_singleton _ _, fun p' hp' p'' hp'' => ?_⟩
    rw [mem_singleton.mp hp'']
    exact h.below p' hp' t p.seq hp
  · obtain hp' | rfl := hmem p' hp'
    · exact hidle.below p' hp' t' n hn
    · rw [show ({ s.setSender t .idle with posted := s.posted ++ [p'] } : Traffic).senders t' =
        (s.setSender t .idle).senders t' from rfl, senders_setSender] at hn
      split at hn
      case isTrue => cases hn
      case isFalse hne =>
        -- Another thread has another number.
        refine UInt32.lt_of_le_of_ne (hleast t' n hn) fun heq => hne ?_
        exact h.apart t' t n hn (heq ▸ hp)
  · obtain hp' | rfl := hmem p' hp'
    · exact (h.fresh hne).1 p' hp'
    · exact (h.fresh hne).2 t _ hp
  · exact (hidle.fresh hne).2

/-- A handler that queues nothing. -/
theorem handle_quiet (h : InOrder options q w s) (i : SendInput OutPacket)
    (hi : queuedIn (s.handle options i).2 = []) :
    InOrder options (q ++ queuedIn (s.handle options i).2)
      (w ++ writtenIn (s.handle options i).2) (s.handle options i).1 := by
  have hkept := (Session.isSender OutPacket.size options).kept h.kept i
  rw [hi, append_nil]
  refine ⟨?_, h.sorted, h.below, h.apart, h.fresh⟩
  have hsame : queuedIn ((Session.machine OutPacket.size options).step s.send i).2 = [] := hi
  rw [hsame, append_nil] at hkept
  exact hkept

/-- The strand runs the first send that waits, which is queued or dropped. -/
theorem handle_send {rest : List OutPacket} (hposted : s.posted = p :: rest)
    (h : InOrder options q w s) :
    InOrder options (q ++ queuedIn (handle options { s with posted := rest } (.asyncSend p)).2)
      (w ++ writtenIn (handle options { s with posted := rest } (.asyncSend p)).2)
      (handle options { s with posted := rest } (.asyncSend p)).1 := by
  have hkept := (Session.isSender OutPacket.size options).kept h.kept (.asyncSend p)
  have hqueued := queuedIn_asyncSend OutPacket.size options p s.send
  -- What is in the queue and waits now is part of what it was before.
  have hsub : List.Sublist
      (q ++ queuedIn (Session.asyncSend OutPacket.size options p s.send).2 ++ rest)
      (q ++ s.posted) := by
    rw [hposted, append_assoc]
    refine List.Sublist.append_left ?_ q
    obtain hnone | hone := hqueued
    · rw [hnone, nil_append]
      exact sublist_cons_self p rest
    · rw [hone]
      exact List.Sublist.refl _
  exact
    { kept := hkept
      sorted := h.sorted.sublist hsub
      below := fun p' hp' => h.below p' (hsub.subset hp')
      apart := h.apart
      fresh := fun hne => ⟨fun p' hp' => (h.fresh hne).1 p' (hsub.subset hp'), (h.fresh hne).2⟩ }

/-- A step without effects. -/
theorem quiet (h : InOrder options q w s) :
    InOrder options (q ++ queuedIn []) (w ++ writtenIn []) s := by
  simpa using h

/-- One step keeps the order, if it is orderly and does not wrap around. -/
theorem step (h : InOrder options q w s) (horderly : s.Orderly i) (hwrap : s.NoWraparound i) :
    InOrder options (q ++ queuedIn (s.step options blockSize i).2)
      (w ++ writtenIn (s.step options blockSize i).2) (s.step options blockSize i).1 := by
  unfold Traffic.step
  cases i <;> dsimp only
  case take t msgId flags payload utc =>
    split
    · exact (h.take hwrap rfl).quiet
    · exact h.quiet
  case build t acquired =>
    split
    case h_1 c hc =>
      split
      case h_1 p hp =>
        refine (h.setSender fun n hn => ?_).quiet
        rw [hc]
        show some c.seq = some n
        rw [← makePacket_seq hp]
        exact hn
      case h_2 => exact (h.setSender (t := t) (c := .idle) nofun).quiet
    case h_2 => exact h.quiet
  case dispatch t =>
    split
    case h_1 p hp =>
      obtain ⟨hleast, hstrand⟩ := horderly p hp
      have hpost := h.post hp hleast
      split
      case isTrue hrunning =>
        -- On the strand nothing waits, so this is the send that would run next.
        have hnone : s.posted = [] := hstrand hrunning
        rw [hnone, nil_append] at hpost
        have hsend := hpost.handle_send rfl
        rwa [← hnone] at hsend
      case isFalse => exact hpost.quiet
    case h_2 => exact h.quiet
  case enter | leave =>
    split
    · exact InOrder.quiet ⟨h.kept, h.sorted, h.below, h.apart, h.fresh⟩
    · exact h.quiet
  case runPosted =>
    split
    case h_1 p rest _ hposted => exact h.handle_send hposted
    case h_2 => exact h.quiet
  case other i =>
    split
    case isTrue => exact h.quiet
    case isFalse hfree =>
      refine h.handle_quiet i ?_
      cases i with
      | asyncSend p => exact absurd rfl hfree
      | completed k ok => exact queuedIn_completed OutPacket.size options k ok s.send
      | stop | stopElsewhere | finalize => rfl

end InOrder

/-- **Packets are written in the order of their numbers**, for any number of threads and any
    interleaving of their steps, if every packet is dispatched while no smaller number is on its
    way to the strand. -/
theorem sends_in_order {is : List TrafficInput}
    (h : (machine options blockSize).Guarded (fun s i => s.Orderly i ∧ s.NoWraparound i) {} is) :
    ((writtenIn ((machine options blockSize).outputs {} is)).map OutPacket.seq).Pairwise
      (· < ·) := by
  have horder : InOrder options (queuedIn ((machine options blockSize).outputs {} is))
      (writtenIn ((machine options blockSize).outputs {} is))
      ((machine options blockSize).run {} is) := by
    refine (machine options blockSize).guarded_outputs_invariant
      (fun es s => InOrder options (queuedIn es) (writtenIn es) s) _ ?_ ?_ h
    · intro es s i hs hi
      rw [queuedIn_append, writtenIn_append]
      exact hs.step hi.1 hi.2
    · refine ⟨⟨rfl, fun _ => Nat.zero_le _, id, .idle rfl rfl rfl⟩, .nil, nofun, nofun, ?_⟩
      exact fun _ => ⟨nofun, nofun⟩
  rw [pairwise_map]
  have hqueued := (pairwise_append.mp horder.sorted).1
  exact hqueued.sublist horder.kept.written_isPrefix.sublist

/-! ### One sending thread -/

/-- Only thread `t` sends, and not from the strand. -/
def isOf (t : ℕ) : TrafficInput → Bool
  | .take t' .. | .build t' _ | .dispatch t' => t' = t
  | .enter t' => t' ≠ t
  | _ => true

/-- No other thread is on its way, and `t` is not on the strand. -/
structure Alone (t : ℕ) (s : Traffic) : Prop where
  others : ∀ t', t' ≠ t → s.senders t' = .idle
  off : s.running ≠ some t

theorem alone_start (t : ℕ) : Alone t {} := ⟨fun _ _ => rfl, by simp⟩

theorem Alone.setSender (h : s.Alone t) (c : Sender) : (s.setSender t c).Alone t := by
  refine ⟨fun t' ht' => ?_, h.off⟩
  rw [senders_setSender, if_neg ht']
  exact h.others t' ht'

theorem Alone.congr {s' : Traffic} (h : s.Alone t) (hsenders : s'.senders = s.senders)
    (hrunning : s'.running = s.running) : s'.Alone t :=
  ⟨fun t' ht' => (congrFun hsenders t').trans (h.others t' ht'), hrunning ▸ h.off⟩

theorem Alone.step (h : s.Alone t) (hi : isOf t i = true) :
    ((machine options blockSize).next s i).Alone t := by
  show (s.step options blockSize i).1.Alone t
  unfold Traffic.step
  cases i <;> dsimp only
  case take t' msgId flags payload utc =>
    obtain rfl : t' = t := of_decide_eq_true hi
    split
    · exact (h.setSender _).congr rfl rfl
    · exact h
  case build t' acquired =>
    obtain rfl : t' = t := of_decide_eq_true hi
    split
    · split
      · exact h.setSender _
      · exact h.setSender _
    · exact h
  case dispatch t' =>
    obtain rfl : t' = t := of_decide_eq_true hi
    split
    · split
      · exact (h.setSender _).congr rfl rfl
      · exact (h.setSender _).congr rfl rfl
    · exact h
  case enter t' =>
    have hne : t' ≠ t := of_decide_eq_true hi
    split
    · exact ⟨h.others, fun heq => hne (Option.some.inj heq)⟩
    · exact h
  case leave t' =>
    split
    · exact ⟨h.others, nofun⟩
    · exact h
  case runPosted =>
    split
    · exact h.congr rfl rfl
    · exact h
  case other i =>
    split
    · exact h
    · exact h.congr rfl rfl

/-- A single thread dispatches its numbers in order. -/
theorem Alone.orderly (h : s.Alone t) (hi : isOf t i = true) : s.Orderly i := by
  cases i with
  | dispatch t' =>
    obtain rfl : t' = t := of_decide_eq_true hi
    intro p hp
    refine ⟨fun t'' n hn => ?_, fun hrunning => absurd hrunning h.off⟩
    by_cases heq : t'' = t'
    · rw [heq, hp] at hn
      exact UInt32.le_of_eq (Option.some.inj hn)
    · rw [h.others t'' heq] at hn
      cases hn
  | _ => trivial

/-- A run in which one thread sends, off the strand, is orderly. -/
theorem guarded_of_alone (h : s.Alone t) {is : List TrafficInput} (his : ∀ i ∈ is, isOf t i = true)
    (hwrap : (machine options blockSize).Guarded NoWraparound s is) :
    (machine options blockSize).Guarded (fun s i => s.Orderly i ∧ s.NoWraparound i) s is := by
  induction is generalizing s with
  | nil => trivial
  | cons i is ih =>
    have hi := his i mem_cons_self
    refine ⟨⟨h.orderly hi, hwrap.1⟩, ih (h.step hi) (fun j hj => ?_) hwrap.2⟩
    exact his j (mem_cons_of_mem i hj)

instance (s : Traffic) : (i : TrafficInput) → Decidable (s.NoWraparound i)
  | .take .. => inferInstanceAs (Decidable (s.txSeq ≠ 0))
  | .build .. | .dispatch _ | .enter _ | .leave _ | .runPosted | .other _ => isTrue trivial

/-- One thread sends twice. -/
def sendTwice : List TrafficInput :=
  [.take 0 1 0 [] 7, .build 0 true, .dispatch 0, .take 0 2 0 [] 7, .build 0 true, .dispatch 0,
    .runPosted, .runPosted, .other (.completed 0 true)]

/-- Two packets of one thread leave as 1 and 2. -/
theorem sends_in_order_sendTwice :
    (machine none 100).Guarded (fun s i => s.Orderly i ∧ s.NoWraparound i) {} sendTwice ∧
    (writtenIn ((machine none 100).outputs {} sendTwice)).map OutPacket.seq = [1, 2] ∧
    ((writtenIn ((machine none 100).outputs {} sendTwice)).map OutPacket.seq).Pairwise
      (· < ·) := by
  have h : (machine none 100).Guarded (fun s i => s.Orderly i ∧ s.NoWraparound i) {} sendTwice :=
    guarded_of_alone (alone_start 0) (by decide) (by decide)
  exact ⟨h, by decide +kernel, sends_in_order h⟩

/-- Two threads take the numbers 1 and 2; the one with the number 2 is first on the strand. -/
theorem sends_out_of_order :
    (writtenIn ((machine none 100).outputs {}
      [.take 0 1 0 [] 7, .take 1 1 0 [] 7, .build 0 true, .build 1 true, .dispatch 1, .dispatch 0,
        .runPosted, .runPosted, .other (.completed 0 true)])).map OutPacket.seq = [2, 1] := by
  decide +kernel

end Traffic

end Knights.Net
