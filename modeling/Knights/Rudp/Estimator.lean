import Knights.Rudp.Engine

namespace Knights.Rudp

open Knights.Lib

/-!
# RUDP — the retransmission timeout and its exact recurrence

`RttEstimator::update` (`core/include/server/core/net/rudp/rudp_peer_state.hpp`) against the same
recurrence over unbounded integers.  The source takes the deviation through `int` and adds the
timeout up in 32 bits, so the two agree as long as mean and sample have the same sign as `int`s and
no timeout reaches `2^32` before it is clamped.

* `rtt_exact` — then they agree over every sequence of samples, and samples of up to 858993459 ms
  never leave that range;
* `rtt_wrapped` — two samples that do; `process_datagram` makes none of a timestamp in the future.
-/

/-- An estimator over unbounded integers. -/
@[ext]
structure ExactRtt where
  initialized : Bool
  srtt : ℕ
  rttvar : ℕ
  rto : ℕ
  deriving DecidableEq

/-- The arguments of an update. -/
structure RttUpdate where
  sampleMs : UInt32
  rtoMinMs : UInt32
  rtoMaxMs : UInt32

/-- The exact recurrence. -/
def ExactRtt.update (x : ExactRtt) (u : RttUpdate) : ExactRtt :=
  let s := u.sampleMs.toNat
  let srtt := if x.initialized then (7 * x.srtt + s) / 8 else s
  let rttvar :=
    if x.initialized then (3 * x.rttvar + ((x.srtt - s) + (s - x.srtt))) / 4 else max 1 (s / 2)
  if s = 0 then x
  else ⟨true, srtt, rttvar, max u.rtoMinMs.toNat (min u.rtoMaxMs.toNat (srtt + max 1 (4 * rttvar)))⟩

namespace RttEstimator

/-- The estimator as a machine. -/
def machine : Machine RttEstimator RttUpdate Unit where
  step r u := (r.update u.sampleMs u.rtoMinMs u.rtoMaxMs, ())

/-- The values of an estimator. -/
def exact (r : RttEstimator) : ExactRtt :=
  ⟨r.initialized, r.srttMs.toNat, r.rttvarMs.toNat, r.rtoMs.toNat⟩

/-- The update stays in range: as `int`s, the mean and the sample have the same sign, and the
    timeout fits 32 bits before it is clamped. -/
def Fits (r : RttEstimator) (u : RttUpdate) : Prop :=
  let x := r.exact.update u
  (r.initialized = true → (r.srttMs.toNat < 0x80000000 ↔ u.sampleMs.toNat < 0x80000000)) ∧
    x.srtt + max 1 (4 * x.rttvar) < 0x100000000

variable {r : RttEstimator} {u : RttUpdate} {us : List RttUpdate}

/-- The deviation, taken through `int`. -/
theorem toNat_deviation {a b : UInt32} (h : a.toNat < 0x80000000 ↔ b.toNat < 0x80000000) :
    (a.toInt32 - b.toInt32).abs.toUInt32.toNat = (a.toNat - b.toNat) + (b.toNat - a.toNat) := by
  have ha := a.toBitVec.isLt
  have hb := b.toBitVec.isLt
  change a.toBitVec.toNat < _ ↔ b.toBitVec.toNat < _ at h
  show (a.toBitVec - b.toBitVec).abs.toNat
    = (a.toBitVec.toNat - b.toBitVec.toNat) + (b.toBitVec.toNat - a.toBitVec.toNat)
  rw [BitVec.toNat_abs, BitVec.msb_eq_decide, BitVec.toNat_sub]
  simp only [decide_eq_true_eq]
  split_ifs <;> omega

theorem toNat_clamp32 {v lo hi : UInt32} (h : lo ≤ hi) :
    (clamp32 v lo hi).toNat = max lo.toNat (min hi.toNat v.toNat) := by
  unfold clamp32
  rw [UInt32.le_iff_toNat_le] at h
  split_ifs with h₁ h₂ <;> rw [UInt32.lt_iff_toNat_lt] at * <;> omega

/-- The timeout before it is clamped. -/
theorem toNat_candidate {srtt rttvar : UInt32}
    (h : srtt.toNat + max 1 (4 * rttvar.toNat) < 0x100000000) :
    (srtt + max 1 (4 * rttvar)).toNat = srtt.toNat + max 1 (4 * rttvar.toNat) := by
  have hmul : (4 * rttvar).toNat = 4 * rttvar.toNat := by
    exact Nat.mod_eq_of_lt (show 4 * rttvar.toNat < _ by omega)
  have hmax : (max 1 (4 * rttvar)).toNat = max 1 (4 * rttvar.toNat) := by
    rw [← hmul]
    exact apply_ite UInt32.toNat _ _ _
  rw [UInt32.toNat_add, hmax, Nat.mod_eq_of_lt h]

/-- A weighted mean, taken in 64 bits. -/
theorem toNat_mean {a n : UInt64} {x y : UInt32} (h : a = 3 ∧ n = 4 ∨ a = 7 ∧ n = 8) :
    ((a * x.toUInt64 + y.toUInt64) / n).toUInt32.toNat
      = (a.toNat * x.toNat + y.toNat) / n.toNat := by
  have hx := x.toNat_lt
  have hy := y.toNat_lt
  rcases h with ⟨rfl, rfl⟩ | ⟨rfl, rfl⟩
  · simp
    omega
  · simp
    omega

/-- **One update** in range is the exact one. -/
theorem exact_update (hb : u.rtoMinMs ≤ u.rtoMaxMs) (hfit : Fits r u) :
    (r.update u.sampleMs u.rtoMinMs u.rtoMaxMs).exact = r.exact.update u := by
  by_cases hs : u.sampleMs = 0
  · simp [RttEstimator.update, ExactRtt.update, hs]
  have hs' : u.sampleMs.toNat ≠ 0 := fun h => hs (UInt32.toNat_inj.mp h)
  obtain ⟨hdev, hsum⟩ := hfit
  have hmeans : (r.update u.sampleMs u.rtoMinMs u.rtoMaxMs).initialized
        = (r.exact.update u).initialized ∧
      (r.update u.sampleMs u.rtoMinMs u.rtoMaxMs).srttMs.toNat = (r.exact.update u).srtt ∧
      (r.update u.sampleMs u.rtoMinMs u.rtoMaxMs).rttvarMs.toNat = (r.exact.update u).rttvar := by
    unfold RttEstimator.update ExactRtt.update exact
    cases hinit : r.initialized
    · simp only [hs, hs', if_false]
      exact ⟨rfl, rfl, apply_ite UInt32.toNat _ _ _⟩
    · simp only [hs, hs', if_false]
      refine ⟨rfl, toNat_mean (Or.inr ⟨rfl, rfl⟩), (toNat_mean (Or.inl ⟨rfl, rfl⟩)).trans ?_⟩
      rw [toNat_deviation (hdev hinit)]
      rfl
  obtain ⟨hinit, hsrtt, hrttvar⟩ := hmeans
  have hrto : (r.update u.sampleMs u.rtoMinMs u.rtoMaxMs).rtoMs.toNat = (r.exact.update u).rto := by
    rw [← hsrtt, ← hrttvar] at hsum
    have hclamp := toNat_candidate hsum
    rw [hsrtt, hrttvar] at hclamp
    unfold RttEstimator.update ExactRtt.update at hclamp ⊢
    rw [if_neg hs] at hclamp ⊢
    rw [if_neg hs'] at hclamp ⊢
    rw [toNat_clamp32 hb, hclamp]
  exact ExactRtt.ext hinit hsrtt hrttvar hrto

theorem exact_run (hb : ∀ u ∈ us, u.rtoMinMs ≤ u.rtoMaxMs) (hfit : machine.Guarded Fits r us) :
    (machine.run r us).exact = us.foldl ExactRtt.update r.exact := by
  induction us generalizing r with
  | nil => rfl
  | cons u us ih =>
    rw [List.forall_mem_cons] at hb
    rw [List.foldl_cons, ← exact_update hb.1 hfit.1]
    exact ih hb.2 hfit.2

/-- Both averages are at most `858993459`, of which five fit 32 bits. -/
def Small (x : ExactRtt) : Prop := x.srtt ≤ 858993459 ∧ x.rttvar ≤ 858993459

/-- **Small samples** keep the averages small and the update in range. -/
theorem fits_of_small (hr : Small r.exact) (hu : u.sampleMs.toNat ≤ 858993459) :
    Fits r u ∧ Small (r.exact.update u) := by
  have hnext : Small (r.exact.update u) := by
    unfold Small ExactRtt.update at *
    dsimp only
    split_ifs
    · exact hr
    all_goals dsimp only; omega
  obtain ⟨hsrtt, hrttvar⟩ := hnext
  refine ⟨⟨fun _ => ?_, by omega⟩, hsrtt, hrttvar⟩
  have hle : r.srttMs.toNat ≤ 858993459 := hr.1
  omega

theorem guarded_of_small (hb : ∀ u ∈ us, u.rtoMinMs ≤ u.rtoMaxMs)
    (hu : ∀ u ∈ us, u.sampleMs.toNat ≤ 858993459) (hr : Small r.exact) :
    machine.Guarded Fits r us := by
  induction us generalizing r with
  | nil => trivial
  | cons u us ih =>
    rw [List.forall_mem_cons] at hb hu
    obtain ⟨hfit, hsmall⟩ := fits_of_small hr hu.1
    rw [← exact_update hb.1 hfit] at hsmall
    exact ⟨hfit, ih hb.2 hu.2 hsmall⟩

/-- **The timeout is that of the exact recurrence** over every sequence of updates that stay in
    range, as all samples of at most 858993459 ms do. -/
theorem rtt_exact (us : List RttUpdate) (hb : ∀ u ∈ us, u.rtoMinMs ≤ u.rtoMaxMs) :
    (machine.Guarded Fits {} us → (machine.run {} us).exact = us.foldl ExactRtt.update (exact {})) ∧
    ((∀ u ∈ us, u.sampleMs.toNat ≤ 858993459) → machine.Guarded Fits {} us) :=
  ⟨exact_run hb, fun hu => guarded_of_small hb hu ⟨by decide, by decide⟩⟩

/-- Samples of a network that slows down. -/
theorem rtt_exact_slower :
    let us : List RttUpdate := [⟨40, 50, 2000⟩, ⟨0, 50, 2000⟩, ⟨90, 50, 2000⟩]
    machine.Guarded Fits {} us ∧ (machine.run {} us).exact = ⟨true, 46, 27, 154⟩ := by
  have hb : ∀ u ∈ ([⟨40, 50, 2000⟩, ⟨0, 50, 2000⟩, ⟨90, 50, 2000⟩] : List RttUpdate),
      u.rtoMinMs ≤ u.rtoMaxMs := by decide
  obtain ⟨hexact, hsmall⟩ := rtt_exact _ hb
  have hfit := hsmall (by decide)
  exact ⟨hfit, hexact hfit⟩

/-- After a sample of 1 ms, one of `2^32 - 1` ms counts as `-1`, a deviation of 2: the variance
    stays at 1, where the exact one is `2^30`. -/
theorem rtt_wrapped :
    let us : List RttUpdate := [⟨1, 50, 2000⟩, ⟨0xFFFFFFFF, 50, 2000⟩]
    (machine.run {} us).exact ≠ us.foldl ExactRtt.update (exact {}) := by
  decide +kernel

end RttEstimator

end Knights.Rudp
