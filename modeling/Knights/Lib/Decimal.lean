import Mathlib.Data.List.TakeWhile
import Mathlib.Tactic.Common

namespace Knights.Lib

/-!
# Decimal integers as C++ reads and writes them

`std::stoi` and `std::stoll` skip white space, take an optional sign and as many digits as
there are, and ignore what follows; they throw if there is no digit or the value is out of
range.  `std::to_string` writes the plain decimal form, which is read back.
-/

/-- White space in the C locale. -/
def isCSpace (c : Char) : Bool :=
  c == ' ' || c == '\t' || c == '\n' || c == '\x0b' || c == '\x0c' || c == '\r'

/-- The value of the digits at the front; `none` if there are none. -/
def digitsPrefix (s : List Char) : Option ℕ :=
  let ds := s.takeWhile Char.isDigit
  if ds.isEmpty then none else some (Nat.ofDigitChars 10 ds 0)

/-- White space, sign and digits. -/
def scanInt (s : List Char) : Option ℤ :=
  match s.dropWhile isCSpace with
  | '-' :: rest => (digitsPrefix rest).map fun n => -(n : ℤ)
  | '+' :: rest => (digitsPrefix rest).map fun n => (n : ℤ)
  | rest => (digitsPrefix rest).map fun n => (n : ℤ)

/-- Read an integer between `lo` and `hi`; `none` where the C++ function throws. -/
def parseInt (lo hi : ℤ) (s : String) : Option ℤ :=
  (scanInt s.toList).filter fun v => decide (lo ≤ v ∧ v ≤ hi)

/-- `std::stoi`, with 32 bits. -/
def stoi (s : String) : Option ℤ := parseInt (-2147483648) 2147483647 s

/-- `std::stoll`, with 64 bits. -/
def stoll (s : String) : Option ℤ := parseInt (-9223372036854775808) 9223372036854775807 s

/-- The decimal form of a number is read back as its digits. -/
theorem scanInt_repr (n : ℕ) : scanInt n.repr.toList = some (n : ℤ) := by
  have hdig : ∀ c ∈ Nat.toDigits 10 n, c.isDigit = true := fun c hc =>
    Nat.isDigit_of_mem_toDigits (by omega) (by omega) hc
  have hpre : digitsPrefix (Nat.toDigits 10 n) = some n := by
    unfold digitsPrefix
    rw [List.takeWhile_eq_self_iff.mpr hdig]
    simp [Nat.toDigits_ne_nil, Nat.ofDigitChars_ten_toDigits]
  rw [Nat.toList_repr]
  unfold scanInt
  cases hds : Nat.toDigits 10 n with
  | nil => exact absurd hds Nat.toDigits_ne_nil
  | cons c cs =>
    -- the first digit is neither white space nor a sign
    have hc : c.isDigit = true := hdig c (by rw [hds]; exact List.mem_cons_self)
    have hspace : isCSpace c = false := by
      by_contra hsp
      simp only [isCSpace, Bool.not_eq_false, Bool.or_eq_true, beq_iff_eq] at hsp
      rcases hsp with ((((rfl | rfl) | rfl) | rfl) | rfl) | rfl <;> exact absurd hc (by decide)
    have hminus : c ≠ '-' := by
      rintro rfl
      exact absurd hc (by decide)
    have hplus : c ≠ '+' := by
      rintro rfl
      exact absurd hc (by decide)
    rw [List.dropWhile_cons_of_neg (by simp [hspace])]
    rw [hds] at hpre
    split
    · rename_i rest heq
      exact absurd (List.cons.inj heq).1 hminus
    · rename_i rest heq
      exact absurd (List.cons.inj heq).1 hplus
    · rw [hpre]
      rfl

/-- **Round trip.** A number that is in range is read back from its decimal form. -/
theorem parseInt_toString {lo hi : ℤ} {n : ℕ} (hlo : lo ≤ n) (hhi : (n : ℤ) ≤ hi) :
    parseInt lo hi (toString (n : ℤ)) = some (n : ℤ) := by
  have hstr : toString (n : ℤ) = n.repr := rfl
  unfold parseInt
  rw [hstr, scanInt_repr]
  simp [Option.filter, hlo, hhi]

end Knights.Lib
