import Mathlib.Data.List.Basic
import Mathlib.Data.Nat.Bitwise

namespace Knights.Lib

open List

/-!
# Big-endian words in byte lists

Reading and writing 16- and 32-bit words at an offset of a byte list, as every wire format
here does it.  A read is total: bytes past the end count as `0`, since callers check the
size of their input first.

* `readBe16_toNat` / `readBe32_toNat` — a read is the base-256 numeral of its bytes;
* `readBe16_writeBe16` / `readBe32_writeBe32` — reading back what was written, wherever the
  written bytes sit in a longer list;
* `writeBe16_readBe16` / `writeBe32_readBe32` — writing what was read gives the same bytes.
-/

/-- The byte at offset `i`, `0` past the end. -/
def byteAt (bs : List UInt8) (i : Nat) : UInt8 := bs.getD i 0

/-- The two big-endian bytes of a 16-bit word. -/
def writeBe16 (v : UInt16) : List UInt8 :=
  [((v >>> 8) &&& 0xFF).toUInt8, (v &&& 0xFF).toUInt8]

/-- The four big-endian bytes of a 32-bit word. -/
def writeBe32 (v : UInt32) : List UInt8 :=
  [((v >>> 24) &&& 0xFF).toUInt8, ((v >>> 16) &&& 0xFF).toUInt8,
   ((v >>> 8) &&& 0xFF).toUInt8, (v &&& 0xFF).toUInt8]

/-- The 16-bit word at offset `i`. -/
def readBe16 (bs : List UInt8) (i : Nat) : UInt16 :=
  ((byteAt bs i).toUInt16 <<< 8) ||| (byteAt bs (i + 1)).toUInt16

/-- The 32-bit word at offset `i`. -/
def readBe32 (bs : List UInt8) (i : Nat) : UInt32 :=
  ((byteAt bs i).toUInt32 <<< 24) ||| ((byteAt bs (i + 1)).toUInt32 <<< 16) |||
    ((byteAt bs (i + 2)).toUInt32 <<< 8) ||| (byteAt bs (i + 3)).toUInt32

/-! ### Bytes and words as numbers -/

/-- A shifted word with a low part that fits below the shift is their sum. -/
theorem shiftLeft_or_eq (hi : Nat) {lo k : Nat} (h : lo < 2 ^ k) :
    hi <<< k ||| lo = hi * 2 ^ k + lo := by
  rw [← Nat.shiftLeft_add_eq_or_of_lt h, Nat.shiftLeft_eq]

@[simp] theorem writeBe16_length (v : UInt16) : (writeBe16 v).length = 2 := rfl

@[simp] theorem writeBe32_length (v : UInt32) : (writeBe32 v).length = 4 := rfl

/-- The bytes of a 16-bit word as base-256 digits. -/
theorem writeBe16_digits (v : UInt16) : (byteAt (writeBe16 v) 0).toNat = v.toNat / 256 ∧
      (byteAt (writeBe16 v) 1).toNat = v.toNat % 256 := by
  have hv := v.toNat_lt
  have hand : ∀ n : Nat, n &&& 255 = n % 256 := fun n => Nat.and_two_pow_sub_one_eq_mod n 8
  constructor
  · simp [byteAt, writeBe16, hand, Nat.shiftRight_eq_div_pow]
    omega
  · simp [byteAt, writeBe16, hand]

/-- The bytes of a 32-bit word as base-256 digits. -/
theorem writeBe32_digits (v : UInt32) : (byteAt (writeBe32 v) 0).toNat = v.toNat / 2 ^ 24 ∧
      (byteAt (writeBe32 v) 1).toNat = v.toNat / 2 ^ 16 % 256 ∧
      (byteAt (writeBe32 v) 2).toNat = v.toNat / 2 ^ 8 % 256 ∧
      (byteAt (writeBe32 v) 3).toNat = v.toNat % 256 := by
  have hv := v.toNat_lt
  have hand : ∀ n : Nat, n &&& 255 = n % 256 := fun n => Nat.and_two_pow_sub_one_eq_mod n 8
  refine ⟨?_, ?_, ?_, ?_⟩ <;>
    simp [byteAt, writeBe32, hand, Nat.shiftRight_eq_div_pow]
  omega

/-- A 16-bit read is the base-256 numeral of its two bytes. -/
theorem readBe16_toNat (bs : List UInt8) (i : Nat) :
    (readBe16 bs i).toNat = (byteAt bs i).toNat * 256 + (byteAt bs (i + 1)).toNat := by
  have h0 := (byteAt bs i).toNat_lt
  have h1 := (byteAt bs (i + 1)).toNat_lt
  simp only [readBe16, UInt16.toNat_or, UInt16.toNat_shiftLeft, UInt8.toNat_toUInt16]
  rw [Nat.mod_eq_of_lt (by simp [Nat.shiftLeft_eq]; omega)]
  exact shiftLeft_or_eq _ h1

/-- A 32-bit read is the base-256 numeral of its four bytes. -/
theorem readBe32_toNat (bs : List UInt8) (i : Nat) :
    (readBe32 bs i).toNat = (byteAt bs i).toNat * 2 ^ 24 + (byteAt bs (i + 1)).toNat * 2 ^ 16
      + (byteAt bs (i + 2)).toNat * 2 ^ 8 + (byteAt bs (i + 3)).toNat := by
  have h0 := (byteAt bs i).toNat_lt
  have h1 := (byteAt bs (i + 1)).toNat_lt
  have h2 := (byteAt bs (i + 2)).toNat_lt
  have h3 := (byteAt bs (i + 3)).toNat_lt
  have hsmall : ∀ (b : UInt8) (k : Nat), k ≤ 24 → b.toNat <<< k % 2 ^ 32 = b.toNat <<< k := by
    intro b k hk
    refine Nat.mod_eq_of_lt ?_
    calc b.toNat <<< k = b.toNat * 2 ^ k := Nat.shiftLeft_eq _ _
      _ < 2 ^ 8 * 2 ^ k := Nat.mul_lt_mul_of_pos_right b.toNat_lt (Nat.two_pow_pos k)
      _ ≤ 2 ^ 8 * 2 ^ 24 := Nat.mul_le_mul_left _ (Nat.pow_le_pow_right (by omega) hk)
  -- Horner form: each shift-and-or adds one digit below the ones read so far.
  have hhorner : ∀ a b c d : Nat, a <<< 24 ||| b <<< 16 ||| c <<< 8 ||| d
      = ((a <<< 8 ||| b) <<< 8 ||| c) <<< 8 ||| d := by
    intro a b c d
    simp only [Nat.shiftLeft_or_distrib, ← Nat.shiftLeft_add]
  simp only [readBe32, UInt32.toNat_or, UInt32.toNat_shiftLeft, UInt8.toNat_toUInt32]
  show _ <<< 24 % 2 ^ 32 ||| _ <<< 16 % 2 ^ 32 ||| _ <<< 8 % 2 ^ 32 ||| _ = _
  rw [hsmall _ 24 (by omega), hsmall _ 16 (by omega), hsmall _ 8 (by omega), hhorner,
    shiftLeft_or_eq _ h3, shiftLeft_or_eq _ h2, shiftLeft_or_eq _ h1]
  omega

/-! ### Round trips -/

/-- A byte of a part of a list. -/
theorem byteAt_append (pre part post : List UInt8) {k : Nat} (h : k < part.length) :
    byteAt (pre ++ part ++ post) (pre.length + k) = byteAt part k := by
  simp only [byteAt, getD_eq_getElem?_getD, append_assoc]
  rw [List.getElem?_append_right (by omega), Nat.add_sub_cancel_left,
    List.getElem?_append_left h]

/-- A 16-bit word is read back wherever its bytes sit. -/
theorem readBe16_writeBe16 (pre post : List UInt8) (v : UInt16) :
    readBe16 (pre ++ writeBe16 v ++ post) pre.length = v := by
  obtain ⟨h0, h1⟩ := writeBe16_digits v
  apply UInt16.toNat_inj.mp
  have e (k : Nat) (hk : k < 2) := byteAt_append pre (writeBe16 v) post hk
  have e0 := e 0 (by omega)
  rw [Nat.add_zero] at e0
  rw [readBe16_toNat, e0, e 1 (by omega), h0, h1]
  omega

/-- A 32-bit word is read back wherever its bytes sit. -/
theorem readBe32_writeBe32 (pre post : List UInt8) (v : UInt32) :
    readBe32 (pre ++ writeBe32 v ++ post) pre.length = v := by
  obtain ⟨h0, h1, h2, h3⟩ := writeBe32_digits v
  apply UInt32.toNat_inj.mp
  have e (k : Nat) (hk : k < 4) := byteAt_append pre (writeBe32 v) post hk
  have e0 := e 0 (by omega)
  rw [Nat.add_zero] at e0
  rw [readBe32_toNat, e0, e 1 (by omega), e 2 (by omega), e 3 (by omega), h0, h1, h2, h3]
  omega

/-- Writing a 16-bit word that was read gives the bytes it was read from. -/
theorem writeBe16_readBe16 (bs : List UInt8) (i : Nat) :
    writeBe16 (readBe16 bs i) = [byteAt bs i, byteAt bs (i + 1)] := by
  obtain ⟨h0, h1⟩ := writeBe16_digits (readBe16 bs i)
  have b1 := (byteAt bs (i + 1)).toNat_lt
  rw [readBe16_toNat] at h0 h1
  have e0 : byteAt (writeBe16 (readBe16 bs i)) 0 = byteAt bs i := UInt8.toNat_inj.mp (by omega)
  have e1 : byteAt (writeBe16 (readBe16 bs i)) 1 = byteAt bs (i + 1) :=
    UInt8.toNat_inj.mp (by omega)
  rw [← e0, ← e1]
  rfl

/-- Writing a 32-bit word that was read gives the bytes it was read from. -/
theorem writeBe32_readBe32 (bs : List UInt8) (i : Nat) : writeBe32 (readBe32 bs i) =
    [byteAt bs i, byteAt bs (i + 1), byteAt bs (i + 2), byteAt bs (i + 3)] := by
  obtain ⟨h0, h1, h2, h3⟩ := writeBe32_digits (readBe32 bs i)
  have b1 := (byteAt bs (i + 1)).toNat_lt
  have b2 := (byteAt bs (i + 2)).toNat_lt
  have b3 := (byteAt bs (i + 3)).toNat_lt
  rw [readBe32_toNat] at h0 h1 h2 h3
  have e0 : byteAt (writeBe32 (readBe32 bs i)) 0 = byteAt bs i := UInt8.toNat_inj.mp (by omega)
  have e1 : byteAt (writeBe32 (readBe32 bs i)) 1 = byteAt bs (i + 1) :=
    UInt8.toNat_inj.mp (by omega)
  have e2 : byteAt (writeBe32 (readBe32 bs i)) 2 = byteAt bs (i + 2) :=
    UInt8.toNat_inj.mp (by omega)
  have e3 : byteAt (writeBe32 (readBe32 bs i)) 3 = byteAt bs (i + 3) :=
    UInt8.toNat_inj.mp (by omega)
  rw [← e0, ← e1, ← e2, ← e3]
  rfl

/-- The first bytes of a list, read one by one. -/
theorem take_eq_map_byteAt {bs : List UInt8} {n : Nat} (h : n ≤ bs.length) :
    bs.take n = (List.range n).map (byteAt bs) := by
  refine ext_getElem (by simp [h]) fun i hi _ => ?_
  have hi' : i < bs.length := by
    rw [length_take] at hi
    omega
  simp [byteAt, hi']

end Knights.Lib
