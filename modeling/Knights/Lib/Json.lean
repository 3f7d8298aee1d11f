import Mathlib.Data.String.Basic

namespace Knights.Lib

/-!
# Structured values and their texts

Values with numbers, texts, lists and fields, the way that readers take them apart — a reader
asks for a kind of value and gets nothing if it is of another kind — and the texts they are kept
as.  Numbers with a fraction are of use to no reader here and are left out.

* `Json.get` — the field with a name, read as a kind of value;
* `filterMap_map_of_forall` — a list is read back if each of its entries is;
* `Json.Codec` — a pair of functions between values and texts that gives back what was written.
-/

universe u v

inductive Json
  | null
  | bool (b : Bool)
  | num (n : ℤ)
  | str (s : String)
  | arr (items : List Json)
  | obj (fields : List (String × Json))

namespace Json

/-- The field with a name; none if the value has no fields. -/
def member (key : String) : Json → Option Json
  | .obj fields => fields.lookup key
  | _ => none

/-- The value as a truth value. -/
def flag : Json → Option Bool
  | .bool b => some b
  | _ => none

/-- The value as a text. -/
def text : Json → Option String
  | .str s => some s
  | _ => none

/-- The value as a number without a sign, of 64 bits. -/
def unsigned : Json → Option ℕ
  | .num n => if 0 ≤ n ∧ n.toNat < UInt64.size then some n.toNat else none
  | _ => none

/-- The value as a list. -/
def items : Json → Option (List Json)
  | .arr js => some js
  | _ => none

/-- The value as one with fields. -/
def record : Json → Option Json
  | .obj fields => some (.obj fields)
  | _ => none

/-- The field with a name, read as a kind of value. -/
def get {α : Type u} (read : Json → Option α) (key : String) (j : Json) : Option α :=
  (j.member key).bind read

/-- The first field with the key is found. -/
@[simp] theorem member_obj_self (key : String) (j : Json) (fields : List (String × Json)) :
    (Json.obj ((key, j) :: fields)).member key = some j := by
  simp [member]

@[simp] theorem member_obj_ne {key key' : String} (h : key ≠ key') (j : Json)
    (fields : List (String × Json)) :
    (Json.obj ((key', j) :: fields)).member key = (Json.obj fields).member key := by
  simp [member, List.lookup_cons, beq_false_of_ne h]

/-- Reading back what was written. -/
@[simp] theorem flag_bool (b : Bool) : (Json.bool b).flag = some b := rfl

@[simp] theorem text_str (s : String) : (Json.str s).text = some s := rfl

@[simp] theorem items_arr (js : List Json) : (Json.arr js).items = some js := rfl

@[simp] theorem record_obj (fields : List (String × Json)) :
    (Json.obj fields).record = some (.obj fields) := rfl

/-- Numbers survive if they fit 64 bits. -/
theorem unsigned_num {n : ℕ} (h : n < 2 ^ 64) : (Json.num n).unsigned = some n := by
  have hrange : (0 : ℤ) ≤ n ∧ (n : ℤ).toNat < UInt64.size :=
    ⟨Int.natCast_nonneg n, by simpa using h⟩
  rw [unsigned, if_pos hrange, Int.toNat_natCast]

/-- A list is read back if each of its entries is. -/
theorem filterMap_map_of_forall {α : Type u} (read : Json → Option α) (write : α → Json)
    {l : List α} (h : ∀ a ∈ l, read (write a) = some a) : (l.map write).filterMap read = l := by
  induction l with
  | nil => rfl
  | cons a l ih =>
    have ha : read (write a) = some a := h a (by simp)
    rw [List.map_cons, List.filterMap_cons_some ha, ih fun b hb => h b (by simp [hb])]

/-! ### Texts -/

/-- Texts for values.  A text that was dumped parses to the value; the text of an empty file
    parses to nothing. -/
structure Codec (Text : Type v) where
  dump : Json → Text
  parse : Text → Option Json
  blank : Text
  parse_dump : ∀ j, parse (dump j) = some j
  parse_blank : parse blank = none

/-- Values that stand for their own texts. -/
def Codec.values : Codec (Option Json) where
  dump := some
  parse := id
  blank := none
  parse_dump _ := rfl
  parse_blank := rfl

end Json

end Knights.Lib
