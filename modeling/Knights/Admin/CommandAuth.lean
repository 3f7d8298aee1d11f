import Mathlib.Data.List.Sort
import Mathlib.Data.String.Basic
import Knights.Lib.KeyValue
import Knights.Lib.Machine
import Knights.Lib.Table

namespace Knights.Admin

open Lib List

/-!
# Signed administrator commands

A command travels as a map of fields, signed with a secret that its sender and the servers
share.  `Verifier` accepts a map whose signature is right, whose time is near enough and whose
nonce it has not seen; the nonces it has seen are forgotten once their messages have expired.

* `signing_data_unambiguous` — what is signed determines the fields, if no field can be taken
  for several lines;
* `parseU64Into_eq` — the time of a message is read if and only if it is a number of 64 bits;
* `replay_safe` — no message is accepted twice, however long the verifier runs.

Strings of the source are byte strings; here a character stands for a byte.
-/

/-- The fields of a command. -/
abbrev Fields := Table String String

namespace Fields

/-- The fields one by one, in the order of the map. -/
def pairs (f : Fields) : List (String × String) := f.entries.map fun e => (e.1, e.2)

@[simp] theorem mem_pairs {f : Fields} {k v : String} : (k, v) ∈ f.pairs ↔ f.lookup k = some v := by
  constructor
  · intro h
    obtain ⟨e, he, hkv⟩ := mem_map.mp h
    obtain ⟨rfl, rfl⟩ := Prod.mk.inj hkv
    exact AList.mem_lookup_iff.mpr he
  · intro h
    exact mem_map.mpr ⟨⟨k, v⟩, AList.mem_lookup_iff.mp h, rfl⟩

/-- Something holds of every field. -/
def Each (P : String → String → Prop) (f : Fields) : Prop := ∀ k v, f.lookup k = some v → P k v

section Each

variable {f g : Fields} {P Q : String → String → Prop}

theorem each_empty : Each P (∅ : Fields) := by
  intro k v h
  cases h

theorem Each.insert (h : f.Each P) {k v : String} (hkv : P k v) : Each P (f.insert k v) := by
  intro k' v' h'
  rw [Table.lookup_insert_ite] at h'
  split_ifs at h' with hk
  · rw [hk, ← Option.some.inj h']
    exact hkv
  · exact h k' v' h'

theorem Each.mono (h : f.Each P) (hPQ : ∀ k v, P k v → Q k v) : f.Each Q :=
  fun k v hkv => hPQ k v (h k v hkv)

end Each

/-- Two maps have the same fields, their signatures aside. -/
def AgreeUnsigned (f g : Fields) : Prop := ∀ k, k ≠ "signature" → f.lookup k = g.lookup k

/-- Every field but the signature fits on one line. -/
def Clean (f : Fields) : Prop :=
  ∀ e ∈ f.pairs, e.1 ≠ "signature" → KvClean '=' '\n' e.1.toList e.2.toList

instance (f : Fields) : Decidable f.Clean :=
  inferInstanceAs (Decidable (∀ e ∈ f.pairs, _ → _))

end Fields

/-! ### What is signed -/

/-- Sort fields by their names. -/
def sortEntries (es : List (String × String)) : List (String × String) :=
  es.insertionSort fun a b => a.1 ≤ b.1

/-- Write fields, one to a line. -/
def joinEntries (es : List (String × String)) : String :=
  "\n".intercalate (es.map fun e => e.1 ++ "=" ++ e.2)

/-- `canonical_signing_data`. -/
def canonicalSigningData (f : Fields) : String :=
  joinEntries (sortEntries (f.pairs.filter (·.1 ≠ "signature")))

/-- `to_kv_payload`. -/
def toKvPayload (f : Fields) : String := joinEntries (sortEntries f.pairs)

@[simp] theorem mem_sortEntries {es : List (String × String)} {e : String × String} :
    e ∈ sortEntries es ↔ e ∈ es := mem_insertionSort _

theorem toList_joinEntries (es : List (String × String)) : (joinEntries es).toList =
    kvText '=' '\n' (es.map fun e => (e.1.toList, e.2.toList)) := by
  unfold joinEntries kvText
  rw [String.toList_intercalate, map_map, map_map]
  congr 1
  apply map_congr_left
  intro e _
  show (e.1 ++ "=" ++ e.2).toList = e.1.toList ++ '=' :: e.2.toList
  simp

/-- Clean entries are determined by what is written of them. -/
theorem joinEntries_injective {es es' : List (String × String)}
    (hes : ∀ e ∈ es, KvClean '=' '\n' e.1.toList e.2.toList)
    (hes' : ∀ e ∈ es', KvClean '=' '\n' e.1.toList e.2.toList)
    (h : joinEntries es = joinEntries es') : es = es' := by
  have htext := congrArg String.toList h
  rw [toList_joinEntries, toList_joinEntries] at htext
  have hinj : Function.Injective fun e : String × String => (e.1.toList, e.2.toList) := by
    intro e e' he
    obtain ⟨hkey, hvalue⟩ := Prod.mk.inj he
    exact Prod.ext (String.toList_injective hkey) (String.toList_injective hvalue)
  apply hinj.list_map
  apply kvText_injective (by decide) _ _ htext
  · exact forall_mem_map.mpr hes
  · exact forall_mem_map.mpr hes'

/-- **The signed text determines the fields.** -/
theorem agreeUnsigned_of_canonical {f g : Fields} (hf : f.Clean) (hg : g.Clean)
    (h : canonicalSigningData f = canonicalSigningData g) : f.AgreeUnsigned g := by
  have hclean : ∀ {f : Fields}, f.Clean → ∀ e ∈ sortEntries (f.pairs.filter (·.1 ≠ "signature")),
        KvClean '=' '\n' e.1.toList e.2.toList := by
    intro f hf e he
    obtain ⟨hmem, hkey⟩ := mem_filter.mp (mem_sortEntries.mp he)
    exact hf e hmem (of_decide_eq_true hkey)
  have hsame := joinEntries_injective (hclean hf) (hclean hg) h
  intro k hk
  have hmem : ∀ (f : Fields) (v : String),
      (k, v) ∈ sortEntries (f.pairs.filter (·.1 ≠ "signature")) ↔ f.lookup k = some v := by
    intro f v
    simp [hk]
  apply Option.ext
  intro v
  rw [← hmem f v, ← hmem g v, hsame]

/-! ### Signing -/

/-- The hexadecimal digits of the HMAC of a text under a secret, empty if it fails. -/
abbrev Hmac := String → String → String

section Sign

variable (hmac : Hmac)

/-- `sign_fields`. -/
def signFields (f : Fields) (secret : String) : String :=
  if secret = "" then ""
  else if canonicalSigningData f = "" then ""
  else hmac secret (canonicalSigningData f)

/-- `append_signature_fields`; `fresh` is what `make_nonce` would give. -/
def appendSignatureFields (f : Fields) (secret : String) (issuedAtMs : ℕ) (nonce fresh : String) :
    Option Fields :=
  if secret = "" then none
  else
    let f' := ((f.insert "issued_at" (toString issuedAtMs)).insert "nonce"
      (if nonce = "" then fresh else nonce)).erase "signature"
    let signature := signFields hmac f' secret
    if signature = "" then none else some (f'.insert "signature" signature)

/-- Nobody but the holder of the secret makes signatures: a map that carries the right one
    has it from a map that was signed, with the same text. -/
def Unforgeable (secret : String) (signed : Set Fields) (f : Fields) : Prop :=
  f.lookup "signature" = some (signFields hmac f secret) →
    ∃ g ∈ signed, canonicalSigningData g = canonicalSigningData f

end Sign

/-! ### The verifier -/

/-- `parse_u64`. -/
def parseU64 (text : String) : Option ℕ :=
  if text = "" then none
  else
    text.toList.foldl (fun acc c => acc.bind fun value =>
      if c < '0' ∨ '9' < c then none
      else if (2 ^ 64 - 1 - (c.toNat - '0'.toNat)) / 10 < value then none
      else some (value * 10 + (c.toNat - '0'.toNat))) (some 0)

theorem le_ofDigitChars (cs : List Char) (m : ℕ) : m ≤ Nat.ofDigitChars 10 cs m := by
  induction cs generalizing m with
  | nil => exact le_rfl
  | cons c cs ih =>
    rw [Nat.ofDigitChars_cons]
    have hrest := ih (10 * m + (c.toNat - '0'.toNat))
    omega

/-- The loop succeeds on digits whose number fits, and then it has the number. -/
theorem foldl_parseU64 (cs : List Char) (m n : ℕ) (hm : m < 2 ^ 64) :
    cs.foldl (fun acc c => acc.bind fun value =>
      if c < '0' ∨ '9' < c then none
      else if (2 ^ 64 - 1 - (c.toNat - '0'.toNat)) / 10 < value then none
      else some (value * 10 + (c.toNat - '0'.toNat))) (some m) = some n ↔
        (∀ c ∈ cs, c.isDigit = true) ∧ Nat.ofDigitChars 10 cs m = n ∧ n < 2 ^ 64 := by
  induction cs generalizing m with
  | nil =>
    simp only [foldl_nil, Option.some.injEq, Nat.ofDigitChars_nil, not_mem_nil]
    exact ⟨fun h => ⟨nofun, h, h ▸ hm⟩, fun h => h.2.1⟩
  | cons c cs ih =>
    have hrange : ¬ (c < '0' ∨ '9' < c) ↔ c.isDigit = true := by
      simp only [Char.isDigit, Bool.and_eq_true, decide_eq_true_eq, not_or, not_lt]
      exact Iff.rfl
    have hgrow := le_ofDigitChars cs (10 * m + (c.toNat - '0'.toNat))
    rw [foldl_cons, Option.bind_some, Nat.ofDigitChars_cons, forall_mem_cons]
    split_ifs with hc hbig
    · rw [foldl_fixed' fun _ => rfl]
      simp [← hrange, hc]
    · -- the guard is exact: the next value is out of range, and no digit makes it smaller
      rw [foldl_fixed' fun _ => rfl]
      simp only [reduceCtorEq, false_iff]
      rintro ⟨-, rfl, hn⟩
      omega
    · have hnine : c.toNat ≤ 57 := not_lt.mp fun h => hc (.inr h)
      have hzero : '0'.toNat = 48 := rfl
      rw [ih _ (by omega), mul_comm m 10]
      simp [hrange.mp hc]

/-- `parse_u64` with its output parameter, which is assigned after the loop only. -/
def parseU64Into (text : String) (out : ℕ) : Bool × ℕ :=
  match parseU64 text with
  | some value => (true, value)
  | none => (false, out)

/-- **Numbers are read exactly.**  A text is read if and only if it is a nonempty sequence of
    digits whose number fits in 64 bits; the number is stored then, and nothing otherwise. -/
theorem parseU64Into_eq (text : String) (out : ℕ) :
    parseU64Into text out =
      if text ≠ "" ∧ text.toList.all Char.isDigit ∧ Nat.ofDigitChars 10 text.toList 0 < 2 ^ 64
      then (true, Nat.ofDigitChars 10 text.toList 0) else (false, out) := by
  unfold parseU64Into
  have hloop := fun n => foldl_parseU64 text.toList 0 n (by decide)
  by_cases hempty : text = ""
  · subst hempty
    rfl
  cases hparse : parseU64 text with
  | none =>
    unfold parseU64 at hparse
    rw [if_neg hempty] at hparse
    rw [if_neg]
    rintro ⟨-, hdigits, hfits⟩
    exact nomatch hparse.symm.trans ((hloop _).mpr ⟨all_eq_true.mp hdigits, rfl, hfits⟩)
  | some n =>
    unfold parseU64 at hparse
    rw [if_neg hempty] at hparse
    obtain ⟨hdigits, rfl, hfits⟩ := (hloop n).mp hparse
    rw [if_pos ⟨hempty, all_eq_true.mpr hdigits, hfits⟩]

/-- Addition of 64-bit words. -/
def add64 (a b : ℕ) : ℕ := (a + b) % 2 ^ 64

/-- The result of a verification. -/
inductive VerifyResult
  | ok
  | missingField
  | invalidIssuedAt
  | expired
  | future
  | signatureMismatch
  | replay
  | secretNotConfigured
  deriving DecidableEq, Repr

/-- How far from now the time of a message may be. -/
structure VerifyOptions where
  ttlMs : ℕ := 60000
  futureSkewMs : ℕ := 5000
  deriving DecidableEq, Repr

/-- A verifier with the nonces that it has seen and the times of their messages. -/
structure Verifier where
  secret : String
  options : VerifyOptions := {}
  seenNonces : Table String ℕ := ∅

/-- When a message says that it was made. -/
def Fields.issuedAt (f : Fields) : Option ℕ := (f.lookup "issued_at").bind parseU64

namespace Verifier

variable (hmac : Hmac) (v : Verifier)

/-- Forget the nonces whose messages have expired. -/
def purge (now : ℕ) : Table String ℕ :=
  v.seenNonces.sift fun _ t => if add64 t v.options.ttlMs < now then none else some t

/-- The last step of a verification: a nonce is accepted once. -/
def acceptOnce (nonce : String) (issuedAtMs now : ℕ) : Verifier × VerifyResult :=
  if ((v.purge now).lookup nonce).isSome then ({ v with seenNonces := v.purge now }, .replay)
  else ({ v with seenNonces := (v.purge now).insert nonce issuedAtMs }, .ok)

/-- `Verifier::verify` at a given time. -/
def verify (f : Fields) (now : ℕ) : Verifier × VerifyResult :=
  if v.secret = "" then (v, .secretNotConfigured)
  else
    match f.lookup "issued_at", f.lookup "nonce", f.lookup "signature" with
    | some issuedAt, some nonce, some signature =>
      if issuedAt = "" ∨ nonce = "" ∨ signature = "" then (v, .missingField)
      else
        match parseU64 issuedAt with
        | none => (v, .invalidIssuedAt)
        | some issuedAtMs =>
          if add64 now v.options.futureSkewMs < issuedAtMs then (v, .future)
          else if add64 issuedAtMs v.options.ttlMs < now then (v, .expired)
          else if signFields hmac f v.secret = "" ∨ signFields hmac f v.secret ≠ signature then
            (v, .signatureMismatch)
          else v.acceptOnce nonce issuedAtMs now
    | _, _, _ => (v, .missingField)

/-- What has passed the checks of a verification that come before the nonce. -/
structure Passes (f : Fields) (now : ℕ) (nonce : String) (issuedAtMs : ℕ) : Prop where
  nonce : f.lookup "nonce" = some nonce
  issuedAt : f.issuedAt = some issuedAtMs
  fresh : now ≤ add64 issuedAtMs v.options.ttlMs
  signature : f.lookup "signature" = some (signFields hmac f v.secret)

/-- Everything a verification can do. -/
inductive Verifies (f : Fields) (now : ℕ) : Verifier × VerifyResult → Prop
  | rejected (r : VerifyResult) (h : r ≠ .ok) : Verifies f now (v, r)
  | admitted (nonce : String) (issuedAtMs : ℕ) (h : v.Passes hmac f now nonce issuedAtMs) :
    Verifies f now (v.acceptOnce nonce issuedAtMs now)

/-- **Inversion.** A verification does one of the things listed. -/
theorem verifies_verify (f : Fields) (now : ℕ) : v.Verifies hmac f now (v.verify hmac f now) := by
  unfold verify
  by_cases hsecret : v.secret = ""
  · rw [if_pos hsecret]
    exact .rejected _ (by decide)
  rw [if_neg hsecret]
  split
  case h_2 => exact .rejected _ (by decide)
  case h_1 issuedAt nonce signature hissued hnonce hsignature =>
    by_cases hempty : issuedAt = "" ∨ nonce = "" ∨ signature = ""
    · rw [if_pos hempty]
      exact .rejected _ (by decide)
    rw [if_neg hempty]
    cases hparse : parseU64 issuedAt with
    | none => exact .rejected _ (by decide)
    | some issuedAtMs =>
      dsimp only
      split_ifs with hfuture hexpired hsign
      · exact .rejected _ (by decide)
      · exact .rejected _ (by decide)
      · exact .rejected _ (by decide)
      · rw [not_or, not_not] at hsign
        refine .admitted nonce issuedAtMs ⟨hnonce, ?_, not_lt.mp hexpired, ?_⟩
        · unfold Fields.issuedAt
          rw [hissued]
          exact hparse
        · rw [hsignature, hsign.2]

variable {hmac v} {f : Fields} {now : ℕ}

/-- What an accepted message has passed. -/
theorem passes_of_ok (h : (v.verify hmac f now).2 = .ok) : ∃ nonce issuedAtMs,
    v.Passes hmac f now nonce issuedAtMs ∧ (v.purge now).lookup nonce = none ∧
      (v.verify hmac f now).1 = { v with seenNonces := (v.purge now).insert nonce issuedAtMs } := by
  have hv := v.verifies_verify hmac f now
  generalize v.verify hmac f now = w at hv h
  cases hv with
  | rejected r hr => exact absurd h hr
  | admitted nonce issuedAtMs hpasses =>
    unfold acceptOnce at h ⊢
    by_cases hseen : ((v.purge now).lookup nonce).isSome = true
    · rw [if_pos hseen] at h
      cases h
    · rw [if_neg hseen]
      exact ⟨nonce, issuedAtMs, hpasses, Option.not_isSome_iff_eq_none.mp hseen, rfl⟩

end Verifier

/-! ### Signatures stand for fields -/

/-- Whether the fields fit on their lines is a matter of the fields. -/
theorem Fields.Clean.of_agree {f g : Fields} (hf : f.Clean) (h : f.AgreeUnsigned g) : g.Clean := by
  rintro ⟨k, v⟩ he hk
  rw [mem_pairs, ← h k hk] at he
  exact hf (k, v) (mem_pairs.mpr he) hk

/-- **Signing data is unambiguous**, for fields that fit on their lines: of the maps with the same
    signed text, exactly those whose fields also fit have the same fields, and a map that a
    verifier accepts has the fields of one that was signed. -/
theorem signing_data_unambiguous (hmac : Hmac) {f : Fields} (hf : f.Clean) :
    (∀ g : Fields, canonicalSigningData f = canonicalSigningData g →
      (f.AgreeUnsigned g ↔ g.Clean)) ∧
    ∀ (v : Verifier) (now : ℕ) (signed : Set Fields), (∀ g ∈ signed, g.Clean) →
      Unforgeable hmac v.secret signed f → (v.verify hmac f now).2 = .ok →
        ∃ g ∈ signed, f.AgreeUnsigned g := by
  refine ⟨fun g h => ⟨hf.of_agree, fun hg => agreeUnsigned_of_canonical hf hg h⟩, ?_⟩
  intro v now signed hsigned hforge hok
  obtain ⟨nonce, issuedAtMs, hpasses, -⟩ := Verifier.passes_of_ok hok
  obtain ⟨g, hg, htext⟩ := hforge hpasses.signature
  exact ⟨g, hg, agreeUnsigned_of_canonical hf (hsigned g hg) htext.symm⟩

/-- An announcement, as it is signed, with a text of one line or more. -/
def announcement (text : String) : Fields :=
  ((((∅ : Fields).insert "op" "announce").insert "text" text).insert "issued_at" "7").insert
    "nonce" "n1"

/-- The same fields with one more, and the signature of `signed`. -/
def smuggled (signed : Fields) : Fields :=
  ((announcement "hello").insert "value" "9").insert "signature"
    (signFields (fun _ text => text) signed "key")

theorem signing_data_unambiguous_announcement : (announcement "hello").Clean ∧
      ∀ g : Fields, canonicalSigningData (announcement "hello") = canonicalSigningData g →
        ((announcement "hello").AgreeUnsigned g ↔ g.Clean) := by
  have hclean : (announcement "hello").Clean := by decide +kernel
  exact ⟨hclean, (signing_data_unambiguous (fun _ text => text) hclean).1⟩

/-- A text of two lines is signed like a text of one line and another field, so a map that was
    never signed is accepted. -/
theorem signing_data_ambiguous : canonicalSigningData (announcement "hello\nvalue=9") =
        canonicalSigningData (smuggled (announcement "hello\nvalue=9")) ∧
      (announcement "hello\nvalue=9").lookup "text" = some "hello\nvalue=9" ∧
      (smuggled (announcement "hello\nvalue=9")).lookup "text" = some "hello" ∧
      (smuggled (announcement "hello\nvalue=9")).lookup "value" = some "9" ∧
      ((⟨"key", {}, ∅⟩ : Verifier).verify (fun _ text => text)
        (smuggled (announcement "hello\nvalue=9")) 7).2 = .ok := by
  decide +kernel

/-! ### No message is accepted twice -/

/-- The verifier as a machine: it is called with a map and the time. -/
def verifier (hmac : Hmac) : Machine Verifier (Fields × ℕ) VerifyResult :=
  ⟨fun v call => v.verify hmac call.1 call.2⟩

namespace Verifier

variable {hmac : Hmac} {v : Verifier} {f : Fields} {now issuedAtMs : ℕ}
  {nonce : String}

/-- The verifier remembers that it has accepted the nonce, or the message has expired. -/
def Remembers (v : Verifier) (nonce : String) (issuedAtMs now : ℕ) : Prop :=
  v.seenNonces.lookup nonce = some issuedAtMs ∨ issuedAtMs + v.options.ttlMs < now

/-- A call changes neither the options nor the secret. -/
@[simp] theorem same_verify (hmac : Hmac) (v : Verifier) (f : Fields)
    (now : ℕ) : (v.verify hmac f now).1.options = v.options ∧
      (v.verify hmac f now).1.secret = v.secret := by
  have hv := v.verifies_verify hmac f now
  generalize v.verify hmac f now = w at hv
  cases hv with
  | rejected r hr => exact ⟨rfl, rfl⟩
  | admitted nonce issuedAtMs hpasses =>
    unfold acceptOnce
    split_ifs <;> exact ⟨rfl, rfl⟩

/-- Sums that stay below `2 ^ 64` are the sums of the numbers. -/
theorem add64_eq {a b : ℕ} (h : a + b < 2 ^ 64) : add64 a b = a + b := Nat.mod_eq_of_lt h

theorem lookup_purge : (v.purge now).lookup nonce = (v.seenNonces.lookup nonce).bind fun t =>
      if add64 t v.options.ttlMs < now then none else some t := Table.lookup_sift _ _ _

/-- A nonce is forgotten only when its message has expired. -/
theorem purge_of_remembers (hsmall : issuedAtMs + v.options.ttlMs < 2 ^ 64)
    (h : v.Remembers nonce issuedAtMs now) :
    (v.purge now).lookup nonce = some issuedAtMs ∨ issuedAtMs + v.options.ttlMs < now := by
  by_cases hexpired : issuedAtMs + v.options.ttlMs < now
  · exact .inr hexpired
  · obtain hseen | hold := h
    · left
      rw [lookup_purge, hseen, Option.bind_some, add64_eq hsmall, if_neg hexpired]
    · exact .inr hold

/-- What a call remembers. -/
theorem remembers_verify (hmac : Hmac) (f : Fields)
    (hsmall : issuedAtMs + v.options.ttlMs < 2 ^ 64) (h : v.Remembers nonce issuedAtMs now) :
    (v.verify hmac f now).1.Remembers nonce issuedAtMs now := by
  have hv := v.verifies_verify hmac f now
  generalize v.verify hmac f now = w at hv
  cases hv with
  | rejected r hr => exact h
  | admitted nonce' issuedAtMs' hpasses =>
    obtain hkept | hexpired := purge_of_remembers hsmall h
    · unfold acceptOnce
      split_ifs with hseen
      · exact .inl hkept
      · left
        have hne : nonce ≠ nonce' := by
          rintro rfl
          rw [hkept] at hseen
          exact hseen rfl
        simpa [hne] using hkept
    · right
      unfold acceptOnce
      split_ifs <;> exact hexpired

/-- A message that is remembered is not accepted. -/
theorem not_ok_of_remembers (hsmall : issuedAtMs + v.options.ttlMs < 2 ^ 64)
    (h : v.Remembers nonce issuedAtMs now) (hnonce : f.lookup "nonce" = some nonce)
    (hissued : f.issuedAt = some issuedAtMs) : (v.verify hmac f now).2 ≠ .ok := by
  intro hok
  obtain ⟨nonce', issuedAtMs', hpasses, hnone, -⟩ := passes_of_ok hok
  obtain rfl : nonce = nonce' := Option.mem_unique hnonce hpasses.nonce
  obtain rfl : issuedAtMs = issuedAtMs' := Option.mem_unique hissued hpasses.issuedAt
  obtain hkept | hexpired := purge_of_remembers hsmall h
  · rw [hkept] at hnone
    cases hnone
  · have hfresh := hpasses.fresh
    rw [add64_eq hsmall] at hfresh
    omega

/-- An accepted message is remembered. -/
theorem remembers_of_ok (hok : (v.verify hmac f now).2 = .ok)
    (hnonce : f.lookup "nonce" = some nonce) (hissued : f.issuedAt = some issuedAtMs) :
    (v.verify hmac f now).1.Remembers nonce issuedAtMs now := by
  obtain ⟨nonce', issuedAtMs', hpasses, -, hnext⟩ := passes_of_ok hok
  obtain rfl : nonce = nonce' := Option.mem_unique hnonce hpasses.nonce
  obtain rfl : issuedAtMs = issuedAtMs' := Option.mem_unique hissued hpasses.issuedAt
  left
  rw [hnext]
  simp

/-- Along calls whose times do not go back, a message that is remembered is not accepted. -/
theorem not_ok_of_mem_trace {calls : List (Fields × ℕ)}
    (hsmall : issuedAtMs + v.options.ttlMs < 2 ^ 64) (h : v.Remembers nonce issuedAtMs now)
    (hnow : ∀ c ∈ calls, now ≤ c.2) (hmono : calls.Pairwise fun c c' => c.2 ≤ c'.2)
    {e : Event Verifier (Fields × ℕ) VerifyResult} (he : e ∈ (verifier hmac).trace v calls)
    (hnonce : e.input.1.lookup "nonce" = some nonce)
    (hissued : e.input.1.issuedAt = some issuedAtMs) : e.output ≠ .ok := by
  induction calls generalizing v now with
  | nil => cases he
  | cons call calls ih =>
    obtain ⟨hfirst, hrest⟩ := pairwise_cons.mp hmono
    -- the time of the call may be later than what is remembered, which does no harm
    have hcall : v.Remembers nonce issuedAtMs call.2 := by
      obtain hseen | hold := h
      · exact .inl hseen
      · have := hnow call mem_cons_self
        right
        omega
    obtain rfl | he := mem_cons.mp he
    · exact not_ok_of_remembers hsmall hcall hnonce hissued
    · have hnext := remembers_verify hmac call.1 hsmall hcall
      have hoptions := (same_verify hmac v call.1 call.2).1
      exact ih (by rw [← hoptions] at hsmall; exact hsmall) hnext hfirst hrest he

end Verifier

/-- **Replay safety.** For calls one after another whose times do not go back, no two accepted
    messages have the same nonce and time, as long as times of expiry fit into 64 bits. -/
theorem replay_safe (hmac : Hmac) (v : Verifier) (calls : List (Fields × ℕ))
    (hmono : calls.Pairwise fun c c' => c.2 ≤ c'.2)
    (hsmall : ∀ c ∈ calls, ∀ t, c.1.issuedAt = some t → t + v.options.ttlMs < 2 ^ 64) :
    ((verifier hmac).trace v calls).Pairwise fun e e' =>
      e.output = .ok → e'.output = .ok → ¬ (e.input.1.lookup "nonce" = e'.input.1.lookup "nonce" ∧
          e.input.1.issuedAt = e'.input.1.issuedAt) := by
  induction calls generalizing v with
  | nil => exact List.Pairwise.nil
  | cons call calls ih =>
    obtain ⟨hfirst, hrest⟩ := pairwise_cons.mp hmono
    have hoptions := (Verifier.same_verify hmac v call.1 call.2).1
    constructor
    · intro e' he' hok hok' hsame
      -- what the first call accepted is remembered until it has expired
      obtain ⟨nonce, issuedAtMs, hpasses, -⟩ := Verifier.passes_of_ok hok
      have hbound : issuedAtMs + v.options.ttlMs < 2 ^ 64 :=
        hsmall call mem_cons_self issuedAtMs hpasses.issuedAt
      have hrem := Verifier.remembers_of_ok hok hpasses.nonce hpasses.issuedAt
      refine Verifier.not_ok_of_mem_trace (by rwa [hoptions]) hrem hfirst hrest he' ?_ ?_ hok'
      · exact hsame.1.symm.trans hpasses.nonce
      · exact hsame.2.symm.trans hpasses.issuedAt
    · apply ih _ hrest
      intro c hc
      have hnext : ((verifier hmac).next v call).options = v.options := hoptions
      rw [hnext]
      exact hsmall c (mem_cons_of_mem call hc)

/-- A message that is verified three times is accepted once. -/
theorem replay_safe_announcement :
    let f : Fields := (announcement "hello").insert "signature"
      (signFields (fun _ text => text) (announcement "hello") "key")
    let calls := [(f, 7), (f, 8), (f, 70000)]
    ((verifier fun _ text => text).trace ⟨"key", {}, ∅⟩ calls).map Event.output =
        [.ok, .replay, .expired] ∧
      ((verifier fun _ text => text).trace ⟨"key", {}, ∅⟩ calls).Pairwise fun e e' =>
        e.output = .ok → e'.output = .ok → ¬ (e.input.1.lookup "nonce" = e'.input.1.lookup "nonce" ∧
            e.input.1.issuedAt = e'.input.1.issuedAt) := by
  intro f calls
  have hissued : f.issuedAt = some 7 := by decide +kernel
  refine ⟨by decide +kernel, replay_safe _ _ calls (by decide) ?_⟩
  have hbound : ∀ t, f.issuedAt = some t → t + 60000 < 2 ^ 64 := by
    intro t ht
    obtain rfl := Option.mem_unique hissued ht
    decide
  simpa [calls] using hbound

end Knights.Admin
