import Knights.Lib.Bytes
import Knights.Lib.Framing

namespace Knights.Protocol

open Knights.Lib List

/-!
# Protocol — frames and length-prefixed strings

A message is a 14-byte header with the length of the body, and the body
(`core/include/server/core/protocol/packet.hpp`).  Strings inside a body are written with a
16-bit length and must be valid UTF-8.

* `packetFraming` — headers with lengths cut a byte stream into frames;
* `lpUtf8_roundtrip` — strings that fit are read back, and `cut_lpUtf8_unreadable` — one that is
  cut inside a character is not;
* `isFrame_iff` — what a complete frame is, in the words of the receive paths.
-/

/-- A byte string; `std::string` and payload buffers alike. -/
abbrev Bytes := List UInt8

/-- Length of the fixed header. -/
def kHeaderBytes : ℕ := 14

/-- What a message is for. -/
inductive SegmentType where
  | kSystemControl
  | kApplicationPayload
  deriving DecidableEq, Repr

/-- The ids of system messages. -/
def isSystemMsgId (msgId : UInt16) : Bool := 0x0001 ≤ msgId && msgId ≤ 0x000F

/-- The type of a message by its id. -/
def classifySegmentType (msgId : UInt16) : SegmentType :=
  if isSystemMsgId msgId then .kSystemControl else .kApplicationPayload

/-- The message header. -/
structure PacketHeader where
  length : UInt16 := 0
  msgId : UInt16 := 0
  flags : UInt16 := 0
  seq : UInt32 := 0
  utcTsMs32 : UInt32 := 0
  deriving DecidableEq, Repr

/-- Serialize a header. -/
def encodeHeader (h : PacketHeader) : Bytes :=
  writeBe16 h.length ++ writeBe16 h.msgId ++ writeBe16 h.flags ++ writeBe32 h.seq
    ++ writeBe32 h.utcTsMs32

/-- The header at the front of a buffer. -/
def decodeHeader (bs : Bytes) : PacketHeader where
  length := readBe16 bs 0
  msgId := readBe16 bs 2
  flags := readBe16 bs 4
  seq := readBe32 bs 6
  utcTsMs32 := readBe32 bs 10

/-! ### Strings -/

/-- The leading byte of a longer UTF-8 sequence: how many bytes follow, the bits it gives, and the
    smallest code point that needs this length. -/
def utf8Lead (byte0 : UInt8) : Option (ℕ × UInt32 × UInt32) :=
  if byte0 &&& 0xE0 == 0xC0 then some (1, (byte0 &&& 0x1F).toUInt32, 0x80)
  else if byte0 &&& 0xF0 == 0xE0 then some (2, (byte0 &&& 0x0F).toUInt32, 0x800)
  else if byte0 &&& 0xF8 == 0xF0 then some (3, (byte0 &&& 0x07).toUInt32, 0x10000)
  else none

/-- The loop over continuation bytes; `none` if one of them is not. -/
def utf8Follow (codepoint : UInt32) : List UInt8 → Option UInt32
  | [] => some codepoint
  | cont :: conts =>
    if cont &&& 0xC0 != 0x80 then none
    else utf8Follow ((codepoint <<< 6) ||| (cont &&& 0x3F).toUInt32) conts

/-- The main loop of `is_valid_utf8`, one round for each sequence. -/
def isValidUtf8Loop : ℕ → Bytes → Bool
  | _, [] => true
  | 0, _ :: _ => false
  | fuel + 1, byte0 :: rest =>
    if byte0 < 0x80 then isValidUtf8Loop fuel rest
    else
      match utf8Lead byte0 with
      | none => false
      | some (follow, bits, minCodepoint) =>
        if rest.length < follow then false
        else
          match utf8Follow bits (rest.take follow) with
          | none => false
          | some codepoint =>
            if codepoint < minCodepoint then false
            else if codepoint > 0x10FFFF then false
            else if codepoint ≥ 0xD800 && codepoint ≤ 0xDFFF then false
            else isValidUtf8Loop fuel (rest.drop follow)

/-- Strict UTF-8 validation.  A round takes at least one byte, so that there are at most as many
    rounds as bytes. -/
def isValidUtf8 (s : Bytes) : Bool := isValidUtf8Loop s.length s

/-- Append a string with its length; a longer one is cut. -/
def writeLpUtf8 (out str : Bytes) : Bytes :=
  let str := if str.length > 0xFFFF then str.take 0xFFFF else str
  out ++ writeBe16 (UInt16.ofNat str.length) ++ str

/-- Read a length-prefixed string with the references of the source: what is returned, what is left
    of the input, and the output. -/
def readLpUtf8Into (input out : Bytes) : Bool × Bytes × Bytes :=
  if input.length < 2 then (false, input, out)
  else
    let len := (readBe16 input 0).toNat
    if input.length < 2 + len then (false, input, out)
    else
      let payload := (input.drop 2).take len
      if !isValidUtf8 payload then (false, input, out)
      else (true, input.drop (2 + len), payload)

/-- A read into a fresh string: the string and what follows it, if the read succeeds. -/
def readLpUtf8 (input : Bytes) : Option (Bytes × Bytes) :=
  let r := readLpUtf8Into input []
  if r.1 then some (r.2.2, r.2.1) else none

/-- So many reads, one after another. -/
def readLpUtf8s : ℕ → Bytes → Option (List Bytes × Bytes)
  | 0, input => some ([], input)
  | n + 1, input => do
    let (str, rest) ← readLpUtf8 input
    let (strs, rest) ← readLpUtf8s n rest
    return (str :: strs, rest)

/-- A read fails and leaves its references alone, or takes a length and the string after it. -/
theorem readLpUtf8_cases (input out : Bytes) :
    (readLpUtf8 input = none ∧ readLpUtf8Into input out = (false, input, out)) ∨
      ∃ str, isValidUtf8 str = true ∧ 2 + str.length ≤ input.length ∧
        readLpUtf8 input = some (str, input.drop (2 + str.length)) ∧
        readLpUtf8Into input out = (true, input.drop (2 + str.length), str) := by
  unfold readLpUtf8 readLpUtf8Into
  by_cases hshort : input.length < 2
  · rw [if_pos hshort, if_pos hshort]
    exact .inl ⟨rfl, rfl⟩
  by_cases hcut : input.length < 2 + (readBe16 input 0).toNat
  · simp [if_pos hcut]
  simp only [if_neg hshort, if_neg hcut]
  have hlen : ((input.drop 2).take (readBe16 input 0).toNat).length =
      (readBe16 input 0).toNat := by
    rw [length_take, length_drop, min_eq_left (by omega)]
  cases hvalid : isValidUtf8 ((input.drop 2).take (readBe16 input 0).toNat) with
  | false => exact .inl ⟨rfl, rfl⟩
  | true =>
    refine .inr ⟨_, hvalid, ?_⟩
    rw [hlen]
    exact ⟨by omega, rfl, rfl⟩

/-- **What the writer appends**, and what the reader makes of it. -/
theorem read_writeLpUtf8 (out str : Bytes) :
    ∃ bytes, writeLpUtf8 out str = out ++ bytes ∧ ∀ tail, readLpUtf8 (bytes ++ tail) =
      if isValidUtf8 (str.take 0xFFFF) then some (str.take 0xFFFF, tail) else none := by
  have hcut : (if str.length > 0xFFFF then str.take 0xFFFF else str) = str.take 0xFFFF := by
    split_ifs with hlong
    · rfl
    · exact (take_of_length_le (by omega)).symm
  rw [writeLpUtf8, hcut]
  generalize hs : str.take 0xFFFF = s
  have hlen : s.length < 2 ^ 16 := by
    rw [← hs, length_take]
    omega
  refine ⟨_, append_assoc .., fun tail => ?_⟩
  have hread : (readBe16 (writeBe16 (UInt16.ofNat s.length) ++ (s ++ tail)) 0).toNat = s.length :=
    (congrArg UInt16.toNat (readBe16_writeBe16 [] _ _)).trans (UInt16.toNat_ofNat_of_lt' hlen)
  have hrest : ∀ n, (writeBe16 (UInt16.ofNat s.length) ++ (s ++ tail)).drop (2 + n) =
      (s ++ tail).drop n := fun n => by rw [← drop_drop]; rfl
  have hstr : (writeBe16 (UInt16.ofNat s.length) ++ (s ++ tail)).drop 2 = s ++ tail := hrest 0
  have hfits : ¬ (writeBe16 (UInt16.ofNat s.length) ++ (s ++ tail)).length < 2 + s.length := by
    simp
  have hshort : ¬ (writeBe16 (UInt16.ofNat s.length) ++ (s ++ tail)).length < 2 :=
    fun hshort => hfits (by omega)
  rw [append_assoc, readLpUtf8, readLpUtf8Into]
  simp only [hread, if_neg hshort, if_neg hfits, hrest, hstr, take_left, drop_left]
  cases isValidUtf8 s <;> rfl

/-- Strings that fit are read back in order, one by one. -/
theorem readLpUtf8s_foldl {strs : List Bytes}
    (hstrs : ∀ str ∈ strs, isValidUtf8 str = true ∧ str.length ≤ 0xFFFF) (out : Bytes) :
    ∃ bytes, strs.foldl writeLpUtf8 out = out ++ bytes ∧
      ∀ tail, readLpUtf8s strs.length (bytes ++ tail) = some (strs, tail) := by
  induction strs generalizing out with
  | nil => exact ⟨[], (append_nil out).symm, fun _ => rfl⟩
  | cons str strs ih =>
    obtain ⟨hvalid, hlen⟩ := hstrs str mem_cons_self
    obtain ⟨bytes, hwrite, hread⟩ := read_writeLpUtf8 out str
    simp only [take_of_length_le hlen, hvalid, if_true] at hread
    obtain ⟨more, hmore, hrest⟩ :=
      ih (fun str h => hstrs str (mem_cons_of_mem _ h)) (out ++ bytes)
    refine ⟨bytes ++ more, ?_, fun tail => ?_⟩
    · rw [foldl_cons, hwrite, hmore, append_assoc]
    · rw [append_assoc, length_cons, readLpUtf8s, hread]
      simp [hrest]

/-- **Round trip.** Strings that fit are read back, up to what follows them.  Whatever the output
    held, a read that fails leaves its references alone, and one that succeeds takes the length
    and the string. -/
theorem lpUtf8_roundtrip : (∀ (strs : List Bytes) (out tail : Bytes),
      (∀ str ∈ strs, isValidUtf8 str = true ∧ str.length ≤ 0xFFFF) →
      readLpUtf8s strs.length ((strs.foldl writeLpUtf8 out ++ tail).drop out.length) =
        some (strs, tail)) ∧
    ∀ input out, (readLpUtf8 input = none ∧ readLpUtf8Into input out = (false, input, out)) ∨
      ∃ str, 2 + str.length ≤ input.length ∧
        readLpUtf8 input = some (str, input.drop (2 + str.length)) ∧
        readLpUtf8Into input out = (true, input.drop (2 + str.length), str) := by
  refine ⟨fun strs out tail hstrs => ?_, fun input out => ?_⟩
  · obtain ⟨bytes, hwrite, hread⟩ := readLpUtf8s_foldl hstrs out
    rw [hwrite, append_assoc, drop_left, hread]
  · obtain hfails | ⟨str, -, htakes⟩ := readLpUtf8_cases input out
    · exact .inl hfails
    · exact .inr ⟨str, htakes⟩

/-- **Cut strings.** A prefix of a string is read back exactly if no character stands across the
    cut. -/
theorem read_cut_lpUtf8_iff (str out tail : Bytes) :
    (∃ start, start <+: str ∧
      readLpUtf8 ((writeLpUtf8 out str ++ tail).drop out.length) = some (start, tail)) ↔
      isValidUtf8 (str.take 0xFFFF) = true := by
  obtain ⟨bytes, hwrite, hread⟩ := read_writeLpUtf8 out str
  rw [hwrite, append_assoc, drop_left, hread]
  constructor
  · rintro ⟨start, -, hsome⟩
    by_contra hcut
    rw [if_neg hcut] at hsome
    exact absurd hsome (by simp)
  · intro hcut
    exact ⟨_, take_prefix 0xFFFF str, if_pos hcut⟩

/-- ASCII bytes in front do not matter. -/
theorem isValidUtf8_replicate (n : ℕ) (bs : Bytes) :
    isValidUtf8 (List.replicate n 0x61 ++ bs) = isValidUtf8 bs := by
  induction n with
  | zero => rfl
  | succ n ih => exact ih

/-- 65534 letters and an `é`: the cut leaves the first of its two bytes, and nothing is read. -/
theorem cut_lpUtf8_unreadable : isValidUtf8 (List.replicate 65534 0x61 ++ [0xC3, 0xA9]) = true ∧
      readLpUtf8 (writeLpUtf8 [] (List.replicate 65534 0x61 ++ [0xC3, 0xA9])) = none := by
  refine ⟨by rw [isValidUtf8_replicate]; decide, ?_⟩
  obtain ⟨bytes, hwrite, hread⟩ :=
    read_writeLpUtf8 [] (List.replicate 65534 0x61 ++ [0xC3, 0xA9])
  have htake : ∀ n, (List.replicate n (0x61 : UInt8) ++ [0xC3, 0xA9]).take (n + 1) =
      List.replicate n 0x61 ++ [0xC3] := fun n => by simp [take_append]
  rw [htake 65534, isValidUtf8_replicate] at hread
  rw [hwrite, nil_append, ← append_nil bytes, hread]
  decide

/-! ### Frames -/

/-- A complete header does not depend on what follows. -/
theorem decodeHeader_append {bs : Bytes} (rest : Bytes) (hlen : kHeaderBytes ≤ bs.length) :
    decodeHeader (bs ++ rest) = decodeHeader bs := by
  have hbyte : ∀ i < kHeaderBytes, byteAt (bs ++ rest) i = byteAt bs i :=
    fun i hi => getD_append _ _ _ _ (by omega)
  unfold decodeHeader readBe16 readBe32
  simp (disch := decide) only [hbyte, Nat.reduceAdd]

/-- The size of the message at the front of a buffer, once its header is there. -/
def frameBytes (bs : Bytes) : Option ℕ :=
  if bs.length < kHeaderBytes then none
  else some (kHeaderBytes + (decodeHeader bs).length.toNat)

theorem frameBytes_eq_some {bs : Bytes} {n : ℕ} : frameBytes bs = some n ↔
    kHeaderBytes ≤ bs.length ∧ n = kHeaderBytes + (decodeHeader bs).length.toNat := by
  unfold frameBytes
  by_cases hlen : bs.length < kHeaderBytes
  · rw [if_pos hlen]
    simp only [reduceCtorEq, false_iff, not_and]
    omega
  · rw [if_neg hlen, Option.some.injEq]
    exact ⟨fun h => ⟨by omega, h.symm⟩, fun h => h.2.symm⟩

/-- **Framing.** Messages of header and body. -/
def packetFraming : Framing UInt8 where
  need := frameBytes
  need_pos := by
    intro bs n h
    have := (frameBytes_eq_some.mp h).2
    unfold kHeaderBytes at this
    omega
  need_append := by
    intro bs n rest h
    obtain ⟨hlen, hn⟩ := frameBytes_eq_some.mp h
    refine frameBytes_eq_some.mpr ⟨?_, ?_⟩
    · rw [List.length_append]
      omega
    · rw [decodeHeader_append rest hlen, hn]
  need_take := by
    intro bs n h hle
    obtain ⟨hlen, hn⟩ := frameBytes_eq_some.mp h
    have htake : kHeaderBytes ≤ (bs.take n).length := by
      rw [List.length_take]
      omega
    refine frameBytes_eq_some.mpr ⟨htake, ?_⟩
    rw [← decodeHeader_append (bs.drop n) htake, List.take_append_drop, hn]

/-- **A complete frame** has a header and exactly the body that the header announces. -/
theorem isFrame_iff {bs : Bytes} : packetFraming.IsFrame bs ↔
    kHeaderBytes ≤ bs.length ∧ (decodeHeader bs).length.toNat = bs.length - kHeaderBytes := by
  show frameBytes bs = some bs.length ↔ _
  rw [frameBytes_eq_some]
  constructor
  · rintro ⟨hlen, hn⟩
    exact ⟨hlen, by omega⟩
  · rintro ⟨hlen, hn⟩
    exact ⟨hlen, by omega⟩

end Knights.Protocol
