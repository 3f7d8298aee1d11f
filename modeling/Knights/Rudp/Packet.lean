import Knights.Protocol.Packet

namespace Knights.Rudp

open Knights.Lib List UInt32

/-!
# RUDP — the outer packet

The 34-byte RUDP header and its codec (`core/include/server/core/net/rudp/rudp_packet.hpp`).
A datagram is a list of bytes; `decodePacket` gives the header and the payload of a datagram
that has a complete header and exactly the payload length the header announces.

* `decodePacket_encodePacket` — what `encodePacket` writes, `decodePacket` reads, for payloads
  that fit the 16-bit length field;
* `encodePacket_decodePacket` — what `decodePacket` accepts, `encodePacket` writes back;
* `setRetransmit_encodePacket` — setting the retransmit bit of an encoded packet is encoding
  it with that flag.
-/

/-- A datagram, byte by byte. -/
abbrev Datagram := List UInt8

/-- RUDP magic value ("RU"). -/
def kRudpMagic : UInt16 := 0x5255

/-- Serialized header length in bytes. -/
def kRudpHeaderBytes : Nat := 34

/-- RUDP packet types.  The source casts the type byte to an enum without checking it, so a
    byte that names no enumerator stays as it is (`other`). -/
inductive PacketType where
  | kHello
  | kHelloAck
  | kData
  | kPing
  | kClose
  | other (byte : UInt8) (unnamed : ¬ (1 ≤ byte ∧ byte ≤ 5))
  deriving DecidableEq, Repr

/-- The type byte on the wire. -/
def PacketType.toByte : PacketType → UInt8
  | .kHello => 1
  | .kHelloAck => 2
  | .kData => 3
  | .kPing => 4
  | .kClose => 5
  | .other b _ => b

/-- A byte that is none of the five type bytes names no enumerator. -/
theorem unnamed_of_ne {b : UInt8} (h1 : b ≠ 1) (h2 : b ≠ 2) (h3 : b ≠ 3) (h4 : b ≠ 4)
    (h5 : b ≠ 5) : ¬ (1 ≤ b ∧ b ≤ 5) := by
  rw [UInt8.le_iff_toNat_le, UInt8.le_iff_toNat_le]
  rw [Ne, ← UInt8.toNat_inj] at h1 h2 h3 h4 h5
  simp at *
  omega

/-- The unchecked cast from a type byte. -/
def PacketType.ofByte (b : UInt8) : PacketType :=
  if h1 : b = 1 then .kHello
  else if h2 : b = 2 then .kHelloAck
  else if h3 : b = 3 then .kData
  else if h4 : b = 4 then .kPing
  else if h5 : b = 5 then .kClose
  else .other b (unnamed_of_ne h1 h2 h3 h4 h5)

/-- Flag bit of packets that only carry an acknowledgement. -/
def kFlagAckOnly : UInt8 := 1

/-- Flag bit of retransmitted packets. -/
def kFlagRetransmit : UInt8 := 2

/-- The RUDP outer header. -/
structure RudpHeader where
  magic : UInt16 := kRudpMagic
  version : UInt8 := 1
  type : PacketType := .kData
  connectionId : UInt32 := 0
  packetNumber : UInt32 := 0
  ackLargest : UInt32 := 0
  ackMask : UInt64 := 0
  ackDelayMs : UInt16 := 0
  channel : UInt8 := 0
  flags : UInt8 := 0
  timestampMs : UInt32 := 0
  payloadLength : UInt16 := 0
  deriving DecidableEq, Repr

/-- Serialize the header to its 34 bytes. -/
def encodeHeader (h : RudpHeader) : List UInt8 :=
  writeBe16 h.magic ++ [h.version, h.type.toByte] ++ writeBe32 h.connectionId
    ++ writeBe32 h.packetNumber ++ writeBe32 h.ackLargest
    ++ writeBe32 ((h.ackMask >>> 32) &&& 0xFFFFFFFF).toUInt32
    ++ writeBe32 (h.ackMask &&& 0xFFFFFFFF).toUInt32
    ++ writeBe16 h.ackDelayMs ++ [h.channel, h.flags] ++ writeBe32 h.timestampMs
    ++ writeBe16 h.payloadLength

/-- The header fields at their offsets of a datagram. -/
def decodeHeader (d : Datagram) : RudpHeader where
  magic := readBe16 d 0
  version := byteAt d 2
  type := .ofByte (byteAt d 3)
  connectionId := readBe32 d 4
  packetNumber := readBe32 d 8
  ackLargest := readBe32 d 12
  ackMask := ((readBe32 d 16).toUInt64 <<< 32) ||| (readBe32 d 20).toUInt64
  ackDelayMs := readBe16 d 24
  channel := byteAt d 26
  flags := byteAt d 27
  timestampMs := readBe32 d 28
  payloadLength := readBe16 d 32

/-- Deserialize a datagram; `none` is the source's `ok = false`. -/
def decodePacket (d : Datagram) : Option (RudpHeader × List UInt8) :=
  if d.length < kRudpHeaderBytes then none
  else
    let header := decodeHeader d
    if d.length ≠ kRudpHeaderBytes + header.payloadLength.toNat then none
    else some (header, (d.drop kRudpHeaderBytes).take header.payloadLength.toNat)

/-- Header and payload as one datagram; the length field is the payload size cut to 16
    bits. -/
def encodePacket (h : RudpHeader) (payload : List UInt8) : Datagram :=
  encodeHeader { h with payloadLength := payload.length.toUInt16 } ++ payload

/-- Quick check for the RUDP magic. -/
def looksLikeRudp (d : Datagram) : Bool :=
  2 ≤ d.length && readBe16 d 0 == kRudpMagic

/-- `frame[27] |= kFlagRetransmit`, as `poll` does to a frame it sends again. -/
def setRetransmit (frame : Datagram) : Datagram :=
  if kRudpHeaderBytes ≤ frame.length then
    frame.set 27 (byteAt frame 27 ||| kFlagRetransmit)
  else frame

/-! ### Round trip -/

@[simp] theorem PacketType.ofByte_toByte (t : PacketType) : PacketType.ofByte t.toByte = t := by
  cases t with
  | other b h =>
    have h1 : b ≠ 1 := by rintro rfl; exact h (by decide)
    have h2 : b ≠ 2 := by rintro rfl; exact h (by decide)
    have h3 : b ≠ 3 := by rintro rfl; exact h (by decide)
    have h4 : b ≠ 4 := by rintro rfl; exact h (by decide)
    have h5 : b ≠ 5 := by rintro rfl; exact h (by decide)
    simp [PacketType.toByte, PacketType.ofByte, h1, h2, h3, h4, h5]
  | _ => rfl

@[simp] theorem encodeHeader_length (h : RudpHeader) :
    (encodeHeader h).length = kRudpHeaderBytes := by
  simp [encodeHeader, kRudpHeaderBytes]

@[simp] theorem encodePacket_length (h : RudpHeader) (p : List UInt8) :
    (encodePacket h p).length = kRudpHeaderBytes + p.length := by
  simp [encodePacket]

/-- The two halves of the ack mask are put together again. -/
theorem ackMask_halves (m : UInt64) : (((m >>> 32) &&& 0xFFFFFFFF).toUInt32.toUInt64 <<< 32)
      ||| (m &&& 0xFFFFFFFF).toUInt32.toUInt64 = m := by
  have hm := m.toNat_lt
  have hand : ∀ n : Nat, n &&& 4294967295 = n % 2 ^ 32 :=
    fun n => Nat.and_two_pow_sub_one_eq_mod n 32
  apply UInt64.toNat_inj.mp
  simp only [UInt64.toNat_or, UInt64.toNat_shiftLeft, toNat_toUInt64,
    UInt64.toNat_toUInt32, UInt64.toNat_and, UInt64.toNat_shiftRight, UInt64.reduceToNat, hand,
    Nat.shiftRight_eq_div_pow]
  rw [show 32 % 64 = 32 from rfl, Nat.mod_eq_of_lt (by rw [Nat.shiftLeft_eq]; omega),
    shiftLeft_or_eq _ (by omega)]
  omega

/-- The header survives the trip through its bytes, whatever follows them. -/
theorem decodeHeader_encodeHeader (h : RudpHeader) (rest : List UInt8) :
    decodeHeader (encodeHeader h ++ rest) = h := by
  have r16 : ∀ v, readBe16 (writeBe16 v) 0 = v := fun v => by
    simpa using readBe16_writeBe16 [] [] v
  have r32 : ∀ v, readBe32 (writeBe32 v) 0 = v := fun v => by
    simpa using readBe32_writeBe32 [] [] v
  simp only [readBe16, byteAt, writeBe16, readBe32, writeBe32, getD_cons_zero,
    getD_cons_succ] at r16 r32
  simp only [decodeHeader, encodeHeader, readBe16, byteAt, writeBe16, readBe32, writeBe32,
    cons_append, nil_append, getD_cons_zero, getD_cons_succ, Nat.reduceAdd,
    r16, r32, ackMask_halves, PacketType.ofByte_toByte]

/-- **Round trip.** What `encodePacket` writes, `decodePacket` reads: the same header, with
    the length field set, and the same payload. -/
theorem decodePacket_encodePacket (h : RudpHeader) (p : List UInt8) (hp : p.length < 65536) :
    decodePacket (encodePacket h p) = some ({ h with payloadLength := p.length.toUInt16 }, p) := by
  have hlen : p.length.toUInt16.toNat = p.length := by
    simp
    omega
  unfold decodePacket
  rw [if_neg (by rw [encodePacket_length]; omega)]
  unfold encodePacket
  rw [decodeHeader_encodeHeader]
  simp only [length_append, encodeHeader_length, hlen, ne_eq, not_true_eq_false, if_false]
  rw [drop_left' (encodeHeader_length _), take_length]

@[simp] theorem PacketType.toByte_ofByte (b : UInt8) : (PacketType.ofByte b).toByte = b := by
  unfold PacketType.ofByte
  split_ifs with h1 h2 h3 h4 h5 <;> first | exact Eq.symm ‹_› | rfl

/-- The two halves of the ack mask are taken apart again. -/
theorem halves_ackMask {hi lo : UInt32} :
    ((((hi.toUInt64 <<< 32) ||| lo.toUInt64) >>> 32) &&& 0xFFFFFFFF).toUInt32 = hi ∧
      (((hi.toUInt64 <<< 32) ||| lo.toUInt64) &&& 0xFFFFFFFF).toUInt32 = lo := by
  have hhi := hi.toNat_lt
  have hlo := lo.toNat_lt
  have hand : ∀ n : Nat, n &&& 4294967295 = n % 2 ^ 32 :=
    fun n => Nat.and_two_pow_sub_one_eq_mod n 32
  have hmask : ((hi.toUInt64 <<< 32) ||| lo.toUInt64).toNat = hi.toNat * 2 ^ 32 + lo.toNat := by
    rw [UInt64.toNat_or, UInt64.toNat_shiftLeft, toNat_toUInt64, toNat_toUInt64,
      Nat.mod_eq_of_lt (by simp [Nat.shiftLeft_eq]; omega)]
    exact shiftLeft_or_eq _ hlo
  constructor <;> apply UInt32.toNat_inj.mp <;>
    simp only [UInt64.toNat_toUInt32, UInt64.toNat_and, UInt64.toNat_shiftRight, hmask,
      UInt64.reduceToNat, Nat.reduceMod, hand, Nat.shiftRight_eq_div_pow] <;> omega

/-- The bytes of a header that was read are those it was read from. -/
theorem encodeHeader_decodeHeader {d : Datagram} (hd : kRudpHeaderBytes ≤ d.length) :
    encodeHeader (decodeHeader d) = d.take kRudpHeaderBytes := by
  rw [take_eq_map_byteAt hd]
  simp only [encodeHeader, decodeHeader, writeBe16_readBe16, writeBe32_readBe32,
    halves_ackMask.1, halves_ackMask.2, PacketType.toByte_ofByte]
  rfl

/-- **Accepted packets are canonical.** What `decodePacket` accepts, `encodePacket` writes back
    byte for byte. -/
theorem encodePacket_decodePacket {d : Datagram} {h : RudpHeader} {p : List UInt8}
    (hd : decodePacket d = some (h, p)) : encodePacket h p = d := by
  unfold decodePacket at hd
  dsimp only at hd
  split_ifs at hd with hshort hlen
  obtain ⟨rfl, rfl⟩ := Prod.mk.inj (Option.some.inj hd)
  have htake : (d.drop kRudpHeaderBytes).take (decodeHeader d).payloadLength.toNat
      = d.drop kRudpHeaderBytes := take_of_length_le (by rw [length_drop]; omega)
  have hsize : (d.drop kRudpHeaderBytes).length.toUInt16 = (decodeHeader d).payloadLength := by
    rw [length_drop, not_not.mp hlen, Nat.add_sub_cancel_left]
    exact UInt16.ofNat_toNat
  unfold encodePacket
  rw [htake, hsize, encodeHeader_decodeHeader (not_lt.mp hshort), take_append_drop]

/-- **The codec.** Encoding and decoding are inverse to each other, for payloads that fit the
    length field; and the magic, read as the length of a plain frame, is larger than any datagram
    that the gateway receives. -/
theorem rudp_codec : (∀ h p, p.length ≤ 65535 → decodePacket (encodePacket h p)
      = some ({ h with payloadLength := p.length.toUInt16 }, p)) ∧
    (∀ d h p, decodePacket d = some (h, p) → encodePacket h p = d) ∧
    (∀ d : Datagram, d.length ≤ 2048 → looksLikeRudp d = true →
      ¬ (Protocol.kHeaderBytes ≤ d.length ∧
        (Protocol.decodeHeader d).length.toNat = d.length - Protocol.kHeaderBytes)) := by
  refine ⟨fun h p hp => decodePacket_encodePacket h p (by omega),
    fun d h p => encodePacket_decodePacket, fun d hd hlooks ⟨_, hlen⟩ => ?_⟩
  have hmagic : readBe16 d 0 = kRudpMagic := by
    simp only [looksLikeRudp, Bool.and_eq_true, beq_iff_eq] at hlooks
    exact hlooks.2
  have hbig : (Protocol.decodeHeader d).length.toNat = 0x5255 := congrArg UInt16.toNat hmagic
  omega

/-- An encoded packet with the default magic is recognised as RUDP. -/
theorem looksLikeRudp_encodePacket (h : RudpHeader) (p : List UInt8) (hm : h.magic = kRudpMagic) :
    looksLikeRudp (encodePacket h p) = true := by
  have hread : readBe16 (encodePacket h p) 0 = h.magic := by
    have hd := congrArg RudpHeader.magic
      (decodeHeader_encodeHeader { h with payloadLength := p.length.toUInt16 } p)
    exact hd
  simp [looksLikeRudp, hread, hm, kRudpHeaderBytes]
  omega

/-- Setting the retransmit bit of an encoded packet is encoding it with that flag. -/
theorem setRetransmit_encodePacket (h : RudpHeader) (p : List UInt8) :
    setRetransmit (encodePacket h p)
      = encodePacket { h with flags := h.flags ||| kFlagRetransmit } p := by
  unfold setRetransmit
  rw [if_pos (by rw [encodePacket_length]; omega)]
  simp [encodePacket, encodeHeader, writeBe16, writeBe32, byteAt]

end Knights.Rudp
