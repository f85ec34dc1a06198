import Sponge.Wire.Checksum

/-! IPv4 headers and datagrams: parsing and serializing. -/

namespace Sponge

/-- An IPv4 header. -/
structure IPv4Header where
  /-- IP version. -/
  ver : UInt8 := 4
  /-- Header length, in words of four bytes. -/
  hlen : UInt8 := 5
  /-- Type of service. -/
  tos : UInt8 := 0
  /-- Total length of the packet. -/
  len : UInt16 := 0
  /-- Identification number. -/
  id : UInt16 := 0
  /-- Don't fragment flag. -/
  df : Bool := true
  /-- More fragments flag. -/
  mf : Bool := false
  /-- Fragment offset. -/
  offset : UInt16 := 0
  /-- Time to live. -/
  ttl : UInt8 := 128
  /-- Protocol. -/
  proto : UInt8 := 6
  /-- Checksum. -/
  cksum : UInt16 := 0
  /-- Source address. -/
  src : UInt32 := 0
  /-- Destination address. -/
  dst : UInt32 := 0
deriving DecidableEq, Repr

namespace IPv4Header

/-- The header length without options. -/
def length : Nat := 20

/-- The protocol number of TCP. -/
def protoTcp : UInt8 := 6

/-- Reads all fields of a header. -/
def readFields (p : NetParser) : IPv4Header × NetParser :=
  let (firstByte, p) := p.u8
  let (tos, p) := p.u8
  let (len, p) := p.u16
  let (id, p) := p.u16
  let (foVal, p) := p.u16
  let (ttl, p) := p.u8
  let (proto, p) := p.u8
  let (cksum, p) := p.u16
  let (src, p) := p.u32
  let (dst, p) := p.u32
  ({ ver := firstByte >>> 4, hlen := firstByte &&& 0x0f, tos, len, id
     df := foVal &&& 0x4000 != 0, mf := foVal &&& 0x2000 != 0, offset := foVal &&& 0x1fff
     ttl, proto, cksum, src, dst }, p)

/-- Parses a header: the verdict, the header as far as it was read, and the parser after it. -/
def parse (header : IPv4Header) (p : NetParser) : ParseResult × IPv4Header × NetParser :=
  let original := p.buffer
  let dataSize := p.buffer.length
  if dataSize < length then (.packetTooShort, header, p)
  else
    -- All fields are read before any of them is checked.
    let (header, p) := readFields p
    if dataSize < 4 * header.hlen.toNat then (.packetTooShort, header, p)
    else if header.ver ≠ 4 then (.wrongIPVersion, header, p)
    else if header.hlen < 5 then (.headerTooShort, header, p)
    else if dataSize ≠ header.len.toNat then (.truncatedPacket, header, p)
    else
      let p := p.removePrefix (header.hlen.toNat * 4 - length)
      if p.error ≠ .noError then (p.error, header, p)
      else if (InternetChecksum.add {} (original.take (4 * header.hlen.toNat))).value ≠ 0 then
        (.badChecksum, header, p)
      else (.noError, header, p)

/-- Serializes a header, without recomputing its checksum. -/
def serialize (header : IPv4Header) : Except Exception Bytes :=
  if header.ver ≠ 4 then .error .wrongIPVersion
  else if 4 * header.hlen.toNat < length then .error .ipHeaderTooShort
  else
    let firstByte := (header.ver <<< 4) ||| (header.hlen &&& 0xf)
    let foVal : UInt16 := (if header.df then 0x4000 else 0) ||| (if header.mf then 0x2000 else 0)
      ||| (header.offset &&& 0x1fff)
    .ok (resize (NetUnparser.u8 firstByte ++ NetUnparser.u8 header.tos
      ++ NetUnparser.u16 header.len ++ NetUnparser.u16 header.id ++ NetUnparser.u16 foVal
      ++ NetUnparser.u8 header.ttl ++ NetUnparser.u8 header.proto ++ NetUnparser.u16 header.cksum
      ++ NetUnparser.u32 header.src ++ NetUnparser.u32 header.dst) (4 * header.hlen.toNat))

/-- The length of the payload, in 16-bit arithmetic. -/
def payloadLength (header : IPv4Header) : UInt16 := header.len - 4 * header.hlen.toUInt16

/-- The pseudo-header's contribution to the TCP checksum. -/
def pseudoCksum (header : IPv4Header) : UInt32 :=
  let halves (addr : UInt32) : UInt32 := (addr >>> 16) + (addr &&& 0xffff)
  halves header.src + halves header.dst + header.proto.toUInt32 + header.payloadLength.toUInt32

end IPv4Header

/-- An IPv4 datagram. -/
structure IPv4Datagram where
  /-- The header. -/
  header : IPv4Header := {}
  /-- The bytes after the header. -/
  payload : BufferList := {}
deriving DecidableEq, Repr

namespace IPv4Datagram

/-- Parses a datagram into an existing one. -/
def parse (dgram : IPv4Datagram) (buffer : Bytes) : ParseResult × IPv4Datagram :=
  -- The verdict on the header is not looked at.
  let (_, header, p) := dgram.header.parse ⟨buffer, .noError⟩
  let dgram : IPv4Datagram := ⟨header, .ofBuffer p.buffer⟩
  if dgram.payload.size ≠ dgram.header.payloadLength.toNat then (.packetTooShort, dgram)
  else (p.error, dgram)

/-- Serializes a datagram with the checksum of its header. -/
def serialize (dgram : IPv4Datagram) : Except Exception BufferList :=
  if dgram.payload.size ≠ dgram.header.payloadLength.toNat then .error .wrongPayloadSize
  else do
    let headerZeroChecksum ← IPv4Header.serialize { dgram.header with cksum := 0 }
    let cksum := (InternetChecksum.add {} headerZeroChecksum).value
    let headerOut ← IPv4Header.serialize { dgram.header with cksum }
    return (BufferList.ofBuffer headerOut).append dgram.payload

end IPv4Datagram

namespace IPv4Header

/-- The length of the payload is the total length less the header, modulo `2 ^ 16`. -/
theorem payloadLength_toNat (header : IPv4Header) :
    header.payloadLength.toNat
      = (header.len.toNat + 65536 - 4 * header.hlen.toNat) % 65536 := by
  -- The product does not wrap, the difference may.
  have small := header.hlen.toNat_lt
  rw [payloadLength, UInt16.toNat_sub, UInt16.toNat_mul, UInt8.toNat_toUInt16]
  change (2 ^ 16 - 4 * header.hlen.toNat % 2 ^ 16 + header.len.toNat) % 2 ^ 16 = _
  omega

end IPv4Header

/-- The fields of a header as they stand on the wire, where several share one integer. -/
structure RawIPv4 where
  /-- Version and header length. -/
  firstByte : UInt8
  /-- Type of service. -/
  tos : UInt8
  /-- Total length. -/
  len : UInt16
  /-- Identification number. -/
  id : UInt16
  /-- Flags and fragment offset. -/
  foVal : UInt16
  /-- Time to live. -/
  ttl : UInt8
  /-- Protocol. -/
  proto : UInt8
  /-- Checksum. -/
  cksum : UInt16
  /-- Source address. -/
  src : UInt32
  /-- Destination address. -/
  dst : UInt32

namespace RawIPv4

/-- The ten bytes before the checksum. -/
def front (raw : RawIPv4) : Bytes :=
  NetUnparser.u8 raw.firstByte ++ (NetUnparser.u8 raw.tos ++ (NetUnparser.u16 raw.len
    ++ (NetUnparser.u16 raw.id ++ (NetUnparser.u16 raw.foVal ++ (NetUnparser.u8 raw.ttl
    ++ NetUnparser.u8 raw.proto)))))

/-- A header on the wire, followed by other bytes. -/
def bytes (raw : RawIPv4) (rest : Bytes) : Bytes :=
  raw.front ++ (NetUnparser.u16 raw.cksum
    ++ (NetUnparser.u32 raw.src ++ (NetUnparser.u32 raw.dst ++ rest)))

/-- The header that the fields stand for. -/
def header (raw : RawIPv4) : IPv4Header :=
  { ver := raw.firstByte >>> 4, hlen := raw.firstByte &&& 0x0f, tos := raw.tos, len := raw.len
    id := raw.id, df := raw.foVal &&& 0x4000 != 0, mf := raw.foVal &&& 0x2000 != 0
    offset := raw.foVal &&& 0x1fff, ttl := raw.ttl, proto := raw.proto, cksum := raw.cksum
    src := raw.src, dst := raw.dst }

/-- The fields that a header is written with. -/
def ofHeader (header : IPv4Header) : RawIPv4 :=
  { firstByte := (header.ver <<< 4) ||| (header.hlen &&& 0xf), tos := header.tos
    len := header.len, id := header.id
    foVal := (if header.df then 0x4000 else 0) ||| (if header.mf then 0x2000 else 0)
      ||| (header.offset &&& 0x1fff)
    ttl := header.ttl, proto := header.proto, cksum := header.cksum
    src := header.src, dst := header.dst }

/-- Ten bytes come before the checksum. -/
@[simp] theorem length_front (raw : RawIPv4) : raw.front.length = 10 := by
  simp [front]

/-- A header on the wire takes twenty bytes. -/
@[simp] theorem length_bytes (raw : RawIPv4) (rest : Bytes) :
    (raw.bytes rest).length = 20 + rest.length := by
  simp only [bytes, List.length_append, length_front, NetUnparser.length_u16,
    NetUnparser.length_u32]
  omega

/-- Past the header, only the bytes that follow it count. -/
theorem drop_bytes (raw : RawIPv4) (rest : Bytes) {n : Nat} (past : 20 ≤ n) :
    (raw.bytes rest).drop n = rest.drop (n - 20) := by
  -- The header has twenty bytes, so all of it is dropped.
  have split : raw.bytes rest = raw.bytes [] ++ rest := by simp [bytes]
  rw [split, List.drop_append, List.drop_of_length_le (by simpa using past), length_bytes,
    List.nil_append]
  rfl

/-- Every string of at least twenty bytes starts with a header. -/
theorem exists_bytes {data : Bytes} (long : 20 ≤ data.length) :
    ∃ raw rest, data = bytes raw rest := by
  -- The integers are split off one by one, each time with enough bytes left for the next.
  obtain ⟨firstByte, data, rfl⟩ := NetUnparser.exists_u8 (show 1 ≤ data.length by omega)
  rw [List.length_append, NetUnparser.length_u8] at long
  obtain ⟨tos, data, rfl⟩ := NetUnparser.exists_u8 (show 1 ≤ data.length by omega)
  rw [List.length_append, NetUnparser.length_u8] at long
  obtain ⟨len, data, rfl⟩ := NetUnparser.exists_u16 (show 2 ≤ data.length by omega)
  rw [List.length_append, NetUnparser.length_u16] at long
  obtain ⟨id, data, rfl⟩ := NetUnparser.exists_u16 (show 2 ≤ data.length by omega)
  rw [List.length_append, NetUnparser.length_u16] at long
  obtain ⟨foVal, data, rfl⟩ := NetUnparser.exists_u16 (show 2 ≤ data.length by omega)
  rw [List.length_append, NetUnparser.length_u16] at long
  obtain ⟨ttl, data, rfl⟩ := NetUnparser.exists_u8 (show 1 ≤ data.length by omega)
  rw [List.length_append, NetUnparser.length_u8] at long
  obtain ⟨proto, data, rfl⟩ := NetUnparser.exists_u8 (show 1 ≤ data.length by omega)
  rw [List.length_append, NetUnparser.length_u8] at long
  obtain ⟨cksum, data, rfl⟩ := NetUnparser.exists_u16 (show 2 ≤ data.length by omega)
  rw [List.length_append, NetUnparser.length_u16] at long
  obtain ⟨src, data, rfl⟩ := NetUnparser.exists_u32 (show 4 ≤ data.length by omega)
  rw [List.length_append, NetUnparser.length_u32] at long
  obtain ⟨dst, rest, rfl⟩ := NetUnparser.exists_u32 (show 4 ≤ data.length by omega)
  exact ⟨⟨firstByte, tos, len, id, foVal, ttl, proto, cksum, src, dst⟩, rest, by
    simp only [bytes, front, List.append_assoc]⟩

/-- Version 4 and a header length share the first byte without loss. -/
theorem firstByte_halves {hlen : UInt8} (nibble : hlen.toNat ≤ 15) :
    ((4 : UInt8) <<< 4 ||| (hlen &&& 0xf)) >>> 4 = 4
      ∧ ((4 : UInt8) <<< 4 ||| (hlen &&& 0xf)) &&& 0x0f = hlen := by
  -- Sixteen values, each checked by computing.
  have checked : ∀ n < 16, ((4 : UInt8) <<< 4 ||| (UInt8.ofNat n &&& 0xf)) >>> 4 = 4
      ∧ ((4 : UInt8) <<< 4 ||| (UInt8.ofNat n &&& 0xf)) &&& 0x0f = UInt8.ofNat n := by
    decide
  have value := checked hlen.toNat (by omega)
  rwa [UInt8.ofNat_toNat] at value

/-- A mask acts separately on the flags and on the offset. -/
theorem foVal_mask (df mf offset mask : UInt16) :
    (df ||| mf ||| (offset &&& 0x1fff)) &&& mask
      = (df &&& mask) ||| (mf &&& mask) ||| (offset &&& (0x1fff &&& mask)) := by
  apply UInt16.toNat_inj.mp
  simp only [UInt16.toNat_and, UInt16.toNat_or, Nat.and_or_distrib_right, Nat.and_assoc]

/-- The flags and a fragment offset share one word without loss. -/
theorem foVal_parts (df mf : Bool) {offset : UInt16} (fragment : offset.toNat < 2 ^ 13) :
    let foVal : UInt16 := (if df then 0x4000 else 0) ||| (if mf then 0x2000 else 0)
      ||| (offset &&& 0x1fff)
    (foVal &&& 0x4000 != 0) = df ∧ (foVal &&& 0x2000 != 0) = mf ∧ foVal &&& 0x1fff = offset := by
  have kept : offset &&& 0x1fff = offset := by
    apply UInt16.toNat_inj.mp
    rw [UInt16.toNat_and, show (0x1fff : UInt16).toNat = 2 ^ 13 - 1 from rfl,
      Nat.and_two_pow_sub_one_eq_mod, Nat.mod_eq_of_lt fragment]
  -- The three masks do not overlap.
  have masks : (0x4000 : UInt16) &&& 0x2000 = 0 ∧ (0x2000 : UInt16) &&& 0x4000 = 0
      ∧ (0x4000 : UInt16) &&& 0x1fff = 0 ∧ (0x2000 : UInt16) &&& 0x1fff = 0
      ∧ (0x1fff : UInt16) &&& 0x4000 = 0 ∧ (0x1fff : UInt16) &&& 0x2000 = 0 := by
    decide
  dsimp only
  rw [foVal_mask, foVal_mask, foVal_mask]
  cases df <;> cases mf <;> simp [masks, kept]

/-- The header that is written is the one that the fields stand for. -/
theorem header_ofHeader {header : IPv4Header} (version : header.ver = 4)
    (nibble : header.hlen.toNat ≤ 15) (fragment : header.offset.toNat < 2 ^ 13) :
    (ofHeader header).header = header := by
  -- The version and the length share a byte, the flags and the offset a word.
  obtain ⟨high, low⟩ := firstByte_halves nibble
  obtain ⟨df, mf, offset⟩ := foVal_parts header.df header.mf fragment
  simp only [RawIPv4.header, ofHeader, version, high, low, df, mf, offset]
  rw [← version]

end RawIPv4

namespace IPv4Header

/-- The shape that the parser asks of a header before it skips the options. -/
structure Shaped (header : IPv4Header) (size : Nat) : Prop where
  /-- The header lies inside the packet. -/
  inside : 4 * header.hlen.toNat ≤ size
  /-- The version is 4. -/
  version : header.ver = 4
  /-- The header has room for its fields. -/
  room : 5 ≤ header.hlen.toNat
  /-- The total length is that of the packet. -/
  total : size = header.len.toNat

instance (header : IPv4Header) (size : Nat) : Decidable (header.Shaped size) :=
  decidable_of_iff
    (4 * header.hlen.toNat ≤ size ∧ header.ver = 4 ∧ 5 ≤ header.hlen.toNat
      ∧ size = header.len.toNat)
    ⟨fun ⟨inside, version, room, total⟩ => ⟨inside, version, room, total⟩,
      fun ⟨inside, version, room, total⟩ => ⟨inside, version, room, total⟩⟩

/-- A header with room for its fields serializes to them, with the options zeroed. -/
theorem serialize_eq {header : IPv4Header} (version : header.ver = 4)
    (room : 5 ≤ header.hlen.toNat) :
    header.serialize = .ok ((RawIPv4.ofHeader header).bytes
      (List.replicate (4 * header.hlen.toNat - 20) 0)) := by
  -- Neither check throws, and the options are filled up with zeros.
  rw [serialize, if_neg (by simp [version]), if_neg (by rw [length]; omega)]
  dsimp only
  rw [resize_of_le (by simp; omega)]
  simp [RawIPv4.bytes, RawIPv4.front, RawIPv4.ofHeader]

/-- Any other header is refused. -/
theorem serialize_error {header : IPv4Header}
    (refused : ¬ (header.ver = 4 ∧ 5 ≤ header.hlen.toNat)) :
    ∃ thrown, header.serialize = .error thrown := by
  rw [serialize]
  -- The version is tested first, then the length.
  by_cases version : header.ver = 4
  · have short : ¬ 5 ≤ header.hlen.toNat := fun room => refused ⟨version, room⟩
    rw [if_neg (by simp [version]), if_pos (by rw [length]; omega)]
    exact ⟨_, rfl⟩
  · rw [if_pos version]
    exact ⟨_, rfl⟩

/-- A string too short for a header leaves the header and the parser as they are. -/
theorem parse_short {data : Bytes} (short : data.length < 20) (header : IPv4Header) :
    header.parse ⟨data, .noError⟩ = (.packetTooShort, header, ⟨data, .noError⟩) := by
  exact if_pos short

/-- The fields on the wire are read into the header they stand for. -/
@[simp] theorem readFields_bytes (raw : RawIPv4) (rest : Bytes) :
    readFields ⟨raw.bytes rest, .noError⟩ = (raw.header, ⟨rest, .noError⟩) := by
  simp [readFields, RawIPv4.bytes, RawIPv4.front, RawIPv4.header]

/-- A shaped header is skipped with its options, and then its checksum decides the verdict. -/
theorem parse_shaped {raw : RawIPv4} {rest : Bytes}
    (shaped : raw.header.Shaped (20 + rest.length)) (header : IPv4Header) :
    header.parse ⟨raw.bytes rest, .noError⟩
      = (if (InternetChecksum.add {}
            ((raw.bytes rest).take (4 * raw.header.hlen.toNat))).value = 0
          then .noError else .badChecksum,
        raw.header, ⟨rest.drop (4 * raw.header.hlen.toNat - 20), .noError⟩) := by
  obtain ⟨inside, version, room, total⟩ := shaped
  -- The options lie inside the packet, so skipping them cannot fail.
  have skipped : NetParser.removePrefix ⟨rest, .noError⟩ (raw.header.hlen.toNat * 4 - 20)
      = ⟨rest.drop (4 * raw.header.hlen.toNat - 20), .noError⟩ := by
    have consumed := (NetParser.consumed_start rest).removePrefix (raw.header.hlen.toNat * 4 - 20)
    rw [NetParser.Consumed, if_pos (by omega)] at consumed
    rw [consumed, Nat.zero_add, Nat.mul_comm]
  simp only [parse, readFields_bytes, RawIPv4.length_bytes, length, skipped]
  rw [if_neg (by omega), if_neg (by omega), if_neg (by simp [version]),
    if_neg (by rw [UInt8.lt_iff_toNat_lt]; exact Nat.not_lt.mpr room), if_neg (by simp [total]),
    if_neg (by simp)]
  split <;> rename_i valid <;> simp [valid]

/-- A header of any other shape is read but nothing after it is skipped. -/
theorem parse_unshaped {raw : RawIPv4} {rest : Bytes}
    (unshaped : ¬ raw.header.Shaped (20 + rest.length)) (header : IPv4Header) :
    ∃ verdict, verdict ≠ .noError
      ∧ header.parse ⟨raw.bytes rest, .noError⟩ = (verdict, raw.header, ⟨rest, .noError⟩) := by
  simp only [parse, readFields_bytes, RawIPv4.length_bytes, length]
  rw [if_neg (by omega)]
  -- Each check that fails stops the parser where it stands.
  split
  · exact ⟨_, by decide, rfl⟩
  · rename_i inside
    split
    · exact ⟨_, by decide, rfl⟩
    · rename_i version
      split
      · exact ⟨_, by decide, rfl⟩
      · rename_i room
        rw [UInt8.lt_iff_toNat_lt] at room
        rw [if_pos (fun total => unshaped
          ⟨Nat.not_lt.mp inside, not_not.mp version, Nat.not_lt.mp room, total⟩)]
        exact ⟨_, by decide, rfl⟩

end IPv4Header

end Sponge
