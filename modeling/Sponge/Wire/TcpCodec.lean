import Sponge.Tcp.Segment
import Sponge.Wire.Checksum

/-! TCP segments on the wire: parsing and serializing. -/

namespace Sponge

namespace TCPHeader

/-- The header length without options. -/
def length : Nat := 20

/-- Reads all fields of a header. -/
def readFields (p : NetParser) : TCPHeader × NetParser :=
  let (sport, p) := p.u16
  let (dport, p) := p.u16
  let (seqno, p) := p.u32
  let (ackno, p) := p.u32
  let (doff, p) := p.u8
  let (flB, p) := p.u8
  let (win, p) := p.u16
  let (cksum, p) := p.u16
  let (uptr, p) := p.u16
  ({ sport, dport, seqno := ⟨seqno⟩, ackno := ⟨ackno⟩, doff := doff >>> 4
     urg := flB &&& 0b00100000 != 0, ack := flB &&& 0b00010000 != 0
     psh := flB &&& 0b00001000 != 0, rst := flB &&& 0b00000100 != 0
     syn := flB &&& 0b00000010 != 0, fin := flB &&& 0b00000001 != 0
     win, cksum, uptr }, p)

/-- Parses a header: the verdict, the header and the parser after it. -/
def parse (p : NetParser) : ParseResult × TCPHeader × NetParser :=
  let (header, p) := readFields p
  if header.doff < 5 then (.headerTooShort, header, p)
  else
    -- Options, or anything extra in the header, are skipped.
    let p := p.removePrefix (header.doff.toNat * 4 - length)
    if p.error ≠ .noError then (p.error, header, p) else (.noError, header, p)

/-- Serializes a header, without recomputing its checksum. -/
def serialize (header : TCPHeader) : Except Exception Bytes :=
  if header.doff < 5 then .error .tcpHeaderTooShort
  else
    let flB : UInt8 := (if header.urg then 0b00100000 else 0)
      ||| (if header.ack then 0b00010000 else 0) ||| (if header.psh then 0b00001000 else 0)
      ||| (if header.rst then 0b00000100 else 0) ||| (if header.syn then 0b00000010 else 0)
      ||| (if header.fin then 0b00000001 else 0)
    .ok (resize (NetUnparser.u16 header.sport ++ NetUnparser.u16 header.dport
      ++ NetUnparser.u32 header.seqno.rawValue ++ NetUnparser.u32 header.ackno.rawValue
      ++ NetUnparser.u8 (header.doff <<< 4) ++ NetUnparser.u8 flB ++ NetUnparser.u16 header.win
      ++ NetUnparser.u16 header.cksum ++ NetUnparser.u16 header.uptr) (4 * header.doff.toNat))

end TCPHeader

namespace TCPSegment

/-- Parses a segment into an existing one, given the pseudo-checksum of the lower layer. -/
def parse (seg : TCPSegment) (buffer : Bytes) (datagramLayerChecksum : UInt32) :
    ParseResult × TCPSegment :=
  if (InternetChecksum.add { sum := datagramLayerChecksum } buffer).value ≠ 0 then
    (.badChecksum, seg)
  else
    -- The verdict on the header is not looked at.
    let (_, header, p) := TCPHeader.parse ⟨buffer, .noError⟩
    (p.error, ⟨header, p.buffer⟩)

/-- Serializes a segment with its checksum. -/
def serialize (seg : TCPSegment) (datagramLayerChecksum : UInt32) :
    Except Exception BufferList := do
  let headerZeroChecksum ← TCPHeader.serialize { seg.header with cksum := 0 }
  let check := (InternetChecksum.add { sum := datagramLayerChecksum } headerZeroChecksum).add
    seg.payload
  let headerOut ← TCPHeader.serialize { seg.header with cksum := check.value }
  return (BufferList.ofBuffer headerOut).append (.ofBuffer seg.payload)

end TCPSegment

/-- The fields of a TCP header as they stand on the wire, where the flags share one byte. -/
structure RawTcp where
  /-- Source port. -/
  sport : UInt16
  /-- Destination port. -/
  dport : UInt16
  /-- Sequence number. -/
  seqno : UInt32
  /-- Acknowledgment number. -/
  ackno : UInt32
  /-- Data offset, in the upper half of its byte. -/
  doffByte : UInt8
  /-- Flags. -/
  flB : UInt8
  /-- Window size. -/
  win : UInt16
  /-- Checksum. -/
  cksum : UInt16
  /-- Urgent pointer. -/
  uptr : UInt16

namespace RawTcp

/-- The sixteen bytes before the checksum. -/
def front (raw : RawTcp) : Bytes :=
  NetUnparser.u16 raw.sport ++ (NetUnparser.u16 raw.dport ++ (NetUnparser.u32 raw.seqno
    ++ (NetUnparser.u32 raw.ackno ++ (NetUnparser.u8 raw.doffByte ++ (NetUnparser.u8 raw.flB
    ++ NetUnparser.u16 raw.win)))))

/-- A header on the wire, followed by other bytes. -/
def bytes (raw : RawTcp) (rest : Bytes) : Bytes :=
  raw.front ++ (NetUnparser.u16 raw.cksum ++ (NetUnparser.u16 raw.uptr ++ rest))

/-- The header that the fields stand for. -/
def header (raw : RawTcp) : TCPHeader :=
  { sport := raw.sport, dport := raw.dport, seqno := ⟨raw.seqno⟩, ackno := ⟨raw.ackno⟩
    doff := raw.doffByte >>> 4
    urg := raw.flB &&& 0b00100000 != 0, ack := raw.flB &&& 0b00010000 != 0
    psh := raw.flB &&& 0b00001000 != 0, rst := raw.flB &&& 0b00000100 != 0
    syn := raw.flB &&& 0b00000010 != 0, fin := raw.flB &&& 0b00000001 != 0
    win := raw.win, cksum := raw.cksum, uptr := raw.uptr }

/-- The fields that a header is written with. -/
def ofHeader (header : TCPHeader) : RawTcp :=
  { sport := header.sport, dport := header.dport
    seqno := header.seqno.rawValue, ackno := header.ackno.rawValue
    doffByte := header.doff <<< 4
    flB := (if header.urg then 0b00100000 else 0)
      ||| (if header.ack then 0b00010000 else 0) ||| (if header.psh then 0b00001000 else 0)
      ||| (if header.rst then 0b00000100 else 0) ||| (if header.syn then 0b00000010 else 0)
      ||| (if header.fin then 0b00000001 else 0)
    win := header.win, cksum := header.cksum, uptr := header.uptr }

/-- Sixteen bytes come before the checksum. -/
@[simp] theorem length_front (raw : RawTcp) : raw.front.length = 16 := by
  simp [front]

/-- A header on the wire takes twenty bytes. -/
@[simp] theorem length_bytes (raw : RawTcp) (rest : Bytes) :
    (raw.bytes rest).length = 20 + rest.length := by
  simp only [bytes, List.length_append, length_front, NetUnparser.length_u16]
  omega

/-- Past the header, only the bytes that follow it count. -/
theorem drop_bytes (raw : RawTcp) (rest : Bytes) {n : Nat} (past : 20 ≤ n) :
    (raw.bytes rest).drop n = rest.drop (n - 20) := by
  -- The header has twenty bytes, so all of it is dropped.
  have split : raw.bytes rest = raw.bytes [] ++ rest := by simp [bytes]
  rw [split, List.drop_append, List.drop_of_length_le (by simpa using past), length_bytes,
    List.nil_append]
  rfl

/-- Every string of at least twenty bytes starts with a header. -/
theorem exists_bytes {data : Bytes} (long : 20 ≤ data.length) :
    ∃ raw rest, data = bytes raw rest := by
  -- The integers are split off one by one, each time with enough bytes left for the next.
  obtain ⟨sport, data, rfl⟩ := NetUnparser.exists_u16 (show 2 ≤ data.length by omega)
  rw [List.length_append, NetUnparser.length_u16] at long
  obtain ⟨dport, data, rfl⟩ := NetUnparser.exists_u16 (show 2 ≤ data.length by omega)
  rw [List.length_append, NetUnparser.length_u16] at long
  obtain ⟨seqno, data, rfl⟩ := NetUnparser.exists_u32 (show 4 ≤ data.length by omega)
  rw [List.length_append, NetUnparser.length_u32] at long
  obtain ⟨ackno, data, rfl⟩ := NetUnparser.exists_u32 (show 4 ≤ data.length by omega)
  rw [List.length_append, NetUnparser.length_u32] at long
  obtain ⟨doffByte, data, rfl⟩ := NetUnparser.exists_u8 (show 1 ≤ data.length by omega)
  rw [List.length_append, NetUnparser.length_u8] at long
  obtain ⟨flB, data, rfl⟩ := NetUnparser.exists_u8 (show 1 ≤ data.length by omega)
  rw [List.length_append, NetUnparser.length_u8] at long
  obtain ⟨win, data, rfl⟩ := NetUnparser.exists_u16 (show 2 ≤ data.length by omega)
  rw [List.length_append, NetUnparser.length_u16] at long
  obtain ⟨cksum, data, rfl⟩ := NetUnparser.exists_u16 (show 2 ≤ data.length by omega)
  rw [List.length_append, NetUnparser.length_u16] at long
  obtain ⟨uptr, rest, rfl⟩ := NetUnparser.exists_u16 (show 2 ≤ data.length by omega)
  exact ⟨⟨sport, dport, seqno, ackno, doffByte, flB, win, cksum, uptr⟩, rest, by
    simp only [bytes, front, List.append_assoc]⟩

/-- A data offset survives the upper half of a byte. -/
theorem doff_half {doff : UInt8} (nibble : doff.toNat ≤ 15) : (doff <<< 4) >>> 4 = doff := by
  -- Sixteen values, each checked by computing.
  have checked : ∀ n < 16, (UInt8.ofNat n <<< 4) >>> 4 = UInt8.ofNat n := by decide
  have value := checked doff.toNat (by omega)
  rwa [UInt8.ofNat_toNat] at value

/-- The six flags share one byte without loss. -/
theorem flags_parts (urg ack psh rst syn fin : Bool) :
    let flB : UInt8 := (if urg then 0b00100000 else 0) ||| (if ack then 0b00010000 else 0)
      ||| (if psh then 0b00001000 else 0) ||| (if rst then 0b00000100 else 0)
      ||| (if syn then 0b00000010 else 0) ||| (if fin then 0b00000001 else 0)
    (flB &&& 0b00100000 != 0) = urg ∧ (flB &&& 0b00010000 != 0) = ack
      ∧ (flB &&& 0b00001000 != 0) = psh ∧ (flB &&& 0b00000100 != 0) = rst
      ∧ (flB &&& 0b00000010 != 0) = syn ∧ (flB &&& 0b00000001 != 0) = fin := by
  revert urg ack psh rst syn fin
  decide

/-- The header that is written is the one that the fields stand for. -/
theorem header_ofHeader {header : TCPHeader} (nibble : header.doff.toNat ≤ 15) :
    (ofHeader header).header = header := by
  obtain ⟨urg, ack, psh, rst, syn, fin⟩ := flags_parts header.urg header.ack header.psh
    header.rst header.syn header.fin
  simp only [RawTcp.header, ofHeader, doff_half nibble, urg, ack, psh, rst, syn, fin]

end RawTcp

namespace TCPHeader

/-- A header with room for its fields serializes to them, with the options zeroed. -/
theorem serialize_eq {header : TCPHeader} (room : 5 ≤ header.doff.toNat) :
    header.serialize = .ok ((RawTcp.ofHeader header).bytes
      (List.replicate (4 * header.doff.toNat - 20) 0)) := by
  -- The check does not throw, and the options are filled up with zeros.
  rw [serialize, if_neg (by rw [UInt8.lt_iff_toNat_lt]; exact Nat.not_lt.mpr room)]
  dsimp only
  rw [resize_of_le (by simp; omega)]
  simp [RawTcp.bytes, RawTcp.front, RawTcp.ofHeader]

/-- The fields on the wire are read into the header they stand for. -/
@[simp] theorem readFields_bytes (raw : RawTcp) (rest : Bytes) :
    readFields ⟨raw.bytes rest, .noError⟩ = (raw.header, ⟨rest, .noError⟩) := by
  simp [readFields, RawTcp.bytes, RawTcp.front, RawTcp.header]

/-- Reading the fields uses up twenty bytes. -/
theorem consumed_readFields {input : Bytes} {n : Nat} {p : NetParser}
    (consumed : NetParser.Consumed input n p) :
    NetParser.Consumed input (n + 20) (readFields p).2 := by
  have fields := consumed.u16.u16.u32.u32.u8.u8.u16.u16.u16
  simp only [Nat.add_assoc, Nat.reduceAdd] at fields
  exact fields

/-- With the data offset below the minimum, the parser stops after the fields. -/
theorem parse_low {raw : RawTcp} (low : raw.header.doff.toNat < 5) (rest : Bytes) :
    parse ⟨raw.bytes rest, .noError⟩ = (.headerTooShort, raw.header, ⟨rest, .noError⟩) := by
  simp only [parse, readFields_bytes]
  exact if_pos (UInt8.lt_iff_toNat_lt.mpr low)

/-- With a data offset inside the segment, the options are skipped. -/
theorem parse_inside {raw : RawTcp} {rest : Bytes} (room : 5 ≤ raw.header.doff.toNat)
    (inside : 4 * raw.header.doff.toNat ≤ 20 + rest.length) :
    parse ⟨raw.bytes rest, .noError⟩
      = (.noError, raw.header, ⟨rest.drop (4 * raw.header.doff.toNat - 20), .noError⟩) := by
  -- The options lie inside the segment, so skipping them sets no error.
  have skipped : NetParser.removePrefix ⟨rest, .noError⟩ (raw.header.doff.toNat * 4 - 20)
      = ⟨rest.drop (4 * raw.header.doff.toNat - 20), .noError⟩ := by
    have consumed := (NetParser.consumed_start rest).removePrefix (raw.header.doff.toNat * 4 - 20)
    rw [NetParser.Consumed, if_pos (by omega)] at consumed
    rw [consumed, Nat.zero_add, Nat.mul_comm]
  simp only [parse, readFields_bytes, length, skipped]
  rw [if_neg (by rw [UInt8.lt_iff_toNat_lt]; exact Nat.not_lt.mpr room), if_neg (by simp)]

/-- A segment without room for its header leaves an error in the parser. -/
theorem parse_error {data : Bytes}
    (short : data.length < 20 ∨ 5 ≤ (readFields ⟨data, .noError⟩).1.doff.toNat
      ∧ data.length < 4 * (readFields ⟨data, .noError⟩).1.doff.toNat) :
    (parse ⟨data, .noError⟩).2.2.error ≠ .noError := by
  have consumed := consumed_readFields (NetParser.consumed_start data)
  rw [Nat.zero_add] at consumed
  simp only [parse]
  split
  · -- The parser stops after the fields, which do not fit.
    rename_i low
    rw [UInt8.lt_iff_toNat_lt] at low
    change _ < 5 at low
    rw [NetParser.Consumed, if_neg (by omega)] at consumed
    exact consumed
  · -- The fields and the options together do not fit.
    rename_i room
    rw [UInt8.lt_iff_toNat_lt] at room
    change ¬ _ < 5 at room
    have options := consumed.removePrefix
      ((readFields ⟨data, .noError⟩).1.doff.toNat * 4 - length)
    rw [NetParser.Consumed, if_neg (by rw [length]; omega)] at options
    rw [if_pos options]
    exact options

end TCPHeader

end Sponge
