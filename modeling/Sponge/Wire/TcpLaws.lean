import Sponge.Wire.ChecksumLaws
import Sponge.Wire.TcpCodec

/-! What the segment parser accepts, and that serialized segments are read back. -/

namespace Sponge

open BigEndian OnesComplement

namespace TcpBytes

/-- The data offset of a segment, in words of four bytes. -/
def dataOffset (data : Bytes) : Nat := (data.getD 12 0).toNat / 16

/-- The checksum of a segment is valid, counted from the sum of its pseudo-header. -/
def ChecksumValid (initial : UInt32) (data : Bytes) : Prop :=
  Verifies (initial.toNat + wordSum data)

instance (initial : UInt32) (data : Bytes) : Decidable (ChecksumValid initial data) :=
  inferInstanceAs (Decidable (Verifies _))

/-- A well-formed TCP segment. -/
structure WellFormed (initial : UInt32) (data : Bytes) : Prop where
  /-- The checksum is valid. -/
  checksum : ChecksumValid initial data
  /-- The segment holds the fields of a header. -/
  long : 20 ≤ data.length
  /-- The header has room for its fields. -/
  room : 5 ≤ dataOffset data
  /-- The header lies inside the segment. -/
  inside : 4 * dataOffset data ≤ data.length

/-- The data offset is the one that the parser reads. -/
theorem dataOffset_bytes (raw : RawTcp) (rest : Bytes) :
    dataOffset (raw.bytes rest) = raw.header.doff.toNat := by
  have byte : (raw.bytes rest).getD 12 0 = raw.doffByte := by
    -- The offset is the upper half of the thirteenth byte.
    simp [RawTcp.bytes, RawTcp.front, NetUnparser.u8, NetUnparser.u16, NetUnparser.u32, toBytes]
  have shifted : raw.doffByte.toNat >>> 4 = raw.doffByte.toNat / 16 :=
    Nat.shiftRight_eq_div_pow raw.doffByte.toNat 4
  rw [dataOffset, byte, RawTcp.header, UInt8.toNat_shiftRight,
    show (4 : UInt8).toNat % 8 = 4 from rfl, shifted]

end TcpBytes

namespace TCPSegment

open TcpBytes

section Accepts

variable {initial : UInt32} {data : Bytes} (pseudo : initial.toNat < 2 ^ 20)
  (packet : data.length ≤ 65535)
include pseudo packet

/-- The checksum that the parser computes is zero exactly when it is valid. -/
theorem value_eq_zero_iff :
    (InternetChecksum.add { sum := initial } data).value = 0 ↔ ChecksumValid initial data :=
  InternetChecksum.value_add_eq_zero_iff (by omega)

/-- A segment with an invalid checksum is refused. -/
theorem parse_invalid (invalid : ¬ ChecksumValid initial data) (seg : TCPSegment) :
    seg.parse data initial = (.badChecksum, seg) :=
  if_pos fun zero => invalid ((value_eq_zero_iff pseudo packet).mp zero)

/-- With a valid checksum, the result is whatever the parser is left with. -/
theorem parse_valid (valid : ChecksumValid initial data) (seg : TCPSegment) :
    seg.parse data initial
      = ((TCPHeader.parse ⟨data, .noError⟩).2.2.error,
        ⟨(TCPHeader.parse ⟨data, .noError⟩).2.1, (TCPHeader.parse ⟨data, .noError⟩).2.2.buffer⟩) :=
  if_neg (not_not.mpr ((value_eq_zero_iff pseudo packet).mpr valid))

/-- A segment whose data offset lies inside it is read with the payload after its header. -/
theorem parse_wellFormed (wellFormed : WellFormed initial data) (seg : TCPSegment) :
    (seg.parse data initial).1 = .noError
      ∧ (seg.parse data initial).2.payload = data.drop (4 * dataOffset data) := by
  obtain ⟨valid, long, room, inside⟩ := wellFormed
  rw [parse_valid pseudo packet valid]
  -- With 20 bytes, the fixed fields are read off the front.
  obtain ⟨raw, rest, rfl⟩ := RawTcp.exists_bytes long
  rw [dataOffset_bytes] at room inside ⊢
  rw [RawTcp.length_bytes] at inside
  rw [TCPHeader.parse_inside room inside, RawTcp.drop_bytes raw rest (by omega)]
  exact ⟨rfl, rfl⟩

/-- A segment whose data offset is below the minimum is read as if it had no options. -/
theorem parse_low (valid : ChecksumValid initial data) (long : 20 ≤ data.length)
    (low : dataOffset data < 5) (seg : TCPSegment) :
    (seg.parse data initial).1 = .noError := by
  rw [parse_valid pseudo packet valid]
  -- The header ends after twenty bytes, and its check passes.
  obtain ⟨raw, rest, rfl⟩ := RawTcp.exists_bytes long
  rw [dataOffset_bytes] at low
  rw [TCPHeader.parse_low low]

/-- A segment too short for its header is refused. -/
theorem parse_truncated (truncated : data.length < 20 ∨ 5 ≤ dataOffset data
      ∧ data.length < 4 * dataOffset data) (seg : TCPSegment) :
    (seg.parse data initial).1 ≠ .noError := by
  by_cases valid : ChecksumValid initial data
  · rw [parse_valid pseudo packet valid]
    apply TCPHeader.parse_error
    -- Too short for the fixed fields, or for the options.
    by_cases long : 20 ≤ data.length
    · obtain ⟨raw, rest, rfl⟩ := RawTcp.exists_bytes long
      rw [TCPHeader.readFields_bytes]
      rwa [dataOffset_bytes] at truncated
    · exact Or.inl (Nat.not_le.mp long)
  · simp [parse_invalid pseudo packet valid]

/-- The parser accepts exactly the well-formed segments, with the payload after the header. -/
theorem parse_strict_iff (seg : TCPSegment) :
    (((seg.parse data initial).1 = .noError ↔ WellFormed initial data)
        ∧ ((seg.parse data initial).1 = .noError →
          (seg.parse data initial).2.payload = data.drop (4 * dataOffset data)))
      ↔ ¬ (ChecksumValid initial data ∧ 20 ≤ data.length ∧ dataOffset data < 5) := by
  constructor
  · rintro ⟨exact, -⟩ ⟨valid, long, low⟩
    -- The offset is too low, but the verdict that says so is dropped.
    have wellFormed := exact.mp (parse_low pseudo packet valid long low seg)
    exact absurd wellFormed.room (Nat.not_le.mpr low)
  · intro guarded
    by_cases wellFormed : WellFormed initial data
    · obtain ⟨accepted, payload⟩ := parse_wellFormed pseudo packet wellFormed seg
      exact ⟨iff_of_true accepted wellFormed, fun _ => payload⟩
    · -- A segment that is not well formed has a bad checksum or is too short for its header.
      have refused : (seg.parse data initial).1 ≠ .noError := by
        by_cases valid : ChecksumValid initial data
        · apply parse_truncated pseudo packet
          by_contra whole
          rw [not_or, not_and, Nat.not_lt, Nat.not_lt] at whole
          obtain ⟨long, inside⟩ := whole
          have room : 5 ≤ dataOffset data := Nat.not_lt.mp fun low => guarded ⟨valid, long, low⟩
          exact wellFormed ⟨valid, long, room, inside room⟩
        · simp [parse_invalid pseudo packet valid]
      exact ⟨iff_of_false refused wellFormed, fun accepted => absurd accepted refused⟩

end Accepts

/-- A segment of zeros except for a checksum, which makes its words verify. -/
def lowOffset : Bytes := List.replicate 16 0 ++ [0xff, 0xff, 0, 0]

/-- The bound on lengths and sums admits a segment with a data offset of zero. -/
theorem parse_strict_iff_lowOffset :
    (0 : UInt32).toNat < 2 ^ 20 ∧ lowOffset.length ≤ 65535
      ∧ ((((({} : TCPSegment).parse lowOffset 0).1 = .noError ↔ WellFormed 0 lowOffset)
        ∧ ((({} : TCPSegment).parse lowOffset 0).1 = .noError →
          (({} : TCPSegment).parse lowOffset 0).2.payload
            = lowOffset.drop (4 * dataOffset lowOffset)))
      ↔ ¬ (ChecksumValid 0 lowOffset ∧ 20 ≤ lowOffset.length ∧ dataOffset lowOffset < 5)) :=
  ⟨by decide, by decide, parse_strict_iff (by decide) (by decide) {}⟩

/-- A segment whose data offset is zero is accepted. -/
theorem accepts_low_offset :
    (({} : TCPSegment).parse lowOffset 0).1 = .noError ∧ ¬ WellFormed 0 lowOffset := by
  refine ⟨by decide +kernel, fun wellFormed => ?_⟩
  exact absurd wellFormed.room (by decide +kernel)

/-- The room for options in a header, which is written as zeros. -/
def options (header : TCPHeader) : Bytes := List.replicate (4 * header.doff.toNat - 20) 0

/-- The header of a segment with the checksum of the segment filled in. -/
def withCksum (seg : TCPSegment) (initial : UInt32) : TCPHeader :=
  { seg.header with
    cksum := ((InternetChecksum.add { sum := initial }
      ((RawTcp.ofHeader { seg.header with cksum := 0 }).bytes (options seg.header))).add
        seg.payload).value }

/-- The header that goes out, as it stands on the wire. -/
def headerOut (seg : TCPSegment) (initial : UInt32) : Bytes :=
  (RawTcp.ofHeader (seg.withCksum initial)).bytes (options seg.header)

/-- A segment with room for its header serializes to its header and its payload. -/
theorem serialize_eq {seg : TCPSegment} (room : 5 ≤ seg.header.doff.toNat) (initial : UInt32) :
    seg.serialize initial
      = .ok ((BufferList.ofBuffer (seg.headerOut initial)).append (.ofBuffer seg.payload)) := by
  -- The header is written twice: with a zero checksum to sum it, and then with the sum.
  have zeroed := TCPHeader.serialize_eq
    (show 5 ≤ ({ seg.header with cksum := 0 } : TCPHeader).doff.toNat from room)
  have filled := TCPHeader.serialize_eq
    (show 5 ≤ (seg.withCksum initial).doff.toNat from room)
  simp only [serialize, zeroed, ok_bind]
  change ((seg.withCksum initial).serialize >>= fun headerOut =>
    pure ((BufferList.ofBuffer headerOut).append (.ofBuffer seg.payload))) = _
  rw [filled]
  rfl

/-- The bytes of a serialized segment. -/
theorem concatenate_out (seg : TCPSegment) (initial : UInt32) :
    ((BufferList.ofBuffer (seg.headerOut initial)).append (.ofBuffer seg.payload)).concatenate
      = (RawTcp.ofHeader (seg.withCksum initial)).bytes (options seg.header ++ seg.payload) := by
  simp [headerOut, RawTcp.bytes]

/-- The size of a serialized segment. -/
theorem size_out {seg : TCPSegment} (room : 5 ≤ seg.header.doff.toNat) (initial : UInt32) :
    ((BufferList.ofBuffer (seg.headerOut initial)).append (.ofBuffer seg.payload)).size
      = 4 * seg.header.doff.toNat + seg.payload.length := by
  rw [BufferList.size_eq, concatenate_out, RawTcp.length_bytes, List.length_append, options,
    List.length_replicate]
  omega

section RoundTrip

variable {seg : TCPSegment} {initial : UInt32} (room : 5 ≤ seg.header.doff.toNat)
  (nibble : seg.header.doff.toNat ≤ 15) (pseudo : initial.toNat < 2 ^ 20)
  (packet : 4 * seg.header.doff.toNat + seg.payload.length ≤ 65535)
include room nibble pseudo packet

/-- The outgoing segment's checksum is valid. -/
theorem checksumValid_out : ChecksumValid initial
    ((RawTcp.ofHeader (seg.withCksum initial)).bytes (options seg.header ++ seg.payload)) := by
  have even : (RawTcp.ofHeader seg.header).front.length % 2 = 0 := by rw [RawTcp.length_front]
  -- The sum stays below 32 bits.
  have fits : initial.toNat + 65535 * (((RawTcp.ofHeader seg.header).front.length + 2
      + (NetUnparser.u16 seg.header.uptr ++ (options seg.header ++ seg.payload)).length
      + 1) / 2) < 2 ^ 32 := by
    simp only [RawTcp.length_front, List.length_append, NetUnparser.length_u16, options,
      List.length_replicate]
    omega
  -- The bytes around the checksum do not depend on it.
  have complement := InternetChecksum.verifies_of_value even fits
  rw [ChecksumValid]
  -- The header and the payload are summed up one after the other.
  have together : (InternetChecksum.add ⟨initial, false⟩ ((RawTcp.ofHeader seg.header).front
      ++ (NetUnparser.u16 0 ++ (NetUnparser.u16 seg.header.uptr
        ++ (options seg.header ++ seg.payload))))).value = (seg.withCksum initial).cksum := by
    rw [withCksum]
    simp only [InternetChecksum.add_add, RawTcp.bytes, List.append_assoc]
    rfl
  rw [together] at complement
  exact complement

/-- Parsing the bytes of a segment gives it back, with its checksum filled in. -/
theorem parse_out (old : TCPSegment) :
    old.parse (((BufferList.ofBuffer (seg.headerOut initial)).append
        (.ofBuffer seg.payload)).concatenate) initial
      = (.noError, ⟨seg.withCksum initial, seg.payload⟩) := by
  have header : (RawTcp.ofHeader (seg.withCksum initial)).header = seg.withCksum initial :=
    RawTcp.header_ofHeader nibble
  -- The options are padding, and the header ends where its data offset says.
  have length : (options seg.header).length = 4 * seg.header.doff.toNat - 20 := by
    rw [options, List.length_replicate]
  have whole : ((RawTcp.ofHeader (seg.withCksum initial)).bytes
      (options seg.header ++ seg.payload)).length ≤ 65535 := by
    rw [RawTcp.length_bytes, List.length_append, length]
    omega
  have doff : (RawTcp.ofHeader (seg.withCksum initial)).header.doff = seg.header.doff := by
    -- The checksum does not touch the data offset.
    rw [header]
    rfl
  have inside : 4 * (RawTcp.ofHeader (seg.withCksum initial)).header.doff.toNat
      ≤ 20 + (options seg.header ++ seg.payload).length := by
    rw [doff, List.length_append, length]
    omega
  rw [concatenate_out, parse_valid pseudo whole (checksumValid_out room nibble pseudo packet),
    TCPHeader.parse_inside (by rw [doff]; exact room) inside, doff, header,
    List.drop_left' length]

/-- Serializing a segment and parsing the bytes with the same sum loses nothing. -/
theorem serialize_parse (old : TCPSegment) :
    ∃ out parsed, seg.serialize initial = .ok out
      ∧ old.parse out.concatenate initial = (.noError, parsed)
      ∧ parsed.header = { seg.header with cksum := parsed.header.cksum }
      ∧ parsed.payload = seg.payload :=
  ⟨_, _, serialize_eq room initial, parse_out room nibble pseudo packet old, rfl, rfl⟩

end RoundTrip

/-- A segment with options, flags and an odd payload survives the wire. -/
theorem serialize_parse_odd :
    let seg : TCPSegment :=
      ⟨{ sport := 80, seqno := ⟨7⟩, doff := 6, ack := true, fin := true, uptr := 3 }, [1, 2, 3]⟩
    5 ≤ seg.header.doff.toNat ∧ seg.header.doff.toNat ≤ 15
      ∧ ∃ out parsed, seg.serialize 1000 = .ok out
        ∧ ({} : TCPSegment).parse out.concatenate 1000 = (.noError, parsed)
        ∧ parsed.header = { seg.header with cksum := parsed.header.cksum }
        ∧ parsed.payload = seg.payload :=
  ⟨by decide, by decide,
    serialize_parse (by decide) (by decide) (by decide) (by decide) {}⟩

/-- The parser looks at the checksum before anything else. -/
theorem parse_badChecksum {seg : TCPSegment} {data : Bytes} {initial : UInt32}
    (invalid : (InternetChecksum.add { sum := initial } data).value ≠ 0) :
    seg.parse data initial = (.badChecksum, seg) := by
  rw [parse, if_pos invalid]

/-- A segment that was not refused for its checksum is refused once any byte is changed. -/
theorem parse_changed {initial : UInt32} {data : Bytes} {seg : TCPSegment}
    (pseudo : initial.toNat < 2 ^ 20) (packet : data.length ≤ 65535)
    (accepted : (seg.parse data initial).1 ≠ .badChecksum) {position : Nat}
    (inside : position < data.length) {changed : UInt8} (differs : changed ≠ data[position])
    (other : TCPSegment) :
    (other.parse (data.set position changed) initial).1 = .badChecksum := by
  -- Since it was not refused, the checksum of the original is right.
  have valid : (InternetChecksum.add { sum := initial } data).value = 0 := by
    by_contra invalid
    exact accepted (by rw [parse_badChecksum invalid])
  -- The byte stands between the bytes before it and those after it.
  have split : data = data.take position ++ data[position] :: data.drop (position + 1) := by
    rw [List.getElem_cons_drop, List.take_append_drop]
  have reset : data.set position changed =
      data.take position ++ changed :: data.drop (position + 1) :=
    List.set_eq_take_append_cons_drop.trans (if_pos inside)
  rw [split] at valid
  rw [reset, parse_badChecksum]
  exact InternetChecksum.value_changed pseudo (by rwa [← split]) valid differs

/-- The bytes of an empty segment with the data offset five and its checksum. -/
def sampleBytes : Bytes := [0, 1, 0, 2, 0, 0, 0, 3, 0, 0, 0, 0, 0x50, 0, 0, 0, 0xaf, 0xf9, 0, 0]

/-- A change of the checksum itself is noticed as well. -/
theorem parse_changed_checksum :
    (TCPSegment.parse {} sampleBytes 0).1 ≠ .badChecksum ∧
      (TCPSegment.parse {} (sampleBytes.set 17 0xf8) 0).1 = .badChecksum := by
  have accepted : (TCPSegment.parse {} sampleBytes 0).1 ≠ .badChecksum := by decide +kernel
  exact ⟨accepted, parse_changed (by decide) (by decide) accepted
    (show 17 < sampleBytes.length by decide) (by decide) {}⟩

end TCPSegment

end Sponge
