import Sponge.Wire.IPv4

/-! What the datagram parser accepts, and that serialized datagrams are read back. -/

namespace Sponge

open BigEndian OnesComplement

namespace IPv4Bytes

/-- The version nibble of a packet. -/
def version (data : Bytes) : Nat := (data.getD 0 0).toNat / 16

/-- The header length of a packet, in words of four bytes. -/
def headerLength (data : Bytes) : Nat := (data.getD 0 0).toNat % 16

/-- The total-length field of a packet. -/
def totalLength (data : Bytes) : Nat := ofBytes ((data.drop 2).take 2)

/-- A packet whose version and lengths are consistent. -/
structure Shaped (data : Bytes) : Prop where
  /-- The version is 4. -/
  version : version data = 4
  /-- The header has room for its fields. -/
  room : 5 ≤ headerLength data
  /-- The header lies inside the packet. -/
  inside : 4 * headerLength data ≤ data.length
  /-- The total length is that of the packet. -/
  total : totalLength data = data.length

/-- The header checksum of a packet is valid. -/
def ChecksumValid (data : Bytes) : Prop := Verifies (wordSum (data.take (4 * headerLength data)))

/-- A well-formed IPv4 packet. -/
structure WellFormed (data : Bytes) : Prop where
  /-- The packet holds the fields of a header. -/
  long : 20 ≤ data.length
  /-- The version and the lengths are consistent. -/
  shaped : Shaped data
  /-- The checksum over the header is valid. -/
  checksum : ChecksumValid data

instance (data : Bytes) : Decidable (Shaped data) :=
  decidable_of_iff
    (IPv4Bytes.version data = 4 ∧ 5 ≤ headerLength data ∧ 4 * headerLength data ≤ data.length
      ∧ totalLength data = data.length)
    ⟨fun ⟨version, room, inside, total⟩ => ⟨version, room, inside, total⟩,
      fun ⟨version, room, inside, total⟩ => ⟨version, room, inside, total⟩⟩

instance (data : Bytes) : Decidable (ChecksumValid data) :=
  inferInstanceAs (Decidable (Verifies _))

/-- The first byte of a packet holds the version and the header length. -/
theorem getD_bytes (raw : RawIPv4) (rest : Bytes) : (raw.bytes rest).getD 0 0 = raw.firstByte := by
  simp [RawIPv4.bytes, RawIPv4.front, NetUnparser.u8, toBytes]

/-- The version nibble is the version that the parser reads. -/
theorem version_bytes (raw : RawIPv4) (rest : Bytes) :
    version (raw.bytes rest) = raw.header.ver.toNat := by
  have shifted : raw.firstByte.toNat >>> 4 = raw.firstByte.toNat / 16 :=
    -- A shift by four bits is a division by sixteen.
    Nat.shiftRight_eq_div_pow raw.firstByte.toNat 4
  rw [version, getD_bytes, RawIPv4.header, UInt8.toNat_shiftRight,
    show (4 : UInt8).toNat % 8 = 4 from rfl, shifted]

/-- The header length is the one that the parser reads. -/
theorem headerLength_bytes (raw : RawIPv4) (rest : Bytes) :
    headerLength (raw.bytes rest) = raw.header.hlen.toNat := by
  have masked : raw.firstByte.toNat &&& 15 = raw.firstByte.toNat % 16 :=
    -- Masking four bits is the remainder of sixteen.
    Nat.and_two_pow_sub_one_eq_mod raw.firstByte.toNat 4
  rw [headerLength, getD_bytes, RawIPv4.header, UInt8.toNat_and,
    show (0x0f : UInt8).toNat = 15 from rfl, masked]

/-- The total length is the one that the parser reads. -/
theorem totalLength_bytes (raw : RawIPv4) (rest : Bytes) :
    totalLength (raw.bytes rest) = raw.header.len.toNat := by
  -- Two bytes stand before the field, and the field is the next two.
  have field : ((raw.bytes rest).drop 2).take 2 = NetUnparser.u16 raw.len := by
    simp [RawIPv4.bytes, RawIPv4.front, NetUnparser.u8, NetUnparser.u16, toBytes]
  rw [totalLength, field, NetUnparser.u16, ofBytes_toBytes_of_lt raw.len.toNat_lt]
  rfl

/-- A packet is shaped when its header, as the parser reads it, is. -/
theorem shaped_bytes (raw : RawIPv4) (rest : Bytes) :
    Shaped (raw.bytes rest) ↔ raw.header.Shaped (20 + rest.length) := by
  -- The three fields as numbers are those of the parsed header.
  have version := version_bytes raw rest
  have headerLength := headerLength_bytes raw rest
  have totalLength := totalLength_bytes raw rest
  have four : raw.header.ver = 4 ↔ raw.header.ver.toNat = 4 := by
    rw [← UInt8.toNat_inj]
    rfl
  constructor
  · -- From the packet to its header.
    rintro ⟨isFour, room, inside, total⟩
    rw [headerLength] at room inside
    rw [RawIPv4.length_bytes] at inside total
    exact ⟨inside, four.mpr (version ▸ isFour), room, by rw [← total, totalLength]⟩
  · -- From the header to the packet.
    rintro ⟨inside, isFour, room, total⟩
    exact ⟨version.trans (four.mp isFour), headerLength.symm ▸ room,
      by rw [headerLength, RawIPv4.length_bytes]; exact inside,
      by rw [totalLength, RawIPv4.length_bytes]; exact total.symm⟩

end IPv4Bytes

namespace IPv4Datagram

open IPv4Bytes

/-- The checksum that the parser computes over a header is zero exactly when it is valid. -/
theorem value_take_eq_zero_iff (raw : RawIPv4) (rest : Bytes) :
    (InternetChecksum.add {} ((raw.bytes rest).take (4 * raw.header.hlen.toNat))).value = 0
      ↔ ChecksumValid (raw.bytes rest) := by
  have small := raw.header.hlen.toNat_lt
  -- A header has at most 1020 bytes, far from overflowing the sum.
  have short : ((raw.bytes rest).take (4 * raw.header.hlen.toNat)).length
      ≤ 4 * raw.header.hlen.toNat := List.length_take_le _ _
  have fits : (0 : UInt32).toNat
      + 65535 * ((((raw.bytes rest).take (4 * raw.header.hlen.toNat)).length + 1) / 2)
      < 2 ^ 32 := by
    rw [UInt32.toNat_zero]
    omega
  rw [ChecksumValid, headerLength_bytes, InternetChecksum.value_add_eq_zero_iff fits,
    UInt32.toNat_zero, Nat.zero_add]

/-- A shaped packet is accepted whatever its checksum, with the payload after its header. -/
theorem parse_shaped {raw : RawIPv4} {rest : Bytes}
    (shaped : raw.header.Shaped (20 + rest.length)) (dgram : IPv4Datagram) :
    dgram.parse (raw.bytes rest)
      = (.noError, ⟨raw.header, .ofBuffer ((raw.bytes rest).drop (4 * raw.header.hlen.toNat))⟩) := by
  obtain ⟨inside, version, room, total⟩ := id shaped
  have skipped : (raw.bytes rest).drop (4 * raw.header.hlen.toNat)
      = rest.drop (4 * raw.header.hlen.toNat - 20) := RawIPv4.drop_bytes raw rest (by omega)
  -- The total length is the size of the packet, so the payload is as long as promised.
  have size : (rest.drop (4 * raw.header.hlen.toNat - 20)).length
      = raw.header.payloadLength.toNat := by
    have word := raw.header.len.toNat_lt
    rw [List.length_drop, IPv4Header.payloadLength_toNat]
    omega
  simp [parse, IPv4Header.parse_shaped shaped, skipped, size]

/-- Any other packet with a header is accepted when the rest of it has the length computed. -/
theorem parse_unshaped {raw : RawIPv4} {rest : Bytes}
    (unshaped : ¬ raw.header.Shaped (20 + rest.length)) (dgram : IPv4Datagram) :
    dgram.parse (raw.bytes rest)
      = (if rest.length = raw.header.payloadLength.toNat then .noError else .packetTooShort,
        ⟨raw.header, .ofBuffer rest⟩) := by
  -- The header's verdict does not matter, but its length field does.
  obtain ⟨verdict, -, parsed⟩ := IPv4Header.parse_unshaped unshaped dgram.header
  simp only [parse, parsed, BufferList.size_ofBuffer]
  by_cases size : rest.length = raw.header.payloadLength.toNat
  · simp [size]
  · simp [size]

/-- A string without room for a header is refused by a fresh datagram. -/
theorem parse_short {data : Bytes} (short : data.length < 20) :
    (parse {} data).1 = .packetTooShort := by
  -- The default header promises 65516 bytes of payload.
  have promised : ({} : IPv4Header).payloadLength.toNat = 65516 := by decide
  simp only [parse, IPv4Header.parse_short short, BufferList.size_ofBuffer, promised]
  rw [if_pos (by omega)]

/-- The length of the payload that the fields of a packet promise, in 16-bit arithmetic. -/
def promisedLength (data : Bytes) : Nat :=
  (totalLength data + 65536 - 4 * headerLength data) % 65536

/-- The fields of a packet promise what the parsed header does. -/
theorem promisedLength_bytes (raw : RawIPv4) (rest : Bytes) :
    promisedLength (raw.bytes rest) = raw.header.payloadLength.toNat := by
  rw [promisedLength, totalLength_bytes, headerLength_bytes, IPv4Header.payloadLength_toNat]

/-- What the parser accepts: shaped packets, and others that happen to have a certain length. -/
theorem parse_noError_iff (data : Bytes) :
    (parse {} data).1 = .noError
      ↔ 20 ≤ data.length ∧ (Shaped data ∨ data.length - 20 = promisedLength data) := by
  by_cases long : 20 ≤ data.length
  · obtain ⟨raw, rest, rfl⟩ := RawIPv4.exists_bytes long
    rw [shaped_bytes, promisedLength_bytes, RawIPv4.length_bytes, Nat.add_sub_cancel_left]
    -- Once the header has been read, only the length of the payload is compared.
    by_cases shaped : raw.header.Shaped (20 + rest.length)
    · simp [parse_shaped shaped, shaped]
    · simp [parse_unshaped shaped, shaped]
  · simp [parse_short (Nat.not_le.mp long), long]

/-- The parser accepts exactly the well-formed packets, with the payload after the header. -/
def ParsesStrictly (data : Bytes) : Prop :=
  ((parse {} data).1 = .noError ↔ WellFormed data)
    ∧ ((parse {} data).1 = .noError →
      (parse {} data).2.payload.concatenate = data.drop (4 * headerLength data))

/-- A packet with a header has a valid checksum if it is shaped, and else another length. -/
def Honest (data : Bytes) : Prop :=
  20 ≤ data.length →
    (Shaped data → ChecksumValid data)
      ∧ (¬ Shaped data → data.length - 20 ≠ promisedLength data)

/-- The parser is exact on a string precisely when the string is not one that it misjudges. -/
theorem parsesStrictly_iff_honest (data : Bytes) : ParsesStrictly data ↔ Honest data := by
  rw [ParsesStrictly, Honest, parse_noError_iff]
  by_cases long : 20 ≤ data.length
  · by_cases shaped : Shaped data
    · -- A shaped packet is accepted, so only its checksum is in question.
      have payload : (parse {} data).2.payload.concatenate
          = data.drop (4 * headerLength data) := by
        obtain ⟨raw, rest, rfl⟩ := RawIPv4.exists_bytes long
        rw [parse_shaped ((shaped_bytes raw rest).mp shaped), headerLength_bytes,
          BufferList.concatenate_ofBuffer]
      have wellFormed : WellFormed data ↔ ChecksumValid data :=
        ⟨WellFormed.checksum, fun checksum => ⟨long, shaped, checksum⟩⟩
      simp [long, shaped, payload, wellFormed]
    · -- Any other packet should be refused, and is unless its length happens to match.
      have malformed : ¬ WellFormed data := fun wellFormed => shaped wellFormed.shaped
      simp only [long, shaped, malformed, true_and, false_or, iff_false, forall_const,
        not_false_eq_true, false_imp_iff]
      exact ⟨And.left, fun other => ⟨other, fun same => absurd same other⟩⟩
  · have malformed : ¬ WellFormed data := fun wellFormed => long wellFormed.long
    simp [long, malformed]

/-- A shaped header with a zero checksum field is accepted although its checksum is invalid. -/
theorem accepts_bad_checksum :
    (parse {} (0x45 :: 0 :: 0 :: 20 :: List.replicate 16 0)).1 = .noError
      ∧ ¬ WellFormed (0x45 :: 0 :: 0 :: 20 :: List.replicate 16 0) := by
  refine ⟨by decide +kernel, fun wellFormed => ?_⟩
  exact absurd wellFormed.checksum (by decide +kernel)

/-- The room for options in a header, which is written as zeros. -/
def options (header : IPv4Header) : Bytes := List.replicate (4 * header.hlen.toNat - 20) 0

/-- A header with its checksum filled in. -/
def withCksum (header : IPv4Header) : IPv4Header :=
  { header with
    cksum := (InternetChecksum.add {}
      ((RawIPv4.ofHeader { header with cksum := 0 }).bytes (options header))).value }

/-- The header that goes out, as it stands on the wire. -/
def headerOut (header : IPv4Header) : Bytes :=
  (RawIPv4.ofHeader (withCksum header)).bytes (options header)

/-- The outgoing header has its advertised length. -/
theorem length_headerOut {header : IPv4Header} (room : 5 ≤ header.hlen.toNat) :
    (headerOut header).length = 4 * header.hlen.toNat := by
  rw [headerOut, RawIPv4.length_bytes, options, List.length_replicate]
  omega

/-- A datagram of consistent lengths serializes to its header and its payload. -/
theorem serialize_eq {dgram : IPv4Datagram} (version : dgram.header.ver = 4)
    (room : 5 ≤ dgram.header.hlen.toNat)
    (size : dgram.payload.size = dgram.header.payloadLength.toNat) :
    dgram.serialize = .ok ((BufferList.ofBuffer (headerOut dgram.header)).append dgram.payload) := by
  -- The header is written twice: with a zero checksum to sum it, and then with the sum.
  have zeroed := IPv4Header.serialize_eq
    (show ({ dgram.header with cksum := 0 } : IPv4Header).ver = 4 from version) room
  have filled := IPv4Header.serialize_eq
    (show (withCksum dgram.header).ver = 4 from version) room
  rw [serialize, if_neg (by simp [size])]
  simp only [zeroed, ok_bind]
  change ((withCksum dgram.header).serialize >>= fun headerOut =>
    pure ((BufferList.ofBuffer headerOut).append dgram.payload)) = _
  rw [filled]
  rfl

/-- A datagram that serializes has a header of version 4 with room for its fields. -/
theorem serialize_isOk_iff (dgram : IPv4Datagram) :
    (∃ out, dgram.serialize = .ok out)
      ↔ dgram.payload.size = dgram.header.payloadLength.toNat ∧ dgram.header.ver = 4
        ∧ 5 ≤ dgram.header.hlen.toNat := by
  constructor
  · -- Each of the exceptions has its condition.
    rintro ⟨out, ok⟩
    rw [serialize] at ok
    split at ok
    · -- The payload has the wrong size.
      cases ok
    · rename_i size
      by_contra refused
      -- The checksum that is filled in does not affect whether the header can be written.
      have unsound : ¬ (({ dgram.header with cksum := 0 } : IPv4Header).ver = 4
          ∧ 5 ≤ ({ dgram.header with cksum := 0 } : IPv4Header).hlen.toNat) :=
        fun sound => refused ⟨not_not.mp size, sound⟩
      obtain ⟨thrown, error⟩ := IPv4Header.serialize_error unsound
      simp [error] at ok
  · -- Nothing stands in the way.
    rintro ⟨size, version, room⟩
    exact ⟨_, serialize_eq version room size⟩

/-- The outgoing header verifies. -/
theorem verifies_headerOut {header : IPv4Header} (nibble : header.hlen.toNat ≤ 15) :
    Verifies (wordSum (headerOut header)) := by
  have even : (RawIPv4.ofHeader header).front.length % 2 = 0 := by rw [RawIPv4.length_front]
  have room : (0 : UInt32).toNat + 65535 * (((RawIPv4.ofHeader header).front.length + 2
      + (NetUnparser.u32 header.src ++ (NetUnparser.u32 header.dst ++ options header)).length
      + 1) / 2) < 2 ^ 32 := by
    simp only [RawIPv4.length_front, List.length_append, NetUnparser.length_u32, options,
      List.length_replicate, UInt32.toNat_zero]
    omega
  -- The bytes around the checksum do not depend on it.
  have complement := InternetChecksum.verifies_of_value even room
  rw [UInt32.toNat_zero, Nat.zero_add] at complement
  exact complement

/-- The bytes of a serialized datagram. -/
theorem concatenate_out (header : IPv4Header) (payload : BufferList) :
    ((BufferList.ofBuffer (headerOut header)).append payload).concatenate
      = (RawIPv4.ofHeader (withCksum header)).bytes (options header ++ payload.concatenate) := by
  simp [headerOut, RawIPv4.bytes]

/-- A datagram that can be read back: its fields fit their bits and its lengths agree. -/
structure Faithful (dgram : IPv4Datagram) : Prop where
  /-- The version is 4. -/
  version : dgram.header.ver = 4
  /-- The header has room for its fields. -/
  room : 5 ≤ dgram.header.hlen.toNat
  /-- The header length fits its four bits. -/
  nibble : dgram.header.hlen.toNat ≤ 15
  /-- The fragment offset fits its thirteen bits. -/
  fragment : dgram.header.offset.toNat < 2 ^ 13
  /-- The payload is the total length less the header. -/
  size : (dgram.payload.size : Int) = dgram.header.len.toNat - 4 * dgram.header.hlen.toNat

namespace Faithful

variable {dgram : IPv4Datagram} (faithful : dgram.Faithful)
include faithful

/-- The payload has the length that the header promises. -/
theorem payloadLength : dgram.payload.size = dgram.header.payloadLength.toNat := by
  -- The field covers the header, so the difference does not wrap.
  have word := dgram.header.len.toNat_lt
  have size := faithful.size
  rw [IPv4Header.payloadLength_toNat]
  omega

/-- A faithful datagram serializes. -/
theorem serialize : dgram.serialize
    = .ok ((BufferList.ofBuffer (headerOut dgram.header)).append dgram.payload) :=
  serialize_eq faithful.version faithful.room faithful.payloadLength

/-- The outgoing header is read back as it was written. -/
theorem header : (RawIPv4.ofHeader (withCksum dgram.header)).header = withCksum dgram.header :=
  RawIPv4.header_ofHeader faithful.version faithful.nibble faithful.fragment

/-- The outgoing header passes the checks on its shape. -/
theorem shaped : (RawIPv4.ofHeader (withCksum dgram.header)).header.Shaped
    (20 + (options dgram.header ++ dgram.payload.concatenate).length) := by
  have size := faithful.size
  have room := faithful.room
  rw [faithful.header]
  -- The options fill the header up to its announced length.
  have length : 20 + (options dgram.header ++ dgram.payload.concatenate).length
      = dgram.header.len.toNat := by
    rw [List.length_append, options, List.length_replicate, ← BufferList.size_eq]
    omega
  rw [length]
  exact ⟨by change 4 * dgram.header.hlen.toNat ≤ _; omega, faithful.version, room, rfl⟩

/-- Parsing the bytes of a faithful datagram gives it back, with its checksum filled in. -/
theorem parse (old : IPv4Datagram) :
    old.parse (((BufferList.ofBuffer (headerOut dgram.header)).append dgram.payload).concatenate)
      = (.noError, ⟨withCksum dgram.header, .ofBuffer dgram.payload.concatenate⟩) := by
  -- What lies behind the options is the payload.
  have skipped : ((RawIPv4.ofHeader (withCksum dgram.header)).bytes
      (options dgram.header ++ dgram.payload.concatenate)).drop (4 * dgram.header.hlen.toNat)
      = dgram.payload.concatenate := by
    rw [RawIPv4.drop_bytes _ _ (by have := faithful.room; omega)]
    exact List.drop_left' (by rw [options, List.length_replicate])
  rw [concatenate_out, IPv4Datagram.parse_shaped faithful.shaped, faithful.header]
  exact congrArg (fun rest => (ParseResult.noError, IPv4Datagram.mk _ (.ofBuffer rest))) skipped

/-- The checksum of the outgoing header is valid. -/
theorem checksumValid : ChecksumValid
    (((BufferList.ofBuffer (headerOut dgram.header)).append dgram.payload).concatenate) := by
  have headerLength := headerLength_bytes (RawIPv4.ofHeader (withCksum dgram.header))
    (options dgram.header ++ dgram.payload.concatenate)
  rw [faithful.header] at headerLength
  rw [ChecksumValid, concatenate_out, headerLength, ← concatenate_out,
    BufferList.concatenate_append, BufferList.concatenate_ofBuffer]
  -- The sum runs over the outgoing header alone.
  have length : (headerOut dgram.header).length = 4 * (withCksum dgram.header).hlen.toNat :=
    length_headerOut faithful.room
  rw [List.take_left' length]
  exact verifies_headerOut faithful.nibble

end Faithful

/-- Serializing a faithful datagram, parsing the bytes and serializing again loses nothing. -/
theorem serialize_parse_serialize {dgram : IPv4Datagram} (faithful : dgram.Faithful)
    (old : IPv4Datagram) :
    ∃ out parsed again, dgram.serialize = .ok out
      ∧ old.parse out.concatenate = (.noError, parsed)
      ∧ parsed.header = { dgram.header with cksum := parsed.header.cksum }
      ∧ parsed.payload.concatenate = dgram.payload.concatenate
      ∧ ChecksumValid out.concatenate
      ∧ (old.header.parse ⟨out.concatenate, .noError⟩).1 = .noError
      ∧ parsed.serialize = .ok again ∧ again.concatenate = out.concatenate := by
  have valid := faithful.checksumValid
  have size : (BufferList.ofBuffer dgram.payload.concatenate).size
      = (withCksum dgram.header).payloadLength.toNat := by
    rw [BufferList.size_ofBuffer, ← BufferList.size_eq]
    exact faithful.payloadLength
  have again : IPv4Datagram.serialize
      ⟨withCksum dgram.header, .ofBuffer dgram.payload.concatenate⟩ = _ :=
    serialize_eq faithful.version faithful.room size
  refine ⟨_, _, _, faithful.serialize, faithful.parse old, rfl, ?_, valid, ?_, again, ?_⟩
  · exact BufferList.concatenate_ofBuffer _
  · -- The header parser computes the checksum over the same bytes.
    rw [concatenate_out] at valid ⊢
    rw [IPv4Header.parse_shaped faithful.shaped]
    exact if_pos ((value_take_eq_zero_iff _ _).mpr valid)
  · -- The checksum is computed from the other fields, so it comes out the same.
    rw [BufferList.concatenate_append, BufferList.concatenate_append,
      BufferList.concatenate_ofBuffer, BufferList.concatenate_ofBuffer,
      BufferList.concatenate_ofBuffer]
    rfl

/-- A datagram with options and a payload in two buffers survives the wire. -/
theorem serialize_parse_serialize_options :
    let dgram : IPv4Datagram :=
      ⟨{ hlen := 6, len := 29, offset := 7, mf := true }, ⟨[[1, 2], [3, 4, 5]]⟩⟩
    dgram.Faithful ∧ ∃ out parsed again, dgram.serialize = .ok out
      ∧ parse {} out.concatenate = (.noError, parsed)
      ∧ parsed.header = { dgram.header with cksum := parsed.header.cksum }
      ∧ parsed.payload.concatenate = dgram.payload.concatenate
      ∧ ChecksumValid out.concatenate
      ∧ (IPv4Header.parse {} ⟨out.concatenate, .noError⟩).1 = .noError
      ∧ parsed.serialize = .ok again ∧ again.concatenate = out.concatenate := by
  -- The five conditions are evaluated, and the rest is the theorem.
  have faithful : Faithful
      ⟨{ hlen := 6, len := 29, offset := 7, mf := true }, ⟨[[1, 2], [3, 4, 5]]⟩⟩ :=
    ⟨by decide, by decide, by decide, by decide, by decide⟩
  exact ⟨faithful, serialize_parse_serialize faithful {}⟩

end IPv4Datagram

end Sponge
