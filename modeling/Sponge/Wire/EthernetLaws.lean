import Sponge.Wire.Ethernet

/-! Which strings are Ethernet frames and ARP messages, and that both are written and read back. -/

namespace Sponge

namespace NetUnparser

/-- Writing bytes one by one writes them as they are. -/
theorem flatMap_u8 (bytes : Bytes) : bytes.flatMap u8 = bytes := by
  -- By induction over the bytes.
  induction bytes with
  | nil => rfl
  | cons byte bytes ih =>
    have single : u8 byte = [byte] := by simp [u8, BigEndian.toBytes]
    rw [List.flatMap_cons, ih, single, List.singleton_append]

/-- Different 16-bit integers are written differently. -/
theorem u16_inj {a b : UInt16} : u16 a = u16 b ↔ a = b := by
  refine ⟨fun same => ?_, congrArg u16⟩
  -- Both are read back from what is written.
  have read := NetParser.u16_unparse a []
  rw [same, NetParser.u16_unparse] at read
  exact (Prod.mk.inj read).1.symm

/-- Different 8-bit integers are written differently. -/
theorem u8_inj {a b : UInt8} : u8 a = u8 b ↔ a = b := by
  refine ⟨fun same => ?_, congrArg u8⟩
  -- Reading back what was written tells the integers apart.
  have read := NetParser.u8_unparse a []
  rw [same, NetParser.u8_unparse] at read
  exact (Prod.mk.inj read).1.symm

end NetUnparser

namespace NetParser

/-- Bytes are read one by one as they are. -/
theorem u8s_append (bytes rest : Bytes) :
    u8s bytes.length ⟨bytes ++ rest, .noError⟩ = (bytes, ⟨rest, .noError⟩) := by
  induction bytes with
  | nil => rfl
  | cons byte bytes ih =>
    -- One byte is a big-endian number of one digit.
    have single : byte :: bytes ++ rest = NetUnparser.u8 byte ++ (bytes ++ rest) := by
      simp [NetUnparser.u8, BigEndian.toBytes]
    rw [single, List.length_cons, u8s, u8_unparse]
    simp only [ih]

/-- An address is read from the front. -/
@[simp] theorem ethernetAddress_append (address : EthernetAddress) (rest : Bytes) :
    ethernetAddress ⟨address.bytes ++ rest, .noError⟩ = (address, ⟨rest, .noError⟩) := by
  have read := u8s_append address.bytes rest
  rw [address.size] at read
  simp only [ethernetAddress, read]

end NetParser

/-- Six bytes are an address. -/
theorem EthernetAddress.exists_bytes {data : Bytes} (long : 6 ≤ data.length) :
    ∃ (address : EthernetAddress) (rest : Bytes), data = address.bytes ++ rest :=
  ⟨⟨data.take 6, List.length_take_of_le long⟩, data.drop 6, (List.take_append_drop 6 data).symm⟩

namespace EthernetHeader

/-- The fields of a header in the order in which they are written. -/
theorem serialize_eq (header : EthernetHeader) :
    header.serialize =
      header.dst.bytes ++ (header.src.bytes ++ NetUnparser.u16 header.type) := by
  rw [serialize, NetUnparser.flatMap_u8, NetUnparser.flatMap_u8, List.append_assoc]

/-- A header takes fourteen bytes. -/
@[simp] theorem length_serialize (header : EthernetHeader) : header.serialize.length = 14 := by
  rw [serialize_eq, List.length_append, List.length_append, header.dst.size, header.src.size,
    NetUnparser.length_u16]

/-- A written header is read back, whatever it is read into. -/
theorem parse_serialize (header old : EthernetHeader) (rest : Bytes) :
    old.parse ⟨header.serialize ++ rest, .noError⟩ = (.noError, header, ⟨rest, .noError⟩) := by
  have enough : ¬ (header.serialize ++ rest).length < length := by
    -- The header has its length, so the check for it passes.
    rw [List.length_append, length_serialize, length]
    omega
  rw [parse, if_neg enough, serialize_eq, List.append_assoc, List.append_assoc]
  simp

/-- Every string that is long enough starts with a header. -/
theorem exists_serialize {data : Bytes} (long : 14 ≤ data.length) :
    ∃ (header : EthernetHeader) (rest : Bytes), data = header.serialize ++ rest := by
  -- The fields are split off one by one, each time with enough bytes left for the next.
  obtain ⟨dst, data, rfl⟩ := EthernetAddress.exists_bytes (show 6 ≤ data.length by omega)
  rw [List.length_append, dst.size] at long
  obtain ⟨src, data, rfl⟩ := EthernetAddress.exists_bytes (show 6 ≤ data.length by omega)
  rw [List.length_append, src.size] at long
  obtain ⟨type, rest, rfl⟩ := NetUnparser.exists_u16 (show 2 ≤ data.length by omega)
  exact ⟨⟨dst, src, type⟩, rest, by rw [serialize_eq, List.append_assoc, List.append_assoc]⟩

end EthernetHeader

namespace EthernetFrame

/-- A frame is made of the corresponding parts of a string. -/
structure SlicedFrom (data : Bytes) (frame : EthernetFrame) : Prop where
  /-- The destination is the first six bytes. -/
  dst : frame.header.dst.bytes = data.take 6
  /-- The source is the next six bytes. -/
  src : frame.header.src.bytes = (data.drop 6).take 6
  /-- The type is the number in the next two bytes. -/
  type : frame.header.type.toNat = BigEndian.ofBytes ((data.drop 12).take 2)
  /-- The payload is the rest. -/
  payload : frame.payload.concatenate = data.drop 14

/-- The parser accepts exactly the strings with room for a header, into a frame with the parts of
the string that serializes to the string again. -/
def ReadsExactly (old : EthernetFrame) (data : Bytes) : Prop :=
  ((old.parse data).1 = .noError ↔ 14 ≤ data.length) ∧
  ((old.parse data).1 = .noError →
    (old.parse data).2.SlicedFrom data ∧ (old.parse data).2.serialize.concatenate = data)

/-- A header followed by a payload is read as a frame of the two. -/
theorem parse_append (header : EthernetHeader) (payload : Bytes) (old : EthernetFrame) :
    old.parse (header.serialize ++ payload) = (.noError, ⟨header, .ofBuffer payload⟩) := by
  simp only [parse, EthernetHeader.parse_serialize]

/-- A string without room for a header is accepted, as the payload of the frame. -/
theorem parse_short {data : Bytes} (short : data.length < 14) (old : EthernetFrame) :
    old.parse data = (.noError, ⟨old.header, .ofBuffer data⟩) := by
  -- The header parser stops at once, and leaves no error in the parser.
  have stopped : old.header.parse ⟨data, .noError⟩ =
      (.packetTooShort, old.header, ⟨data, .noError⟩) := if_pos short
  simp only [parse, stopped]

/-- A frame of a header and a payload is made of the parts of the string of the two. -/
theorem slicedFrom_append (header : EthernetHeader) (payload : Bytes) :
    SlicedFrom (header.serialize ++ payload) ⟨header, .ofBuffer payload⟩ := by
  have fields : header.serialize ++ payload =
      header.dst.bytes ++ (header.src.bytes ++ (NetUnparser.u16 header.type ++ payload)) := by
    rw [EthernetHeader.serialize_eq, List.append_assoc, List.append_assoc]
  -- The lengths of the fields say where each of them starts.
  have dst := header.dst.size
  have src := header.src.size
  have type := NetUnparser.length_u16 header.type
  have past : (header.serialize ++ payload).drop 6 =
      header.src.bytes ++ (NetUnparser.u16 header.type ++ payload) := by
    rw [fields, List.drop_left' dst]
  refine ⟨?_, ?_, ?_, ?_⟩
  · -- The destination.
    rw [fields, List.take_left' dst]
  · -- The source.
    rw [past, List.take_left' src]
  · -- The two bytes of the type spell the number that was written.
    rw [show 12 = 6 + 6 from rfl, ← List.drop_drop, past, List.drop_left' src,
      List.take_left' type, NetUnparser.u16,
      BigEndian.ofBytes_toBytes_of_lt header.type.toNat_lt]
  · -- The payload.
    rw [List.drop_left' header.length_serialize, BufferList.concatenate_ofBuffer]

/-- The parser reads exactly the strings with room for a header as it should, and every frame is
read back from what it serializes to. -/
theorem readsExactly_iff (old : EthernetFrame) :
    (∀ data, old.ReadsExactly data ↔ 14 ≤ data.length) ∧
    ∀ frame : EthernetFrame, (old.parse frame.serialize.concatenate).1 = .noError ∧
      (old.parse frame.serialize.concatenate).2.header = frame.header ∧
      (old.parse frame.serialize.concatenate).2.payload.concatenate =
        frame.payload.concatenate := by
  refine ⟨fun data => ⟨fun reads => ?_, fun long => ?_⟩, fun frame => ?_⟩
  · -- The parser reports no error on a short string either, so only long ones are read right.
    by_contra short
    have accepted : (old.parse data).1 = .noError := by
      rw [parse_short (Nat.lt_of_not_le short)]
    exact short (reads.1.mp accepted)
  · obtain ⟨header, payload, rfl⟩ := EthernetHeader.exists_serialize long
    rw [ReadsExactly, parse_append]
    refine ⟨iff_of_true rfl long, fun _ => ⟨slicedFrom_append header payload, ?_⟩⟩
    rw [serialize, BufferList.concatenate_append, BufferList.concatenate_ofBuffer,
      BufferList.concatenate_ofBuffer]
  · rw [serialize, BufferList.concatenate_append, BufferList.concatenate_ofBuffer, parse_append]
    exact ⟨rfl, rfl, BufferList.concatenate_ofBuffer _⟩

/-- The empty string is accepted as a frame. -/
theorem empty_accepted : (EthernetFrame.parse {} []).1 = .noError ∧ ¬ ReadsExactly {} [] := by
  have accepted : (EthernetFrame.parse {} []).1 = .noError := by decide
  exact ⟨accepted, fun reads => absurd (reads.1.mp accepted) (by decide)⟩

end EthernetFrame

namespace ARPMessage

/-- The bytes of a message, supported or not. -/
def bytes (message : ARPMessage) : Bytes :=
  (NetUnparser.u16 message.hardwareType ++ (NetUnparser.u16 message.protocolType
      ++ (NetUnparser.u8 message.hardwareAddressSize ++ (NetUnparser.u8 message.protocolAddressSize
      ++ NetUnparser.u16 message.opcode))))
    ++ (message.senderEthernetAddress.bytes ++ (NetUnparser.u32 message.senderIpAddress
      ++ (message.targetEthernetAddress.bytes ++ NetUnparser.u32 message.targetIpAddress)))

/-- A message takes 28 bytes. -/
@[simp] theorem length_bytes (message : ARPMessage) : message.bytes.length = 28 := by
  simp [bytes, message.senderEthernetAddress.size, message.targetEthernetAddress.size]

/-- A supported message serializes to its bytes. -/
theorem serialize_eq {message : ARPMessage} (supported : message.supported = true) :
    message.serialize = .ok message.bytes := by
  simp only [serialize, supported, Bool.not_true, Bool.false_eq_true, if_false, bytes,
    NetUnparser.flatMap_u8, List.append_assoc]

/-- Only a supported message serializes. -/
theorem serialize_isOk_iff (message : ARPMessage) :
    (∃ out, message.serialize = .ok out) ↔ message.supported = true := by
  refine ⟨fun ⟨out, written⟩ => ?_, fun supported => ⟨_, serialize_eq supported⟩⟩
  -- An unsupported message throws.
  by_contra unsupported
  rw [serialize, if_pos (by simpa using unsupported)] at written
  cases written

/-- The bytes of a message are read back if it is supported, and otherwise refused. -/
theorem parse_bytes (message old : ARPMessage) (rest : Bytes) :
    (old.parse (message.bytes ++ rest)).1 =
        (if message.supported then .noError else .unsupported) ∧
      (message.supported = true → (old.parse (message.bytes ++ rest)).2 = message) := by
  have enough : ¬ (message.bytes ++ rest).length < length := by
    rw [List.length_append, length_bytes, length]
    omega
  rw [parse, if_neg enough, bytes]
  simp only [List.append_assoc, NetParser.u16_unparse, NetParser.u8_unparse]
  -- Whether the message is supported only depends on the five fields read so far.
  cases supported : message.supported with
  | true =>
    rw [ARPMessage.supported] at supported
    simp [ARPMessage.supported, supported]
  | false =>
    rw [ARPMessage.supported] at supported
    simp [ARPMessage.supported, supported]

/-- Every string that is long enough starts with the bytes of a message. -/
theorem exists_bytes {data : Bytes} (long : 28 ≤ data.length) :
    ∃ (message : ARPMessage) (rest : Bytes), data = message.bytes ++ rest := by
  -- The fields are split off one by one, each time with enough bytes left for the next.
  obtain ⟨hardwareType, data, rfl⟩ := NetUnparser.exists_u16 (show 2 ≤ data.length by omega)
  rw [List.length_append, NetUnparser.length_u16] at long
  obtain ⟨protocolType, data, rfl⟩ := NetUnparser.exists_u16 (show 2 ≤ data.length by omega)
  rw [List.length_append, NetUnparser.length_u16] at long
  obtain ⟨hardwareSize, data, rfl⟩ := NetUnparser.exists_u8 (show 1 ≤ data.length by omega)
  rw [List.length_append, NetUnparser.length_u8] at long
  obtain ⟨protocolSize, data, rfl⟩ := NetUnparser.exists_u8 (show 1 ≤ data.length by omega)
  rw [List.length_append, NetUnparser.length_u8] at long
  obtain ⟨opcode, data, rfl⟩ := NetUnparser.exists_u16 (show 2 ≤ data.length by omega)
  rw [List.length_append, NetUnparser.length_u16] at long
  obtain ⟨sender, data, rfl⟩ := EthernetAddress.exists_bytes (show 6 ≤ data.length by omega)
  rw [List.length_append, sender.size] at long
  obtain ⟨senderIp, data, rfl⟩ := NetUnparser.exists_u32 (show 4 ≤ data.length by omega)
  rw [List.length_append, NetUnparser.length_u32] at long
  obtain ⟨target, data, rfl⟩ := EthernetAddress.exists_bytes (show 6 ≤ data.length by omega)
  rw [List.length_append, target.size] at long
  obtain ⟨targetIp, rest, rfl⟩ := NetUnparser.exists_u32 (show 4 ≤ data.length by omega)
  exact ⟨⟨hardwareType, protocolType, hardwareSize, protocolSize, opcode, sender, senderIp, target,
    targetIp⟩, rest, by simp only [bytes, List.append_assoc]⟩

/-- The first bytes of an Ethernet/IPv4 message: the two protocols, the sizes of their addresses,
and the opcode of a request or a reply. -/
def Announced (data : Bytes) : Prop :=
  data.take 8 = [0, 1, 8, 0, 6, 4, 0, 1] ∨ data.take 8 = [0, 1, 8, 0, 6, 4, 0, 2]

/-- A message is supported exactly if its first bytes announce it. -/
theorem announced_bytes_iff (message : ARPMessage) (rest : Bytes) :
    Announced (message.bytes ++ rest) ↔ message.supported = true := by
  -- The five fields take the first eight bytes.
  have front : (message.bytes ++ rest).take 8 =
      NetUnparser.u16 message.hardwareType ++ (NetUnparser.u16 message.protocolType
        ++ (NetUnparser.u8 message.hardwareAddressSize
        ++ (NetUnparser.u8 message.protocolAddressSize ++ NetUnparser.u16 message.opcode))) := by
    rw [bytes, List.append_assoc]
    exact List.take_left' (by simp)
  -- Each of the two strings is the writing of the five fields that are supported.
  have spelled (opcode : UInt16) : (message.bytes ++ rest).take 8 =
      NetUnparser.u16 1 ++ (NetUnparser.u16 0x800 ++ (NetUnparser.u8 6 ++ (NetUnparser.u8 4
        ++ NetUnparser.u16 opcode))) ↔
      message.hardwareType = 1 ∧ message.protocolType = 0x800 ∧ message.hardwareAddressSize = 6 ∧
        message.protocolAddressSize = 4 ∧ message.opcode = opcode := by
    rw [front, List.append_eq_append_iff_of_size_eq_left (by simp),
      List.append_eq_append_iff_of_size_eq_left (by simp),
      List.append_eq_append_iff_of_size_eq_left (by simp),
      List.append_eq_append_iff_of_size_eq_left (by simp), NetUnparser.u16_inj,
      NetUnparser.u16_inj, NetUnparser.u8_inj, NetUnparser.u8_inj, NetUnparser.u16_inj]
  rw [Announced, show ([0, 1, 8, 0, 6, 4, 0, 1] : Bytes) = NetUnparser.u16 1 ++ (NetUnparser.u16
      0x800 ++ (NetUnparser.u8 6 ++ (NetUnparser.u8 4 ++ NetUnparser.u16 1))) from rfl,
    show ([0, 1, 8, 0, 6, 4, 0, 2] : Bytes) = NetUnparser.u16 1 ++ (NetUnparser.u16
      0x800 ++ (NetUnparser.u8 6 ++ (NetUnparser.u8 4 ++ NetUnparser.u16 2))) from rfl,
    spelled, spelled, supported]
  simp only [Bool.and_eq_true, Bool.or_eq_true, beq_iff_eq, typeEthernet, EthernetHeader.typeIPv4,
    opcodeRequest, opcodeReply]
  tauto

/-- Exactly the supported messages are serialized, and read back whatever follows them; and exactly
the strings that announce a message and have room for it are accepted, and written again. -/
theorem codec_exact (old : ARPMessage) :
    (∀ message : ARPMessage,
      ((∃ out, message.serialize = .ok out) ↔ message.supported = true) ∧
      ∀ out padding, message.serialize = .ok out →
        old.parse (out ++ padding) = (.noError, message)) ∧
    ∀ data : Bytes,
      ((old.parse data).1 = .noError ↔ 28 ≤ data.length ∧ Announced data) ∧
      ((old.parse data).1 = .noError → (old.parse data).2.serialize = .ok (data.take 28)) := by
  refine ⟨fun message => ⟨message.serialize_isOk_iff, fun out padding written => ?_⟩,
    fun data => ?_⟩
  · -- What is written is read back, whatever follows it.
    have supported := message.serialize_isOk_iff.mp ⟨out, written⟩
    rw [serialize_eq supported, Except.ok.injEq] at written
    obtain ⟨verdict, read⟩ := message.parse_bytes old padding
    rw [if_pos supported] at verdict
    rw [← written]
    exact Prod.ext verdict (read supported)
  · by_cases long : 28 ≤ data.length
    · -- The string is the bytes of some message and more, which is read back if supported.
      obtain ⟨message, rest, rfl⟩ := exists_bytes long
      obtain ⟨verdict, read⟩ := message.parse_bytes old rest
      have accepted : (old.parse (message.bytes ++ rest)).1 = .noError ↔
          message.supported = true := by
        rw [verdict]
        cases message.supported <;> simp
      rw [accepted, announced_bytes_iff]
      refine ⟨⟨fun supported => ⟨long, supported⟩, And.right⟩, fun supported => ?_⟩
      rw [read supported, serialize_eq supported, List.take_left' message.length_bytes]
    · -- A string that is too short is refused.
      have refused : old.parse data = (.packetTooShort, old) := if_pos (Nat.lt_of_not_le long)
      simp [refused, long]

end ARPMessage

end Sponge
