import Sponge.Wire.Parser

/-! Ethernet frames, and the ARP messages inside them. -/

namespace Sponge

/-- An Ethernet address: an array of six bytes. -/
structure EthernetAddress where
  /-- The bytes. -/
  bytes : Bytes
  /-- There are six of them. -/
  size : bytes.length = 6
deriving DecidableEq, Repr

namespace EthernetAddress

/-- The address of six given bytes. -/
def ofBytes (a b c d e f : UInt8) : EthernetAddress := ⟨[a, b, c, d, e, f], rfl⟩

/-- The address of zeros, as an array is initialized. -/
def zero : EthernetAddress := ⟨List.replicate 6 0, rfl⟩

/-- The broadcast address. -/
def broadcast : EthernetAddress := ⟨List.replicate 6 0xff, rfl⟩

end EthernetAddress

namespace NetParser

/-- Parses several 8-bit integers in turn. -/
def u8s : Nat → NetParser → Bytes × NetParser
  | 0, p => ([], p)
  | count + 1, p =>
    let (byte, p) := p.u8
    let (bytes, p) := u8s count p
    (byte :: bytes, p)

/-- As many integers are parsed as were asked for. -/
theorem length_u8s (count : Nat) (p : NetParser) : (p.u8s count).1.length = count := by
  induction count generalizing p with
  | zero => rfl
  | succ count ih => exact congrArg (· + 1) (ih p.u8.2)

/-- Parses an Ethernet address. -/
def ethernetAddress (p : NetParser) : EthernetAddress × NetParser :=
  (⟨(p.u8s 6).1, length_u8s 6 p⟩, (p.u8s 6).2)

end NetParser

/-- The header of an Ethernet frame. -/
structure EthernetHeader where
  /-- Destination address. -/
  dst : EthernetAddress := .zero
  /-- Source address. -/
  src : EthernetAddress := .zero
  /-- The type of the payload. -/
  type : UInt16 := 0
deriving DecidableEq, Repr

namespace EthernetHeader

/-- The length of a header. -/
def length : Nat := 14

/-- The type number of IPv4. -/
def typeIPv4 : UInt16 := 0x800

/-- The type number of ARP. -/
def typeARP : UInt16 := 0x806

/-- Parses a header into an existing one: the verdict, the header and the parser after it. -/
def parse (header : EthernetHeader) (p : NetParser) : ParseResult × EthernetHeader × NetParser :=
  -- A string that is too short is reported, but not to the parser.
  if p.buffer.length < length then (.packetTooShort, header, p)
  else
    let (dst, p) := p.ethernetAddress
    let (src, p) := p.ethernetAddress
    let (type, p) := p.u16
    (p.error, { dst, src, type }, p)

/-- Serializes a header. -/
def serialize (header : EthernetHeader) : Bytes :=
  header.dst.bytes.flatMap NetUnparser.u8 ++ header.src.bytes.flatMap NetUnparser.u8
    ++ NetUnparser.u16 header.type

end EthernetHeader

/-- An Ethernet frame. -/
structure EthernetFrame where
  /-- The header. -/
  header : EthernetHeader := {}
  /-- The bytes after the header. -/
  payload : BufferList := {}
deriving DecidableEq, Repr

namespace EthernetFrame

/-- Parses a frame into an existing one. -/
def parse (frame : EthernetFrame) (buffer : Bytes) : ParseResult × EthernetFrame :=
  -- The verdict on the header is not looked at.
  let (_, header, p) := frame.header.parse ⟨buffer, .noError⟩
  (p.error, ⟨header, .ofBuffer p.buffer⟩)

/-- Serializes a frame. -/
def serialize (frame : EthernetFrame) : BufferList :=
  (BufferList.ofBuffer frame.header.serialize).append frame.payload

end EthernetFrame

/-- An ARP message. -/
structure ARPMessage where
  /-- The link-layer protocol. -/
  hardwareType : UInt16 := 1
  /-- The Internet-layer protocol. -/
  protocolType : UInt16 := EthernetHeader.typeIPv4
  /-- The size of a link-layer address. -/
  hardwareAddressSize : UInt8 := 6
  /-- The size of an Internet-layer address. -/
  protocolAddressSize : UInt8 := 4
  /-- Request or reply. -/
  opcode : UInt16 := 0
  /-- The sender's Ethernet address. -/
  senderEthernetAddress : EthernetAddress := .zero
  /-- The sender's IP address. -/
  senderIpAddress : UInt32 := 0
  /-- The target's Ethernet address. -/
  targetEthernetAddress : EthernetAddress := .zero
  /-- The target's IP address. -/
  targetIpAddress : UInt32 := 0
deriving DecidableEq, Repr

namespace ARPMessage

/-- The length of a message. -/
def length : Nat := 28

/-- The type number of Ethernet. -/
def typeEthernet : UInt16 := 1

/-- The opcode of a request. -/
def opcodeRequest : UInt16 := 1

/-- The opcode of a reply. -/
def opcodeReply : UInt16 := 2

/-- Whether the fields of a message are those of an Ethernet/IP request or reply. -/
def supported (message : ARPMessage) : Bool :=
  message.hardwareType == typeEthernet && message.protocolType == EthernetHeader.typeIPv4
    && message.hardwareAddressSize == 6 && message.protocolAddressSize == 4
    && (message.opcode == opcodeRequest || message.opcode == opcodeReply)

/-- Parses a message into an existing one. -/
def parse (message : ARPMessage) (buffer : Bytes) : ParseResult × ARPMessage :=
  let p : NetParser := ⟨buffer, .noError⟩
  if p.buffer.length < length then (.packetTooShort, message)
  else
    let (hardwareType, p) := p.u16
    let (protocolType, p) := p.u16
    let (hardwareAddressSize, p) := p.u8
    let (protocolAddressSize, p) := p.u8
    let (opcode, p) := p.u16
    let message := { message with
      hardwareType, protocolType, hardwareAddressSize, protocolAddressSize, opcode }
    if !message.supported then (.unsupported, message)
    else
      let (senderEthernetAddress, p) := p.ethernetAddress
      let (senderIpAddress, p) := p.u32
      let (targetEthernetAddress, p) := p.ethernetAddress
      let (targetIpAddress, p) := p.u32
      (p.error, { message with
        senderEthernetAddress, senderIpAddress, targetEthernetAddress, targetIpAddress })

/-- Serializes a supported message. -/
def serialize (message : ARPMessage) : Except Exception Bytes :=
  if !message.supported then .error .unsupportedArp
  else
    .ok (NetUnparser.u16 message.hardwareType ++ NetUnparser.u16 message.protocolType
      ++ NetUnparser.u8 message.hardwareAddressSize ++ NetUnparser.u8 message.protocolAddressSize
      ++ NetUnparser.u16 message.opcode
      ++ message.senderEthernetAddress.bytes.flatMap NetUnparser.u8
      ++ NetUnparser.u32 message.senderIpAddress
      ++ message.targetEthernetAddress.bytes.flatMap NetUnparser.u8
      ++ NetUnparser.u32 message.targetIpAddress)

end ARPMessage

end Sponge
