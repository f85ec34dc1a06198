import Sponge.Lib.BigEndian
import Sponge.Outcome

/-! Packets as lists of buffers, and integers in network byte order inside them. -/

namespace Sponge

open BigEndian

/-- The result of parsing a packet. -/
inductive ParseResult where
  /-- Success. -/
  | noError
  /-- Bad checksum. -/
  | badChecksum
  /-- Not enough data to finish parsing. -/
  | packetTooShort
  /-- A version of IP other than 4. -/
  | wrongIPVersion
  /-- A header length shorter than the minimum. -/
  | headerTooShort
  /-- A packet shorter than its header claims. -/
  | truncatedPacket
  /-- Unsupported features. -/
  | unsupported
deriving DecidableEq, Repr

/-- The exceptions thrown by the code that handles packets. -/
inductive Exception where
  /-- `wrong IP version`. -/
  | wrongIPVersion
  /-- `IP header too short`. -/
  | ipHeaderTooShort
  /-- `IPv4Datagram::serialize: payload is wrong size`. -/
  | wrongPayloadSize
  /-- `TCP header too short`. -/
  | tcpHeaderTooShort
  /-- `BufferList: please use concatenate() to combine a multi-Buffer BufferList ...`. -/
  | multiBuffer
  /-- An ARP message with a field that is not supported. -/
  | unsupportedArp
  /-- An index past the end of a container. -/
  | outOfRange
  /-- No exception, but the undefined erasure of the end of a container. -/
  | eraseEnd
deriving DecidableEq, Repr

/-- A string held in several buffers. -/
structure BufferList where
  /-- The buffers, first to last. -/
  buffers : List Bytes := []
deriving DecidableEq, Repr

namespace BufferList

/-- A string held in one buffer. -/
def ofBuffer (buffer : Bytes) : BufferList := ⟨[buffer]⟩

/-- Appends the buffers of another string. -/
def append (list other : BufferList) : BufferList := ⟨list.buffers ++ other.buffers⟩

/-- The number of bytes in all buffers. -/
def size (list : BufferList) : Nat := (list.buffers.map List.length).sum

/-- The bytes of all buffers in order. -/
def concatenate (list : BufferList) : Bytes := list.buffers.flatten

/-- The one buffer of the string, with an exception if it has several. -/
def toBuffer (list : BufferList) : Except Exception Bytes :=
  match list.buffers with
  | [] => .ok []
  | [buffer] => .ok buffer
  | _ => .error .multiBuffer

/-- The size counts the bytes of the whole string. -/
theorem size_eq (list : BufferList) : list.size = list.concatenate.length := by
  rw [size, concatenate, List.length_flatten]

/-- Appending appends the bytes. -/
@[simp] theorem concatenate_append (list other : BufferList) :
    (list.append other).concatenate = list.concatenate ++ other.concatenate := by
  simp [append, concatenate]

/-- One buffer is the whole string. -/
@[simp] theorem concatenate_ofBuffer (buffer : Bytes) :
    (ofBuffer buffer).concatenate = buffer := by
  simp [ofBuffer, concatenate]

/-- The size of a single buffer. -/
@[simp] theorem size_ofBuffer (buffer : Bytes) : (ofBuffer buffer).size = buffer.length := by
  rw [size_eq, concatenate_ofBuffer]

/-- A string in one buffer is that buffer. -/
@[simp] theorem toBuffer_ofBuffer (buffer : Bytes) :
    (ofBuffer buffer).toBuffer = .ok buffer := by
  simp only [ofBuffer, toBuffer]

end BufferList

/-- `std::string::resize`: cuts the string, or extends it by zero bytes. -/
def resize (data : Bytes) (size : Nat) : Bytes :=
  data.take size ++ List.replicate (size - data.length) 0

/-- Extending keeps the string and pads it. -/
theorem resize_of_le {data : Bytes} {size : Nat} (room : data.length ≤ size) :
    resize data size = data ++ List.replicate (size - data.length) 0 := by
  rw [resize, List.take_of_length_le room]

/-- A parser: the bytes that remain, and the first error met. -/
structure NetParser where
  /-- The bytes not parsed yet. -/
  buffer : Bytes
  /-- The result of parsing so far. -/
  error : ParseResult := .noError
deriving DecidableEq, Repr

namespace NetParser

/-- Records an error unless that many bytes remain. -/
def checkSize (p : NetParser) (size : Nat) : NetParser :=
  if p.buffer.length < size then { p with error := .packetTooShort } else p

/-- Parses an integer of the given number of bytes, or returns zero on an error. -/
def parseInt (p : NetParser) (len : Nat) : Nat × NetParser :=
  let p := p.checkSize len
  if p.error ≠ .noError then (0, p)
  else (ofBytes (p.buffer.take len), { p with buffer := p.buffer.drop len })

/-- Parses a 32-bit integer. -/
@[irreducible] def u32 (p : NetParser) : UInt32 × NetParser :=
  (UInt32.ofNat (p.parseInt 4).1, (p.parseInt 4).2)

/-- Parses a 16-bit integer. -/
@[irreducible] def u16 (p : NetParser) : UInt16 × NetParser :=
  (UInt16.ofNat (p.parseInt 2).1, (p.parseInt 2).2)

/-- Parses an 8-bit integer. -/
@[irreducible] def u8 (p : NetParser) : UInt8 × NetParser :=
  (UInt8.ofNat (p.parseInt 1).1, (p.parseInt 1).2)

/-- Removes bytes from the front, unless there is an error. -/
def removePrefix (p : NetParser) (n : Nat) : NetParser :=
  let p := p.checkSize n
  if p.error ≠ .noError then p else { p with buffer := p.buffer.drop n }

/-- A parser that has used up the first bytes of its input, or failed if there were too few. -/
def Consumed (input : Bytes) (n : Nat) (p : NetParser) : Prop :=
  if n ≤ input.length then p = ⟨input.drop n, .noError⟩ else p.error ≠ .noError

/-- A new parser has used up nothing. -/
theorem consumed_start (input : Bytes) : Consumed input 0 ⟨input, .noError⟩ := by
  simp [Consumed]

/-- Removing bytes adds to what is used up. -/
theorem Consumed.removePrefix {input : Bytes} {n : Nat} {p : NetParser}
    (consumed : Consumed input n p) (more : Nat) :
    Consumed input (n + more) (p.removePrefix more) := by
  unfold Consumed at consumed ⊢
  split at consumed
  · -- Nothing has failed yet, so only the bytes that remain count.
    subst consumed
    split
    · rename_i enough
      simp [NetParser.removePrefix, checkSize, show ¬ input.length - n < more by omega]
    · rename_i short
      simp [NetParser.removePrefix, checkSize, show input.length - n < more by omega]
  · -- An error is never taken back.
    rw [if_neg (by omega), NetParser.removePrefix]
    by_cases short : p.buffer.length < more
    · simp [checkSize, short]
    · simp [checkSize, short, consumed]

/-- Parsing an integer leaves the parser as removing its bytes would. -/
theorem parseInt_snd (p : NetParser) (len : Nat) : (p.parseInt len).2 = p.removePrefix len := by
  -- Both check the size first, and take nothing after an error.
  simp only [parseInt, NetParser.removePrefix]
  split <;> rfl

/-- Parsing a 32-bit integer uses up four bytes. -/
theorem Consumed.u32 {input : Bytes} {n : Nat} {p : NetParser} (consumed : Consumed input n p) :
    Consumed input (n + 4) p.u32.2 := by
  rw [NetParser.u32, parseInt_snd]
  exact consumed.removePrefix 4

/-- Parsing a 16-bit integer uses up two bytes. -/
theorem Consumed.u16 {input : Bytes} {n : Nat} {p : NetParser} (consumed : Consumed input n p) :
    Consumed input (n + 2) p.u16.2 := by
  rw [NetParser.u16, parseInt_snd]
  exact consumed.removePrefix 2

/-- Parsing an 8-bit integer uses up one byte. -/
theorem Consumed.u8 {input : Bytes} {n : Nat} {p : NetParser} (consumed : Consumed input n p) :
    Consumed input (n + 1) p.u8.2 := by
  rw [NetParser.u8, parseInt_snd]
  exact consumed.removePrefix 1

/-- With enough bytes left, an integer is read from the front. -/
theorem parseInt_append {front : Bytes} {len : Nat} (exact : front.length = len) (rest : Bytes) :
    NetParser.parseInt ⟨front ++ rest, .noError⟩ len = (ofBytes front, ⟨rest, .noError⟩) := by
  -- The size is checked against the whole buffer, which has the bytes of the number in front.
  subst exact
  simp [parseInt, checkSize]

end NetParser

namespace NetUnparser

/-- Writes a 32-bit integer. -/
def u32 (val : UInt32) : Bytes := toBytes 4 val.toNat

/-- Writes a 16-bit integer. -/
def u16 (val : UInt16) : Bytes := toBytes 2 val.toNat

/-- Writes an 8-bit integer. -/
def u8 (val : UInt8) : Bytes := toBytes 1 val.toNat

/-- A 32-bit integer takes four bytes. -/
@[simp] theorem length_u32 (val : UInt32) : (u32 val).length = 4 := length_toBytes 4 val.toNat

/-- A 16-bit integer takes two bytes. -/
@[simp] theorem length_u16 (val : UInt16) : (u16 val).length = 2 := length_toBytes 2 val.toNat

/-- An 8-bit integer takes one byte. -/
@[simp] theorem length_u8 (val : UInt8) : (u8 val).length = 1 := length_toBytes 1 val.toNat

/-- The front of a long enough string is a field of its width. -/
theorem exists_field {data : Bytes} {width : Nat} (long : width ≤ data.length) :
    ∃ value < 256 ^ width, ∃ rest, data = toBytes width value ++ rest := by
  -- The leading bytes spell a number of their width.
  obtain ⟨value, fits, spelled⟩ := exists_toBytes (data.take width)
  rw [List.length_take_of_le long] at fits spelled
  exact ⟨value, fits, data.drop width, by rw [← spelled, List.take_append_drop]⟩

/-- Four bytes are a written 32-bit integer. -/
theorem exists_u32 {data : Bytes} (long : 4 ≤ data.length) :
    ∃ val rest, data = u32 val ++ rest := by
  obtain ⟨value, fits, rest, spelled⟩ := exists_field long
  exact ⟨UInt32.ofNat value, rest, by
    rw [u32, UInt32.toNat_ofNat', Nat.mod_eq_of_lt (show value < 2 ^ 32 from fits), spelled]⟩

/-- Two bytes are a written 16-bit integer. -/
theorem exists_u16 {data : Bytes} (long : 2 ≤ data.length) :
    ∃ val rest, data = u16 val ++ rest := by
  obtain ⟨value, fits, rest, spelled⟩ := exists_field long
  exact ⟨UInt16.ofNat value, rest, by
    rw [u16, UInt16.toNat_ofNat', Nat.mod_eq_of_lt (show value < 2 ^ 16 from fits), spelled]⟩

/-- One byte is a written 8-bit integer. -/
theorem exists_u8 {data : Bytes} (long : 1 ≤ data.length) :
    ∃ val rest, data = u8 val ++ rest := by
  obtain ⟨value, fits, rest, spelled⟩ := exists_field long
  exact ⟨UInt8.ofNat value, rest, by
    rw [u8, UInt8.toNat_ofNat', Nat.mod_eq_of_lt (show value < 2 ^ 8 from fits), spelled]⟩

end NetUnparser

namespace NetParser

/-- A written 32-bit integer is read back. -/
@[simp] theorem u32_unparse (val : UInt32) (rest : Bytes) :
    NetParser.u32 ⟨NetUnparser.u32 val ++ rest, .noError⟩ = (val, ⟨rest, .noError⟩) := by
  rw [NetParser.u32, parseInt_append (NetUnparser.length_u32 val), NetUnparser.u32,
    ofBytes_toBytes_of_lt val.toNat_lt, UInt32.ofNat_toNat]

/-- A written 16-bit integer is read back. -/
@[simp] theorem u16_unparse (val : UInt16) (rest : Bytes) :
    NetParser.u16 ⟨NetUnparser.u16 val ++ rest, .noError⟩ = (val, ⟨rest, .noError⟩) := by
  rw [NetParser.u16, parseInt_append (NetUnparser.length_u16 val), NetUnparser.u16,
    ofBytes_toBytes_of_lt val.toNat_lt, UInt16.ofNat_toNat]

/-- A written 8-bit integer is read back. -/
@[simp] theorem u8_unparse (val : UInt8) (rest : Bytes) :
    NetParser.u8 ⟨NetUnparser.u8 val ++ rest, .noError⟩ = (val, ⟨rest, .noError⟩) := by
  rw [NetParser.u8, parseInt_append (NetUnparser.length_u8 val), NetUnparser.u8,
    ofBytes_toBytes_of_lt val.toNat_lt, UInt8.ofNat_toNat]

end NetParser

end Sponge
