import Sponge.Tcp.WrappingIntegers

/-! TCP segments and the configuration of an endpoint. -/

namespace Sponge

/-- A TCP segment header without options. -/
structure TCPHeader where
  /-- Source port. -/
  sport : UInt16 := 0
  /-- Destination port. -/
  dport : UInt16 := 0
  /-- Sequence number. -/
  seqno : WrappingInt32 := ⟨0⟩
  /-- Acknowledgment number. -/
  ackno : WrappingInt32 := ⟨0⟩
  /-- Data offset, in words of four bytes. -/
  doff : UInt8 := 5
  /-- Urgent flag. -/
  urg : Bool := false
  /-- Acknowledgment flag. -/
  ack : Bool := false
  /-- Push flag. -/
  psh : Bool := false
  /-- Reset flag. -/
  rst : Bool := false
  /-- Synchronize flag. -/
  syn : Bool := false
  /-- Finish flag. -/
  fin : Bool := false
  /-- Window size. -/
  win : UInt16 := 0
  /-- Checksum. -/
  cksum : UInt16 := 0
  /-- Urgent pointer. -/
  uptr : UInt16 := 0
deriving DecidableEq, Repr

/-- A TCP segment. -/
structure TCPSegment where
  /-- The header fields. -/
  header : TCPHeader := {}
  /-- The bytes after the header. -/
  payload : Bytes := []
deriving DecidableEq, Repr

/-- The length of a segment in sequence space, where each of SYN and FIN counts for one. -/
def TCPSegment.lengthInSequenceSpace (seg : TCPSegment) : Nat :=
  seg.payload.length + (if seg.header.syn then 1 else 0) + (if seg.header.fin then 1 else 0)

namespace TCPConfig

/-- The largest payload put into one segment. -/
def maxPayloadSize : Nat := 1000

/-- The number of consecutive retransmissions after which a connection is given up. -/
def maxRetxAttempts : Nat := 8

end TCPConfig

/-- The configuration of an endpoint. -/
structure TCPConfig where
  /-- Initial value of the retransmission timeout, in milliseconds. -/
  rtTimeout : UInt16 := 1000
  /-- Receive capacity, in bytes. -/
  recvCapacity : Nat := 64000
  /-- Send capacity, in bytes. -/
  sendCapacity : Nat := 64000
deriving DecidableEq, Repr

end Sponge
