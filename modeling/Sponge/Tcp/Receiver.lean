import Sponge.Stream.StreamReassembler
import Sponge.Tcp.Segment

/-! The receiver: it turns segments into a byte stream and says what it expects next. -/

namespace Sponge

/-- The receiving half of a connection. -/
structure TCPReceiver where
  /-- Reassembles the payloads into the inbound stream. -/
  reassembler : StreamReassembler
  /-- The maximum number of bytes to store. -/
  capacity : Nat
  /-- The initial sequence number of the peer. -/
  isn : WrappingInt32
  /-- A SYN has been received. -/
  syned : Bool
deriving DecidableEq, Repr

namespace TCPReceiver

/-- Constructs a receiver that will store up to a number of bytes. -/
def new (capacity : Nat) : TCPReceiver := ⟨.new capacity, capacity, ⟨0⟩, false⟩

/-- The inbound stream. -/
def streamOut (r : TCPReceiver) : ByteStream := r.reassembler.streamOut

/-- The receiver after a call on its inbound stream. -/
def withOutput (r : TCPReceiver) (output : ByteStream) : TCPReceiver :=
  { r with reassembler := { r.reassembler with output := output } }

@[simp] theorem withOutput_output (r : TCPReceiver) (output : ByteStream) :
    (r.withOutput output).reassembler.output = output := rfl

@[simp] theorem withOutput_streamOut (r : TCPReceiver) : r.withOutput r.streamOut = r := rfl

/-- The number of bytes stored but not yet reassembled. -/
def unassembledBytes (r : TCPReceiver) : Nat := r.reassembler.unassembledBytes

/-- Takes over the sequence number of a segment that carries SYN. -/
def noteSyn (r : TCPReceiver) (header : TCPHeader) : TCPReceiver :=
  -- Every SYN is taken over, not only the first.
  if header.syn then { r with isn := header.seqno, syned := true } else r

/-- Hands a payload to the reassembler. -/
def push (r : TCPReceiver) (seg : TCPSegment) (idx : Nat) : Except Fault TCPReceiver := do
  let reassembler ← r.reassembler.pushSubstring seg.payload idx seg.header.fin
  return { r with reassembler := reassembler }

/-- Handles an inbound segment. -/
def segmentReceived (r : TCPReceiver) (seg : TCPSegment) : Except Fault TCPReceiver :=
  if !r.syned && !seg.header.syn then .ok r
  else if seg.header.syn then
    -- The payload of a SYN starts the stream.
    (r.noteSyn seg.header).push seg 0
  else do
    let abs ← unwrap seg.header.seqno r.isn r.streamOut.bytesWritten
    -- The position of the SYN holds no byte of the stream.
    if abs = 0 then return r
    r.push seg (sub64 abs 1)

/-- The acknowledgment number to send to the peer, once a SYN has been received. -/
def ackno (r : TCPReceiver) : Option WrappingInt32 :=
  if !r.syned then none
  else
    -- SYN and FIN each take one position before and after the bytes.
    let ack := add64 r.streamOut.bytesWritten 1
    let ack := if r.streamOut.inputEnded then add64 ack 1 else ack
    some (wrap ack r.isn)

/-- The window to advertise to the peer. -/
def windowSize (r : TCPReceiver) : Nat := r.streamOut.remainingCapacity

end TCPReceiver

end Sponge
