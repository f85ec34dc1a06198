import Sponge.Stream.ByteStream
import Sponge.Tcp.Segment

/-! The sender: it cuts a byte stream into segments, and repeats them until they are acknowledged. -/

namespace Sponge

/-- The sending half of a connection. -/
structure TCPSender where
  /-- The initial sequence number, the number of the SYN. -/
  isn : WrappingInt32
  /-- Segments waiting to be transmitted. -/
  segmentsOut : List TCPSegment
  /-- The retransmission timeout that a new acknowledgment restores. -/
  initialRetransmissionTimeout : Nat
  /-- The outbound stream. -/
  stream : ByteStream
  /-- The field `_next_seqno`: the absolute number of the next position to send. -/
  nextSeqnoAbsolute : Nat
  /-- Segments sent and not yet acknowledged, oldest first. -/
  outstandings : List TCPSegment
  /-- The number of positions that the outstanding segments occupy. -/
  inFlights : Nat
  /-- Milliseconds since the timer was last started. -/
  timePassed : Nat
  /-- The current retransmission timeout. -/
  rto : Nat
  /-- Consecutive retransmissions. -/
  recount : Nat
  /-- The window of the last acknowledgment. -/
  window : Nat
  /-- The last position inside the furthest window seen. -/
  windowRight : Nat
  /-- A FIN was sent from the loop that fills the window. -/
  finSent : Bool
  /-- A closed window is being probed. -/
  probing : Bool
deriving DecidableEq, Repr

namespace TCPSender

/-- Constructs a sender. -/
def new (capacity : Nat) (retxTimeout : UInt16) (isn : WrappingInt32) : TCPSender where
  isn := isn
  segmentsOut := []
  initialRetransmissionTimeout := retxTimeout.toNat
  stream := .new capacity
  nextSeqnoAbsolute := 0
  outstandings := []
  inFlights := 0
  timePassed := 0
  rto := retxTimeout.toNat
  recount := 0
  window := 1
  windowRight := 0
  finSent := false
  probing := false

/-- The outbound stream. -/
def streamIn (s : TCPSender) : ByteStream := s.stream

/-- The number of positions sent but not yet acknowledged. -/
def bytesInFlight (s : TCPSender) : Nat := s.inFlights

/-- The number of retransmissions in a row. -/
def consecutiveRetransmissions (s : TCPSender) : Nat := s.recount

/-- The relative sequence number of the next position to send. -/
def nextSeqno (s : TCPSender) : WrappingInt32 := wrap s.nextSeqnoAbsolute s.isn

/-- Only the FIN is left to send. -/
def readyToFin (s : TCPSender) : Bool :=
  s.stream.eof && decide (s.nextSeqnoAbsolute < add64 s.stream.bytesWritten 2)

/-- Puts a segment into both queues. -/
def enqueue (s : TCPSender) (seg : TCPSegment) (count : Nat) : TCPSender :=
  { s with
    inFlights := add64 s.inFlights count
    outstandings := s.outstandings ++ [seg]
    segmentsOut := s.segmentsOut ++ [seg] }

/-- Sends a probe of one position: the next byte, or a FIN. -/
def sendOneByteSegment (s : TCPSender) (f : Bool) : Except Fault TCPSender := do
  let (payload, stream) ← if f then .ok ([], s.stream) else s.stream.read 1
  let seg : TCPSegment := { header := { seqno := s.nextSeqno, fin := f }, payload := payload }
  -- Both counters advance by one, whatever was read.
  let sent := { s with stream := stream, nextSeqnoAbsolute := add64 s.nextSeqnoAbsolute 1 }
  return sent.enqueue seg 1

/-- The number of payload bytes that the window and the segment size allow. -/
def payloadRoom (s : TCPSender) : Nat :=
  let syn := if s.nextSeqnoAbsolute = 0 then 1 else 0
  min (add64 (sub64 (sub64 s.windowRight syn) s.nextSeqnoAbsolute) 1) TCPConfig.maxPayloadSize

/-- One turn of the loop that fills the window: sends the next segment. -/
def sendSegment (s : TCPSender) : Except Fault TCPSender := do
  let (data, stream) ← s.stream.read s.payloadRoom
  let seg : TCPSegment := {
    header := { seqno := s.nextSeqno, syn := decide (s.nextSeqnoAbsolute = 0) }
    payload := data }
  let next := add64 seg.lengthInSequenceSpace s.nextSeqnoAbsolute
  -- The FIN rides on the last segment when there is room for it.
  let fin := stream.eof && decide (next ≤ s.windowRight) && !s.finSent
  let seg := { seg with header := { seg.header with fin := fin } }
  let sent := { s with
    stream := stream
    nextSeqnoAbsolute := if fin then add64 next 1 else next
    finSent := s.finSent || fin }
  return sent.enqueue seg seg.lengthInSequenceSpace

/-- The loop that fills the window stops. -/
def windowFilled (s : TCPSender) : Bool :=
  -- Past the handshake, an empty payload is only sent with the FIN.
  decide (s.windowRight < s.nextSeqnoAbsolute) ||
    (decide (0 < s.nextSeqnoAbsolute) && s.stream.bufferEmpty && !s.readyToFin)

/-- The loop that fills the window. -/
def fillLoop : Nat → TCPSender → Except Fault TCPSender
  | 0, _ => .error .diverges
  | turns + 1, s =>
    if s.windowFilled then .ok s
    else do
      let sent ← s.sendSegment
      fillLoop turns sent

/-- Sends segments as far as the window allows, or probes a closed window. -/
def fillWindow (s : TCPSender) : Except Fault TCPSender :=
  if s.window = 0 ∧ s.probing = false ∧ s.stream.bufferEmpty = false then
    { s with probing := true }.sendOneByteSegment false
  else if s.window = 0 ∧ s.probing = false ∧ s.readyToFin then
    { s with probing := true }.sendOneByteSegment true
  else
    -- A turn takes a byte, the SYN or the FIN, or repeats itself forever.
    s.fillLoop (s.stream.buffer.length + 3)

/-- Drops the acknowledged segments from the front of the queue, with their positions. -/
def dropAcked (isn : WrappingInt32) (checkpoint ackabs : Nat) :
    List TCPSegment → Nat → Except Fault (List TCPSegment × Nat)
  | [], inFlights => .ok ([], inFlights)
  | seg :: rest, inFlights => do
    let first ← unwrap seg.header.seqno isn checkpoint
    let last := sub64 (add64 seg.lengthInSequenceSpace first) 1
    if last < ackabs then
      dropAcked isn checkpoint ackabs rest (sub64 inFlights seg.lengthInSequenceSpace)
    else .ok (seg :: rest, inFlights)

/-- The sender once the acknowledged segments have been dropped. -/
def afterDrop (s : TCPSender) (windowMove : Bool) (kept : List TCPSegment) (inFlights : Nat) :
    TCPSender :=
  let rm := decide (kept.length < s.outstandings.length)
  { s with
    outstandings := kept
    inFlights := inFlights
    -- A window whose right edge has moved ends the probing.
    probing := s.probing && !windowMove
    rto := if rm then s.initialRetransmissionTimeout else s.rto
    timePassed := if rm && decide (0 < kept.length) then 0 else s.timePassed
    recount := if rm then 0 else s.recount }

/-- Handles an acknowledgment number and a window size. -/
def ackReceived (s : TCPSender) (ackno : WrappingInt32) (windowSize : UInt16) :
    Except Fault TCPSender := do
  let ackabs ← unwrap ackno s.isn s.stream.bytesRead
  if s.nextSeqnoAbsolute < ackabs then return s
  let right := sub64 (add64 ackabs windowSize.toNat) 1
  let windowMove := decide (s.windowRight < right)
  let (kept, inFlights) ←
    dropAcked s.isn s.stream.bytesRead ackabs s.outstandings s.inFlights
  let moved := { s with
    window := windowSize.toNat
    windowRight := if windowMove then right else s.windowRight }
  return moved.afterDrop windowMove kept inFlights

/-- Notes the passage of time, and repeats the oldest segment when the timer has run out. -/
def tick (s : TCPSender) (msSinceLastTick : Nat) : TCPSender :=
  match s.outstandings with
  -- The timer only runs while something is outstanding.
  | [] => s
  | oldest :: _ =>
    let timePassed := add64 msSinceLastTick s.timePassed
    if timePassed < s.rto then { s with timePassed := timePassed }
    else
      { s with
        segmentsOut := s.segmentsOut ++ [oldest]
        -- A closed window neither counts nor backs off.
        recount := if 0 < s.window then (s.recount + 1) % 2 ^ 32 else s.recount
        rto := if 0 < s.window then s.rto * 2 % 2 ^ 32 else s.rto
        timePassed := 0 }

/-- Sends a segment without payload, for the sake of its header. -/
def sendEmptySegment (s : TCPSender) : TCPSender :=
  { s with segmentsOut := s.segmentsOut ++ [{ header := { seqno := s.nextSeqno } }] }

/-- Sends a segment that resets the connection. -/
def sendEmptySegmentRST (s : TCPSender) : TCPSender :=
  { s with segmentsOut := s.segmentsOut ++ [{ header := { seqno := s.nextSeqno, rst := true } }] }

end TCPSender

end Sponge
