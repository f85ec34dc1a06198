import Sponge.Tcp.State

/-! A complete endpoint of a TCP connection: a sender and a receiver that share their segments. -/

namespace Sponge

/-- An endpoint of a TCP connection. -/
structure TCPConnection where
  /-- The configuration it was constructed from. -/
  cfg : TCPConfig
  /-- The receiving half. -/
  receiver : TCPReceiver
  /-- The sending half. -/
  sender : TCPSender
  /-- Segments that the connection wants sent. -/
  segmentsOut : List TCPSegment
  /-- The connection stays active for a while after both streams have finished. -/
  lingerAfterStreamsFinish : Bool
  /-- Milliseconds since a segment was last received. -/
  timeSinceLastSegmentReceived : Nat
  /-- The connection is still alive in any way. -/
  active : Bool
  /-- Milliseconds spent in TIME_WAIT. -/
  sinceTimeWait : Nat
deriving DecidableEq, Repr

namespace TCPConnection

/-- Constructs a connection whose sender starts at an initial sequence number. -/
def new (cfg : TCPConfig) (isn : WrappingInt32) : TCPConnection where
  cfg := cfg
  receiver := .new cfg.recvCapacity
  sender := .new cfg.sendCapacity cfg.rtTimeout isn
  segmentsOut := []
  lingerAfterStreamsFinish := true
  timeSinceLastSegmentReceived := 0
  active := true
  sinceTimeWait := 0

/-- The number of bytes that can be written right now. -/
def remainingOutboundCapacity (c : TCPConnection) : Nat := c.sender.streamIn.remainingCapacity

/-- The number of positions sent but not yet acknowledged. -/
def bytesInFlight (c : TCPConnection) : Nat := c.sender.bytesInFlight

/-- The number of bytes not yet reassembled. -/
def unassembledBytes (c : TCPConnection) : Nat := c.receiver.unassembledBytes

/-- The inbound stream received from the peer. -/
def inboundStream (c : TCPConnection) : ByteStream := c.receiver.streamOut

/-- The connection after a call on its inbound stream. -/
def withInbound (c : TCPConnection) (output : ByteStream) : TCPConnection :=
  { c with receiver := c.receiver.withOutput output }

/-- The summary of the sender, the receiver and the flags. -/
def state (c : TCPConnection) : TCPState :=
  .of c.sender c.receiver c.active c.lingerAfterStreamsFinish

/-- The sender has not sent everything up to and including its FIN. -/
def unfinished (c : TCPConnection) : Bool :=
  !c.sender.streamIn.eof ||
    decide (c.sender.nextSeqnoAbsolute < add64 c.sender.streamIn.bytesWritten 2)

/-- Puts the acknowledgment number and the window of the receiver into a segment. -/
def stamp (c : TCPConnection) (seg : TCPSegment) : TCPSegment :=
  match c.receiver.ackno with
  | none => seg
  | some ackno =>
    { seg with
      header := { seg.header with
        ack := true
        ackno := ackno
        -- The window is narrowed to the 16 bits of the field.
        win := UInt16.ofNat c.receiver.windowSize } }

/-- Moves the segments of the sender into the queue of the connection. -/
def seg2seg (c : TCPConnection) : TCPConnection :=
  { c with
    sender := { c.sender with segmentsOut := [] }
    segmentsOut := c.segmentsOut ++ c.sender.segmentsOut.map c.stamp }

/-- Lets the sender send as far as the window allows. -/
def fillWindow (c : TCPConnection) : Except Fault TCPConnection := do
  let sender ← c.sender.fillWindow
  return { c with sender := sender }

/-- Records an error on both streams. -/
def setError (c : TCPConnection) : TCPConnection :=
  { c with
    sender := { c.sender with stream := c.sender.stream.setError }
    receiver := { c.receiver with
      reassembler := { c.receiver.reassembler with
        output := c.receiver.reassembler.output.setError } } }

/-- Hands a segment to the receiver. -/
def receive (c : TCPConnection) (seg : TCPSegment) : Except Fault TCPConnection := do
  let receiver ← c.receiver.segmentReceived seg
  return { c with receiver := receiver }

/-- Hands the acknowledgment in a segment to the sender, which then sends what it can. -/
def handleAck (c : TCPConnection) (header : TCPHeader) : Except Fault TCPConnection :=
  if header.ack then do
    let sender ← c.sender.ackReceived header.ackno header.win
    { c with sender := sender }.fillWindow
  else .ok c

/-- Answers the SYN of the peer with its own, if that is not sent yet. -/
def answerSyn (c : TCPConnection) : Except Fault TCPConnection :=
  if c.sender.nextSeqnoAbsolute = 0 ∧ c.receiver.ackno.isSome then c.fillWindow else .ok c

/-- Makes sure that some segment is sent, if asked to. -/
def answer (c : TCPConnection) (due : Bool) : TCPConnection :=
  if due && c.sender.segmentsOut.isEmpty then { c with sender := c.sender.sendEmptySegment } else c

/-- A segment probes whether the connection is alive: it is empty and repeats the last position. -/
def isKeepAlive (c : TCPConnection) (seg : TCPSegment) : Bool :=
  match c.receiver.ackno with
  | none => false
  | some ackno =>
    decide (seg.lengthInSequenceSpace = 0) && decide (seg.header.seqno = ackno.back 1)

/-- Handles a segment that is neither a reset nor an acknowledgment of nothing. -/
def handle (c : TCPConnection) (seg : TCPSegment) : Except Fault TCPConnection := do
  let received ← c.receive seg
  let acked ← received.handleAck seg.header
  let opened ← acked.answerSyn
  -- Whatever occupies sequence space is acknowledged.
  let answered := opened.answer (decide (0 < seg.lengthInSequenceSpace))
  return (answered.answer (answered.isKeepAlive seg)).seg2seg

/-- Handles a segment from the network. -/
def segmentReceived (c : TCPConnection) (seg : TCPSegment) : Except Fault TCPConnection :=
  if c.sender.nextSeqnoAbsolute = 0 ∧ seg.header.ack then
    .ok { c with timeSinceLastSegmentReceived := 0 }
  else if seg.header.rst then
    .ok { c.setError with
      timeSinceLastSegmentReceived := 0
      active := false
      lingerAfterStreamsFinish := false }
  else
    handle { c with
      timeSinceLastSegmentReceived := 0
      -- The peer finishes first, so this endpoint need not wait at the end.
      lingerAfterStreamsFinish :=
        c.lingerAfterStreamsFinish && !(seg.header.fin && c.unfinished) } seg

/-- Writes data to the outbound stream, and sends it if possible. -/
def write (c : TCPConnection) (data : Bytes) : Except Fault (TCPConnection × Nat) := do
  let written := c.sender.stream.write data
  let filled ← { c with sender := { c.sender with stream := written.1 } }.fillWindow
  return (filled.seg2seg, written.2)

/-- Shuts down the outbound stream. -/
def endInputStream (c : TCPConnection) : Except Fault TCPConnection := do
  let filled ←
    { c with sender := { c.sender with stream := c.sender.stream.endInput } }.fillWindow
  return filled.seg2seg

/-- Initiates a connection by sending a SYN. -/
def connect (c : TCPConnection) : Except Fault TCPConnection := do
  let filled ← c.fillWindow
  return filled.seg2seg

/-- Time passes in TIME_WAIT. -/
def tickTimeWait (c : TCPConnection) (ms : Nat) : TCPConnection :=
  let waited := add64 c.sinceTimeWait ms
  if 10 * c.cfg.rtTimeout.toNat ≤ waited then
    { c with sinceTimeWait := waited, lingerAfterStreamsFinish := false, active := false }
  else { c with sinceTimeWait := waited }

/-- Gives up after too many retransmissions. -/
def abort (c : TCPConnection) : TCPConnection :=
  -- Both queues are emptied, so that the reset goes out at once.
  let emptied := { c with
    active := false
    sender := { c.sender with segmentsOut := [] }.sendEmptySegmentRST
    segmentsOut := [] }
  { emptied.seg2seg.setError with lingerAfterStreamsFinish := false }

/-- Both streams have finished and every sent position is acknowledged. -/
def finished (c : TCPConnection) : Bool :=
  c.receiver.streamOut.inputEnded && c.sender.streamIn.eof &&
    decide (c.sender.nextSeqnoAbsolute = add64 c.sender.streamIn.bytesWritten 2) &&
    decide (c.sender.bytesInFlight = 0)

/-- Time passes otherwise. -/
def tickOpen (c : TCPConnection) : TCPConnection :=
  let moved := c.seg2seg
  { moved with active := moved.active && !(!moved.lingerAfterStreamsFinish && moved.finished) }

/-- The sender and the clock of the connection are told that time has passed. -/
def ticked (c : TCPConnection) (ms : Nat) : TCPConnection :=
  { c with
    sender := c.sender.tick ms
    timeSinceLastSegmentReceived := add64 c.timeSinceLastSegmentReceived ms }

/-- Called periodically when time elapses. -/
def tick (c : TCPConnection) (msSinceLastTick : Nat) : TCPConnection :=
  let ticked := c.ticked msSinceLastTick
  if ticked.state = .ofState .timeWait then ticked.tickTimeWait msSinceLastTick
  else if ticked.active ∧ TCPConfig.maxRetxAttempts < ticked.sender.consecutiveRetransmissions then
    ticked.abort
  else ticked.tickOpen

end TCPConnection

end Sponge
