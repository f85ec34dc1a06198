import Sponge.Io.Environment

/-! A program that copies its input to a socket, and the socket to its output. -/

namespace Sponge

/-- The names of the rules. -/
inductive BidirectionalStreamCopy.RuleName where
  /-- Rule 1: read from stdin into outbound byte stream. -/
  | readInput
  /-- Rule 2: read from outbound byte stream into socket. -/
  | writeSocket
  /-- Rule 3: read from socket into inbound byte stream. -/
  | readSocket
  /-- Rule 4: read from inbound byte stream into stdout. -/
  | writeOutput
deriving DecidableEq, Repr

/-- What `bidirectional_stream_copy` works on, with the history of what went through it. -/
structure BidirectionalStreamCopy where
  /-- The socket. -/
  socket : FileDescriptor := {}
  /-- `STDIN_FILENO`. -/
  input : FileDescriptor := {}
  /-- `STDOUT_FILENO`. -/
  output : FileDescriptor := {}
  /-- What was read from the input and not yet written to the socket. -/
  outbound : ByteStream := .new 1048576
  /-- What was read from the socket and not yet written to the output. -/
  inbound : ByteStream := .new 1048576
  /-- The socket was shut down for writing. -/
  outboundShutdown : Bool := false
  /-- The output was closed. -/
  inboundShutdown : Bool := false
  /-- Every byte read from the input. -/
  fromInput : Bytes := []
  /-- Every byte written to the socket. -/
  toSocket : Bytes := []
  /-- Every byte read from the socket. -/
  fromSocket : Bytes := []
  /-- Every byte written to the output. -/
  toOutput : Bytes := []
  /-- Every rule that was cancelled. -/
  cancelled : List BidirectionalStreamCopy.RuleName := []
deriving DecidableEq, Repr

namespace BidirectionalStreamCopy

/-- The most that is written at once. -/
def maxCopyLength : Nat := 65536

/-- What the kernel answers during the callback of a rule. -/
structure Answers where
  /-- To a read. -/
  data : SysResult Bytes
  /-- To a write. -/
  accepted : SysResult Nat
  /-- To the shutdown of the socket, or to the closing of the output. -/
  finish : SysResult Unit
deriving DecidableEq, Repr

/-- Reads as much as a stream has room for, and ends the stream with the file. -/
def fill (fd : FileDescriptor) (stream : ByteStream) (answer : SysResult Bytes) :
    Except Failure (Bytes × FileDescriptor × ByteStream) := do
  let (data, fd) ← fd.read stream.remainingCapacity answer
  let written := (stream.write data).1
  return (data, fd, if fd.eof then written.endInput else written)

/-- The callback of rule 1. -/
def readInput (answers : Answers) (s : BidirectionalStreamCopy) :
    Except Failure BidirectionalStreamCopy := do
  let (data, input, outbound) ← fill s.input s.outbound answers.data
  return { s with input, outbound, fromInput := s.fromInput ++ data }

/-- The callback of rule 2. -/
def writeSocket (answers : Answers) (s : BidirectionalStreamCopy) :
    Except Failure BidirectionalStreamCopy := do
  let (data, socket, outbound) ← s.socket.writeFront maxCopyLength s.outbound answers.accepted
  let s := { s with socket, outbound, toSocket := s.toSocket ++ data }
  if outbound.eof then do
    let socket ← socket.shutdownWrite answers.finish
    return { s with socket, outboundShutdown := true }
  else return s

/-- The callback of rule 3. -/
def readSocket (answers : Answers) (s : BidirectionalStreamCopy) :
    Except Failure BidirectionalStreamCopy := do
  let (data, socket, inbound) ← fill s.socket s.inbound answers.data
  return { s with socket, inbound, fromSocket := s.fromSocket ++ data }

/-- The callback of rule 4. -/
def writeOutput (answers : Answers) (s : BidirectionalStreamCopy) :
    Except Failure BidirectionalStreamCopy := do
  let (data, output, inbound) ← s.output.writeFront maxCopyLength s.inbound answers.accepted
  let s := { s with output, inbound, toOutput := s.toOutput ++ data }
  if inbound.eof then do
    let output ← output.close answers.finish
    return { s with output, inboundShutdown := true }
  else return s

/-- Ends the outbound stream when a rule is cancelled. -/
def endOutbound (name : RuleName) (s : BidirectionalStreamCopy) :
    Except Failure BidirectionalStreamCopy :=
  .ok { s with outbound := s.outbound.endInput, cancelled := s.cancelled ++ [name] }

/-- Ends the inbound stream when a rule is cancelled. -/
def endInbound (name : RuleName) (s : BidirectionalStreamCopy) :
    Except Failure BidirectionalStreamCopy :=
  .ok { s with inbound := s.inbound.endInput, cancelled := s.cancelled ++ [name] }

/-- The four rules. -/
def table : RuleName → Rule BidirectionalStreamCopy Answers
  | .readInput =>
    { fd := input
      direction := .input
      callback := readInput
      interest := fun s =>
        !s.outbound.error && decide (0 < s.outbound.remainingCapacity) && !s.inbound.error
      cancel := endOutbound .readInput }
  | .writeSocket =>
    { fd := socket
      direction := .output
      callback := writeSocket
      interest := fun s =>
        !s.outbound.bufferEmpty || (s.outbound.eof && !s.outboundShutdown)
      cancel := endOutbound .writeSocket }
  | .readSocket =>
    { fd := socket
      direction := .input
      callback := readSocket
      interest := fun s =>
        !s.inbound.error && decide (0 < s.inbound.remainingCapacity) && !s.outbound.error
      cancel := endInbound .readSocket }
  | .writeOutput =>
    { fd := output
      direction := .output
      callback := writeOutput
      interest := fun s => !s.inbound.bufferEmpty || (s.inbound.eof && !s.inboundShutdown)
      cancel := endInbound .writeOutput }

/-- The rules in the order in which they are added. -/
def rules : List RuleName := [.readInput, .writeSocket, .readSocket, .writeOutput]

end BidirectionalStreamCopy

/-- The loop of the program. -/
structure CopyLoop where
  /-- The rules that are left. -/
  rules : List BidirectionalStreamCopy.RuleName := BidirectionalStreamCopy.rules
  /-- What they work on. -/
  copy : BidirectionalStreamCopy := {}
  /-- The function has returned. -/
  returned : Bool := false
deriving DecidableEq, Repr

/-- One turn of the loop. -/
def CopyLoop.step (loop : CopyLoop) (poll : PollResult BidirectionalStreamCopy.Answers) :
    Except Failure CopyLoop :=
  if loop.returned then .ok loop
  else do
    let (ret, rules, copy) ←
      EventLoop.waitNextEvent BidirectionalStreamCopy.table loop.rules loop.copy poll
    return { rules, copy, returned := decide (ret = .exit) }

end Sponge
