import Sponge.Lib.Runs
import Sponge.Stream.ByteStreamLaws
import Sponge.Tcp.Connection

/-! Two endpoints whose segments meet in a network that loses, repeats, delays and reorders them. -/

namespace Sponge

/-- A call on an endpoint, by its application, its clock or the network. -/
inductive EndpointCall where
  /-- `connect`. -/
  | connect
  /-- `write`. -/
  | write (data : Bytes)
  /-- `end_input_stream`. -/
  | endInputStream
  /-- `tick`. -/
  | tick (ms : Nat)
  /-- A call of the reader on `inbound_stream()`. -/
  | reader (call : ByteStream.ReaderCall)
  /-- The network takes the front segment of `segments_out()`. -/
  | transmit
  /-- The network delivers the segment that the peer put there at a position, or does nothing. -/
  | deliver (position : Nat)
deriving DecidableEq, Repr

/-- An endpoint together with the history of its calls. -/
structure Endpoint where
  /-- The connection itself. -/
  connection : TCPConnection
  /-- The bytes that writes have accepted. -/
  accepted : Bytes := []
  /-- `end_input_stream` has been called. -/
  closed : Bool := false
  /-- The bytes that the reader has taken from the inbound stream. -/
  popped : Bytes := []
  /-- Every segment that the network has taken. -/
  sent : List TCPSegment := []
deriving DecidableEq, Repr

namespace Endpoint

/-- Every byte that was ever written to the inbound stream. -/
def delivered (x : Endpoint) : Bytes := x.popped ++ x.connection.inboundStream.buffer

/-- The endpoint with another connection. -/
def withConnection (x : Endpoint) (c : TCPConnection) : Endpoint := { x with connection := c }

@[simp] theorem withConnection_connection (x : Endpoint) (c : TCPConnection) :
    (x.withConnection c).connection = c := rfl

@[simp] theorem withConnection_withConnection (x : Endpoint) (c d : TCPConnection) :
    (x.withConnection c).withConnection d = x.withConnection d := rfl

/-- The endpoint after its reader has taken bytes. -/
def served (x : Endpoint) (bytes : Bytes) (output : ByteStream) : Endpoint :=
  { x with connection := x.connection.withInbound output, popped := x.popped ++ bytes }

/-- The endpoint after the network has taken the front segment, if there is one. -/
def transmitted (x : Endpoint) : Endpoint :=
  match x.connection.segmentsOut with
  | [] => x
  | seg :: rest =>
    { x with
      connection := { x.connection with segmentsOut := rest }
      sent := x.sent ++ [seg] }

/-- Performs one call, with the segments that the network has taken from the peer. -/
def step (x : Endpoint) (arriving : List TCPSegment) : EndpointCall → Except Fault Endpoint
  | .connect => do
    let connection ← x.connection.connect
    return x.withConnection connection
  | .write data => do
    let written ← x.connection.write data
    return { x.withConnection written.1 with accepted := x.accepted ++ data.take written.2 }
  | .endInputStream => do
    let connection ← x.connection.endInputStream
    return { x.withConnection connection with closed := true }
  | .tick ms => .ok (x.withConnection (x.connection.tick ms))
  | .reader call => do
    let served ← x.connection.inboundStream.serve call
    return x.served served.1 served.2
  | .transmit => .ok x.transmitted
  | .deliver position =>
    -- The segment stays in the network, so it can be delivered again, or never.
    match arriving[position]? with
    | none => .ok x
    | some seg => do
      let connection ← x.connection.segmentReceived seg
      return x.withConnection connection

end Endpoint

/-- One of the two endpoints. -/
inductive Side where
  /-- The first endpoint. -/
  | a
  /-- The second endpoint. -/
  | b
deriving DecidableEq, Repr

/-- The other endpoint. -/
def Side.other : Side → Side
  | .a => .b
  | .b => .a

/-- Two endpoints that feed each other. -/
structure System where
  /-- The first endpoint. -/
  a : Endpoint
  /-- The second endpoint. -/
  b : Endpoint
deriving DecidableEq, Repr

namespace System

/-- The endpoint on a side. -/
def side (sys : System) : Side → Endpoint
  | .a => sys.a
  | .b => sys.b

/-- The system with another endpoint on a side. -/
def put (sys : System) (x : Endpoint) : Side → System
  | .a => { sys with a := x }
  | .b => { sys with b := x }

/-- Two fresh endpoints. -/
def start (cfgA cfgB : TCPConfig) (isnA isnB : WrappingInt32) : System where
  a := { connection := .new cfgA isnA }
  b := { connection := .new cfgB isnB }

/-- Performs one call on one side. -/
def step (sys : System) (call : Side × EndpointCall) : Except Fault System := do
  let x ← (sys.side call.1).step (sys.side call.1.other).sent call.2
  return sys.put x call.1

end System

end Sponge
