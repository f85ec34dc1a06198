import Sponge.Io.FileDescriptor
import Sponge.Net.NetworkInterface
import Sponge.Net.TcpOverIp

/-! The adapters that carry TCP segments over UDP sockets, TUN devices and TAP devices. -/

namespace Sponge

/-- What a socket needs of its adapter. What the kernel answers is an argument of each call. -/
class FdAdapter (α : Type) (ρ υ : outParam Type) where
  /-- The descriptor that the adapter reads and writes. -/
  fd : α → FileDescriptor
  /-- The bytes of the datagram or frame that a read returns, if it returns. -/
  payload : ρ → Option Bytes
  /-- Reads a segment, if there is one for the connection; packets may be sent meanwhile. -/
  read : α → ρ → Except Failure (Option TCPSegment × List Bytes × α)
  /-- Writes a segment, and returns the packets that are sent for it. -/
  write : α → TCPSegment → υ → Except Failure (List Bytes × α)
  /-- Lets time pass, and returns the packets that are sent. -/
  tick : α → Nat → υ → Except Failure (List Bytes × α)
  /-- The current configuration. -/
  config : α → FdAdapterConfig
  /-- Assigns to `config_mut()`. -/
  setConfig : α → FdAdapterConfig → α
  /-- Sets the listening flag. -/
  setListening : α → Bool → α

namespace FileDescriptor

/-- Writes a packet to a device that takes packets whole, or fails. -/
def writePacket (fd : FileDescriptor) (packet : BufferList) (answer : SysResult Unit) :
    Except Failure (Bytes × FileDescriptor) :=
  let count : SysResult Nat := match answer with
    | .returned () => .returned packet.size
    | .failed errno => .failed errno
  match fd.write ⟨packet.buffers⟩ true [count] with
  | (w, .returned) => .ok (w.chunks.flatten, w.fd)
  | (_, .threw why) => .error why
  | (_, .blocked) => .error .blocked

end FileDescriptor

/-- An adapter that puts TCP segments into UDP payloads. -/
structure TCPOverUDPSocketAdapter where
  /-- Configuration values. -/
  cfg : FdAdapterConfig := {}
  /-- Whether the TCP connection is in the listen state. -/
  listen : Bool := false
  /-- The UDP socket. -/
  sock : FileDescriptor := {}
deriving DecidableEq, Repr

namespace TCPOverUDPSocketAdapter

/-- The largest datagram that is received. -/
def mtu : Nat := 65536

/-- `UDPSocket::recv`: receives a datagram and the address of its sender. -/
def recv (sock : FileDescriptor) (answer : SysResult (Address × Bytes)) :
    Except Failure (Address × Bytes × FileDescriptor) := do
  let (sourceAddress, payload) ← systemCall "recvfrom" answer
  if mtu < payload.length then .error (.runtime "recvfrom (oversized datagram)")
  else return (sourceAddress, payload, sock.registerRead)

/-- `UDPSocket::sendto`: sends a datagram whole, or fails. -/
def sendto (sock : FileDescriptor) (payload : BufferList) (answer : SysResult Nat) :
    Except Failure (Bytes × FileDescriptor) := do
  let bytesSent ← systemCall "sendmsg" answer
  if bytesSent ≠ payload.size then .error (.runtime "datagram payload too big for sendmsg()")
  else return (payload.concatenate, sock.registerWrite)

/-- Takes a segment out of a datagram, if it is valid and for this connection. -/
def filter (adapter : TCPOverUDPSocketAdapter) (sourceAddress : Address) (payload : Bytes) :
    Option TCPSegment × TCPOverUDPSocketAdapter :=
  if !adapter.listen && sourceAddress != adapter.cfg.destination then (none, adapter)
  else
    let (result, seg) := TCPSegment.parse {} payload 0
    if result ≠ .noError then (none, adapter)
    else if adapter.listen then
      -- The first SYN fixes the target of all future replies.
      if seg.header.syn && !seg.header.rst then
        (some seg, { adapter with
          cfg := { adapter.cfg with destination := sourceAddress }
          listen := false })
      else (none, adapter)
    else (some seg, adapter)

/-- Receives the next datagram, and reads a segment from it. -/
def read (adapter : TCPOverUDPSocketAdapter) (answer : SysResult (Address × Bytes)) :
    Except Failure (Option TCPSegment × List Bytes × TCPOverUDPSocketAdapter) := do
  let (sourceAddress, payload, sock) ← recv adapter.sock answer
  let (seg, adapter) := filter { adapter with sock } sourceAddress payload
  return (seg, [], adapter)

/-- Serializes a segment and sends it as the payload of a datagram. -/
def write (adapter : TCPOverUDPSocketAdapter) (seg : TCPSegment) (answer : SysResult Nat) :
    Except Failure (List Bytes × TCPOverUDPSocketAdapter) := do
  let seg := { seg with header := { seg.header with
    sport := adapter.cfg.source.port, dport := adapter.cfg.destination.port } }
  let payload ← ofPacket (seg.serialize 0)
  let (sent, sock) ← sendto adapter.sock payload answer
  return ([sent], { adapter with sock })

instance : FdAdapter TCPOverUDPSocketAdapter (SysResult (Address × Bytes)) (SysResult Nat) where
  fd adapter := adapter.sock
  payload answer := match answer with
    | .returned (_, payload) => some payload
    | .failed _ => none
  read := read
  write := write
  tick adapter _ _ := .ok ([], adapter)
  config adapter := adapter.cfg
  setConfig adapter cfg := { adapter with cfg }
  setListening adapter listen := { adapter with listen }

end TCPOverUDPSocketAdapter

/-- The largest value of a `size_t`, the default limit of a read. -/
def sizeMax : Nat := 2 ^ 64 - 1

/-- An adapter for IPv4 datagrams read from and written to a TUN device. -/
structure TCPOverIPv4OverTunFdAdapter where
  /-- The converter between segments and datagrams. -/
  base : TCPOverIPv4Adapter := {}
  /-- The TUN device. -/
  tun : FileDescriptor := {}
deriving DecidableEq, Repr

namespace TCPOverIPv4OverTunFdAdapter

/-- Reads a datagram, and takes out of it a segment for this connection. -/
def read (adapter : TCPOverIPv4OverTunFdAdapter) (answer : SysResult Bytes) :
    Except Failure (Option TCPSegment × List Bytes × TCPOverIPv4OverTunFdAdapter) := do
  let (data, tun) ← adapter.tun.read sizeMax answer
  let adapter := { adapter with tun }
  let (result, ipDgram) := IPv4Datagram.parse {} data
  if result ≠ .noError then return (none, [], adapter)
  let (seg, base) ← ofPacket (adapter.base.unwrapTcpInIp ipDgram)
  return (seg, [], { adapter with base })

/-- Creates a datagram from a segment and writes it to the device. -/
def write (adapter : TCPOverIPv4OverTunFdAdapter) (seg : TCPSegment) (answer : SysResult Unit) :
    Except Failure (List Bytes × TCPOverIPv4OverTunFdAdapter) := do
  let ipDgram ← ofPacket (adapter.base.wrapTcpInIp seg).2
  let packet ← ofPacket ipDgram.serialize
  let (sent, tun) ← adapter.tun.writePacket packet answer
  return ([sent], { adapter with tun })

instance : FdAdapter TCPOverIPv4OverTunFdAdapter (SysResult Bytes) (SysResult Unit) where
  fd adapter := adapter.tun
  payload answer := match answer with
    | .returned data => some data
    | .failed _ => none
  read := read
  write := write
  tick adapter _ _ := .ok ([], adapter)
  config adapter := adapter.base.cfg
  setConfig adapter cfg := { adapter with base := { adapter.base with cfg } }
  setListening adapter listen := { adapter with base := { adapter.base with listen } }

end TCPOverIPv4OverTunFdAdapter

/-- An adapter for IPv4 datagrams in Ethernet frames read from and written to a TAP device. -/
structure TCPOverIPv4OverEthernetAdapter where
  /-- The converter between segments and datagrams. -/
  base : TCPOverIPv4Adapter := {}
  /-- The raw Ethernet connection. -/
  tap : FileDescriptor := {}
  /-- The network interface. -/
  interface : NetworkInterface
  /-- The IP address of the next hop. -/
  nextHop : UInt32

namespace TCPOverIPv4OverEthernetAdapter

/-- Sends frames one after another; the kernel answers each of the writes. -/
def sendFrames : List EthernetFrame → (answers : Nat → SysResult Unit) → FileDescriptor →
    Except Failure (List Bytes × FileDescriptor)
  | [], _, tap => .ok ([], tap)
  | frame :: frames, answers, tap => do
    let (sent, tap) ← tap.writePacket frame.serialize (answers 0)
    let (rest, tap) ← sendFrames frames (fun later => answers (later + 1)) tap
    return (sent :: rest, tap)

/-- Sends the frames that the interface has ready. -/
def sendPending (adapter : TCPOverIPv4OverEthernetAdapter) (answers : Nat → SysResult Unit) :
    Except Failure (List Bytes × TCPOverIPv4OverEthernetAdapter) := do
  let (sent, tap) ← sendFrames adapter.interface.framesOut answers adapter.tap
  return (sent, { adapter with tap, interface := { adapter.interface with framesOut := [] } })

/-- Constructs the adapter; the first frame sent on a TAP device is ignored, so it is a dummy. -/
def new (ethAddress : EthernetAddress) (ipAddress nextHop : UInt32) (answer : SysResult Unit) :
    Except Failure (List Bytes × TCPOverIPv4OverEthernetAdapter) := do
  let dummyFrame : EthernetFrame := {}
  let (sent, tap) ← FileDescriptor.writePacket {} dummyFrame.serialize answer
  return ([sent], {
    tap, nextHop
    interface := { ethernetAddress := ethAddress, ipAddress } })

/-- Reads a frame, gives it to the interface, and takes a segment out of the datagram in it. -/
def read (adapter : TCPOverIPv4OverEthernetAdapter)
    (answer : SysResult Bytes × (Nat → SysResult Unit)) :
    Except Failure (Option TCPSegment × List Bytes × TCPOverIPv4OverEthernetAdapter) := do
  let (data, tap) ← adapter.tap.read sizeMax answer.1
  let adapter := { adapter with tap }
  let (result, frame) := EthernetFrame.parse {} data
  if result ≠ .noError then return (none, [], adapter)
  let (interface, received) := adapter.interface.recvFrame frame
  let ipDgram ← ofPacket received
  -- The interface may have something to send because of the frame.
  let (sent, adapter) ← sendPending { adapter with interface } answer.2
  match ipDgram with
  | none => return (none, sent, adapter)
  | some ipDgram => do
    let (seg, base) ← ofPacket (adapter.base.unwrapTcpInIp ipDgram)
    return (seg, sent, { adapter with base })

/-- Lets time pass at the interface. -/
def tick (adapter : TCPOverIPv4OverEthernetAdapter) (msSinceLastTick : Nat)
    (answers : Nat → SysResult Unit) :
    Except Failure (List Bytes × TCPOverIPv4OverEthernetAdapter) := do
  let interface ← ofPacket (adapter.interface.tick msSinceLastTick)
  sendPending { adapter with interface } answers

/-- Sends a segment in a datagram to the next hop. -/
def write (adapter : TCPOverIPv4OverEthernetAdapter) (seg : TCPSegment)
    (answers : Nat → SysResult Unit) :
    Except Failure (List Bytes × TCPOverIPv4OverEthernetAdapter) := do
  let ipDgram ← ofPacket (adapter.base.wrapTcpInIp seg).2
  let (interface, result) := adapter.interface.sendDatagram ipDgram adapter.nextHop
  let () ← ofPacket result
  sendPending { adapter with interface } answers

instance : FdAdapter TCPOverIPv4OverEthernetAdapter (SysResult Bytes × (Nat → SysResult Unit))
    (Nat → SysResult Unit) where
  fd adapter := adapter.tap
  payload answer := match answer.1 with
    | .returned data => some data
    | .failed _ => none
  read := read
  write := write
  tick := tick
  config adapter := adapter.base.cfg
  setConfig adapter cfg := { adapter with base := { adapter.base with cfg } }
  setListening adapter listen := { adapter with base := { adapter.base with listen } }

end TCPOverIPv4OverEthernetAdapter

/-- An adapter that drops some of what another adapter reads and writes. -/
structure LossyFdAdapter (α : Type) where
  /-- The underlying adapter. -/
  adapter : α

namespace LossyFdAdapter

variable {α ρ υ : Type} [FdAdapter α ρ υ]

/-- Whether a datagram is dropped, for a number that was drawn at random. -/
def shouldDrop (lossy : LossyFdAdapter α) (uplink : Bool) (draw : UInt16) : Bool :=
  let cfg := FdAdapter.config lossy.adapter
  let loss := if uplink then cfg.lossRateUp else cfg.lossRateDn
  loss != 0 && decide (draw < loss)

/-- Reads from the underlying adapter, and perhaps drops what was read. -/
def read (lossy : LossyFdAdapter α) (answer : ρ × UInt16) :
    Except Failure (Option TCPSegment × List Bytes × LossyFdAdapter α) := do
  let (seg, sent, adapter) ← FdAdapter.read lossy.adapter answer.1
  let lossy : LossyFdAdapter α := { adapter }
  -- The underlying adapter has seen the datagram, even if it is dropped now.
  if lossy.shouldDrop false answer.2 then return (none, sent, lossy)
  else return (seg, sent, lossy)

/-- Writes to the underlying adapter, unless the segment is dropped. -/
def write (lossy : LossyFdAdapter α) (seg : TCPSegment) (answer : υ × UInt16) :
    Except Failure (List Bytes × LossyFdAdapter α) :=
  if lossy.shouldDrop true answer.2 then .ok ([], lossy)
  else do
    let (sent, adapter) ← FdAdapter.write lossy.adapter seg answer.1
    return (sent, { adapter })

instance : FdAdapter (LossyFdAdapter α) (ρ × UInt16) (υ × UInt16) where
  fd lossy := FdAdapter.fd lossy.adapter
  payload answer := FdAdapter.payload α answer.1
  read := read
  write := write
  tick lossy ms answer := do
    let (sent, adapter) ← FdAdapter.tick lossy.adapter ms answer.1
    return (sent, { adapter })
  config lossy := FdAdapter.config lossy.adapter
  setConfig lossy cfg := { adapter := FdAdapter.setConfig lossy.adapter cfg }
  setListening lossy listen := { adapter := FdAdapter.setListening lossy.adapter listen }

end LossyFdAdapter

end Sponge
