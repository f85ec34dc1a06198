import Sponge.Lib.HashMap
import Sponge.Lib.Word
import Sponge.Wire.Ethernet
import Sponge.Wire.IPv4

/-! A network interface: IPv4 datagrams over Ethernet, with addresses resolved by ARP. -/

namespace Sponge

/-- A network interface. -/
structure NetworkInterface where
  /-- The Ethernet address of the interface. -/
  ethernetAddress : EthernetAddress
  /-- The IP address of the interface. -/
  ipAddress : UInt32
  /-- The frames that are to be transmitted. -/
  framesOut : List EthernetFrame := []
  /-- For each IP address, the time since ARP was last asked about it. -/
  sinceLastSent : HashMap UInt32 Nat := ∅
  /-- For each IP address in the cache, the age of its mapping. -/
  cacheTime : HashMap UInt32 Nat := ∅
  /-- The mappings from IP addresses to Ethernet addresses. -/
  cache : HashMap UInt32 EthernetAddress := ∅
  /-- For each IP address, the datagrams that wait for its mapping. -/
  datagrams : HashMap UInt32 (List IPv4Datagram) := ∅

namespace NetworkInterface

/-- Pushes a frame of the interface onto the outbound queue. -/
def push (itf : NetworkInterface) (dst : EthernetAddress) (type : UInt16) (payload : BufferList) :
    NetworkInterface :=
  { itf with framesOut := itf.framesOut ++ [⟨⟨dst, itf.ethernetAddress, type⟩, payload⟩] }

/-- Whether ARP has not been asked about an address for five seconds. -/
def requestDue (itf : NetworkInterface) (nextHopIp : UInt32) : Bool :=
  match itf.sinceLastSent.lookup nextHopIp with
  | none => true
  | some elapsed => 5000 ≤ elapsed

/-- The request for the mapping of an address. -/
def arpRequest (itf : NetworkInterface) (nextHopIp : UInt32) : ARPMessage :=
  { opcode := ARPMessage.opcodeRequest
    senderIpAddress := itf.ipAddress, senderEthernetAddress := itf.ethernetAddress
    targetIpAddress := nextHopIp }

/-- Puts a datagram at the front of the waiting list of its next hop. -/
def enqueue (itf : NetworkInterface) (nextHopIp : UInt32) (dgram : IPv4Datagram) :
    NetworkInterface :=
  { itf with datagrams :=
      itf.datagrams.insert nextHopIp (dgram :: (itf.datagrams.lookup nextHopIp).getD []) }

/-- Sends a datagram to the next hop: the state after the call, and how the call ended. -/
def sendDatagram (itf : NetworkInterface) (dgram : IPv4Datagram) (nextHopIp : UInt32) :
    NetworkInterface × Except Exception Unit :=
  match itf.cache.lookup nextHopIp with
  | some dst =>
    match dgram.serialize with
    | .error thrown => (itf, .error thrown)
    | .ok payload => (itf.push dst EthernetHeader.typeIPv4 payload, .ok ())
  | none =>
    if itf.requestDue nextHopIp then
      let itf := { itf with sinceLastSent := itf.sinceLastSent.insert nextHopIp 0 }
      match (itf.arpRequest nextHopIp).serialize with
      | .error thrown => (itf, .error thrown)
      | .ok payload =>
        let itf := itf.push .broadcast EthernetHeader.typeARP (.ofBuffer payload)
        (itf.enqueue nextHopIp dgram, .ok ())
    -- While a request is recent, the datagram is kept nowhere.
    else (itf, .ok ())

/-- Sends datagrams to a known address, front to back. -/
def flush (dst : EthernetAddress) :
    List IPv4Datagram → NetworkInterface → NetworkInterface × Except Exception Unit
  | [], itf => (itf, .ok ())
  | dgram :: wait, itf =>
    match dgram.serialize with
    | .error thrown => (itf, .error thrown)
    | .ok payload => flush dst wait (itf.push dst EthernetHeader.typeIPv4 payload)

/-- Sends the datagrams that wait for an address, and forgets them once all are sent. -/
def sendWaiting (itf : NetworkInterface) (ip : UInt32) (dst : EthernetAddress) :
    NetworkInterface × Except Exception Unit :=
  match itf.datagrams.lookup ip with
  | none => (itf, .ok ())
  | some wait =>
    match flush dst wait itf with
    | (itf, .error thrown) => (itf, .error thrown)
    | (itf, .ok ()) => ({ itf with datagrams := itf.datagrams.erase ip }, .ok ())

/-- The reply to a request. -/
def arpReply (itf : NetworkInterface) (am : ARPMessage) : ARPMessage :=
  { opcode := ARPMessage.opcodeReply
    senderIpAddress := itf.ipAddress, senderEthernetAddress := itf.ethernetAddress
    targetIpAddress := am.senderIpAddress, targetEthernetAddress := am.senderEthernetAddress }

/-- Answers a request for the mapping of the interface's own address. -/
def answer (itf : NetworkInterface) (am : ARPMessage) :
    NetworkInterface × Except Exception Unit :=
  if am.opcode = ARPMessage.opcodeRequest ∧ am.targetIpAddress = itf.ipAddress then
    match (itf.arpReply am).serialize with
    | .error thrown => (itf, .error thrown)
    | .ok payload =>
      (itf.push am.senderEthernetAddress EthernetHeader.typeARP (.ofBuffer payload), .ok ())
  else (itf, .ok ())

/-- Records the mapping of the sender of a message. -/
def learn (itf : NetworkInterface) (am : ARPMessage) : NetworkInterface :=
  { itf with
    cache := itf.cache.insert am.senderIpAddress am.senderEthernetAddress
    cacheTime := itf.cacheTime.insert am.senderIpAddress 0 }

/-- Takes in an ARP message: learns from it, sends what waited for it, and answers it. -/
def handleArp (itf : NetworkInterface) (am : ARPMessage) :
    NetworkInterface × Except Exception Unit :=
  match (itf.learn am).sendWaiting am.senderIpAddress am.senderEthernetAddress with
  | (itf, .error thrown) => (itf, .error thrown)
  | (itf, .ok ()) => itf.answer am

/-- Receives a frame: the state after the call, and the datagram it returned or what it threw. -/
def recvFrame (itf : NetworkInterface) (frame : EthernetFrame) :
    NetworkInterface × Except Exception (Option IPv4Datagram) :=
  if !(frame.header.dst == .broadcast || frame.header.dst == itf.ethernetAddress) then
    (itf, .ok none)
  else
    match frame.payload.toBuffer with
    | .error thrown => (itf, .error thrown)
    | .ok buffer =>
      if frame.header.type = EthernetHeader.typeIPv4 then
        let (result, dgram) := IPv4Datagram.parse {} buffer
        (itf, .ok (if result = .noError then some dgram else none))
      -- Every other type is taken for ARP.
      else
        let (result, am) := ARPMessage.parse {} buffer
        if result ≠ .noError then (itf, .ok none)
        else
          match itf.handleArp am with
          | (itf, .error thrown) => (itf, .error thrown)
          | (itf, .ok ()) => (itf, .ok none)

/-- The age of an entry after some time, unless it has then reached the limit. -/
def age (limit ms : Nat) (elapsed : Nat) : Option Nat :=
  if limit ≤ add64 elapsed ms then none else some (add64 elapsed ms)

/-- One turn over the ages of the mappings, which erases the mapping if it has expired. -/
def expire (ms : Nat) (cache : HashMap UInt32 EthernetAddress)
    (entry : Sigma fun _ : UInt32 => Nat) : Except Exception (HashMap UInt32 EthernetAddress) :=
  match age 30000 ms entry.2 with
  | some _ => .ok cache
  | none =>
    -- Erasing at the end of the map is not defined.
    match cache.lookup entry.1 with
    | none => .error .eraseEnd
    | some _ => .ok (cache.erase entry.1)

/-- Lets time pass. -/
def tick (itf : NetworkInterface) (ms : Nat) : Except Exception NetworkInterface := do
  let cache ← itf.cacheTime.entries.foldlM (expire ms) itf.cache
  return { itf with
    cache
    cacheTime := HashMap.updateAll (age 30000 ms) itf.cacheTime
    sinceLastSent := HashMap.updateAll (age 5000 ms) itf.sinceLastSent }

end NetworkInterface

end Sponge
