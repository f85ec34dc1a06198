import Sponge.Lib.Observed
import Sponge.Net.InterfaceLaws

/-! A router: several network interfaces and the routes between them. -/

namespace Sponge

/-- A network interface that stores the datagrams it receives. -/
structure AsyncNetworkInterface where
  /-- The interface. -/
  interface : NetworkInterface
  /-- The datagrams that have been received. -/
  datagramsOut : List IPv4Datagram := []

/-- Receives a frame, and stores the datagram that it holds. -/
def AsyncNetworkInterface.recvFrame (async : AsyncNetworkInterface) (frame : EthernetFrame) :
    AsyncNetworkInterface × Except Exception Unit :=
  match async.interface.recvFrame frame with
  | (interface, .error thrown) => ({ async with interface }, .error thrown)
  | (interface, .ok none) => ({ async with interface }, .ok ())
  | (interface, .ok (some dgram)) =>
    ({ interface, datagramsOut := async.datagramsOut ++ [dgram] }, .ok ())

/-- A forwarding rule, as it is added to a router. -/
structure Route where
  /-- The prefix to match destinations against. -/
  routePrefix : UInt32
  /-- How many of its high-order bits count. -/
  prefixLength : UInt8
  /-- The next hop, unless the network is directly attached. -/
  nextHop : Option UInt32
  /-- The interface to send on. -/
  interfaceNum : Nat
deriving DecidableEq, Repr

/-- A call of `send_datagram` on an interface of a router. -/
structure SendCall where
  /-- The interface. -/
  itf : Nat
  /-- The datagram that is sent. -/
  dgram : IPv4Datagram
  /-- The next hop. -/
  nextHop : UInt32
deriving DecidableEq, Repr

/-- Makes the call on the interface, and tells an observer of it. -/
def SendCall.perform {m : Type → Type} [Monad m] (trace : SendCall → m PUnit) (call : SendCall)
    (interface : NetworkInterface) : m (NetworkInterface × Except Exception Unit) := do
  trace call
  return interface.sendDatagram call.dgram call.nextHop

/-- A router. -/
structure Router where
  /-- The interfaces. -/
  interfaces : List AsyncNetworkInterface := []
  /-- For each prefix, its length. -/
  lenMap : HashMap UInt32 UInt8 := ∅
  /-- For each prefix with a gateway, the gateway. -/
  gwMap : HashMap UInt32 UInt32 := ∅
  /-- For each prefix, its interface. -/
  itfMap : HashMap UInt32 Nat := ∅

namespace Router

/-- Adds a route. -/
def addRoute (router : Router) (route : Route) : Router :=
  { router with
    lenMap := router.lenMap.insert route.routePrefix route.prefixLength
    itfMap := router.itfMap.insert route.routePrefix route.interfaceNum
    gwMap := match route.nextHop with
      | none => router.gwMap
      | some nextHop => router.gwMap.insert route.routePrefix nextHop }

/-- An entry of the table of prefix lengths. -/
abbrev LenEntry := Sigma fun _ : UInt32 => UInt8

/-- The best route met so far. -/
structure Choice where
  /-- The length of its prefix. -/
  mLength : UInt8 := 0
  /-- Its interface. -/
  itf : Nat := 0
  /-- Its next hop. -/
  nextHop : UInt32 := 2873314305
deriving DecidableEq, Repr

/-- Whether the high-order bits of an address are those of an entry. -/
def LenEntry.matches (entry : LenEntry) (addr : UInt32) : Bool :=
  -- For length zero the shift is not defined, but such an entry is never longer than the best.
  let shift := UInt32.ofNat (32 - entry.2.toNat)
  addr >>> shift == entry.1 >>> shift

/-- The choice of an entry's route. -/
def chosen (router : Router) (addr : UInt32) (entry : LenEntry) : Choice where
  mLength := entry.2
  itf := (router.itfMap.lookup entry.1).getD 0
  nextHop := (router.gwMap.lookup entry.1).getD addr

/-- One turn over the table: a longer match replaces the best so far. -/
def consider (router : Router) (addr : UInt32) (best : Choice) (entry : LenEntry) : Choice :=
  if LenEntry.matches entry addr ∧ best.mLength < entry.2 then router.chosen addr entry else best

/-- The interface and the next hop for an address, with the table scanned in the given order. -/
def choose (router : Router) (order : List LenEntry) (addr : UInt32) : Choice :=
  order.foldl (router.consider addr) {}

/-- A datagram with its time to live reduced by one. -/
def hopped (dgram : IPv4Datagram) : IPv4Datagram :=
  { dgram with header := { dgram.header with ttl := dgram.header.ttl - 1 } }

/-- Replaces the datagrams received by an interface. -/
def setQueue (router : Router) (index : Nat) (queue : List IPv4Datagram) : Router :=
  { router with interfaces := router.interfaces.modify index fun async =>
      { async with datagramsOut := queue } }

section Routing

-- An observer hears of each call of `send_datagram` when it is made.
variable {m : Type → Type} [Monad m] (trace : SendCall → m PUnit)

/-- Sends a datagram on an interface. -/
def forwardWith (router : Router) (itf : Nat) (dgram : IPv4Datagram) (nextHop : UInt32) :
    m (Router × Except Exception Unit) :=
  match router.interfaces[itf]? with
  | none => return (router, .error .outOfRange)
  | some async => do
    let (interface, result) ← SendCall.perform trace ⟨itf, dgram, nextHop⟩ async.interface
    return ({ router with interfaces := router.interfaces.set itf { async with interface } }, result)

/-- Routes a datagram: the datagram and the router after the call, and how the call ended. -/
def routeOneDatagramWith (router : Router) (order : List LenEntry) (dgram : IPv4Datagram) :
    m (IPv4Datagram × Router × Except Exception Unit) :=
  let best := router.choose order dgram.header.dst
  if (dgram.header.ttl.toNat : Int) - 1 ≤ 0 then return (dgram, router, .ok ())
  else do
    let outcome ← router.forwardWith trace best.itf (hopped dgram) best.nextHop
    return (hopped dgram, outcome)

/-- Routes the datagrams received by an interface, each removed after it is routed. -/
def routeQueueWith (order : List LenEntry) (index : Nat) :
    List IPv4Datagram → Router → m (Router × Except Exception Unit)
  | [], router => return (router, .ok ())
  | dgram :: queue, router => do
    match ← router.routeOneDatagramWith trace order dgram with
    -- The datagram that caused the exception stays at the head of the queue, as it is then.
    | (dgram, router, .error thrown) =>
      return (router.setQueue index (dgram :: queue), .error thrown)
    | (_, router, .ok ()) => routeQueueWith order index queue (router.setQueue index queue)

/-- Routes the datagrams of several interfaces in turn. -/
def routeInterfacesWith (order : List LenEntry) :
    List Nat → Router → m (Router × Except Exception Unit)
  | [], router => return (router, .ok ())
  | index :: rest, router => do
    let queue := (router.interfaces[index]?.map AsyncNetworkInterface.datagramsOut).getD []
    match ← routeQueueWith trace order index queue router with
    | (router, .error thrown) => return (router, .error thrown)
    | (router, .ok ()) => routeInterfacesWith order rest router

/-- Routes every datagram received, interface by interface. -/
def routeWith (router : Router) (order : List LenEntry) : m (Router × Except Exception Unit) :=
  routeInterfacesWith trace order (List.range router.interfaces.length) router

end Routing

/-- Sends a datagram on an interface. -/
def forward (router : Router) (itf : Nat) (dgram : IPv4Datagram) (nextHop : UInt32) :
    Router × Except Exception Unit :=
  Observable.result fun _ _ trace => router.forwardWith trace itf dgram nextHop

/-- Routing a datagram, for whoever watches. -/
def routingOne (router : Router) (order : List LenEntry) (dgram : IPv4Datagram) :
    Observable SendCall (IPv4Datagram × Router × Except Exception Unit) :=
  fun _ _ trace => router.routeOneDatagramWith trace order dgram

/-- Routes a datagram: the datagram and the router after the call, and how the call ended. -/
def routeOneDatagram (router : Router) (order : List LenEntry) (dgram : IPv4Datagram) :
    IPv4Datagram × Router × Except Exception Unit :=
  (router.routingOne order dgram).result

/-- The calls of `send_datagram` that routing a datagram makes. -/
def sendCalls (router : Router) (order : List LenEntry) (dgram : IPv4Datagram) : List SendCall :=
  (router.routingOne order dgram).noted.2

/-- Routes the datagrams received by an interface, each removed after it is routed. -/
def routeQueue (order : List LenEntry) (index : Nat) (queue : List IPv4Datagram)
    (router : Router) : Router × Except Exception Unit :=
  Observable.result fun _ _ trace => routeQueueWith trace order index queue router

/-- Routes the datagrams of several interfaces in turn. -/
def routeInterfaces (order : List LenEntry) (indices : List Nat) (router : Router) :
    Router × Except Exception Unit :=
  Observable.result fun _ _ trace => routeInterfacesWith trace order indices router

/-- Routing everything, for whoever watches. -/
def routing (router : Router) (order : List LenEntry) :
    Observable SendCall (Router × Except Exception Unit) :=
  fun _ _ trace => router.routeWith trace order

/-- Routes every datagram received, interface by interface. -/
def route (router : Router) (order : List LenEntry) : Router × Except Exception Unit :=
  (router.routing order).result

section Equations

variable (router : Router) (order : List LenEntry)

/-- Without an interface of that number nothing is sent. -/
theorem forward_outside {itf : Nat} (outside : router.interfaces[itf]? = none)
    (dgram : IPv4Datagram) (nextHop : UInt32) :
    router.forward itf dgram nextHop = (router, .error .outOfRange) := by
  rw [forward, Observable.result, forwardWith, outside]
  rfl

/-- The interface is replaced by the one after the call. -/
theorem forward_inside {itf : Nat} {async : AsyncNetworkInterface}
    (inside : router.interfaces[itf]? = some async) (dgram : IPv4Datagram) (nextHop : UInt32) :
    router.forward itf dgram nextHop =
      ({ router with interfaces := router.interfaces.set itf { async with
          interface := (async.interface.sendDatagram dgram nextHop).1 } },
        (async.interface.sendDatagram dgram nextHop).2) := by
  rw [forward, Observable.result, forwardWith, inside]
  rfl

/-- A datagram without time left is not sent. -/
theorem routeOneDatagram_expired {dgram : IPv4Datagram} (expired : dgram.header.ttl.toNat ≤ 1) :
    router.routeOneDatagram order dgram = (dgram, router, .ok ()) := by
  rw [routeOneDatagram, Observable.result, routingOne, routeOneDatagramWith, if_pos (by omega)]
  rfl

/-- A datagram with time left is sent on the interface chosen for it. -/
theorem routeOneDatagram_alive {dgram : IPv4Datagram} (alive : 2 ≤ dgram.header.ttl.toNat) :
    router.routeOneDatagram order dgram =
      (hopped dgram, router.forward (router.choose order dgram.header.dst).itf (hopped dgram)
        (router.choose order dgram.header.dst).nextHop) := by
  rw [routeOneDatagram, Observable.result, routingOne, routeOneDatagramWith, if_neg (by omega)]
  rfl

/-- A datagram with time left is the subject of one call, if the chosen interface exists. -/
theorem sendCalls_alive {dgram : IPv4Datagram} (alive : 2 ≤ dgram.header.ttl.toNat) :
    router.sendCalls order dgram =
      if (router.choose order dgram.header.dst).itf < router.interfaces.length then
        [⟨(router.choose order dgram.header.dst).itf, hopped dgram,
          (router.choose order dgram.header.dst).nextHop⟩]
      else [] := by
  rw [sendCalls, Observable.noted, routingOne, routeOneDatagramWith, if_neg (by omega)]
  -- Looking up an interface that does not exist throws before the call.
  by_cases inside : (router.choose order dgram.header.dst).itf < router.interfaces.length
  · rw [if_pos inside]
    simp only [forwardWith, List.getElem?_eq_getElem inside]
    rfl
  · rw [if_neg inside]
    simp only [forwardWith, List.getElem?_eq_none (Nat.not_lt.mp inside)]
    rfl

/-- A queue is routed from its head. -/
theorem routeQueue_cons (index : Nat) (dgram : IPv4Datagram) (queue : List IPv4Datagram) :
    routeQueue order index (dgram :: queue) router =
      match router.routeOneDatagram order dgram with
      | (dgram, router, .error thrown) => (router.setQueue index (dgram :: queue), .error thrown)
      | (_, router, .ok ()) => routeQueue order index queue (router.setQueue index queue) := by
  rw [routeQueue, Observable.result, routeQueueWith, routeOneDatagram]
  rfl

/-- The queues are routed in turn. -/
theorem routeInterfaces_cons (index : Nat) (rest : List Nat) :
    routeInterfaces order (index :: rest) router =
      match routeQueue order index
        ((router.interfaces[index]?.map AsyncNetworkInterface.datagramsOut).getD []) router with
      | (router, .error thrown) => (router, .error thrown)
      | (router, .ok ()) => routeInterfaces order rest router := by
  rw [routeInterfaces, Observable.result, routeInterfacesWith, routeQueue]
  rfl

end Equations

end Router

end Sponge
