import Sponge.Lib.Runs
import Sponge.Net.RouteRule
import Sponge.Net.Trust

/-! Hosts and routers on wires that lose, repeat and delay frames: whatever arrives anywhere has
followed the routes, and no call throws. -/

namespace Sponge

/-- The addresses of an interface. -/
structure Station where
  /-- Its Ethernet address. -/
  ethernetAddress : EthernetAddress
  /-- Its IP address. -/
  ipAddress : UInt32
deriving DecidableEq

/-- A new interface with these addresses. -/
def Station.interface (station : Station) : AsyncNetworkInterface where
  interface := { ethernetAddress := station.ethernetAddress, ipAddress := station.ipAddress }

/-- A host, as it is set up. -/
structure HostPlan where
  /-- The addresses of its interface. -/
  station : Station
  /-- The next hop of everything it sends. -/
  nextHop : UInt32

/-- A router, as it is set up. -/
structure RouterPlan where
  /-- The addresses of its interfaces. -/
  stations : List Station
  /-- The routes that are added. -/
  routes : List Route

/-- The router that is set up. -/
def RouterPlan.router (plan : RouterPlan) : Router :=
  RouterHistory.built (plan.stations.map Station.interface) plan.routes

/-- The routes of a router have a length, and no two of them contradict each other. -/
structure RouterPlan.Orderly (plan : RouterPlan) : Prop where
  /-- The lengths are those of an address. -/
  lengths : ∀ route ∈ plan.routes, 1 ≤ route.prefixLength.toNat ∧ route.prefixLength.toNat ≤ 32
  /-- The routes are distinct. -/
  distinct : Throughout RouterHistory.step RouterHistory.Distinct
    (RouterHistory.start (plan.stations.map Station.interface)) plan.routes

instance (plan : RouterPlan) : Decidable plan.Orderly :=
  decidable_of_iff
    ((∀ route ∈ plan.routes, 1 ≤ route.prefixLength.toNat ∧ route.prefixLength.toNat ≤ 32) ∧
      Throughout RouterHistory.step RouterHistory.Distinct
        (RouterHistory.start (plan.stations.map Station.interface)) plan.routes)
    ⟨fun ⟨lengths, distinct⟩ => ⟨lengths, distinct⟩, fun ⟨lengths, distinct⟩ => ⟨lengths, distinct⟩⟩

/-- An interface of the network. -/
inductive Port where
  /-- The interface of a host. -/
  | host (host : Nat)
  /-- An interface of a router. -/
  | router (router index : Nat)
deriving DecidableEq, Repr

/-- How a network is set up, and which wire each interface is connected to. -/
structure Layout where
  /-- The hosts. -/
  hosts : List HostPlan
  /-- The routers. -/
  routers : List RouterPlan
  /-- The wires. -/
  wire : Port → Nat

namespace Layout

/-- The addresses of an interface. -/
def station (layout : Layout) : Port → Option Station
  | .host host => layout.hosts[host]?.map HostPlan.station
  | .router router index => layout.routers[router]?.bind fun plan => plan.stations[index]?

/-- All interfaces. -/
def stations (layout : Layout) : List (Port × Station) :=
  layout.hosts.zipIdx.map (fun (plan, host) => (.host host, plan.station)) ++
    layout.routers.zipIdx.flatMap fun (plan, router) =>
      plan.stations.zipIdx.map fun (station, index) => (.router router index, station)

/-- Every interface is listed. -/
theorem mem_stations {layout : Layout} {port : Port} {station : Station}
    (found : layout.station port = some station) : (port, station) ∈ layout.stations := by
  unfold Layout.station at found
  unfold stations
  cases port with
  | host host =>
    -- The interface of a host.
    obtain ⟨plan, looked, rfl⟩ := Option.map_eq_some_iff.mp found
    apply List.mem_append_left
    exact List.mem_map.mpr ⟨(plan, host), List.mk_mem_zipIdx_iff_getElem?.mpr looked, rfl⟩
  | router router index =>
    -- An interface of a router.
    obtain ⟨plan, looked, inside⟩ := Option.bind_eq_some_iff.mp found
    apply List.mem_append_right
    refine List.mem_flatMap.mpr ⟨(plan, router), List.mk_mem_zipIdx_iff_getElem?.mpr looked, ?_⟩
    exact List.mem_map.mpr ⟨(station, index), List.mk_mem_zipIdx_iff_getElem?.mpr inside, rfl⟩

/-- Somebody on a wire has an IP address together with an Ethernet address. -/
def Owns (layout : Layout) (wire : Nat) (ip : UInt32) (ethernet : EthernetAddress) : Prop :=
  ∃ port, layout.station port = some ⟨ethernet, ip⟩ ∧ layout.wire port = wire

/-- A network that is set up soundly. -/
structure Sound (layout : Layout) : Prop where
  /-- No interface has the broadcast address. -/
  unicast : ∀ entry ∈ layout.stations, entry.2.ethernetAddress ≠ .broadcast
  /-- Who shares an Ethernet address on a wire shares the IP address. -/
  distinct : ∀ entry ∈ layout.stations, ∀ other ∈ layout.stations,
    layout.wire entry.1 = layout.wire other.1 →
      entry.2.ethernetAddress = other.2.ethernetAddress → entry.2.ipAddress = other.2.ipAddress
  /-- Routers have an interface. -/
  interfaces : ∀ plan ∈ layout.routers, plan.stations ≠ []
  /-- Routes name existing interfaces. -/
  routes : ∀ plan ∈ layout.routers, ∀ route ∈ plan.routes,
    route.interfaceNum < plan.stations.length

instance (layout : Layout) : Decidable layout.Sound :=
  decidable_of_iff
    ((∀ entry ∈ layout.stations, entry.2.ethernetAddress ≠ .broadcast) ∧
      (∀ entry ∈ layout.stations, ∀ other ∈ layout.stations,
        layout.wire entry.1 = layout.wire other.1 →
          entry.2.ethernetAddress = other.2.ethernetAddress →
            entry.2.ipAddress = other.2.ipAddress) ∧
      (∀ plan ∈ layout.routers, plan.stations ≠ []) ∧
      ∀ plan ∈ layout.routers, ∀ route ∈ plan.routes, route.interfaceNum < plan.stations.length)
    ⟨fun ⟨unicast, distinct, interfaces, routes⟩ => ⟨unicast, distinct, interfaces, routes⟩,
      fun ⟨unicast, distinct, interfaces, routes⟩ => ⟨unicast, distinct, interfaces, routes⟩⟩

/-- What a datagram says after a hop. -/
def hop (content : IPv4Header × Bytes) : IPv4Header × Bytes :=
  ({ content.1 with ttl := content.1.ttl - 1 }, content.2)

/-- Where the datagrams that hosts have sent may be: on which wire, for which next hop, and behind
which routers. Nothing but the routes is left of the network here. -/
inductive Carried (layout : Layout) (submitted : List (Nat × IPv4Datagram)) :
    List Nat → Nat → UInt32 → IPv4Header × Bytes → Prop
  /-- A host sends to its next hop. -/
  | sent {host : Nat} {plan : HostPlan} {dgram : IPv4Datagram}
      (found : layout.hosts[host]? = some plan) (member : (host, dgram) ∈ submitted) :
      Carried layout submitted [] (layout.wire (.host host)) plan.nextHop dgram.content
  /-- A router sends what has arrived at one of its interfaces along the route it chooses. -/
  | forwarded {router index : Nat} {plan : RouterPlan} {station : Station} {path : List Nat}
      {content : IPv4Header × Bytes} {order : List Router.LenEntry}
      (found : layout.routers[router]? = some plan)
      (inside : plan.stations[index]? = some station)
      (carried : Carried layout submitted path (layout.wire (.router router index))
        station.ipAddress content)
      (scanned : order.Perm plan.router.lenMap.entries) (alive : 2 ≤ content.1.ttl.toNat) :
      Carried layout submitted (path ++ [router])
        (layout.wire (.router router (plan.router.choose order content.1.dst).itf))
        (plan.router.choose order content.1.dst).nextHop (hop content)

/-- A datagram stays where it may be when hosts send more. -/
theorem Carried.mono {layout : Layout} {submitted more : List (Nat × IPv4Datagram)}
    {path : List Nat} {wire : Nat} {ip : UInt32} {content : IPv4Header × Bytes}
    (carried : layout.Carried submitted path wire ip content) (subset : submitted ⊆ more) :
    layout.Carried more path wire ip content := by
  induction carried with
  | sent found member => exact .sent found (subset member)
  | forwarded found inside _ scanned alive ih => exact .forwarded found inside ih scanned alive

/-- Where the datagrams that hosts have sent should be, as the routes were meant: each router takes
the longest route that applies, of equally long ones the one added last. -/
inductive Routed (layout : Layout) (submitted : List (Nat × IPv4Datagram)) :
    List Nat → Nat → UInt32 → IPv4Header × Bytes → Prop
  /-- A host sends to its next hop. -/
  | sent {host : Nat} {plan : HostPlan} {dgram : IPv4Datagram}
      (found : layout.hosts[host]? = some plan) (member : (host, dgram) ∈ submitted) :
      Routed layout submitted [] (layout.wire (.host host)) plan.nextHop dgram.content
  /-- A router sends what has arrived at one of its interfaces along the best route. -/
  | forwarded {router index : Nat} {plan : RouterPlan} {station : Station} {path : List Nat}
      {content : IPv4Header × Bytes} {route : Route}
      (found : layout.routers[router]? = some plan)
      (inside : plan.stations[index]? = some station)
      (routed : Routed layout submitted path (layout.wire (.router router index))
        station.ipAddress content)
      (best : Route.Best plan.routes content.1.dst route) (alive : 2 ≤ content.1.ttl.toNat) :
      Routed layout submitted (path ++ [router]) (layout.wire (.router router route.interfaceNum))
        (route.nextHop.getD content.1.dst) (hop content)
  /-- What no route applies to goes to 171.67.76.1, over the first interface. -/
  | unmatched {router index : Nat} {plan : RouterPlan} {station : Station} {path : List Nat}
      {content : IPv4Header × Bytes}
      (found : layout.routers[router]? = some plan)
      (inside : plan.stations[index]? = some station)
      (routed : Routed layout submitted path (layout.wire (.router router index))
        station.ipAddress content)
      (none : ∀ route ∈ plan.routes, ¬ route.Matches content.1.dst)
      (alive : 2 ≤ content.1.ttl.toNat) :
      Routed layout submitted (path ++ [router]) (layout.wire (.router router 0)) 2873314305
        (hop content)

/-- If the routes are orderly, the choices of the routers are the intended ones. -/
theorem Carried.routed {layout : Layout} (orderly : ∀ plan ∈ layout.routers, plan.Orderly)
    {submitted : List (Nat × IPv4Datagram)} {path : List Nat} {wire : Nat} {ip : UInt32}
    {content : IPv4Header × Bytes} (carried : layout.Carried submitted path wire ip content) :
    layout.Routed submitted path wire ip content := by
  -- The induction follows the datagram from router to router.
  induction carried with
  | sent found member => exact .sent found member
  | @forwarded router index plan station path content order found inside _ scanned alive ih =>
    obtain ⟨lengths, distinct⟩ := orderly plan (List.mem_of_getElem? found)
    have recorded := RouterHistory.recorded_built (plan.stations.map Station.interface) plan.routes
    by_cases some : ∃ route ∈ plan.routes, route.Matches content.1.dst
    · -- Some route applies, and the scan leads where the best one does.
      obtain ⟨best, isBest⟩ := Route.exists_best some
      obtain ⟨itf, nextHop⟩ := recorded.choose_shown lengths scanned
        (RouterHistory.shown_of_distinct distinct isBest)
      rw [show (plan.router.choose order content.1.dst).itf = _ from itf,
        show (plan.router.choose order content.1.dst).nextHop = _ from nextHop]
      exact .forwarded found inside ih isBest alive
    · -- No route applies, and the scan ends with the fallback of the code.
      have none : ∀ route ∈ plan.routes, ¬ route.Matches content.1.dst :=
        fun route member applies => some ⟨route, member, applies⟩
      rw [show plan.router.choose order content.1.dst = _ from
        recorded.choose_unmatched lengths scanned none]
      exact .unmatched found inside ih none alive

/-- On its way a datagram loses one unit of its time to live at each router, and nothing else. -/
theorem Carried.origin {layout : Layout} {submitted : List (Nat × IPv4Datagram)}
    {path : List Nat} {wire : Nat} {ip : UInt32} {content : IPv4Header × Bytes}
    (carried : layout.Carried submitted path wire ip content) :
    ∃ host dgram, (host, dgram) ∈ submitted ∧
      content = ({ dgram.content.1 with ttl := content.1.ttl }, dgram.content.2) ∧
      content.1.ttl.toNat + path.length = dgram.header.ttl.toNat ∧
      (path ≠ [] → 1 ≤ content.1.ttl.toNat) := by
  -- Induction on the way of the datagram.
  induction carried with
  | @sent host plan dgram found member =>
    exact ⟨host, dgram, member, rfl, rfl, fun none => absurd rfl none⟩
  | @forwarded router index plan station path content order found inside _ scanned alive ih =>
    obtain ⟨host, dgram, member, same, sum, -⟩ := ih
    have less : (content.1.ttl - 1).toNat = content.1.ttl.toNat - 1 :=
      UInt8.toNat_sub_of_le _ _ (by rw [UInt8.le_iff_toNat_le]; exact Nat.le_of_succ_le alive)
    refine ⟨host, dgram, member, ?_, ?_, ?_⟩
    · -- A hop touches the field that the equation leaves open.
      unfold hop
      rw [same]
    · -- The path is one router longer, and the time one unit shorter.
      change (content.1.ttl - 1).toNat + (path ++ [router]).length = dgram.header.ttl.toNat
      rw [less, List.length_append, List.length_singleton]
      omega
    · -- A datagram is forwarded only while more than one unit is left.
      intro _
      change 1 ≤ (content.1.ttl - 1).toNat
      rw [less]
      omega

end Layout

/-- A host of the network. -/
structure Host where
  /-- Its interface, which keeps everything that was received. -/
  interface : AsyncNetworkInterface
  /-- The next hop of everything it sends. -/
  nextHop : UInt32

/-- The datagram that `send_to` makes. -/
def Host.datagram (host : Host) (destination : UInt32) (ttl : UInt8) (payload : Bytes) :
    IPv4Datagram :=
  let header : IPv4Header :=
    { src := host.interface.interface.ipAddress, dst := destination, ttl }
  { header := { header with len := UInt16.ofNat (header.hlen.toNat * 4 + payload.length) }
    payload := .ofBuffer payload }

/-- The network: hosts, routers, and the history of the wires and of the hosts. -/
structure Internet where
  /-- The hosts. -/
  hosts : List Host
  /-- The routers. -/
  routers : List Router
  /-- Every frame that was put on a wire, with the wire. -/
  transmitted : List (Nat × EthernetFrame) := []
  /-- Every datagram that a host has sent, with the host. -/
  submitted : List (Nat × IPv4Datagram) := []

/-- What can happen in the network. -/
inductive InternetCall where
  /-- A host sends a datagram. -/
  | sendTo (host : Nat) (destination : UInt32) (ttl : UInt8) (payload : Bytes)
  /-- A router routes what it has received, its table scanned in some order. -/
  | route (router : Nat) (order : List Router.LenEntry)
  /-- The first frame of an interface is put on its wire. -/
  | transmit (port : Port)
  /-- A frame that was ever put on the wire of an interface arrives there. -/
  | deliver (port : Port) (position : Nat)
  /-- Time passes for an interface. -/
  | tick (port : Port) (ms : Nat)

namespace Internet

/-- An interface of the network. -/
def port (net : Internet) : Port → Option AsyncNetworkInterface
  | .host host => net.hosts[host]?.map Host.interface
  | .router router index => net.routers[router]?.bind fun router => router.interfaces[index]?

/-- The network with another interface at a port. -/
def setPort (net : Internet) (async : AsyncNetworkInterface) : Port → Internet
  | .host host => { net with
      hosts := net.hosts.modify host fun host => { host with interface := async } }
  | .router router index => { net with
      routers := net.routers.modify router fun router =>
        { router with interfaces := router.interfaces.set index async } }

/-- Performs a call, which may throw. -/
def step (wire : Port → Nat) (net : Internet) : InternetCall → Except Exception Internet
  | .sendTo host destination ttl payload =>
    match net.hosts[host]? with
    | none => .error .outOfRange
    | some sender =>
      let dgram := sender.datagram destination ttl payload
      match sender.interface.interface.sendDatagram dgram sender.nextHop with
      | (_, .error thrown) => .error thrown
      | (interface, .ok ()) => .ok { net.setPort { sender.interface with interface } (.host host)
          with submitted := net.submitted ++ [(host, dgram)] }
  | .route router order =>
    match net.routers[router]? with
    | none => .error .outOfRange
    | some found =>
      match found.route order with
      | (_, .error thrown) => .error thrown
      | (next, .ok ()) => .ok { net with routers := net.routers.set router next }
  | .transmit port =>
    match net.port port with
    | none => .error .outOfRange
    | some async =>
      match async.interface.framesOut with
      | [] => .ok net
      | frame :: rest => .ok { net.setPort
            { async with interface := { async.interface with framesOut := rest } } port
          with transmitted := net.transmitted ++ [(wire port, frame)] }
  | .deliver port position =>
    match net.port port, net.transmitted[position]? with
    | none, _ => .error .outOfRange
    | some _, none => .ok net
    | some async, some (onto, frame) =>
      if onto = wire port then
        -- The payload of a frame arrives in one piece.
        match async.recvFrame ⟨frame.header, .ofBuffer frame.payload.concatenate⟩ with
        | (_, .error thrown) => .error thrown
        | (async, .ok ()) => .ok (net.setPort async port)
      else .ok net
  | .tick port ms =>
    match net.port port with
    | none => .error .outOfRange
    | some async => do
      let interface ← async.interface.tick ms
      return net.setPort { async with interface } port

/-- The call is about something that exists, sends no more than fits into a datagram, and scans the
whole table of a router. -/
def Admissible (net : Internet) : InternetCall → Prop
  | .sendTo host _ _ payload => host < net.hosts.length ∧ payload.length ≤ 65515
  | .route router order => ∃ found ∈ net.routers[router]?, order.Perm found.lenMap.entries
  | .transmit port => (net.port port).isSome
  | .deliver port _ => (net.port port).isSome
  | .tick port _ => (net.port port).isSome

instance (net : Internet) : (call : InternetCall) → Decidable (net.Admissible call)
  | .sendTo host _ _ payload =>
    inferInstanceAs (Decidable (host < net.hosts.length ∧ payload.length ≤ 65515))
  | .route router order =>
    match found : net.routers[router]? with
    | none => .isFalse (by simp [Admissible, found])
    | some router =>
      decidable_of_iff (order.Perm router.lenMap.entries) (by simp [Admissible, found])
  | .transmit port => inferInstanceAs (Decidable ((net.port port).isSome = true))
  | .deliver port _ => inferInstanceAs (Decidable ((net.port port).isSome = true))
  | .tick port _ => inferInstanceAs (Decidable ((net.port port).isSome = true))

end Internet

/-- The network before anything has happened. -/
def Layout.start (layout : Layout) : Internet where
  hosts := layout.hosts.map fun plan => ⟨plan.station.interface, plan.nextHop⟩
  routers := layout.routers.map RouterPlan.router

end Sponge
