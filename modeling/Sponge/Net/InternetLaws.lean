import Sponge.Net.Internet

/-! Datagrams follow the routes of the network, on every run. -/

namespace Sponge

namespace Layout

variable {layout : Layout} {submitted : List (Nat × IPv4Datagram)}

/-- A datagram that may be on a wire, on its way to a next hop. -/
def Due (layout : Layout) (submitted : List (Nat × IPv4Datagram)) (wire : Nat) (ip : UInt32)
    (dgram : IPv4Datagram) : Prop :=
  dgram.Faithful ∧ ∃ path, layout.Carried submitted path wire ip dgram.content

/-- The interface at a port has the addresses it was set up with, and believes and sends the
truth. -/
structure Stands (layout : Layout) (submitted : List (Nat × IPv4Datagram)) (port : Port)
    (itf : NetworkInterface) : Prop where
  /-- The addresses. -/
  station : layout.station port = some ⟨itf.ethernetAddress, itf.ipAddress⟩
  /-- The beliefs. -/
  trusts : itf.Trusts (layout.Owns (layout.wire port)) (layout.Due submitted (layout.wire port))

/-- A datagram may have arrived at a port. -/
def Arrived (layout : Layout) (submitted : List (Nat × IPv4Datagram)) (port : Port)
    (dgram : IPv4Datagram) : Prop :=
  ∃ station, layout.station port = some station ∧
    layout.Due submitted (layout.wire port) station.ipAddress dgram

/-- A datagram stays due when hosts send more. -/
theorem Due.mono {more : List (Nat × IPv4Datagram)} (subset : submitted ⊆ more) {wire : Nat}
    {ip : UInt32} {dgram : IPv4Datagram} (due : layout.Due submitted wire ip dgram) :
    layout.Due more wire ip dgram := by
  obtain ⟨faithful, path, carried⟩ := due
  exact ⟨faithful, path, carried.mono subset⟩

/-- An interface that the interface of a port has become in a call stands. -/
theorem Stands.next {port : Port} {itf next : NetworkInterface}
    (stands : layout.Stands submitted port itf) (same : itf.SameAddresses next)
    (trusts : next.Trusts (layout.Owns (layout.wire port))
      (layout.Due submitted (layout.wire port))) : layout.Stands submitted port next :=
  ⟨by rw [same.1, same.2]; exact stands.station, trusts⟩

/-- A new interface stands at its port. -/
theorem stands_new {port : Port} {station : Station} (found : layout.station port = some station) :
    layout.Stands submitted port station.interface.interface where
  station := found
  -- The port is itself one that has the addresses.
  trusts := NetworkInterface.trusts_new ⟨port, found, rfl⟩

/-- An interface takes in only what was meant for its own address. -/
theorem Stands.owner {port : Port} {itf : NetworkInterface} (sound : layout.Sound)
    (stands : layout.Stands submitted port itf) {ip : UInt32} {dst : EthernetAddress}
    (owned : layout.Owns (layout.wire port) ip dst)
    (addressed : dst = .broadcast ∨ dst = itf.ethernetAddress) : ip = itf.ipAddress := by
  obtain ⟨owner, found, wire⟩ := owned
  have listed := mem_stations found
  rcases addressed with rfl | rfl
  · exact absurd rfl (sound.unicast _ listed)
  · -- Two ports on one wire with one Ethernet address have one IP address.
    exact sound.distinct _ listed _ (mem_stations stands.station) wire rfl

/-- The route that a router chooses leads to an interface that exists. -/
theorem Sound.choose_lt (sound : layout.Sound) {plan : RouterPlan}
    (member : plan ∈ layout.routers) (order : List Router.LenEntry) (addr : UInt32) :
    (plan.router.choose order addr).itf < plan.stations.length := by
  have positive := List.length_pos_iff.mpr (sound.interfaces plan member)
  exact Router.choose_lt positive (Router.built_itfMap_lt (sound.routes plan member)) order addr

/-- A datagram that has arrived at a router may go on along the route that is chosen. -/
theorem Arrived.forward {router index : Nat} {plan : RouterPlan} {dgram : IPv4Datagram}
    {order : List Router.LenEntry} (found : layout.routers[router]? = some plan)
    (arrived : layout.Arrived submitted (.router router index) dgram)
    (scanned : order.Perm plan.router.lenMap.entries) (alive : 2 ≤ dgram.header.ttl.toNat) :
    layout.Due submitted
      (layout.wire (.router router (plan.router.choose order dgram.header.dst).itf))
      (plan.router.choose order dgram.header.dst).nextHop (Router.hopped dgram) := by
  -- The station at the port is the one the router has there, so the datagram came to it.
  obtain ⟨station, looked, faithful, path, carried⟩ := arrived
  unfold Layout.station at looked
  dsimp only at looked
  rw [found, Option.bind_some] at looked
  exact ⟨faithful.hopped, _, .forwarded found looked carried scanned alive⟩

end Layout

namespace Internet

open Layout (Stands Arrived Due)

/-- The network in which everything is as the layout and the routes allow. -/
structure Lawful (layout : Layout) (net : Internet) : Prop where
  /-- The hosts are those of the layout. -/
  hosts : ∀ (index : Nat) (host : Host), net.hosts[index]? = some host → ∃ plan,
    layout.hosts[index]? = some plan ∧ host.nextHop = plan.nextHop ∧
      layout.Stands net.submitted (.host index) host.interface.interface ∧
      ∀ dgram ∈ host.interface.datagramsOut, layout.Arrived net.submitted (.host index) dgram
  /-- So are the routers. -/
  routers : ∀ (index : Nat) (router : Router), net.routers[index]? = some router → ∃ plan,
    layout.routers[index]? = some plan ∧
      router.Keeps (fun itf => layout.Stands net.submitted (.router index itf))
        (fun itf => layout.Arrived net.submitted (.router index itf)) plan.router
        plan.stations.length
  /-- Every frame on a wire is honest. -/
  transmitted : ∀ entry ∈ net.transmitted,
    NetworkInterface.Honest (layout.Owns entry.1) (layout.Due net.submitted entry.1) entry.2
  /-- Every datagram names the host that has sent it. -/
  sources : ∀ entry ∈ net.submitted, ∃ plan, layout.hosts[entry.1]? = some plan ∧
    entry.2.header.src = plan.station.ipAddress

namespace Lawful

variable {layout : Layout} {net : Internet}

/-- The interface at a port, and what has arrived there. -/
theorem port (lawful : net.Lawful layout) {port : Port} {async : AsyncNetworkInterface}
    (found : net.port port = some async) :
    layout.Stands net.submitted port async.interface ∧
      ∀ dgram ∈ async.datagramsOut, layout.Arrived net.submitted port dgram := by
  unfold Internet.port at found
  cases port with
  | host index =>
    -- A host has one interface.
    obtain ⟨host, looked, rfl⟩ := Option.map_eq_some_iff.mp found
    obtain ⟨plan, -, -, stands, arrived⟩ := lawful.hosts index host looked
    exact ⟨stands, arrived⟩
  | router index itf =>
    -- A router has several, of which the port names one.
    obtain ⟨router, looked, inside⟩ := Option.bind_eq_some_iff.mp found
    obtain ⟨plan, -, keeps⟩ := lawful.routers index router looked
    exact keeps.interfaces itf async inside

/-- An interface may become another one that stands at its port. -/
theorem setPort (lawful : net.Lawful layout) (port : Port) {async : AsyncNetworkInterface}
    (stands : layout.Stands net.submitted port async.interface)
    (arrived : ∀ dgram ∈ async.datagramsOut, layout.Arrived net.submitted port dgram) :
    (net.setPort async port).Lawful layout := by
  cases port with
  | host index =>
    refine ⟨?_, lawful.routers, lawful.transmitted, lawful.sources⟩
    intro other host looked
    unfold Internet.setPort at looked
    rw [List.getElem?_modify] at looked
    obtain ⟨before, found, same⟩ := Option.map_eq_some_iff.mp looked
    obtain ⟨plan, listed, hop, old, queue⟩ := lawful.hosts other before found
    -- Only the interface of the one host is another one.
    split at same
    · -- The host of the port.
      rename_i here
      subst here same
      exact ⟨plan, listed, hop, stands, arrived⟩
    · -- Any other host.
      subst same
      exact ⟨plan, listed, hop, old, queue⟩
  | router index itf =>
    refine ⟨lawful.hosts, ?_, lawful.transmitted, lawful.sources⟩
    intro other router looked
    unfold Internet.setPort at looked
    rw [List.getElem?_modify] at looked
    obtain ⟨before, found, same⟩ := Option.map_eq_some_iff.mp looked
    obtain ⟨plan, listed, keeps⟩ := lawful.routers other before found
    -- Of the one router, only the interface at the port is another one.
    split at same
    · rename_i here
      subst here same
      exact ⟨plan, listed, keeps.set stands arrived⟩
    · subst same
      exact ⟨plan, listed, keeps⟩

/-- The network stays lawful when it is noted that a host has sent something. -/
theorem submit (lawful : net.Lawful layout) {entry : Nat × IPv4Datagram} {plan : HostPlan}
    (listed : layout.hosts[entry.1]? = some plan)
    (source : entry.2.header.src = plan.station.ipAddress) :
    { net with submitted := net.submitted ++ [entry] }.Lawful layout := by
  -- Everything that was due is still due.
  have subset : net.submitted ⊆ net.submitted ++ [entry] := List.subset_append_left _ _
  have stands : ∀ port itf, layout.Stands net.submitted port itf →
      layout.Stands (net.submitted ++ [entry]) port itf := by
    intro port itf stands
    exact ⟨stands.station, stands.trusts.mono fun ip dgram due => due.mono subset⟩
  have arrived : ∀ port dgram, layout.Arrived net.submitted port dgram →
      layout.Arrived (net.submitted ++ [entry]) port dgram := by
    intro port dgram arrived
    obtain ⟨station, found, due⟩ := arrived
    exact ⟨station, found, due.mono subset⟩
  refine ⟨?_, ?_, ?_, ?_⟩
  · -- The hosts.
    intro index host looked
    obtain ⟨plan, listed, hop, old, queue⟩ := lawful.hosts index host looked
    exact ⟨plan, listed, hop, stands _ _ old,
      fun dgram member => arrived _ _ (queue dgram member)⟩
  · -- The routers, with their tables as they were.
    intro index router looked
    obtain ⟨plan, listed, keeps⟩ := lawful.routers index router looked
    refine ⟨plan, listed, keeps.lens, keeps.gateways, keeps.itfs, keeps.length, ?_⟩
    intro itf async inside
    obtain ⟨old, queue⟩ := keeps.interfaces itf async inside
    exact ⟨stands _ _ old, fun dgram member => arrived _ _ (queue dgram member)⟩
  · -- The frames on the wires.
    intro sent member
    exact (lawful.transmitted sent member).mono fun ip dgram due => due.mono subset
  · -- The sources of what was sent before, and of the new datagram.
    intro sent member
    rcases List.mem_append.mp member with old | new
    · exact lawful.sources sent old
    · rw [List.mem_singleton.mp new]
      exact ⟨plan, listed, source⟩

/-- What a host sends can be written to the wire and read back. -/
theorem faithful_datagram (host : Host) (destination : UInt32) (ttl : UInt8) {payload : Bytes}
    (fits : payload.length ≤ 65515) : (host.datagram destination ttl payload).Faithful where
  version := rfl
  room := by
    change 5 ≤ (5 : UInt8).toNat
    decide
  nibble := by
    change (5 : UInt8).toNat ≤ 15
    decide
  fragment := by
    change (0 : UInt16).toNat < 2 ^ 13
    decide
  size := by
    have length : (UInt16.ofNat (20 + payload.length)).toNat = 20 + payload.length :=
      -- The length field is computed in 16 bits, which the bound on the payload suffices for.
      UInt16.toNat_ofNat_of_lt' (by change _ < 65536; omega)
    change ((BufferList.ofBuffer payload).size : Int)
      = (UInt16.ofNat (20 + payload.length)).toNat - 4 * 5
    rw [BufferList.size_ofBuffer, length]
    omega

/-- A host sends a datagram. -/
theorem sendTo (lawful : net.Lawful layout) {index : Nat} {destination : UInt32} {ttl : UInt8}
    {payload : Bytes} (admissible : net.Admissible (.sendTo index destination ttl payload)) :
    ∃ next, net.step layout.wire (.sendTo index destination ttl payload) = .ok next ∧
      next.Lawful layout := by
  obtain ⟨inside, fits⟩ := admissible
  -- The host is the one that the plan lists at this place.
  have looked := List.getElem?_eq_getElem inside
  generalize net.hosts[index] = host at looked
  obtain ⟨plan, listed, hop, before, -⟩ := lawful.hosts index host looked
  have source : host.interface.interface.ipAddress = plan.station.ipAddress := by
    have station := before.station
    unfold Layout.station at station
    dsimp only at station
    rw [listed, Option.map_some, Option.some.injEq] at station
    rw [station]
  -- The datagram is noted first, so that it is due when it is sent.
  have noted : { net with submitted := net.submitted ++
      [(index, host.datagram destination ttl payload)] }.Lawful layout :=
    lawful.submit listed source
  obtain ⟨-, -, -, stands, arrived⟩ := noted.hosts index host looked
  have due : layout.Due (net.submitted ++ [(index, host.datagram destination ttl payload)])
      (layout.wire (.host index)) host.nextHop (host.datagram destination ttl payload) := by
    -- A datagram that a host has just sent is due at the host's next hop.
    refine ⟨faithful_datagram host destination ttl fits, [], ?_⟩
    rw [hop]
    exact .sent listed (by simp)
  obtain ⟨itf, sent, kept, same⟩ := stands.trusts.sendDatagram (fun _ _ due => due.1) due
  unfold Internet.step
  dsimp only
  rw [looked]
  dsimp only
  rw [sent]
  exact ⟨_, rfl, noted.setPort (.host index) (stands.next same kept) arrived⟩

/-- A router routes what it has received. -/
theorem route (lawful : net.Lawful layout) (sound : layout.Sound) {index : Nat}
    {order : List Router.LenEntry} (admissible : net.Admissible (.route index order)) :
    ∃ next, net.step layout.wire (.route index order) = .ok next ∧ next.Lawful layout := by
  -- The order of the scan is one of the planned table, which the router still has.
  obtain ⟨router, looked, scanned⟩ := admissible
  rw [Option.mem_def] at looked
  obtain ⟨plan, listed, keeps⟩ := lawful.routers index router looked
  rw [keeps.lens] at scanned
  obtain ⟨routed, done, kept⟩ := keeps.route
    (fun addr => sound.choose_lt (List.mem_of_getElem? listed) order addr) (by
      intro itf dgram sender arrived alive stands
      obtain ⟨next, sent, trusts, same⟩ := stands.trusts.sendDatagram (fun _ _ due => due.1)
        (arrived.forward listed scanned alive)
      exact ⟨next, sent, stands.next same trusts⟩)
  unfold Internet.step
  dsimp only
  rw [looked]
  dsimp only
  rw [done]
  refine ⟨_, rfl, lawful.hosts, ?_, lawful.transmitted, lawful.sources⟩
  intro other found member
  change (net.routers.set index routed)[other]? = some found at member
  rw [List.getElem?_set] at member
  split at member
  · -- The router that has routed.
    rename_i here
    subst here
    split at member
    · cases member
      exact ⟨plan, listed, kept⟩
    · cases member
  · -- The others.
    exact lawful.routers other found member

/-- A frame is put on a wire. -/
theorem transmit (lawful : net.Lawful layout) {port : Port}
    (admissible : net.Admissible (.transmit port)) :
    ∃ next, net.step layout.wire (.transmit port) = .ok next ∧ next.Lawful layout := by
  -- The port exists, and its interface has queued honest frames only.
  obtain ⟨async, found⟩ := Option.isSome_iff_exists.mp admissible
  obtain ⟨stands, arrived⟩ := lawful.port found
  unfold Internet.step
  dsimp only
  rw [found]
  dsimp only
  cases front : async.interface.framesOut with
  -- With nothing queued there is nothing to transmit.
  | nil => exact ⟨_, rfl, lawful⟩
  | cons frame rest =>
    -- The first frame leaves the queue for the wire.
    obtain ⟨honest, kept⟩ := stands.trusts.transmit front
    have set : (net.setPort { async with
        interface := { async.interface with framesOut := rest } } port).Lawful layout :=
      lawful.setPort port (stands.next ⟨rfl, rfl⟩ kept) arrived
    have same : (net.setPort { async with
        interface := { async.interface with framesOut := rest } } port).submitted =
          net.submitted := by
      cases port with
      | host => rfl
      | router => rfl
    refine ⟨_, rfl, set.hosts, set.routers, ?_, set.sources⟩
    intro entry member
    rcases List.mem_append.mp member with old | new
    · -- The frames that were on the wires already.
      rw [same]
      exact lawful.transmitted entry old
    · -- The frame that was just transmitted.
      rw [List.mem_singleton.mp new, same]
      exact honest

/-- A frame arrives at an interface. -/
theorem deliver (lawful : net.Lawful layout) (sound : layout.Sound) {port : Port} {position : Nat}
    (admissible : net.Admissible (.deliver port position)) :
    ∃ next, net.step layout.wire (.deliver port position) = .ok next ∧ next.Lawful layout := by
  obtain ⟨async, found⟩ := Option.isSome_iff_exists.mp admissible
  -- The frame is one that was transmitted, if there is one at this position.
  obtain ⟨stands, arrived⟩ := lawful.port found
  unfold Internet.step
  dsimp only
  rw [found]
  cases looked : net.transmitted[position]? with
  | none => exact ⟨_, rfl, lawful⟩
  | some entry =>
    obtain ⟨onto, frame⟩ := entry
    dsimp only
    split
    · -- The interface is attached to the wire of the frame.
      rename_i here
      subst here
      have honest := lawful.transmitted _ (List.mem_of_getElem? looked)
      obtain ⟨next, got, received, kept, same, meant⟩ := stands.trusts.recvFrame
        (fun _ _ due => due.1) honest
      have standing := stands.next same kept
      unfold AsyncNetworkInterface.recvFrame
      rw [received]
      cases got with
      -- Nothing is passed up.
      | none => exact ⟨_, rfl, lawful.setPort port standing arrived⟩
      | some dgram =>
        refine ⟨_, rfl, lawful.setPort port standing ?_⟩
        intro other member
        rcases List.mem_append.mp member with old | new
        · -- The datagrams that arrived before.
          exact arrived other old
        · -- The new datagram was meant for the address of this very interface.
          rw [List.mem_singleton.mp new]
          obtain ⟨ip, sent, rfl, ⟨faithful, path, carried⟩, owned, addressed⟩ :=
            meant dgram rfl
          rw [stands.owner sound owned addressed] at carried
          exact ⟨_, stands.station, faithful.landed, path,
            by rw [IPv4Datagram.content_landed]; exact carried⟩
    · -- The frame is on another wire, so it does not arrive.
      exact ⟨_, rfl, lawful⟩

/-- Time passes for an interface. -/
theorem tick (lawful : net.Lawful layout) {port : Port} {ms : Nat}
    (admissible : net.Admissible (.tick port ms)) :
    ∃ next, net.step layout.wire (.tick port ms) = .ok next ∧ next.Lawful layout := by
  obtain ⟨async, found⟩ := Option.isSome_iff_exists.mp admissible
  obtain ⟨stands, arrived⟩ := lawful.port found
  -- A tick only drops entries, so the interface trusts nothing new.
  obtain ⟨next, ticked, kept, same⟩ := stands.trusts.tick ms
  unfold Internet.step
  dsimp only
  rw [found]
  dsimp only
  rw [ticked]
  exact ⟨_, rfl, lawful.setPort port (stands.next same kept) arrived⟩

/-- No call throws, and every call keeps the network lawful. -/
theorem step (lawful : net.Lawful layout) (sound : layout.Sound) {call : InternetCall}
    (admissible : net.Admissible call) :
    ∃ next, net.step layout.wire call = .ok next ∧ next.Lawful layout := by
  -- One case for each call, by the lemma about it.
  cases call with
  | sendTo host destination ttl payload => exact lawful.sendTo admissible
  | route router order => exact lawful.route sound admissible
  | transmit port => exact lawful.transmit admissible
  | deliver port position => exact lawful.deliver sound admissible
  | tick port ms => exact lawful.tick admissible

end Lawful

/-- A network before anything has happened is lawful. -/
theorem lawful_start (layout : Layout) : layout.start.Lawful layout := by
  refine ⟨?_, ?_, nofun, nofun⟩
  · -- A new interface has learned nothing, and nothing waits for an address.
    intro index host looked
    unfold Layout.start at looked
    rw [List.getElem?_map] at looked
    obtain ⟨plan, found, rfl⟩ := Option.map_eq_some_iff.mp looked
    have listed : layout.station (.host index) = some plan.station := by
      unfold Layout.station
      dsimp only
      rw [found]
      rfl
    exact ⟨plan, found, rfl, Layout.stands_new listed, by simp [Station.interface]⟩
  · -- Adding the routes has left the interfaces.
    intro index router looked
    unfold Layout.start at looked
    rw [List.getElem?_map] at looked
    obtain ⟨plan, found, rfl⟩ := Option.map_eq_some_iff.mp looked
    have interfaces : plan.router.interfaces = plan.stations.map Station.interface :=
      RouterHistory.built_interfaces _ _
    refine ⟨plan, found, rfl, rfl, rfl, by rw [interfaces, List.length_map], ?_⟩
    intro itf async inside
    rw [interfaces, List.getElem?_map] at inside
    obtain ⟨station, listed, rfl⟩ := Option.map_eq_some_iff.mp inside
    have here : layout.station (.router index itf) = some station := by
      unfold Layout.station
      dsimp only
      rw [found]
      exact listed
    exact ⟨Layout.stands_new here, by simp [Station.interface]⟩

section Example

/-- Two hosts on different wires, and a router between them. -/
def twoWires : Layout where
  hosts := [⟨⟨.ofBytes 2 0 0 0 0 1, 0x0a000002⟩, 0x0a000001⟩,
    ⟨⟨.ofBytes 2 0 0 0 0 2, 0xc0a80002⟩, 0xc0a80001⟩]
  routers := [⟨[⟨.ofBytes 2 0 0 0 0 3, 0x0a000001⟩, ⟨.ofBytes 2 0 0 0 0 4, 0xc0a80001⟩],
    [⟨0x0a000000, 8, none, 0⟩, ⟨0xc0a80000, 24, none, 1⟩]⟩]
  wire
    | .host host => host
    | .router _ index => index

/-- The first host sends to the second one: both ask for the address of the router, which asks for
that of the second host. -/
def crossing : List InternetCall :=
  [.sendTo 0 0xc0a80002 64 [1, 2, 3], .transmit (.host 0), .deliver (.router 0 0) 0,
    .transmit (.router 0 0), .deliver (.host 0) 1, .transmit (.host 0), .deliver (.router 0 0) 2,
    .route 0 [⟨0xc0a80000, 24⟩, ⟨0x0a000000, 8⟩], .transmit (.router 0 1), .deliver (.host 1) 3,
    .transmit (.host 1), .deliver (.router 0 1) 4, .transmit (.router 0 1), .deliver (.host 1) 5]

end Example

/-- Whatever hosts send and wires do, no call throws, every mapping that an interface has learned
names a true owner on its wire, and whatever has arrived at an interface has come there along the
routes that the routers choose; and if the routes are orderly, along the best ones. -/
theorem datagrams_follow_routes (layout : Layout) (sound : layout.Sound)
    (calls : List InternetCall)
    (admissible : Throughout (step layout.wire) Admissible layout.start calls) :
    ∃ last, runCalls (step layout.wire) layout.start calls = .ok last ∧
      ∀ port async, last.port port = some async →
        (∀ ip ethernet, async.interface.cache.lookup ip = some ethernet →
          layout.Owns (layout.wire port) ip ethernet) ∧
        ∀ dgram ∈ async.datagramsOut, ∃ path,
          layout.Carried last.submitted path (layout.wire port) async.interface.ipAddress
            dgram.content ∧
          ((∀ plan ∈ layout.routers, plan.Orderly) →
            layout.Routed last.submitted path (layout.wire port) async.interface.ipAddress
              dgram.content) := by
  obtain ⟨last, ran, lawful⟩ := admissible.returns (Lawful layout)
    (fun _ _ lawful admissible => lawful.step sound admissible) (lawful_start layout)
  refine ⟨last, ran, ?_⟩
  intro port async found
  obtain ⟨stands, arrived⟩ := lawful.port found
  refine ⟨stands.trusts.cache, ?_⟩
  intro dgram member
  obtain ⟨station, listed, -, path, carried⟩ := arrived dgram member
  -- The address is the one that the interface was set up with.
  rw [stands.station, Option.some.injEq] at listed
  subst listed
  exact ⟨path, carried, fun orderly => carried.routed orderly⟩

/-- In the crossing, the datagram has come to the second host along the best route. -/
theorem datagrams_follow_routes_crossing :
    ∃ last async dgram path, runCalls (step twoWires.wire) twoWires.start crossing = .ok last ∧
      last.port (.host 1) = some async ∧ async.datagramsOut = [dgram] ∧
      twoWires.Routed last.submitted path 1 0xc0a80002 dgram.content := by
  -- The theorem gives the path, and the evaluation of the run the datagram.
  obtain ⟨last, ran, follows⟩ := datagrams_follow_routes twoWires (by decide +kernel) crossing
    (by decide +kernel)
  obtain ⟨_, again, arrived⟩ : ∃ last,
      runCalls (step twoWires.wire) twoWires.start crossing = .ok last ∧
        (last.port (.host 1)).map (fun async => (async.interface.ipAddress,
          async.datagramsOut.length)) = some (0xc0a80002, 1) :=
    exists_runCalls (by decide +kernel)
  cases Except.ok.inj (again.symm.trans ran)
  obtain ⟨async, found, counts⟩ := Option.map_eq_some_iff.mp arrived
  rw [Prod.mk.injEq] at counts
  obtain ⟨dgram, only⟩ := List.length_eq_one_iff.mp counts.2
  obtain ⟨path, -, routed⟩ :=
    (follows _ async found).2 dgram (by rw [only]; exact List.mem_cons_self)
  have best := routed (by decide +kernel)
  rw [counts.1] at best
  exact ⟨_, async, dgram, path, ran, found, only, best⟩

/-- Whatever has arrived at an interface is what some host has sent from its own address, with one
unit of its time to live gone for each router on its way and nothing else changed. -/
theorem datagrams_arrive_unaltered (layout : Layout) (sound : layout.Sound)
    (calls : List InternetCall)
    (admissible : Throughout (step layout.wire) Admissible layout.start calls) :
    ∃ last, runCalls (step layout.wire) layout.start calls = .ok last ∧
      ∀ port async, last.port port = some async → ∀ got ∈ async.datagramsOut,
        ∃ host plan sent path, (host, sent) ∈ last.submitted ∧
          layout.hosts[host]? = some plan ∧ got.header.src = plan.station.ipAddress ∧
          layout.Carried last.submitted path (layout.wire port) async.interface.ipAddress
            got.content ∧
          got.content = ({ sent.header with ttl := got.header.ttl, cksum := 0 },
            sent.payload.concatenate) ∧
          got.header.ttl.toNat + path.length = sent.header.ttl.toNat ∧ path.length < 255 := by
  -- Being lawful is the invariant of the run.
  obtain ⟨last, ran, lawful⟩ := admissible.returns (Lawful layout)
    (fun _ _ lawful admissible => lawful.step sound admissible) (lawful_start layout)
  refine ⟨last, ran, ?_⟩
  intro port async found got member
  -- The datagram was carried to the wire and the address of the interface.
  obtain ⟨stands, arrived⟩ := lawful.port found
  obtain ⟨station, listed, -, path, carried⟩ := arrived got member
  rw [stands.station, Option.some.injEq] at listed
  subst listed
  -- Back along its path, the datagram is one that a host has submitted.
  obtain ⟨host, sent, submitted, same, sum, alive⟩ := carried.origin
  obtain ⟨plan, looked, source⟩ := lawful.sources _ submitted
  refine ⟨host, plan, sent, path, submitted, looked, ?_, carried, same, sum, ?_⟩
  · -- The source address is one of the fields that no router touches.
    have field : got.content.1.src = sent.content.1.src := by rw [same]
    exact field.trans source
  · -- Each router takes one off a byte, and the last one leaves at least one.
    have byte := sent.header.ttl.toNat_lt
    by_cases none : path = []
    · rw [none]
      decide
    · have left : 1 ≤ got.header.ttl.toNat := alive none
      change got.header.ttl.toNat + path.length = sent.header.ttl.toNat at sum
      omega

/-- In the crossing, the datagram has lost one unit of its time to live. -/
theorem datagrams_arrive_unaltered_crossing :
    ∃ last async dgram, runCalls (step twoWires.wire) twoWires.start crossing = .ok last ∧
      last.port (.host 1) = some async ∧ async.datagramsOut = [dgram] ∧
      dgram.header.ttl = 63 ∧ ∃ host sent path, (host, sent) ∈ last.submitted ∧
        dgram.content.2 = sent.payload.concatenate ∧
        dgram.header.ttl.toNat + path.length = sent.header.ttl.toNat ∧
        twoWires.Carried last.submitted path 1 async.interface.ipAddress dgram.content := by
  -- As before, the run is evaluated for the datagram only.
  obtain ⟨last, ran, unaltered⟩ := datagrams_arrive_unaltered twoWires (by decide +kernel) crossing
    (by decide +kernel)
  obtain ⟨_, again, arrived⟩ : ∃ last,
      runCalls (step twoWires.wire) twoWires.start crossing = .ok last ∧
        (last.port (.host 1)).map (fun async => async.datagramsOut.map fun dgram =>
          dgram.header.ttl) = some [63] :=
    exists_runCalls (by decide +kernel)
  cases Except.ok.inj (again.symm.trans ran)
  obtain ⟨async, found, ttls⟩ := Option.map_eq_some_iff.mp arrived
  obtain ⟨dgram, only, ttl⟩ := List.map_eq_singleton_iff.mp ttls
  obtain ⟨host, plan, sent, path, submitted, -, -, carried, same, sum, -⟩ :=
    unaltered _ async found dgram (by rw [only]; exact List.mem_cons_self)
  exact ⟨_, async, dgram, ran, found, only, ttl, host, sent, path, submitted,
    by rw [same], sum, carried⟩

end Internet

end Sponge
