import Sponge.Net.RouteRule
import Sponge.Net.RoutingTable
import Sponge.Wire.IPv4Laws

/-! Which received frames can make a router throw. -/

namespace Sponge

open IPv4Bytes

namespace IPv4Datagram

/-- The datagram can be serialized. -/
def Serializes (dgram : IPv4Datagram) : Prop := ∃ out, dgram.serialize = .ok out

/-- An accepted packet can be serialized again exactly if its first byte is a possible one. -/
theorem serializes_parse_iff {data : Bytes} (accepted : (parse {} data).1 = .noError) :
    (parse {} data).2.Serializes ↔ version data = 4 ∧ 5 ≤ headerLength data := by
  -- Only a packet of twenty bytes or more is accepted.
  obtain ⟨long, -⟩ := (parse_noError_iff data).mp accepted
  obtain ⟨raw, rest, rfl⟩ := RawIPv4.exists_bytes long
  have four : raw.header.ver = 4 ↔ raw.header.ver.toNat = 4 := by
    rw [← UInt8.toNat_inj]
    rfl
  rw [version_bytes, headerLength_bytes, ← four, Serializes, serialize_isOk_iff]
  -- An accepted datagram has a payload of the length that its header promises.
  by_cases shaped : raw.header.Shaped (20 + rest.length)
  · -- The payload follows the header of the promised length.
    obtain ⟨inside, version, room, total⟩ := id shaped
    have size : ((raw.bytes rest).drop (4 * raw.header.hlen.toNat)).length
        = raw.header.payloadLength.toNat := by
      have word := raw.header.len.toNat_lt
      rw [List.length_drop, RawIPv4.length_bytes, IPv4Header.payloadLength_toNat]
      omega
    rw [parse_shaped shaped, BufferList.size_ofBuffer]
    exact and_iff_right size
  · -- The parser has skipped only twenty bytes, and accepted what is left by its length.
    rw [parse_unshaped shaped] at accepted ⊢
    have size : rest.length = raw.header.payloadLength.toNat := by
      by_contra other
      simp [other] at accepted
    rw [BufferList.size_ofBuffer]
    exact and_iff_right size

end IPv4Datagram

namespace NetworkInterface

/-- An interface of which no call can throw. -/
structure Sound (itf : NetworkInterface) : Prop where
  /-- The cache and the ages of its mappings have the same keys. -/
  paired : itf.Paired
  /-- What waits can be sent. -/
  waiting : ∀ ip, ∀ dgram ∈ itf.waiting ip, dgram.Serializes

/-- A new interface is sound. -/
theorem sound_new (ethernetAddress : EthernetAddress) (ipAddress : UInt32) :
    Sound { ethernetAddress, ipAddress } :=
  ⟨fun _ => rfl, fun _ _ member => absurd member List.not_mem_nil⟩

/-- A sound interface sends, or holds, any datagram that can be serialized. -/
theorem Sound.sendDatagram {itf : NetworkInterface} (sound : itf.Sound) {dgram : IPv4Datagram}
    (serializes : dgram.Serializes) (ip : UInt32) :
    ∃ next, itf.sendDatagram dgram ip = (next, .ok ()) ∧ next.Sound := by
  have sending := itf.sendDatagram_sending dgram ip
  have paired := sound.paired.of_eq sending.cache
  generalize itf.sendDatagram dgram ip = outcome at sending paired ⊢
  obtain ⟨next, result⟩ := outcome
  -- Serializing is the only thing that can fail, and what comes to wait can be serialized.
  cases sending with
  | direct known written => exact ⟨_, rfl, paired, sound.waiting⟩
  | refused known failed =>
    -- It was assumed that the datagram can be serialized.
    obtain ⟨out, written⟩ := serializes
    rw [failed] at written
    cases written
  | @queued request unknown due =>
    refine ⟨_, rfl, paired, fun other => ?_⟩
    change ∀ held ∈ (itf.enqueue ip dgram).waiting other, held.Serializes
    rw [waiting_enqueue]
    split
    · -- The list for the address has the new datagram.
      exact List.forall_mem_cons.mpr ⟨serializes, sound.waiting ip⟩
    · -- The other lists are as they were.
      exact sound.waiting other
  | dropped unknown recent => exact ⟨_, rfl, sound⟩

/-- A sound interface takes in any ARP message. -/
theorem Sound.handleArp {itf : NetworkInterface} (sound : itf.Sound) (am : ARPMessage) :
    ∃ next, itf.handleArp am = (next, .ok ()) ∧ next.Sound := by
  have handled := itf.handleArp_handled am
  have paired := sound.paired.handled handled
  have ended := handled.waiting am.senderIpAddress
  generalize itf.handleArp am = outcome at handled paired ended ⊢
  obtain ⟨next, result⟩ := outcome
  rcases ended with ⟨rfl, -⟩ | ⟨-, bad, held, thrown, failed⟩
  · -- No datagram has thrown.
    refine ⟨next, rfl, paired, fun ip => ?_⟩
    rcases handled.waiting ip with ⟨-, released⟩ | ⟨kept, -⟩
    · rw [show next.waiting ip = _ from released]
      split
      · exact fun _ member => absurd member List.not_mem_nil
      · exact sound.waiting ip
    · rw [show next.waiting ip = _ from kept]
      exact sound.waiting ip
  · -- The datagram that stopped the flush was waiting, so it can be serialized.
    obtain ⟨out, written⟩ := sound.waiting am.senderIpAddress bad held
    rw [failed] at written
    cases written

/-- If the interface accepts the frame as an IPv4 packet, its first byte is a possible one. -/
def Benign (itf : NetworkInterface) (header : EthernetHeader) (payload : Bytes) : Prop :=
  header.dst = .broadcast ∨ header.dst = itf.ethernetAddress →
    header.type = EthernetHeader.typeIPv4 →
      20 ≤ payload.length → payload.length - 20 = IPv4Datagram.promisedLength payload →
        version payload = 4 ∧ 5 ≤ headerLength payload

instance (itf : NetworkInterface) (header : EthernetHeader) (payload : Bytes) :
    Decidable (itf.Benign header payload) :=
  inferInstanceAs (Decidable (_ ∨ _ → _ → _ → _ → _ ∧ _))

/-- A sound interface receives any benign frame, and what it returns can be serialized. -/
theorem Sound.recvFrame {itf : NetworkInterface} (sound : itf.Sound) {header : EthernetHeader}
    {payload : Bytes} (benign : itf.Benign header payload) :
    ∃ next received, itf.recvFrame ⟨header, .ofBuffer payload⟩ = (next, .ok received)
      ∧ next.Sound ∧ ∀ dgram ∈ received, dgram.Serializes := by
  rw [NetworkInterface.recvFrame]
  by_cases addressed : header.dst = .broadcast ∨ header.dst = itf.ethernetAddress
  · rw [if_neg (by simpa [or_iff_not_imp_left] using addressed), BufferList.toBuffer_ofBuffer]
    by_cases ipv4 : header.type = EthernetHeader.typeIPv4
    · simp only [if_pos ipv4]
      refine ⟨itf, _, rfl, sound, fun dgram returned => ?_⟩
      -- What the parser accepts is queued; a benign packet has a header that can be written.
      by_cases accepted : (IPv4Datagram.parse {} payload).1 = .noError
      · rw [if_pos accepted, Option.mem_some_iff] at returned
        rw [← returned, IPv4Datagram.serializes_parse_iff accepted]
        obtain ⟨long, shaped | promised⟩ := (IPv4Datagram.parse_noError_iff payload).mp accepted
        · -- A packet in shape has the right version and a header that is long enough.
          exact ⟨shaped.version, shaped.room⟩
        · -- Any other accepted packet is benign by assumption.
          exact benign addressed ipv4 long promised
      · -- A packet that is not accepted is not returned.
        rw [if_neg accepted] at returned
        cases returned
    · simp only [if_neg ipv4]
      -- Any other type is taken for ARP, which releases what waits.
      by_cases parsed : (ARPMessage.parse {} payload).1 = .noError
      · obtain ⟨next, handled, kept⟩ := sound.handleArp (ARPMessage.parse {} payload).2
        simp only [parsed, ne_eq, not_true_eq_false, if_false, handled]
        exact ⟨next, none, rfl, kept, fun _ none => by cases none⟩
      · -- The message is malformed.
        simp only [parsed, ne_eq, not_false_eq_true, if_true]
        exact ⟨itf, none, rfl, sound, fun _ none => by cases none⟩
  · -- The frame is for another interface.
    rw [if_pos (by simpa using addressed)]
    exact ⟨itf, none, rfl, sound, fun _ none => by cases none⟩

/-- Time passes for a sound interface. -/
theorem Sound.tick {itf : NetworkInterface} (sound : itf.Sound) (ms : Nat) :
    ∃ next, itf.tick ms = .ok next ∧ next.Sound := by
  -- A tick leaves the waiting lists as they are.
  obtain ⟨next, ticked, paired⟩ := sound.paired.tick ms
  obtain ⟨left, explicit, -⟩ := tick_spec sound.paired ms
  rw [ticked, Except.ok.injEq] at explicit
  subst explicit
  exact ⟨_, ticked, paired, sound.waiting⟩

end NetworkInterface

/-- An interface of a router of which no call can throw. -/
structure AsyncNetworkInterface.Sound (async : AsyncNetworkInterface) : Prop where
  /-- The interface is sound. -/
  interface : async.interface.Sound
  /-- What was received can be serialized again. -/
  queue : ∀ dgram ∈ async.datagramsOut, dgram.Serializes

/-- The underlying interface may become another sound one. -/
theorem AsyncNetworkInterface.Sound.replace {async : AsyncNetworkInterface} (sound : async.Sound)
    {interface : NetworkInterface} (fine : interface.Sound) :
    AsyncNetworkInterface.Sound { async with interface } :=
  ⟨fine, sound.queue⟩

/-- A sound interface stores what a benign frame holds. -/
theorem AsyncNetworkInterface.Sound.recvFrame {async : AsyncNetworkInterface}
    (sound : async.Sound) {header : EthernetHeader} {payload : Bytes}
    (benign : async.interface.Benign header payload) :
    ∃ next, async.recvFrame ⟨header, .ofBuffer payload⟩ = (next, .ok ()) ∧ next.Sound := by
  obtain ⟨interface, received, got, kept, fine⟩ := sound.interface.recvFrame benign
  rw [AsyncNetworkInterface.recvFrame, got]
  cases received with
  | none => exact ⟨_, rfl, kept, sound.queue⟩
  | some dgram =>
    refine ⟨_, rfl, kept, fun other member => ?_⟩
    -- The new datagram goes behind those that wait to be routed.
    rcases List.mem_append.mp member with old | new
    · exact sound.queue other old
    · exact fine other (List.mem_singleton.mp new ▸ rfl)

/-- The calls on a router and its interfaces. -/
inductive RouterCall where
  /-- A frame with a payload of one buffer arrives at an interface. -/
  | recvFrame (index : Nat) (header : EthernetHeader) (payload : Bytes)
  /-- The router routes what was received, its table scanned in some order. -/
  | route (order : List Router.LenEntry)
  /-- Time passes for an interface. -/
  | tick (index : Nat) (ms : Nat)

/-- The call is about one of so many interfaces. -/
def RouterCall.Within (count : Nat) : RouterCall → Prop
  | .recvFrame index _ _ => index < count
  | .route _ => True
  | .tick index _ => index < count

instance (count : Nat) : (call : RouterCall) → Decidable (call.Within count)
  | .recvFrame index _ _ => inferInstanceAs (Decidable (index < count))
  | .route _ => inferInstanceAs (Decidable True)
  | .tick index _ => inferInstanceAs (Decidable (index < count))

namespace Router

/-- Performs a call on the router, which may throw. -/
def step (router : Router) : RouterCall → Except Exception Router
  | .recvFrame index header payload =>
    match router.interfaces[index]? with
    | none => .error .outOfRange
    | some async =>
      match async.recvFrame ⟨header, .ofBuffer payload⟩ with
      | (_, .error thrown) => .error thrown
      | (async, .ok ()) => .ok { router with interfaces := router.interfaces.set index async }
  | .route order =>
    match router.route order with
    | (_, .error thrown) => .error thrown
    | (router, .ok ()) => .ok router
  | .tick index ms =>
    match router.interfaces[index]? with
    | none => .error .outOfRange
    | some async => do
      let interface ← async.interface.tick ms
      return { router with interfaces := router.interfaces.set index { async with interface } }

/-- A frame that arrives is benign for its interface. -/
def Benign (router : Router) : RouterCall → Prop
  | .recvFrame index header payload =>
    ∀ async ∈ router.interfaces[index]?, async.interface.Benign header payload
  | _ => True

instance (router : Router) : (call : RouterCall) → Decidable (router.Benign call)
  | .recvFrame index header payload =>
    match found : router.interfaces[index]? with
    | none => .isTrue (by simp [Benign, found])
    | some async =>
      decidable_of_iff (async.interface.Benign header payload) (by simp [Benign, found])
  | .route _ => inferInstanceAs (Decidable True)
  | .tick _ _ => inferInstanceAs (Decidable True)

/-- A router with so many interfaces of which no call can throw. -/
structure Sound (count : Nat) (router : Router) : Prop where
  /-- The number of interfaces. -/
  length : router.interfaces.length = count
  /-- The interfaces are sound. -/
  interfaces : ∀ async ∈ router.interfaces, async.Sound
  /-- The routes name interfaces. -/
  routes : ∀ routePrefix, ∀ itf ∈ router.itfMap.lookup routePrefix, itf < count

/-- The interface chosen for an address exists, if the routes name existing ones. -/
theorem choose_lt {router : Router} {count : Nat} (positive : 0 < count)
    (routes : ∀ routePrefix, ∀ itf ∈ router.itfMap.lookup routePrefix, itf < count)
    (order : List LenEntry) (addr : UInt32) : (router.choose order addr).itf < count := by
  -- The scan ends with its start, which is interface zero, or with the route of an entry.
  rcases foldl_consider router addr order {} with ⟨same, -⟩ | ⟨entry, -, -, -, result, -⟩
  · rw [Router.choose, same]
    exact positive
  · rw [Router.choose, result, chosen]
    cases found : router.itfMap.lookup entry.1 with
    | none => exact positive
    | some itf => exact routes entry.1 itf found

section Runs

variable {count : Nat} {router : Router} (sound : router.Sound count)
include sound

/-- An interface of a sound router may become another sound one. -/
theorem Sound.set {async : AsyncNetworkInterface} (fine : async.Sound) (index : Nat) :
    { router with interfaces := router.interfaces.set index async }.Sound count where
  length := by rw [List.length_set, sound.length]
  interfaces := fun other member => by
    rcases List.mem_or_eq_of_mem_set member with old | rfl
    · exact sound.interfaces other old
    · exact fine
  routes := sound.routes

end Runs

/-- A datagram that can be serialized still can be after its hop. -/
theorem serializes_hopped {dgram : IPv4Datagram} (serializes : dgram.Serializes) :
    (hopped dgram).Serializes := by
  -- Neither the version nor a length is touched.
  rw [IPv4Datagram.Serializes, IPv4Datagram.serialize_isOk_iff]
  exact (IPv4Datagram.serialize_isOk_iff dgram).mp serializes

/-- A sound router routes all that its interfaces have received, and is sound again. -/
theorem Sound.route {count : Nat} {router : Router} (sound : router.Sound count)
    (order : List LenEntry) :
    ∃ next, router.route order = (next, .ok ()) ∧ next.Sound count := by
  rcases Nat.eq_zero_or_pos count with none | positive
  · -- Without interfaces there is nothing to route.
    refine ⟨router, ?_, sound⟩
    rw [Router.route, Observable.result, Router.routing, Router.routeWith, sound.length, none]
    rfl
  · -- The router keeps its tables, and every interface its soundness.
    have keeps : router.Keeps (fun _ => NetworkInterface.Sound) (fun _ => IPv4Datagram.Serializes)
        router count :=
      ⟨rfl, rfl, rfl, sound.length, fun index async found =>
        have fine := sound.interfaces async (List.mem_of_getElem? found)
        ⟨fine.interface, fine.queue⟩⟩
    obtain ⟨next, routed, kept⟩ := keeps.route
      (choose_lt positive sound.routes order)
      (fun _ _ _ serializes _ fine => fine.sendDatagram (serializes_hopped serializes) _)
    refine ⟨next, routed, kept.length, fun async member => ?_, ?_⟩
    · -- Every interface of the result is sound.
      obtain ⟨index, inside, rfl⟩ := List.mem_iff_getElem.mp member
      have fine := kept.interfaces index _ (List.getElem?_eq_getElem inside)
      exact ⟨fine.1, fine.2⟩
    · rw [kept.itfs]
      exact sound.routes

/-- A benign call on a sound router returns, and leaves the router sound. -/
theorem Sound.step {count : Nat} {router : Router} (sound : router.Sound count)
    {call : RouterCall} (within : call.Within count) (benign : router.Benign call) :
    ∃ next, router.step call = .ok next ∧ next.Sound count := by
  cases call with
  | recvFrame index header payload =>
    -- The frame goes to an interface that exists.
    have inside : index < router.interfaces.length := sound.length ▸ within
    obtain ⟨async, got, kept⟩ := (sound.interfaces _ (List.getElem_mem inside)).recvFrame
      (benign _ (List.getElem?_eq_getElem inside))
    simp only [Router.step, List.getElem?_eq_getElem inside, got]
    exact ⟨_, rfl, sound.set kept index⟩
  | route order =>
    obtain ⟨next, routed, kept⟩ := sound.route order
    simp only [Router.step, routed]
    exact ⟨next, rfl, kept⟩
  | tick index ms =>
    -- Time passes for an interface that exists.
    have inside : index < router.interfaces.length := sound.length ▸ within
    have old := sound.interfaces _ (List.getElem_mem inside)
    obtain ⟨interface, ticked, kept⟩ := old.interface.tick ms
    simp only [Router.step, List.getElem?_eq_getElem inside, ticked]
    exact ⟨_, rfl, sound.set (old.replace kept) index⟩

/-- A router with new interfaces of the given addresses, and the given routes. -/
def assembled (addresses : List (EthernetAddress × UInt32)) (routes : List Route) : Router :=
  RouterHistory.built
    (addresses.map fun address => ⟨{ ethernetAddress := address.1, ipAddress := address.2 }, []⟩)
    routes

/-- The tables of a router name the interfaces that its routes name. -/
theorem built_itfMap_lt {interfaces : List AsyncNetworkInterface} {routes : List Route}
    {count : Nat} (existing : ∀ route ∈ routes, route.interfaceNum < count) :
    ∀ routePrefix, ∀ itf ∈ (RouterHistory.built interfaces routes).itfMap.lookup routePrefix,
      itf < count := by
  -- The table has the interface of the latest route with the prefix.
  intro routePrefix itf found
  rw [Option.mem_def, (RouterHistory.recorded_built _ routes).itfs] at found
  obtain ⟨route, last, rfl⟩ := Option.map_eq_some_iff.mp found
  exact existing route (Route.mem_of_latest last)

/-- A new router whose routes name its interfaces is sound. -/
theorem sound_assembled {addresses : List (EthernetAddress × UInt32)} {routes : List Route}
    (existing : ∀ route ∈ routes, route.interfaceNum < addresses.length) :
    (assembled addresses routes).Sound addresses.length where
  length := by rw [assembled, RouterHistory.built_interfaces, List.length_map]
  interfaces := fun async member => by
    -- A new interface holds nothing.
    rw [assembled, RouterHistory.built_interfaces] at member
    obtain ⟨address, -, rfl⟩ := List.mem_map.mp member
    exact ⟨NetworkInterface.sound_new _ _, fun _ queued => absurd queued List.not_mem_nil⟩
  routes := built_itfMap_lt existing

/-- While all frames are benign, no call throws and every datagram received can be sent on. -/
theorem never_throws_of_benign {addresses : List (EthernetAddress × UInt32)} {routes : List Route}
    (existing : ∀ route ∈ routes, route.interfaceNum < addresses.length)
    {calls : List RouterCall} (within : ∀ call ∈ calls, call.Within addresses.length)
    (benign : Throughout step Benign (assembled addresses routes) calls) :
    ∃ last, runCalls step (assembled addresses routes) calls = .ok last
      ∧ ∀ async ∈ last.interfaces, ∀ dgram ∈ async.datagramsOut, dgram.Serializes := by
  -- Soundness is the invariant of the run.
  have along := benign.and (Throughout.of_forall calls (assembled addresses routes) within)
  obtain ⟨last, ran, sound⟩ := along.returns (Sound addresses.length)
    (fun _ _ sound met => sound.step met.2 met.1) (sound_assembled existing)
  exact ⟨last, ran, fun async member => (sound.interfaces async member).queue⟩

namespace Scenario

/-- The addresses of the interfaces of a router. -/
def addresses : List (EthernetAddress × UInt32) :=
  [(.ofBytes 2 0 0 0 0 1, 0xc0a80001), (.ofBytes 2 0 0 0 0 2, 0x0a000001)]

/-- Routes for two networks. -/
def routes : List Route := [⟨0x0a000000, 8, none, 1⟩, ⟨0, 0, some 2873314305, 0⟩]

/-- The Ethernet address of another host. -/
def theirs : EthernetAddress := .ofBytes 2 0 0 0 0 9

/-- The payload of an ARP reply for the address 171.67.76.1. -/
def reply : Bytes :=
  [0, 1, 8, 0, 6, 4, 0, 2, 2, 0, 0, 0, 0, 9, 171, 67, 76, 1, 2, 0, 0, 0, 0, 1, 192, 168, 0, 1]

/-- A packet without payload to the address 8.8.8.8, with the given first byte. -/
def packet (first : UInt8) : Bytes :=
  [first, 0, 0, 20, 0, 0, 0, 0, 64, 6, 0, 0, 10, 0, 0, 2, 8, 8, 8, 8]

/-- The other host announces itself, and then sends a packet. -/
def arrivals (first : UInt8) : List RouterCall :=
  [.recvFrame 0 ⟨.broadcast, theirs, EthernetHeader.typeARP⟩ reply,
    .recvFrame 0 ⟨.broadcast, theirs, EthernetHeader.typeIPv4⟩ (packet first)]

end Scenario

open Scenario

/-- A packet of version 4 is routed, and time passes. -/
theorem never_throws_of_benign_packet :
    ∃ last, runCalls step (assembled addresses routes)
        (arrivals 0x45 ++ [.route (assembled addresses routes).lenMap.entries, .tick 1 30000])
          = .ok last
      ∧ ∀ async ∈ last.interfaces, ∀ dgram ∈ async.datagramsOut, dgram.Serializes :=
  never_throws_of_benign (by decide) (by decide +kernel) (by decide +kernel)

/-- A packet of version 6 makes the router throw, and again when it is called the next time. -/
theorem routed_packet_throws :
    ∃ last, runCalls step (assembled addresses routes) (arrivals 0x65) = .ok last
      ∧ (last.route last.lenMap.entries).2 = .error .wrongIPVersion
      ∧ ((last.route last.lenMap.entries).1.route last.lenMap.entries).2
        = .error .wrongIPVersion :=
  exists_runCalls (by decide +kernel)

end Router

end Sponge
