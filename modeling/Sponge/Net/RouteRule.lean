import Sponge.Net.Router

/-! A rule about routing: what every call of `send_datagram` keeps is kept by a whole `route`. -/

namespace Sponge

namespace Router

section Keeps

-- What holds of each interface, and of each datagram that it has received.
variable {inv : Nat → NetworkInterface → Prop} {arrived : Nat → IPv4Datagram → Prop}

/-- A router with the routes of a table and with so many interfaces, which are as they should be. -/
structure Keeps (inv : Nat → NetworkInterface → Prop) (arrived : Nat → IPv4Datagram → Prop)
    (router table : Router) (count : Nat) : Prop where
  /-- The prefixes are those of the table. -/
  lens : router.lenMap = table.lenMap
  /-- So are their gateways. -/
  gateways : router.gwMap = table.gwMap
  /-- So are their interfaces. -/
  itfs : router.itfMap = table.itfMap
  /-- The number of interfaces. -/
  length : router.interfaces.length = count
  /-- The interfaces and their queues. -/
  interfaces : ∀ index async, router.interfaces[index]? = some async →
    inv index async.interface ∧ ∀ dgram ∈ async.datagramsOut, arrived index dgram

variable {table router : Router} {count : Nat}

/-- Routers with the same routes choose the same route. -/
theorem Keeps.choose (keeps : router.Keeps inv arrived table count) (order : List LenEntry)
    (addr : UInt32) : router.choose order addr = table.choose order addr := by
  -- Each turn only looks at the gateways and the interfaces of the prefixes.
  have same : router.consider addr = table.consider addr := by
    funext best entry
    unfold consider chosen
    rw [keeps.gateways, keeps.itfs]
  unfold Router.choose
  rw [same]

/-- One interface may become another one that is as it should be. -/
theorem Keeps.set (keeps : router.Keeps inv arrived table count) {index : Nat}
    {async : AsyncNetworkInterface} (fine : inv index async.interface)
    (queue : ∀ dgram ∈ async.datagramsOut, arrived index dgram) :
    { router with interfaces := router.interfaces.set index async }.Keeps inv arrived table
      count := by
  refine ⟨keeps.lens, keeps.gateways, keeps.itfs, ?_, ?_⟩
  · -- The number of interfaces stays.
    change (router.interfaces.set index async).length = count
    rw [List.length_set]
    exact keeps.length
  · intro other found looked
    change (router.interfaces.set index async)[other]? = some found at looked
    rw [List.getElem?_set] at looked
    split at looked
    · rename_i same
      subst same
      split at looked
      · -- The interface is the new one.
        cases looked
        exact ⟨fine, queue⟩
      · -- There is no such interface.
        cases looked
    · -- The interface is an old one.
      exact keeps.interfaces other found looked

/-- A queue may become another one of datagrams that have arrived. -/
theorem Keeps.setQueue (keeps : router.Keeps inv arrived table count) (index : Nat)
    {queue : List IPv4Datagram} (fine : ∀ dgram ∈ queue, arrived index dgram) :
    (router.setQueue index queue).Keeps inv arrived table count := by
  refine ⟨keeps.lens, keeps.gateways, keeps.itfs, ?_, ?_⟩
  · unfold Router.setQueue
    rw [List.length_modify]
    exact keeps.length
  · intro other found looked
    unfold Router.setQueue at looked
    rw [List.getElem?_modify] at looked
    obtain ⟨async, before, same⟩ := Option.map_eq_some_iff.mp looked
    have old := keeps.interfaces other async before
    split at same
    · -- The queue is the new one.
      rename_i here
      subst here same
      exact ⟨old.1, fine⟩
    · -- The queue is an old one.
      subst same
      exact old

section Forwarding

variable {order : List LenEntry}
  -- The interface of a chosen route exists.
  (exist : ∀ addr, (table.choose order addr).itf < count)
  -- A datagram that has arrived may be sent along its route, if it lives long enough.
  (sends : ∀ index dgram itf, arrived index dgram → 2 ≤ dgram.header.ttl.toNat →
    inv (table.choose order dgram.header.dst).itf itf →
    ∃ next, itf.sendDatagram (hopped dgram) (table.choose order dgram.header.dst).nextHop =
      (next, .ok ()) ∧ inv (table.choose order dgram.header.dst).itf next)
include exist sends

/-- A datagram that has arrived is forwarded, or its time is over. -/
theorem Keeps.routeOneDatagram (keeps : router.Keeps inv arrived table count) {index : Nat}
    {dgram : IPv4Datagram} (came : arrived index dgram) :
    ∃ left next, router.routeOneDatagram order dgram = (left, next, .ok ()) ∧
      next.Keeps inv arrived table count := by
  rcases Nat.lt_or_ge dgram.header.ttl.toNat 2 with expired | alive
  · rw [routeOneDatagram_expired router order (Nat.le_of_lt_succ expired)]
    exact ⟨dgram, router, rfl, keeps⟩
  · -- The chosen interface exists, and sending keeps what holds of it.
    rw [routeOneDatagram_alive router order alive, keeps.choose]
    have inside := exist dgram.header.dst
    rw [← keeps.length] at inside
    have found := List.getElem?_eq_getElem inside
    obtain ⟨fine, queue⟩ := keeps.interfaces _ _ found
    obtain ⟨next, sent, kept⟩ := sends index dgram _ came alive fine
    rw [forward_inside router found, sent]
    exact ⟨_, _, rfl, keeps.set kept queue⟩

/-- A queue of datagrams that have arrived is routed. -/
theorem Keeps.routeQueue (index : Nat) :
    ∀ (queue : List IPv4Datagram) (router : Router), router.Keeps inv arrived table count →
      (∀ dgram ∈ queue, arrived index dgram) →
      ∃ next, Router.routeQueue order index queue router = (next, .ok ()) ∧
        next.Keeps inv arrived table count := by
  intro queue
  -- Each datagram is routed in the router that the one before it left behind.
  induction queue with
  | nil =>
    intro router keeps _
    exact ⟨router, rfl, keeps⟩
  | cons dgram queue ih =>
    intro router keeps came
    obtain ⟨left, routed, done, kept⟩ := keeps.routeOneDatagram exist sends
      (came dgram List.mem_cons_self)
    have rest : ∀ other ∈ queue, arrived index other := fun other member =>
      came other (List.mem_cons_of_mem _ member)
    rw [routeQueue_cons, done]
    exact ih _ (kept.setQueue index rest) rest

/-- The queues of all interfaces are routed. -/
theorem Keeps.route (keeps : router.Keeps inv arrived table count) :
    ∃ next, router.route order = (next, .ok ()) ∧ next.Keeps inv arrived table count := by
  have general : ∀ (indices : List Nat) (router : Router),
      router.Keeps inv arrived table count →
      ∃ next, routeInterfaces order indices router = (next, .ok ()) ∧
        next.Keeps inv arrived table count := by
    intro indices
    -- The queue of an interface is looked up when its turn comes.
    induction indices with
    | nil =>
      intro router keeps
      exact ⟨router, rfl, keeps⟩
    | cons index rest ih =>
      intro router keeps
      have came : ∀ dgram ∈ (router.interfaces[index]?.map
          AsyncNetworkInterface.datagramsOut).getD [], arrived index dgram := by
        intro dgram member
        cases found : router.interfaces[index]? with
        | none =>
          -- There is no such interface, so nothing has arrived.
          rw [found] at member
          cases member
        | some async =>
          rw [found] at member
          exact (keeps.interfaces index async found).2 dgram member
      obtain ⟨next, routed, kept⟩ := Keeps.routeQueue exist sends index _ router keeps came
      rw [routeInterfaces_cons, routed]
      exact ih next kept
  exact general _ router keeps

end Forwarding

end Keeps

end Router

end Sponge
