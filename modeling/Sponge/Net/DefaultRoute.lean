import Sponge.Net.RoutingTable
import Sponge.Wire.IPv4Laws

/-! What a router does with datagrams that only a default route matches, or none. -/

namespace Sponge

namespace RouterHistory

open Route Router

/-- The next hop of the datagrams for which the scan finds nothing. -/
def defaultHop : UInt32 := 2873314305

/-- When no route of positive length applies, the scan ends where it started. -/
theorem choose_default {interfaces : List AsyncNetworkInterface} {routes : List Route}
    (lengths : ∀ route ∈ routes, route.prefixLength.toNat ≤ 32)
    {order : List LenEntry} (scanned : order.Perm (built interfaces routes).lenMap.entries)
    {addr : UInt32} (zero : ∀ route ∈ routes, route.Matches addr → route.prefixLength = 0) :
    (built interfaces routes).choose order addr = {} := by
  rcases foldl_consider (built interfaces routes) addr order {} with ⟨same, -⟩ | ⟨entry, member,
    applies, longer, -, -⟩
  · exact same
  · -- An entry that was taken would come from a route of positive length that matches.
    obtain ⟨route, added, -, rfl⟩ :=
      (recorded_built interfaces routes).exists_latest (scanned.mem_iff.mp member)
    have positive : 1 ≤ route.prefixLength.toNat := longer
    have matching : route.Matches addr := (matches_iff positive (lengths route added) addr).mp applies
    rw [zero route added matching] at positive
    exact absurd positive (by decide)

/-- A datagram serializes after a hop exactly if it did before. -/
theorem hopped_serialize_isOk (dgram : IPv4Datagram) :
    (∃ out, (hopped dgram).serialize = .ok out) ↔ ∃ out, dgram.serialize = .ok out := by
  rw [IPv4Datagram.serialize_isOk_iff, IPv4Datagram.serialize_isOk_iff]
  exact Iff.rfl

/-- What the interfaces of a router have emitted and what they hold waiting. -/
def traffic (router : Router) : List (List EthernetFrame × (UInt32 → List IPv4Datagram)) :=
  router.interfaces.map fun async => (async.interface.framesOut, async.interface.waiting)

/-- The first interface, if there is one, sends nothing to the fallback address now. -/
def Silent (interfaces : List AsyncNetworkInterface) (dgram : IPv4Datagram) : Prop :=
  ∀ async ∈ interfaces.head?,
    async.interface.cache.lookup defaultHop = none
        ∧ async.interface.requestDue defaultHop = false
      ∨ (async.interface.cache.lookup defaultHop).isSome = true
        ∧ ¬ ∃ out, dgram.serialize = .ok out

/-- Sending leaves no trace exactly if the datagram is refused or dropped. -/
theorem sendDatagram_silent_iff (itf : NetworkInterface) (dgram : IPv4Datagram) :
    ((itf.sendDatagram (hopped dgram) defaultHop).1.framesOut,
        (itf.sendDatagram (hopped dgram) defaultHop).1.waiting) = (itf.framesOut, itf.waiting)
      ↔ itf.cache.lookup defaultHop = none ∧ itf.requestDue defaultHop = false
        ∨ (itf.cache.lookup defaultHop).isSome = true ∧ ¬ ∃ out, dgram.serialize = .ok out := by
  have sending := itf.sendDatagram_sending (hopped dgram) defaultHop
  generalize (itf.sendDatagram (hopped dgram) defaultHop).1 = next at sending ⊢
  generalize (itf.sendDatagram (hopped dgram) defaultHop).2 = result at sending
  -- A frame more in the queue is a trace.
  have grown {frames : List EthernetFrame} {frame : EthernetFrame} : frames ++ [frame] ≠ frames :=
    fun same => by simpa using congrArg List.length same
  cases sending with
  | @direct dst payload known written =>
    -- The datagram goes out, as it can be serialized.
    have serializes : ∃ out, dgram.serialize = .ok out :=
      (hopped_serialize_isOk dgram).mp ⟨payload, written⟩
    simp only [NetworkInterface.push, known, Prod.mk.injEq, grown, false_and, reduceCtorEq,
      serializes, not_true_eq_false, and_false, or_self]
  | @refused dst thrown known failed =>
    -- The mapping is known, and the datagram throws.
    have fails : ¬ ∃ out, dgram.serialize = .ok out := by
      rw [← hopped_serialize_isOk, failed]
      simp
    simp only [known, fails, not_false_eq_true, Option.isSome_some, and_self, or_true]
  | queued unknown due =>
    -- A request goes out.
    simp only [NetworkInterface.framesOut_asked, unknown, due, Prod.mk.injEq, grown, false_and,
      Bool.true_eq_false, and_false, Option.isSome_none, Bool.false_eq_true, or_self]
  | dropped unknown recent => simp only [unknown, recent, and_self, true_or]

/-- Handing a datagram to the first interface leaves no trace exactly if it is silent. -/
theorem forward_silent_iff {router : Router} {dgram : IPv4Datagram} :
    traffic (router.forward 0 (hopped dgram) defaultHop).1 = traffic router
      ↔ Silent router.interfaces dgram := by
  obtain ⟨interfaces, lenMap, gwMap, itfMap⟩ := router
  -- The fallback is the first interface, if there is one.
  cases interfaces with
  | nil =>
    rw [forward_outside _ rfl]
    simp [traffic, Silent]
  | cons async rest =>
    rw [forward_inside _ rfl]
    simp only [traffic, Silent, List.set_cons_zero, List.map_cons, List.cons.injEq, and_true,
      List.head?_cons, Option.mem_some_iff, forall_eq']
    exact sendDatagram_silent_iff async.interface dgram

/-- Datagrams that only default routes match take the last of them, and unmatched ones nothing. -/
def DefaultsRightly (interfaces : List AsyncNetworkInterface) (routes : List Route)
    (order : List LenEntry) (dgram : IPv4Datagram) : Prop :=
  (∀ route ∈ routes, route.Matches dgram.header.dst → route.prefixLength = 0) →
    (∀ last, (routes.filter fun route => route.prefixLength = 0).getLast? = some last →
      HandedTo (built interfaces routes) order dgram last)
    ∧ ((∀ route ∈ routes, ¬ route.Matches dgram.header.dst) →
      traffic ((built interfaces routes).routeOneDatagram order dgram).2.1
        = traffic (built interfaces routes))

/-- The fallback of the code happens to be the default route, or to emit nothing. -/
def FallbackFits (interfaces : List AsyncNetworkInterface) (routes : List Route)
    (dgram : IPv4Datagram) : Prop :=
  (∀ route ∈ routes, route.Matches dgram.header.dst → route.prefixLength = 0) →
    (∀ last, (routes.filter fun route => route.prefixLength = 0).getLast? = some last →
      last.interfaceNum = 0 ∧ last.nextHop.getD dgram.header.dst = defaultHop)
    ∧ ((∀ route ∈ routes, ¬ route.Matches dgram.header.dst) → Silent interfaces dgram)

/-- Default routes and unroutable datagrams are treated rightly exactly if the fallback fits. -/
theorem defaultsRightly_iff_fallbackFits (interfaces : List AsyncNetworkInterface)
    {routes : List Route} (lengths : ∀ route ∈ routes, route.prefixLength.toNat ≤ 32)
    (existing : ∀ route ∈ routes, route.interfaceNum < interfaces.length)
    {order : List LenEntry} (scanned : order.Perm (built interfaces routes).lenMap.entries)
    {dgram : IPv4Datagram} (alive : 2 ≤ dgram.header.ttl.toNat) :
    DefaultsRightly interfaces routes order dgram ↔ FallbackFits interfaces routes dgram := by
  refine forall_congr' fun zero => ?_
  -- Without a longer match, the scan ends with the fallback.
  have fallback := choose_default lengths scanned zero
  refine and_congr (forall₂_congr fun last isLast => ?_) (forall_congr' fun unmatched => ?_)
  · -- The last default route is handed the datagram exactly if it is the fallback.
    have added : last ∈ routes := (List.mem_filter.mp (List.mem_of_getLast? isLast)).1
    rw [handedTo_iff alive (by rw [built_interfaces]; exact existing last added), fallback]
    exact and_congr eq_comm eq_comm
  · rw [routeOneDatagram_alive _ order alive, fallback]
    refine forward_silent_iff.trans ?_
    rw [built_interfaces]

namespace Scenario

/-- A default route that is the fallback of the code. -/
def uplink : List Route := [⟨0, 0, some defaultHop, 0⟩]

/-- A default route over the second interface. -/
def elsewhere : List Route := [⟨0, 0, some 0xc0a80101, 1⟩]

end Scenario

open Scenario

/-- The default route of the network simulator is treated rightly. -/
theorem defaultsRightly_iff_fallbackFits_uplink :
    DefaultsRightly [port 1, port 2, port 3] uplink (site uplink).lenMap.entries dgram := by
  have lengths : ∀ route ∈ uplink, route.prefixLength.toNat ≤ 32 := by decide +kernel
  have alive : 2 ≤ dgram.header.ttl.toNat := by decide +kernel
  have fits : FallbackFits [port 1, port 2, port 3] uplink dgram := by
    intro zero
    refine ⟨?_, fun unmatched => ?_⟩
    · intro last isLast
      obtain rfl : (⟨0, 0, some defaultHop, 0⟩ : Route) = last := Option.some.inj isLast
      exact ⟨rfl, rfl⟩
    · -- A route of length zero matches every address.
      exact absurd (by decide +kernel) (unmatched _ (List.mem_singleton_self _))
  exact (defaultsRightly_iff_fallbackFits [port 1, port 2, port 3] lengths (by decide) (.refl _)
    alive).mpr fits

/-- Another default route is not used, and an unroutable datagram makes the router ask for it. -/
theorem elsewhere_ignored :
    (elsewhere.all fun route => route.prefixLength = 0 ∧ route.Matches dgram.header.dst) = true
      ∧ ((site elsewhere).choose (site elsewhere).lenMap.entries dgram.header.dst).itf = 0
      ∧ ((site elsewhere).choose (site elsewhere).lenMap.entries dgram.header.dst).nextHop
        = defaultHop
      ∧ ¬ DefaultsRightly [port 1, port 2, port 3] elsewhere (site elsewhere).lenMap.entries dgram
      ∧ ((site []).routeOneDatagram (site []).lenMap.entries dgram).2.1.interfaces.map
        (fun async => async.interface.framesOut.length) = [1, 0, 0] := by
  have itf : ((site elsewhere).choose (site elsewhere).lenMap.entries dgram.header.dst).itf = 0 := by
    decide +kernel
  refine ⟨by decide +kernel, itf, by decide +kernel, fun rightly => ?_, by decide +kernel⟩
  -- The call would have to be made on the second interface.
  have handed := (rightly (by decide +kernel)).1 ⟨0, 0, some 0xc0a80101, 1⟩ rfl
  have used := (handedTo_iff (by decide +kernel) (by decide +kernel)).mp handed
  exact absurd (itf.symm.trans used.1) (by decide)

end RouterHistory

end Sponge
