import Sponge.Net.RouterSafety

/-! Which datagrams a router passes on: the calls that routing makes, one by one. -/

namespace Sponge

namespace Router

/-- The interfaces of a router after a call of `send_datagram` on one of them. -/
def performed (interfaces : List AsyncNetworkInterface) (call : SendCall) :
    List AsyncNetworkInterface :=
  interfaces.modify call.itf fun async =>
    { async with interface := (async.interface.sendDatagram call.dgram call.nextHop).1 }

/-- An interface whose queue was replaced. -/
def requeued (queue : List IPv4Datagram) (async : AsyncNetworkInterface) : AsyncNetworkInterface :=
  { async with datagramsOut := queue }

/-- The calls that a datagram should cause: one if it has time left, and none otherwise. -/
def callsFor (router : Router) (order : List LenEntry) (dgram : IPv4Datagram) : List SendCall :=
  if 2 ≤ dgram.header.ttl.toNat then
    [⟨(router.choose order dgram.header.dst).itf, hopped dgram,
      (router.choose order dgram.header.dst).nextHop⟩]
  else []

/-- The datagrams that an interface has received. -/
def queueAt (interfaces : List AsyncNetworkInterface) (index : Nat) : List IPv4Datagram :=
  (interfaces[index]?.map AsyncNetworkInterface.datagramsOut).getD []

section Interfaces

variable (interfaces : List AsyncNetworkInterface)

/-- Calls leave the number of interfaces. -/
theorem length_foldl_performed (calls : List SendCall) :
    (calls.foldl performed interfaces).length = interfaces.length := by
  induction calls generalizing interfaces with
  | nil => rfl
  | cons call calls ih => rw [List.foldl_cons, ih, performed, List.length_modify]

/-- The queues in order are the datagrams of the interfaces in order. -/
theorem flatMap_range_queueAt {β : Type} (calls : IPv4Datagram → List β) :
    ((List.range interfaces.length).flatMap fun index =>
      (queueAt interfaces index).flatMap calls) =
      (interfaces.flatMap AsyncNetworkInterface.datagramsOut).flatMap calls := by
  -- The loop runs over the indices of the interfaces.
  have all : (List.range interfaces.length).map (queueAt interfaces) =
      interfaces.map AsyncNetworkInterface.datagramsOut := by
    apply List.ext_getElem
    · simp
    · intro position inside inside'
      rw [List.length_map] at inside'
      simp [queueAt, inside']
  rw [← List.flatMap_map, all, List.flatMap_assoc, List.flatMap_map]

/-- Calls leave the queues. -/
theorem queueAt_foldl_performed (calls : List SendCall) (index : Nat) :
    queueAt (calls.foldl performed interfaces) index = queueAt interfaces index := by
  induction calls generalizing interfaces with
  | nil => rfl
  | cons call calls ih =>
    rw [List.foldl_cons, ih, queueAt, queueAt, performed, List.getElem?_modify]
    -- A call replaces what is below an interface, not its queue.
    split
    · cases interfaces[index]? with
      | none => rfl
      | some async => rfl
    · simp

/-- A queue that is replaced by itself stays. -/
theorem modify_requeued_self {index : Nat} {queue : List IPv4Datagram}
    (held : queueAt interfaces index = queue) :
    interfaces.modify index (requeued queue) = interfaces := by
  -- The lists agree at every position.
  apply List.ext_getElem?
  intro position
  rw [List.getElem?_modify]
  cases found : interfaces[position]? with
  | none => rfl
  | some async =>
    by_cases here : index = position
    · -- The interface of the queue.
      subst here
      rw [queueAt, found] at held
      simp [requeued, ← held]
    · -- Any other interface.
      simp [here]

/-- A queue that was replaced is the new one, and the others stay. -/
theorem queueAt_requeued {index : Nat} (inside : index < interfaces.length)
    (queue : List IPv4Datagram) (position : Nat) :
    queueAt (interfaces.modify index (requeued queue)) position =
      if index = position then queue else queueAt interfaces position := by
  -- The modified position and the others are looked up separately.
  rw [queueAt, List.getElem?_modify]
  by_cases here : index = position
  · subst here
    simp [inside, requeued]
  · simp [here, queueAt]

/-- Replacing a queue and making a call do not meet. -/
theorem performed_requeued (index : Nat) (queue : List IPv4Datagram) (call : SendCall) :
    performed (interfaces.modify index (requeued queue)) call =
      (performed interfaces call).modify index (requeued queue) := by
  apply List.ext_getElem?
  intro position
  simp only [performed, List.getElem?_modify]
  -- At each position the two change different fields.
  cases interfaces[position]? with
  | none => rfl
  | some async =>
    by_cases called : call.itf = position
    · by_cases replaced : index = position
      · simp [called, replaced, requeued]
      · simp [called, replaced]
    · by_cases replaced : index = position
      · simp [called, replaced]
      · simp [called, replaced]

/-- A queue may be replaced before or after the calls. -/
theorem foldl_performed_requeued (index : Nat) (queue : List IPv4Datagram)
    (calls : List SendCall) :
    calls.foldl performed (interfaces.modify index (requeued queue)) =
      (calls.foldl performed interfaces).modify index (requeued queue) := by
  induction calls generalizing interfaces with
  | nil => rfl
  | cons call calls ih => rw [List.foldl_cons, performed_requeued, ih, List.foldl_cons]

/-- Empties the queues of some interfaces. -/
def emptied (indices : List Nat) (interfaces : List AsyncNetworkInterface) :
    List AsyncNetworkInterface :=
  indices.foldl (fun interfaces index => interfaces.modify index (requeued [])) interfaces

/-- The queues of the given interfaces are empty, and the others are as they were. -/
theorem getElem?_emptied (indices : List Nat) (position : Nat) :
    (emptied indices interfaces)[position]? =
      interfaces[position]?.map (if position ∈ indices then requeued [] else id) := by
  -- Induction on the indices, for all states of the interfaces.
  induction indices generalizing interfaces with
  | nil => simp [emptied]
  | cons index indices ih =>
    rw [emptied, List.foldl_cons]
    refine (ih (interfaces.modify index (requeued []))).trans ?_
    rw [List.getElem?_modify]
    -- Emptying a queue twice is emptying it once.
    cases interfaces[position]? with
    | none => rfl
    | some async =>
      by_cases here : index = position
      · by_cases again : position ∈ indices
        · simp [here, again, requeued]
        · simp [here, again]
      · simp [here, Ne.symm here]

/-- Emptying the queues of all interfaces. -/
theorem emptied_range {count : Nat} (length : interfaces.length = count) :
    emptied (List.range count) interfaces = interfaces.map (requeued []) := by
  subst length
  apply List.ext_getElem?
  intro position
  rw [getElem?_emptied, List.getElem?_map]
  -- Every interface has an index in the range.
  by_cases inside : position < interfaces.length
  · rw [if_pos (List.mem_range.mpr inside)]
  · rw [List.getElem?_eq_none (Nat.not_lt.mp inside)]
    rfl

end Interfaces

section Observed

open Observable

variable {router : Router} (order : List LenEntry)

/-- Sending a datagram that can be serialized succeeds, whatever the interface knows. -/
theorem sendDatagram_ok {itf : NetworkInterface} {dgram : IPv4Datagram}
    (serializes : dgram.Serializes) (ip : UInt32) : (itf.sendDatagram dgram ip).2 = .ok () := by
  have sending := itf.sendDatagram_sending dgram ip
  generalize (itf.sendDatagram dgram ip).1 = next at sending
  generalize (itf.sendDatagram dgram ip).2 = result at sending ⊢
  -- The only failure is that the datagram cannot be written.
  cases sending with
  | direct known written => rfl
  | refused known failed =>
    obtain ⟨out, written⟩ := serializes
    rw [failed] at written
    cases written
  | queued unknown due => rfl
  | dropped unknown recent => rfl

/-- Forwarding on an interface that exists is one call. -/
theorem forwardWith_reports {itf : Nat} (inside : itf < router.interfaces.length)
    {dgram : IPv4Datagram} (serializes : dgram.Serializes) (nextHop : UInt32) :
    Reports (fun _ _ trace => router.forwardWith trace itf dgram nextHop) [⟨itf, dgram, nextHop⟩]
      ({ router with interfaces := performed router.interfaces ⟨itf, dgram, nextHop⟩ },
        .ok ()) := by
  -- The interface is found, and the call is made on it.
  have found := List.getElem?_eq_getElem inside
  intro m _ _ trace
  simp only [forwardWith, found, SendCall.perform, bind_assoc, pure_bind,
    sendDatagram_ok serializes, performed, List.modify_eq_set_getElem?, Option.map_eq_map,
    Option.map_some, Option.getD_some, List.forM_cons, List.forM_nil]

section Routes

variable (routes : ∀ routePrefix, ∀ itf ∈ router.itfMap.lookup routePrefix,
  itf < router.interfaces.length)
include routes

/-- Routing a datagram makes the calls that it should cause, and nothing else. -/
theorem routingOne_reports (positive : 0 < router.interfaces.length)
    {dgram : IPv4Datagram} (serializes : dgram.Serializes) :
    ∃ left, (router.routingOne order dgram).Reports (router.callsFor order dgram)
      (left, { router with
        interfaces := (router.callsFor order dgram).foldl performed router.interfaces },
        .ok ()) := by
  rw [callsFor]
  by_cases alive : 2 ≤ dgram.header.ttl.toNat
  · -- With time left, the datagram is sent on the interface that is chosen for it.
    have inside := choose_lt positive routes order dgram.header.dst
    refine ⟨hopped dgram, fun m _ _ trace => ?_⟩
    rw [routingOne, routeOneDatagramWith, if_neg (by omega), if_pos alive]
    exact (forwardWith_reports inside (serializes_hopped serializes) _).bind trace _
  · -- Without time left, the datagram is only taken out of the queue.
    refine ⟨dgram, fun m _ _ trace => ?_⟩
    rw [routingOne, routeOneDatagramWith, if_pos (by omega), if_neg alive]
    exact Reports.pure _ m trace

end Routes

/-- The calls that a datagram should cause depend on the routes only. -/
theorem callsFor_interfaces (router : Router) (interfaces : List AsyncNetworkInterface) :
    { router with interfaces }.callsFor order = router.callsFor order := rfl

/-- Routing a queue makes the calls that its datagrams should cause, in order, and empties it. -/
theorem routeQueueWith_reports {index : Nat} {queue : List IPv4Datagram}
    (serializes : ∀ dgram ∈ queue, dgram.Serializes) :
    ∀ router : Router, index < router.interfaces.length →
      queueAt router.interfaces index = queue →
      (∀ routePrefix, ∀ itf ∈ router.itfMap.lookup routePrefix,
        itf < router.interfaces.length) →
      Reports (fun _ _ trace => routeQueueWith trace order index queue router)
        (queue.flatMap (router.callsFor order))
        ({ router with
          interfaces := ((queue.flatMap (router.callsFor order)).foldl performed
            router.interfaces).modify index (requeued []) }, .ok ()) := by
  -- Each turn routes the datagram at the head, and takes it out of the queue.
  induction queue with
  | nil =>
    intro router inside held routes
    simp only [List.flatMap_nil, List.foldl_nil, modify_requeued_self _ held, routeQueueWith]
    exact Reports.pure _
  | cons dgram queue ih =>
    intro router inside held routes
    obtain ⟨first, rest⟩ := List.forall_mem_cons.mp serializes
    obtain ⟨left, routed⟩ := routingOne_reports order routes (Nat.zero_lt_of_lt inside) first
    -- The router in which the rest of the queue is routed.
    have turn := ih rest
      { router with interfaces := ((router.callsFor order dgram).foldl performed
        router.interfaces).modify index (requeued queue) }
      (by rwa [List.length_modify, length_foldl_performed])
      (by rw [queueAt_requeued _ (by rwa [length_foldl_performed]), if_pos rfl])
      (by rwa [List.length_modify, length_foldl_performed])
    intro m _ _ trace
    dsimp only
    rw [routeQueueWith]
    refine (routed.bind trace _).trans ((congrArg _ (funext fun _ => turn m trace)).trans ?_)
    simp only [callsFor_interfaces, List.flatMap_cons, List.forM_append, List.foldl_append,
      bind_assoc, foldl_performed_requeued, List.modify_modify_eq]
    rfl

/-- Routing the queues of different interfaces makes the calls that their datagrams should cause,
interface by interface, and empties them. -/
theorem routeInterfacesWith_reports {indices : List Nat} (distinct : indices.Nodup) :
    ∀ router : Router, (∀ index ∈ indices, index < router.interfaces.length) →
      (∀ index, ∀ dgram ∈ queueAt router.interfaces index, dgram.Serializes) →
      (∀ routePrefix, ∀ itf ∈ router.itfMap.lookup routePrefix,
        itf < router.interfaces.length) →
      Reports (fun _ _ trace => routeInterfacesWith trace order indices router)
        (indices.flatMap fun index =>
          (queueAt router.interfaces index).flatMap (router.callsFor order))
        ({ router with interfaces := emptied indices ((indices.flatMap fun index =>
          (queueAt router.interfaces index).flatMap (router.callsFor order)).foldl performed
            router.interfaces) }, .ok ()) := by
  -- Each turn routes the queue of one interface.
  induction indices with
  | nil =>
    intro router within serializes routes
    exact Reports.pure _
  | cons index indices ih =>
    intro router within serializes routes
    obtain ⟨fresh, distinct⟩ := List.nodup_cons.mp distinct
    obtain ⟨inside, later⟩ := List.forall_mem_cons.mp within
    have routed := routeQueueWith_reports order (serializes index) router inside rfl routes
    -- The router in which the other queues are routed.
    generalize moved : ((queueAt router.interfaces index).flatMap (router.callsFor order)).foldl
      performed router.interfaces = called at routed
    have length : called.length = router.interfaces.length := by
      rw [← moved, length_foldl_performed]
    have queues : ∀ position, queueAt (called.modify index (requeued [])) position =
        if index = position then [] else queueAt router.interfaces position := by
      intro position
      rw [queueAt_requeued _ (length ▸ inside), ← moved, queueAt_foldl_performed]
    have turn := ih distinct { router with interfaces := called.modify index (requeued []) }
      (fun other member => by rw [List.length_modify, length]; exact later other member)
      (fun position dgram member => by
        rw [queues] at member
        split at member
        · cases member
        · exact serializes position dgram member)
      (by rwa [List.length_modify, length])
    -- A queue that comes later is not touched before its turn.
    have others : (indices.flatMap fun other =>
        (queueAt (called.modify index (requeued [])) other).flatMap (router.callsFor order)) =
        indices.flatMap fun other =>
          (queueAt router.interfaces other).flatMap (router.callsFor order) :=
      List.flatMap_congr fun other member => by
        have different : index ≠ other := fun same => fresh (by rw [same]; exact member)
        rw [queues, if_neg different]
    intro m _ _ trace
    dsimp only
    rw [routeInterfacesWith, ← queueAt]
    refine (routed.bind trace _).trans ((congrArg _ (funext fun _ => turn m trace)).trans ?_)
    simp only [callsFor_interfaces, others, List.flatMap_cons, List.forM_append, List.foldl_append,
      bind_assoc, foldl_performed_requeued, moved]
    rfl

/-- Routing makes the calls that the queued datagrams should cause, and empties all queues. -/
theorem routing_reports {router : Router}
    (serializes : ∀ async ∈ router.interfaces, ∀ dgram ∈ async.datagramsOut, dgram.Serializes)
    (routes : ∀ routePrefix, ∀ itf ∈ router.itfMap.lookup routePrefix,
      itf < router.interfaces.length) :
    (router.routing order).Reports
      ((router.interfaces.flatMap AsyncNetworkInterface.datagramsOut).flatMap
        (router.callsFor order))
      ({ router with interfaces :=
        (((router.interfaces.flatMap AsyncNetworkInterface.datagramsOut).flatMap
          (router.callsFor order)).foldl performed router.interfaces).map (requeued []) },
        .ok ()) := by
  -- The queues are those of the interfaces, one for each index.
  have whole := routeInterfacesWith_reports order List.nodup_range router
    (fun index member => List.mem_range.mp member)
    (fun index dgram member => by
      rw [queueAt] at member
      cases found : router.interfaces[index]? with
      | none => simp [found] at member
      | some async =>
        rw [found] at member
        exact serializes async (List.mem_of_getElem? found) dgram member)
    routes
  rw [flatMap_range_queueAt, emptied_range _ (length_foldl_performed router.interfaces _)] at whole
  exact whole

end Observed

/-- A datagram of version 4 whose payload has the length that its header says. -/
structure Proper (dgram : IPv4Datagram) : Prop where
  /-- The version is 4. -/
  version : dgram.header.ver = 4
  /-- The header has room for its fields. -/
  room : 5 ≤ dgram.header.hlen.toNat
  /-- The header and the payload make up the total length. -/
  length : 4 * dgram.header.hlen.toNat + dgram.payload.size = dgram.header.len.toNat

/-- A proper datagram can be serialized. -/
theorem Proper.serializes {dgram : IPv4Datagram} (proper : Proper dgram) : dgram.Serializes := by
  -- The length field covers the header, so the payload has the length that it says.
  have word := dgram.header.len.toNat_lt
  have total := proper.length
  rw [IPv4Datagram.Serializes, IPv4Datagram.serialize_isOk_iff, IPv4Header.payloadLength_toNat]
  exact ⟨by omega, proper.version, proper.room⟩

/-- The calls that datagrams should cause are one for each with time left. -/
theorem flatMap_callsFor (router : Router) (order : List LenEntry) (dgrams : List IPv4Datagram) :
    dgrams.flatMap (router.callsFor order) =
      (dgrams.filter fun dgram => 2 ≤ dgram.header.ttl.toNat).map fun dgram =>
        { itf := (router.choose order dgram.header.dst).itf
          dgram := { dgram with header := { dgram.header with ttl := dgram.header.ttl - 1 } }
          nextHop := (router.choose order dgram.header.dst).nextHop } := by
  induction dgrams with
  | nil => rfl
  | cons dgram dgrams ih =>
    rw [List.flatMap_cons, ih, callsFor]
    -- A datagram causes one call or none.
    by_cases alive : 2 ≤ dgram.header.ttl.toNat
    · rw [if_pos alive, List.filter_cons_of_pos (by simpa using alive)]
      rfl
    · rw [if_neg alive, List.filter_cons_of_neg (by simpa using alive)]
      rfl

/-- Routing returns with all queues empty. The calls of `send_datagram` that it makes are one for
each datagram with time left, in queue order and interface by interface, with the time reduced by
one; and they are all that happens to the interfaces. -/
theorem route_conserves (interfaces : List AsyncNetworkInterface) (routes : List Route)
    (existing : ∀ route ∈ routes, route.interfaceNum < interfaces.length) (order : List LenEntry)
    (proper : ∀ async ∈ interfaces, ∀ dgram ∈ async.datagramsOut, Proper dgram) :
    let router := RouterHistory.built interfaces routes
    let calls : List SendCall :=
      ((interfaces.flatMap AsyncNetworkInterface.datagramsOut).filter
        fun dgram => 2 ≤ dgram.header.ttl.toNat).map fun dgram =>
          { itf := (router.choose order dgram.header.dst).itf
            dgram := { dgram with header := { dgram.header with ttl := dgram.header.ttl - 1 } }
            nextHop := (router.choose order dgram.header.dst).nextHop }
    -- The code, run with a note of each call, notes these and returns what it returns without.
    (router.routing order).noted = (router.route order, calls) ∧
    (∀ call ∈ calls, call.itf < interfaces.length) ∧
    -- The interfaces are those after the calls, one after the other, with their queues empty.
    router.route order = ({ router with
      interfaces := (calls.foldl (fun interfaces call => interfaces.modify call.itf fun async =>
          { async with interface := (async.interface.sendDatagram call.dgram call.nextHop).1 })
        interfaces).map fun async => { async with datagramsOut := [] } }, .ok ()) := by
  intro router calls
  -- Building the table has not touched the interfaces.
  have same : router.interfaces = interfaces := RouterHistory.built_interfaces interfaces routes
  have inside : ∀ routePrefix, ∀ itf ∈ router.itfMap.lookup routePrefix,
      itf < router.interfaces.length := by
    rw [same]
    exact built_itfMap_lt existing
  have serializes : ∀ async ∈ router.interfaces, ∀ dgram ∈ async.datagramsOut,
      dgram.Serializes := by
    intro async member dgram queued
    exact (proper async (same ▸ member) dgram queued).serializes
  -- Each datagram with time left causes one call, and the others none.
  have caused : (router.interfaces.flatMap AsyncNetworkInterface.datagramsOut).flatMap
      (router.callsFor order) = calls := by
    rw [flatMap_callsFor, same]
  have reports := routing_reports order serializes inside
  rw [caused, same] at reports
  refine ⟨?_, fun call member => ?_, reports.result_eq⟩
  · -- Nobody watches the router itself, and the noted run has the calls as its notes.
    rw [reports.noted_eq]
    exact congrArg (·, calls) reports.result_eq.symm
  · -- A datagram was received by some interface, so there is one for the fallback too.
    obtain ⟨dgram, queued, rfl⟩ := List.mem_map.mp member
    obtain ⟨async, held, -⟩ := List.mem_flatMap.mp (List.mem_filter.mp queued).1
    exact choose_lt (List.length_pos_of_mem held) (built_itfMap_lt existing) order dgram.header.dst

/-- A datagram without payload to 10.1.2.3. -/
def passing (ttl : UInt8) : IPv4Datagram := ⟨{ len := 20, ttl := ttl, dst := 0x0a010203 }, {}⟩

/-- An interface that has received a datagram with time left, and one without. -/
def busy : AsyncNetworkInterface :=
  ⟨{ ethernetAddress := .ofBytes 2 0 0 0 0 1, ipAddress := 0xc0a80001 },
    [passing 64, passing 1]⟩

/-- Only the datagram with time left is passed on. -/
theorem route_conserves_busy :
    let router := RouterHistory.built [busy] [⟨0x0a000000, 8, none, 0⟩]
    (router.route router.lenMap.entries).2 = .ok () ∧
      (∀ async ∈ (router.route router.lenMap.entries).1.interfaces, async.datagramsOut = []) ∧
      (router.routing router.lenMap.entries).noted.2 =
        [⟨0, passing 63, 0x0a010203⟩] := by
  intro router
  -- Both datagrams have a header of 20 bytes and a payload that fits.
  have proper : ∀ async ∈ [busy], ∀ dgram ∈ async.datagramsOut, Proper dgram := by
    intro async member dgram inside
    obtain rfl := List.mem_singleton.mp member
    simp only [busy, List.mem_cons, List.not_mem_nil, or_false] at inside
    rcases inside with rfl | rfl
    · exact ⟨rfl, by decide, by decide⟩
    · exact ⟨rfl, by decide, by decide⟩
  -- The general theorem applies to the one interface with its two datagrams.
  obtain ⟨noted, -, returned⟩ := route_conserves [busy] [⟨0x0a000000, 8, none, 0⟩]
    (by decide) router.lenMap.entries proper
  refine ⟨congrArg Prod.snd returned, ?_, (congrArg Prod.snd noted).trans (by decide +kernel)⟩
  rw [congrArg Prod.fst returned]
  intro async member
  obtain ⟨before, -, rfl⟩ := List.mem_map.mp member
  rfl

end Router

end Sponge
