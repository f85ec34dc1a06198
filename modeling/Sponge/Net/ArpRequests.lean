import Sponge.Net.Delivery
import Sponge.Net.Timeline

/-! ARP requests: when one is broadcast, and how far apart two of them are. -/

namespace Sponge

/-- The address that a frame asks about, if it carries an ARP request. -/
def requestFor (frame : EthernetFrame) : Option UInt32 :=
  frame.arp.bind fun am =>
    if am.opcode = ARPMessage.opcodeRequest then some am.targetIpAddress else none

/-- A frame with a datagram asks about nothing. -/
theorem requestFor_of_ipv4 {frame : EthernetFrame}
    (ipv4 : frame.header.type = EthernetHeader.typeIPv4) : requestFor frame = none := by
  rw [requestFor, EthernetFrame.arp, ipv4, if_neg (by decide)]
  rfl

namespace NetworkInterface

/-- A call that added frames to the outbound queue, none of them a request. -/
def AddsNoRequest (itf next : NetworkInterface) : Prop :=
  ∃ frames, next.framesOut = itf.framesOut ++ frames ∧ ∀ frame ∈ frames, requestFor frame = none

namespace AddsNoRequest

variable {itf next last : NetworkInterface}

/-- Nothing that is added is a request. -/
theorem of_same (same : next.framesOut = itf.framesOut) : AddsNoRequest itf next :=
  ⟨[], by rw [same, List.append_nil], fun _ member => absurd member List.not_mem_nil⟩

/-- Frames added in two parts are requests in neither or not at all. -/
theorem trans (first : AddsNoRequest itf next) (second : AddsNoRequest next last) :
    AddsNoRequest itf last := by
  -- The added frames are those of the one part and then those of the other.
  obtain ⟨frames, added, silent⟩ := first
  obtain ⟨more, extended, quiet⟩ := second
  refine ⟨frames ++ more, by rw [extended, added, List.append_assoc], fun frame member => ?_⟩
  rcases List.mem_append.mp member with early | late
  · exact silent frame early
  · exact quiet frame late

/-- No frame that was added is a request. -/
theorem added (silent : AddsNoRequest itf next) :
    ∀ frame ∈ Ledger.added itf next, requestFor frame = none := by
  obtain ⟨frames, extended, quiet⟩ := silent
  rw [Ledger.added_of_append extended]
  exact quiet

end AddsNoRequest

/-- Datagrams that are flushed are not requests. -/
theorem flush_addsNoRequest (dst : EthernetAddress) (wait : List IPv4Datagram)
    (itf : NetworkInterface) : AddsNoRequest itf (flush dst wait itf).1 := by
  obtain ⟨frames, sent, rest, -, carried, state, -⟩ := flush_spec dst wait itf
  refine ⟨frames, by rw [state], ?_⟩
  clear state
  -- One frame for each datagram, of the type of IPv4.
  induction carried with
  | nil => exact fun _ member => absurd member List.not_mem_nil
  | cons carries _ ih =>
    exact List.forall_mem_cons.mpr ⟨requestFor_of_ipv4 carries.2.2.1, ih⟩

/-- What waits is sent without a request. -/
theorem sendWaiting_addsNoRequest (itf : NetworkInterface) (ip : UInt32) (dst : EthernetAddress) :
    AddsNoRequest itf (itf.sendWaiting ip dst).1 := by
  rw [sendWaiting]
  cases itf.datagrams.lookup ip with
  -- Nothing waits for the address.
  | none => exact .of_same rfl
  | some wait =>
    -- Whether a datagram fails to serialize or not, the frames sent carry datagrams.
    have flushed := flush_addsNoRequest dst wait itf
    dsimp only
    split
    · -- The frames before the exception were sent.
      rename_i after thrown found
      rw [found] at flushed
      exact flushed
    · -- All frames were sent, and the queue for the address is dropped.
      rename_i after found
      rw [found] at flushed
      exact flushed.trans (.of_same rfl)

/-- An answer is a reply. -/
theorem answer_addsNoRequest (itf : NetworkInterface) (am : ARPMessage) :
    AddsNoRequest itf (itf.answer am).1 := by
  rw [answer]
  split
  · -- The reply differs from a request in its opcode.
    rw [ARPMessage.serialize_eq (show (itf.arpReply am).supported = true from rfl)]
    refine ⟨[_], rfl, ?_⟩
    rw [List.forall_mem_singleton, requestFor, EthernetFrame.arp_bytes rfl, Option.bind_some]
    exact if_neg (show ARPMessage.opcodeReply ≠ ARPMessage.opcodeRequest by decide)
  · exact .of_same rfl

/-- A received frame does not cause a request. -/
theorem recvFrame_addsNoRequest (itf : NetworkInterface) (frame : EthernetFrame) :
    AddsNoRequest itf (itf.recvFrame frame).1 := by
  rw [recvFrame_fst]
  cases itf.taught frame with
  -- The frame teaches nothing.
  | none => exact .of_same rfl
  | some am =>
    change AddsNoRequest itf (itf.handleArp am).1
    -- A message is learned from, releases what waits, and may be answered by a reply.
    have learned : AddsNoRequest itf (itf.learn am) := .of_same rfl
    have sent := learned.trans
      (sendWaiting_addsNoRequest (itf.learn am) am.senderIpAddress am.senderEthernetAddress)
    rw [handleArp]
    split
    · -- The exception comes before the reply.
      rename_i after thrown found
      rw [found] at sent
      exact sent
    · -- The reply comes last.
      rename_i after found
      rw [found] at sent
      exact sent.trans (answer_addsNoRequest after am)

/-- A received frame leaves alone when ARP was last asked. -/
theorem recvFrame_sinceLastSent (itf : NetworkInterface) (frame : EthernetFrame) :
    (itf.recvFrame frame).1.sinceLastSent = itf.sinceLastSent := by
  rw [recvFrame_fst]
  cases itf.taught frame with
  | none => rfl
  | some am =>
    -- Neither learning nor sending what waits touches the ages of the requests.
    have handled := itf.handleArp_handled am
    change (itf.handleArp am).1.sinceLastSent = _
    generalize (itf.handleArp am).1 = interface at handled ⊢
    generalize (itf.handleArp am).2 = result at handled
    cases handled <;> rfl

/-- A datagram for an unknown address is sent after a request, once one is due. -/
theorem sendDatagram_due {itf : NetworkInterface} {ip : UInt32}
    (unknown : itf.cache.lookup ip = none) (due : itf.requestDue ip = true)
    (dgram : IPv4Datagram) :
    (itf.sendDatagram dgram ip).1 = itf.asked dgram ip (.ofBuffer (itf.arpRequest ip).bytes) := by
  -- The message is supported, so it can be serialized.
  have written : (arpRequest { itf with sinceLastSent := itf.sinceLastSent.insert ip 0 }
      ip).serialize = .ok (itf.arpRequest ip).bytes := ARPMessage.serialize_eq rfl
  rw [sendDatagram, unknown]
  simp only [due, if_true, written]
  rfl

/-- A datagram causes no request if its mapping is known or was asked for a short time ago. -/
theorem sendDatagram_silent {itf : NetworkInterface} {ip : UInt32}
    (silent : ¬ (itf.cache.lookup ip = none ∧ itf.requestDue ip = true)) (dgram : IPv4Datagram) :
    AddsNoRequest itf (itf.sendDatagram dgram ip).1 ∧
      (itf.sendDatagram dgram ip).1.sinceLastSent = itf.sinceLastSent := by
  have sending := itf.sendDatagram_sending dgram ip
  generalize (itf.sendDatagram dgram ip).1 = interface at sending ⊢
  generalize (itf.sendDatagram dgram ip).2 = result at sending
  -- Only a datagram that is queued causes a request.
  cases sending with
  | direct known written =>
    exact ⟨⟨_, rfl, List.forall_mem_singleton.mpr (requestFor_of_ipv4 rfl)⟩, rfl⟩
  | refused known failed => exact ⟨.of_same rfl, rfl⟩
  | queued unknown due => exact absurd ⟨unknown, due⟩ silent
  | dropped unknown recent => exact ⟨.of_same rfl, rfl⟩

end NetworkInterface

namespace Timeline

open NetworkInterface

/-- When ARP was last asked about an address. -/
def lastAsked (t : Timeline) (ip : UInt32) : Option Nat :=
  (t.emitted.find? fun record => requestFor record.2 = some ip).map Prod.fst

/-- ARP was asked about an address less than five seconds ago. -/
def Recent (t : Timeline) (ip : UInt32) : Prop :=
  ∃ record ∈ t.emitted, requestFor record.2 = some ip ∧ t.now < record.1 + 5000

/-- Two requests about one address are at least five seconds apart. -/
def Apart (later earlier : Nat × EthernetFrame) : Prop :=
  ∀ ip, requestFor later.2 = some ip → requestFor earlier.2 = some ip →
    earlier.1 + 5000 ≤ later.1

/-- A call whose time does not make an age of a request wrap. -/
def Steady (t : Timeline) : InterfaceCall → Prop
  | .tick ms => Unwrapped t.interface.sinceLastSent ms
  | _ => True

instance (t : Timeline) : DecidablePred t.Steady
  | .sendDatagram _ _ => .isTrue trivial
  | .recvFrame _ => .isTrue trivial
  | .tick _ => inferInstanceAs (Decidable (Unwrapped _ _))
  | .transmit => .isTrue trivial

/-- The ages of the requests agree with what was emitted. -/
structure Throttled (t : Timeline) : Prop where
  /-- No call meets undefined behaviour. -/
  paired : t.interface.Paired
  /-- Nothing was emitted in the future. -/
  past : ∀ record ∈ t.emitted, record.1 ≤ t.now
  /-- Requests about one address are far apart. -/
  apart : t.emitted.Pairwise Apart
  /-- The ages are those of the last requests. -/
  ages : Tracks 5000 t.now t.lastAsked t.interface.sinceLastSent

variable {t next : Timeline} {ip : UInt32}

/-- The last request about an address was emitted. -/
theorem mem_of_lastAsked {time : Nat} (asked : t.lastAsked ip = some time) :
    ∃ frame, (time, frame) ∈ t.emitted ∧ requestFor frame = some ip := by
  obtain ⟨record, found, rfl⟩ := Option.map_eq_some_iff.mp asked
  exact ⟨record.2, List.mem_of_find?_eq_some found, by simpa using List.find?_some found⟩

section Throttled

variable (throttled : t.Throttled)

include throttled

/-- The last request about an address was not in the future. -/
theorem Throttled.lastAsked_le (ip : UInt32) (time : Nat) (asked : t.lastAsked ip = some time) :
    time ≤ t.now := by
  obtain ⟨frame, member, -⟩ := mem_of_lastAsked asked
  exact throttled.past _ member

/-- ARP was asked recently exactly if the last request is recent. -/
theorem Throttled.recent_iff (ip : UInt32) :
    t.Recent ip ↔ ∃ time, t.lastAsked ip = some time ∧ t.now < time + 5000 := by
  constructor
  · -- One of the requests about the address is recent.
    rintro ⟨record, member, about, recent⟩
    have apart := throttled.apart
    rw [lastAsked]
    -- The search stops at this request or at a later one.
    obtain ⟨newer, older, split⟩ := List.append_of_mem member
    rw [split] at apart ⊢
    rw [List.find?_append]
    cases found : newer.find? fun record => requestFor record.2 = some ip with
    | none => exact ⟨record.1, by simp [about], recent⟩
    | some later =>
      have asked : requestFor later.2 = some ip := by simpa using List.find?_some found
      have := (List.pairwise_append.mp apart).2.2 _ (List.mem_of_find?_eq_some found) _
        List.mem_cons_self ip asked about
      exact ⟨later.1, rfl, by omega⟩
  · -- The last one is recent.
    rintro ⟨time, asked, recent⟩
    obtain ⟨frame, member, about⟩ := mem_of_lastAsked asked
    exact ⟨(time, frame), member, about, recent⟩

/-- A request is due exactly if ARP was not asked recently. -/
theorem Throttled.due_iff (ip : UInt32) :
    t.interface.requestDue ip = true ↔ ¬ t.Recent ip := by
  rw [throttled.recent_iff, ← throttled.ages.isSome_iff, requestDue]
  cases found : t.interface.sinceLastSent.lookup ip with
  | none => simp
  | some elapsed =>
    -- An age that is still shown is below five seconds.
    have := throttled.ages.lt_limit throttled.lastAsked_le found
    simp only [decide_eq_true_eq, Option.isSome_some, not_true_eq_false, iff_false]
    omega

/-- A call without a request needs only be checked for the ages. -/
theorem Throttled.quiet {call : InterfaceCall} (stepped : t.step call = .ok next)
    (silent : ∀ frame ∈ t.adds next, requestFor frame = none)
    (ages : Tracks 5000 next.now t.lastAsked next.interface.sinceLastSent) : next.Throttled := by
  -- The call returns with paired maps, as every call does.
  obtain ⟨after, returned, paired⟩ := step_returns throttled.paired call
  rw [stepped, Except.ok.injEq] at returned
  have emitted := step_emitted stepped
  have now := step_now stepped
  have new : ∀ record ∈ (t.adds next).map (Prod.mk t.now),
      record.1 = t.now ∧ requestFor record.2 = none := by
    intro record member
    obtain ⟨frame, held, rfl⟩ := List.mem_map.mp member
    exact ⟨rfl, silent frame held⟩
  refine ⟨returned ▸ paired, ?_, ?_, ?_⟩
  · -- The new frames are from now, and time does not go back.
    rw [emitted]
    intro record member
    rcases List.mem_append.mp member with fresh | old
    · rw [(new record fresh).1]
      omega
    · have := throttled.past record old
      omega
  · -- A frame that is no request is far from every other.
    rw [emitted, List.pairwise_append]
    refine ⟨?_, throttled.apart, fun later member earlier _ ip about => ?_⟩
    · refine List.pairwise_iff_forall_sublist.mpr fun {later earlier} sub ip about => ?_
      have member := sub.subset (List.mem_cons_self : later ∈ [later, earlier])
      rw [(new later member).2] at about
      cases about
    · rw [(new later member).2] at about
      cases about
  · -- A search for requests passes the new frames.
    have same : next.lastAsked = t.lastAsked := by
      funext ip
      rw [lastAsked, emitted, List.find?_append, List.find?_eq_none.mpr]
      · rfl
      · intro record member
        simp [(new record member).2]
    rw [same]
    exact ages

/-- A request that is due keeps the requests apart. -/
theorem Throttled.asks {dgram : IPv4Datagram} (unknown : t.interface.cache.lookup ip = none)
    (due : t.interface.requestDue ip = true)
    (stepped : t.step (.sendDatagram dgram ip) = .ok next) :
    next.Throttled ∧ ∃ frame, t.adds next = [frame] ∧ frame.header.dst = .broadcast ∧
      requestFor frame = some ip := by
  -- The call returns with paired maps, as every call does.
  obtain ⟨after, returned, paired⟩ := step_returns throttled.paired (.sendDatagram dgram ip)
  rw [stepped, Except.ok.injEq] at returned
  have emitted := step_emitted stepped
  have now : next.now = t.now := step_now stepped
  have interface := step_sendDatagram stepped
  rw [sendDatagram_due unknown due] at interface
  -- The only frame is the request.
  have adds : t.adds next = [⟨⟨.broadcast, t.interface.ethernetAddress, EthernetHeader.typeARP⟩,
      .ofBuffer (t.interface.arpRequest ip).bytes⟩] := by
    rw [Timeline.adds, interface]
    exact Ledger.added_of_append (t.interface.framesOut_asked dgram ip _)
  have about : requestFor ⟨⟨.broadcast, t.interface.ethernetAddress, EthernetHeader.typeARP⟩,
      .ofBuffer (t.interface.arpRequest ip).bytes⟩ = some ip := by
    rw [requestFor, EthernetFrame.arp_bytes rfl]
    rfl
  rw [adds, List.map_singleton] at emitted
  refine ⟨⟨returned ▸ paired, ?_, ?_, ?_⟩, _, adds, rfl, about⟩
  · -- The request is from now.
    rw [emitted, now]
    exact List.forall_mem_cons.mpr ⟨Nat.le_refl _, throttled.past⟩
  · -- Every earlier request about the address is five seconds old.
    rw [emitted]
    refine .cons (fun earlier member other sameLater sameEarlier => ?_) throttled.apart
    by_contra close
    rw [about, Option.some.injEq] at sameLater
    exact (throttled.due_iff ip).mp due
      ⟨earlier, member, sameLater ▸ sameEarlier, Nat.lt_of_not_le close⟩
  · -- The request is the last one about its address, and no other address is concerned.
    have asked : next.lastAsked =
        fun other => if other = ip then some t.now else t.lastAsked other := by
      funext other
      rw [lastAsked, emitted, List.singleton_append, List.find?_cons]
      by_cases same : other = ip
      · simp [about, same]
      · simp [about, same, Ne.symm same, lastAsked]
    rw [asked, now, interface]
    exact throttled.ages.stamp (by decide) ip

omit throttled in
/-- Taking a frame from the outbound queue adds none. -/
theorem adds_transmit (stepped : t.step .transmit = .ok next) : t.adds next = [] := by
  rw [adds, Ledger.added, step_transmit stepped, List.drop_eq_nil_iff, List.length_tail]
  exact Nat.sub_le _ _

/-- Only a submitted datagram causes a request. -/
theorem Throttled.others_silent {call : InterfaceCall}
    (other : ∀ dgram ip, call ≠ .sendDatagram dgram ip) (stepped : t.step call = .ok next) :
    ∀ frame ∈ t.adds next, requestFor frame = none := by
  -- Frames come out of a received frame only as replies and as datagrams.
  cases call with
  -- Submitted datagrams were excluded.
  | sendDatagram dgram hop => exact absurd rfl (other dgram hop)
  | recvFrame frame =>
    have silent := t.interface.recvFrame_addsNoRequest frame
    rw [← step_recvFrame stepped] at silent
    exact silent.added
  | tick ms =>
    -- A tick sends nothing.
    obtain ⟨left, ticked, -⟩ := tick_spec throttled.paired ms
    rw [step_tick stepped, Except.ok.injEq] at ticked
    exact (AddsNoRequest.of_same (by rw [ticked])).added
  | transmit =>
    -- A transmission takes a frame away.
    rw [adds_transmit stepped]
    exact fun _ member => absurd member List.not_mem_nil

/-- Every steady call keeps the requests apart. -/
theorem Throttled.step {call : InterfaceCall} (steady : t.Steady call)
    (stepped : t.step call = .ok next) : next.Throttled := by
  cases call with
  | sendDatagram dgram hop =>
    -- A request is only due if the last one is old enough.
    by_cases asks : t.interface.cache.lookup hop = none ∧ t.interface.requestDue hop = true
    · exact (throttled.asks asks.1 asks.2 stepped).1
    · -- No request is sent, and the ages stay.
      obtain ⟨silent, same⟩ := sendDatagram_silent asks dgram
      rw [← step_sendDatagram stepped] at silent same
      refine throttled.quiet stepped silent.added ?_
      rw [same, step_now stepped]
      exact throttled.ages
  | recvFrame frame =>
    -- A frame does not reset the time of a request.
    refine throttled.quiet stepped (throttled.others_silent (by simp) stepped) ?_
    rw [step_recvFrame stepped, recvFrame_sinceLastSent, step_now stepped]
    exact throttled.ages
  | tick ms =>
    -- The ages grow with the time, and those that reach the limit are dropped.
    refine throttled.quiet stepped (throttled.others_silent (by simp) stepped) ?_
    obtain ⟨left, ticked, -⟩ := tick_spec throttled.paired ms
    rw [step_tick stepped, Except.ok.injEq] at ticked
    rw [step_now stepped, ticked]
    exact throttled.ages.pass throttled.lastAsked_le (age_of_unwrapped steady 5000)
  | transmit =>
    refine throttled.quiet stepped (throttled.others_silent (by simp) stepped) ?_
    rw [step_transmit stepped, step_now stepped]
    exact throttled.ages

/-- A submitted datagram causes one request exactly if its mapping is unknown and not asked for. -/
theorem Throttled.asks_iff {dgram : IPv4Datagram}
    (stepped : t.step (.sendDatagram dgram ip) = .ok next) :
    (t.interface.cache.lookup ip = none ∧ ¬ t.Recent ip → ∃ frame, t.adds next = [frame] ∧
        frame.header.dst = .broadcast ∧ requestFor frame = some ip) ∧
      (¬ (t.interface.cache.lookup ip = none ∧ ¬ t.Recent ip) →
        ∀ frame ∈ t.adds next, requestFor frame = none) := by
  rw [← throttled.due_iff]
  constructor
  · -- A request that is due is sent.
    rintro ⟨unknown, due⟩
    exact (throttled.asks unknown due stepped).2
  · -- Without a request there is a mapping or a datagram to drop.
    intro silent
    have quiet := (sendDatagram_silent silent dgram).1
    rw [← step_sendDatagram stepped] at quiet
    exact quiet.added

end Throttled

/-- A new interface has asked about nothing. -/
theorem throttled_start (ethernetAddress : EthernetAddress) (ipAddress : UInt32) :
    (start ethernetAddress ipAddress).Throttled where
  paired := Ledger.paired_start ethernetAddress ipAddress
  past _ member := nomatch member
  apart := .nil
  ages := .empty 5000 0

/-- Requests are sent exactly when they are needed, and at most one in five seconds per address. -/
theorem requests_throttled (ethernetAddress : EthernetAddress) (ipAddress : UInt32)
    {calls : List InterfaceCall}
    (steady : Throughout step Steady (start ethernetAddress ipAddress) calls) :
    ∃ t, runCalls step (start ethernetAddress ipAddress) calls = .ok t ∧
      -- Any two requests so far about one address are at least five seconds apart.
      t.emitted.Pairwise Apart ∧
      -- A datagram causes one broadcast request exactly if its mapping is neither known nor
      -- asked for.
      (∀ dgram ip, ∃ next, t.step (.sendDatagram dgram ip) = .ok next ∧
        (t.interface.cache.lookup ip = none ∧ ¬ t.Recent ip → ∃ frame, t.adds next = [frame] ∧
          frame.header.dst = .broadcast ∧ requestFor frame = some ip) ∧
        (¬ (t.interface.cache.lookup ip = none ∧ ¬ t.Recent ip) →
          ∀ frame ∈ t.adds next, requestFor frame = none)) ∧
      -- No other call causes a request.
      ∀ call, (∀ dgram ip, call ≠ .sendDatagram dgram ip) →
        ∃ next, t.step call = .ok next ∧ ∀ frame ∈ t.adds next, requestFor frame = none := by
  -- No call throws, since the two maps of the cache have the same keys.
  obtain ⟨t, returned, throttled⟩ := steady.returns Throttled (fun t call throttled steady => by
    obtain ⟨next, stepped, -⟩ := step_returns throttled.paired call
    exact ⟨next, stepped, throttled.step steady stepped⟩)
    (throttled_start ethernetAddress ipAddress)
  refine ⟨t, returned, throttled.apart, fun dgram ip => ?_, fun call other => ?_⟩
  · obtain ⟨next, stepped, -⟩ := step_returns throttled.paired (.sendDatagram dgram ip)
    exact ⟨next, stepped, throttled.asks_iff stepped⟩
  · obtain ⟨next, stepped, -⟩ := step_returns throttled.paired call
    exact ⟨next, stepped, throttled.others_silent other stepped⟩

open Ledger.Scenario

/-- Three datagrams for an address that does not answer, the last just after five seconds. -/
def unanswered : List InterfaceCall :=
  [.sendDatagram (dgram 1) hop, .tick 4999, .sendDatagram (dgram 2) hop, .tick 1,
    .sendDatagram (dgram 3) hop]

/-- The requests about an address that does not answer are five seconds apart. -/
theorem requests_throttled_unanswered :
    Throughout step Steady (start ours 0x0a000001) unanswered ∧
      ∃ t, runCalls step (start ours 0x0a000001) unanswered = .ok t ∧
        t.emitted.Pairwise Apart ∧
        ∀ call, (∀ dgram ip, call ≠ .sendDatagram dgram ip) →
          ∃ next, t.step call = .ok next ∧ ∀ frame ∈ t.adds next, requestFor frame = none := by
  have steady : Throughout step Steady (start ours 0x0a000001) unanswered := by decide +kernel
  obtain ⟨t, returned, apart, -, others⟩ := requests_throttled ours 0x0a000001 steady
  exact ⟨steady, t, returned, apart, others⟩

end Timeline

end Sponge
