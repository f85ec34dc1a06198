import Sponge.Net.Delivery
import Sponge.Net.Timeline

/-! The ARP cache holds exactly what was learned in the last thirty seconds. -/

namespace Sponge

/-- The ARP message that a frame announces to an interface with this address. -/
def announced (ethernetAddress : EthernetAddress) (frame : EthernetFrame) : Option ARPMessage :=
  if frame.AddressedTo ethernetAddress then frame.arp else none

/-- A frame of one of the two known types teaches an interface what it announces. -/
theorem taught_eq_announced (itf : NetworkInterface) {frame : EthernetFrame}
    (known : frame.header.type = EthernetHeader.typeIPv4 ∨
      frame.header.type = EthernetHeader.typeARP) :
    itf.taught frame = announced itf.ethernetAddress frame := by
  rw [NetworkInterface.taught, announced, EthernetFrame.arp]
  rcases known with ipv4 | arp
  · -- A frame with a datagram announces nothing, whatever its payload looks like.
    simp [ipv4, show EthernetHeader.typeIPv4 ≠ EthernetHeader.typeARP by decide]
  · simp [arp, show EthernetHeader.typeARP ≠ EthernetHeader.typeIPv4 by decide]

namespace Timeline

/-- The ARP messages heard, with the time of their arrival, the latest first. -/
def messages (t : Timeline) : List (Nat × ARPMessage) :=
  t.received.filterMap fun record =>
    (announced t.interface.ethernetAddress record.2).map (Prod.mk record.1)

/-- The latest message from an address. -/
def latest (t : Timeline) (ip : UInt32) : Option (Nat × ARPMessage) :=
  t.messages.find? fun message => message.2.senderIpAddress = ip

/-- The latest message from an address is recent, and says that this is the Ethernet address. -/
def Fresh (t : Timeline) (ip : UInt32) (dst : EthernetAddress) : Prop :=
  ∃ message, t.latest ip = some message ∧ message.2.senderEthernetAddress = dst ∧
    t.now < message.1 + 30000

/-- A call whose datagram serializes, whose frame is IPv4 or ARP in one buffer, or whose time does
not make an age wrap. -/
def Ordinary (t : Timeline) : InterfaceCall → Prop
  | .sendDatagram dgram _ => dgram.serialize.isOk = true
  | .recvFrame frame =>
    (frame.header.type = EthernetHeader.typeIPv4 ∨ frame.header.type = EthernetHeader.typeARP) ∧
      frame.payload.toBuffer.isOk = true
  | .tick ms => Unwrapped t.interface.cacheTime ms
  | .transmit => True

instance (t : Timeline) : DecidablePred t.Ordinary
  | .sendDatagram _ _ => inferInstanceAs (Decidable (_ = true))
  | .recvFrame _ => inferInstanceAs (Decidable ((_ ∨ _) ∧ _ = true))
  | .tick _ => inferInstanceAs (Decidable (Unwrapped _ _))
  | .transmit => .isTrue trivial

/-- The cache agrees with what was heard. -/
structure Exact (t : Timeline) : Prop where
  /-- The cache and the ages have the same keys. -/
  paired : t.interface.Paired
  /-- Nothing was received in the future. -/
  past : ∀ record ∈ t.received, record.1 ≤ t.now
  /-- The frames received are noted in order. -/
  ordered : t.received.Pairwise fun later earlier => earlier.1 ≤ later.1
  /-- The ages are those of the latest messages. -/
  ages : Tracks 30000 t.now (fun ip => (t.latest ip).map Prod.fst) t.interface.cacheTime
  /-- The mappings are those of the latest messages. -/
  mapped : ∀ ip dst, t.interface.cache.lookup ip = some dst →
    ∃ message, t.latest ip = some message ∧ message.2.senderEthernetAddress = dst
  /-- Nothing waits for a known mapping. -/
  released : ∀ ip, (t.interface.cache.lookup ip).isSome = true → t.interface.waiting ip = []
  /-- Whatever waits can be sent. -/
  sendable : ∀ ip, ∀ dgram ∈ t.interface.waiting ip, dgram.serialize.isOk = true

section Messages

variable {t next : Timeline}

/-- A message heard is one that a received frame announced. -/
theorem mem_messages {time : Nat} {am : ARPMessage} :
    (time, am) ∈ t.messages ↔ ∃ frame, (time, frame) ∈ t.received ∧
      announced t.interface.ethernetAddress frame = some am := by
  simp only [messages, List.mem_filterMap, Option.map_eq_some_iff, Prod.mk.injEq]
  -- The address that selects the messages is the interface's own.
  constructor
  · rintro ⟨⟨time, frame⟩, member, am, teaches, rfl, rfl⟩
    exact ⟨frame, member, teaches⟩
  · rintro ⟨frame, member, teaches⟩
    exact ⟨(time, frame), member, am, teaches, rfl, rfl⟩

/-- The latest message from an address is one that was heard from it. -/
theorem mem_of_latest {ip : UInt32} {message : Nat × ARPMessage}
    (found : t.latest ip = some message) :
    message ∈ t.messages ∧ message.2.senderIpAddress = ip :=
  ⟨List.mem_of_find?_eq_some found, by simpa using List.find?_some found⟩

/-- A call that brings no message leaves the latest ones. -/
theorem latest_of_messages (same : next.messages = t.messages) (ip : UInt32) :
    next.latest ip = t.latest ip := by
  rw [latest, latest, same]

/-- A message is the latest from its sender as soon as it is heard. -/
theorem latest_of_heard {time : Nat} {am : ARPMessage}
    (heard : next.messages = (time, am) :: t.messages) (ip : UInt32) :
    next.latest ip = if ip = am.senderIpAddress then some (time, am) else t.latest ip := by
  rw [latest, heard, List.find?_cons]
  by_cases about : ip = am.senderIpAddress
  · -- The message is from the address that is asked about.
    simp [about]
  · -- The search passes it.
    simp [about, Ne.symm about, latest]

variable (exact_ : t.Exact)

include exact_

/-- No message was heard in the future. -/
theorem Exact.message_le {message : Nat × ARPMessage} (member : message ∈ t.messages) :
    message.1 ≤ t.now := by
  obtain ⟨frame, received, -⟩ := mem_messages.mp (show (message.1, message.2) ∈ _ from member)
  exact exact_.past _ received

/-- The time of the latest message from an address is not in the future. -/
theorem Exact.latest_le (ip : UInt32) (time : Nat)
    (found : (t.latest ip).map Prod.fst = some time) : time ≤ t.now := by
  obtain ⟨message, latest, rfl⟩ := Option.map_eq_some_iff.mp found
  exact exact_.message_le (mem_of_latest latest).1

/-- No message from an address is later than the latest. -/
theorem Exact.le_latest {time : Nat} {am : ARPMessage} (member : (time, am) ∈ t.messages) :
    ∃ message, t.latest am.senderIpAddress = some message ∧ time ≤ message.1 := by
  have sorted : t.messages.Pairwise fun later earlier => earlier.1 ≤ later.1 := by
    refine List.Pairwise.filterMap _ ?_ exact_.ordered
    simp only [Option.map_eq_some_iff]
    rintro later earlier before _ ⟨_, -, rfl⟩ _ ⟨_, -, rfl⟩
    exact before
  rw [latest]
  -- The search stops at the message itself or at one that was heard after it.
  obtain ⟨newer, older, split⟩ := List.append_of_mem member
  rw [split] at sorted ⊢
  rw [List.find?_append]
  cases found : newer.find? (fun message => message.2.senderIpAddress = am.senderIpAddress) with
  | none => exact ⟨(time, am), by simp, Nat.le_refl _⟩
  | some message =>
    refine ⟨message, rfl, ?_⟩
    exact (List.pairwise_append.mp sorted).2.2 _ (List.mem_of_find?_eq_some found) _
      List.mem_cons_self

/-- A known mapping is that of a recent message. -/
theorem Exact.fresh {ip : UInt32} {dst : EthernetAddress}
    (known : t.interface.cache.lookup ip = some dst) : t.Fresh ip dst := by
  obtain ⟨message, latest, address⟩ := exact_.mapped ip dst known
  -- A known mapping has an age, which shows that its message is recent.
  have present : (t.interface.cacheTime.lookup ip).isSome = true := by
    rw [← exact_.paired ip, known]
    rfl
  obtain ⟨time, last, recent⟩ := (exact_.ages.isSome_iff ip).mp present
  rw [latest, Option.map_some, Option.some.injEq] at last
  exact ⟨message, latest, address, by omega⟩

/-- A mapping is known exactly while some message from its address is recent. -/
theorem Exact.known_iff (ip : UInt32) :
    (t.interface.cache.lookup ip).isSome = true ↔
      ∃ time am, (time, am) ∈ t.messages ∧ am.senderIpAddress = ip ∧ t.now < time + 30000 := by
  rw [exact_.paired ip, exact_.ages.isSome_iff ip]
  constructor
  · -- The latest message is one of them.
    rintro ⟨time, last, recent⟩
    obtain ⟨message, latest, rfl⟩ := Option.map_eq_some_iff.mp last
    obtain ⟨member, sender⟩ := mem_of_latest latest
    exact ⟨message.1, message.2, member, sender, recent⟩
  · -- The latest message is at least as recent as any other.
    rintro ⟨time, am, member, rfl, recent⟩
    obtain ⟨message, latest, later⟩ := exact_.le_latest member
    exact ⟨message.1, by rw [latest]; rfl, by omega⟩

end Messages

section Step

variable {t next : Timeline} {call : InterfaceCall}

/-- The messages heard after a call are those before it and the one that the call brings. -/
theorem messages_step (stepped : t.step call = .ok next) :
    next.messages = ((arriving call).filterMap fun frame =>
      (announced t.interface.ethernetAddress frame).map (Prod.mk t.now)) ++ t.messages := by
  have address : next.interface.ethernetAddress = t.interface.ethernetAddress :=
    -- No call changes the address of the interface.
    Ledger.step_ethernetAddress (step_ledger stepped)
  simp only [messages, address, step_received stepped, List.filterMap_append, List.filterMap_map,
    Function.comp_def]

/-- Time goes on, and what arrives is noted in order. -/
theorem Exact.times (exact_ : t.Exact) (stepped : t.step call = .ok next) :
    (∀ record ∈ next.received, record.1 ≤ next.now) ∧
      next.received.Pairwise fun later earlier => earlier.1 ≤ later.1 := by
  rw [step_received stepped, step_now stepped]
  -- What came in the past stays there.
  have past : ∀ record ∈ t.received, record.1 ≤ t.now + elapsed call :=
    fun record member => Nat.le_trans (exact_.past record member) (Nat.le_add_right _ _)
  cases call with
  | recvFrame frame =>
    exact ⟨List.forall_mem_cons.mpr ⟨Nat.le_refl _, past⟩, .cons exact_.past exact_.ordered⟩
  | sendDatagram dgram hop => exact ⟨past, exact_.ordered⟩
  | tick ms => exact ⟨past, exact_.ordered⟩
  | transmit => exact ⟨past, exact_.ordered⟩

/-- A call that takes no time, brings no message and leaves the mappings needs only be checked for
what waits. -/
theorem Exact.quiet (exact_ : t.Exact) (stepped : t.step call = .ok next)
    (instant : elapsed call = 0) (silent : next.messages = t.messages)
    (cached : next.interface.cache = t.interface.cache ∧
      next.interface.cacheTime = t.interface.cacheTime)
    (waits : ∀ ip, next.interface.waiting ip = t.interface.waiting ip ∨
      t.interface.cache.lookup ip = none ∧
        ∀ dgram ∈ next.interface.waiting ip, dgram.serialize.isOk = true) : next.Exact := by
  obtain ⟨past, ordered⟩ := exact_.times stepped
  have heard : ∀ ip, next.latest ip = t.latest ip := latest_of_messages silent
  have now : next.now = t.now := by rw [step_now stepped, instant, Nat.add_zero]
  -- Neither the clock nor the messages have moved, and only what waits may differ.
  refine ⟨exact_.paired.of_eq cached, past, ordered, ?_, ?_, ?_, ?_⟩
  · -- The ages.
    simp only [heard]
    rw [now, cached.2]
    exact exact_.ages
  · -- The mappings.
    intro ip dst known
    rw [heard]
    exact exact_.mapped ip dst (cached.1 ▸ known)
  · -- What waits for a known mapping: a queue that has changed is one without a mapping.
    intro ip known
    rw [cached.1] at known
    rcases waits ip with same | ⟨unknown, -⟩
    · rw [same]
      exact exact_.released ip known
    · simp [unknown] at known
  · -- What waits can be sent.
    intro ip
    rcases waits ip with same | ⟨-, sendable⟩
    · rw [same]
      exact exact_.sendable ip
    · exact sendable

/-- Submitting a datagram that can be sent keeps the cache exact. -/
theorem Exact.sendDatagram (exact_ : t.Exact) {dgram : IPv4Datagram} {hop : UInt32}
    (serializes : dgram.serialize.isOk = true)
    (stepped : t.step (.sendDatagram dgram hop) = .ok next) : next.Exact := by
  have sending := t.interface.sendDatagram_sending dgram hop
  rw [← step_sendDatagram stepped] at sending
  refine exact_.quiet stepped rfl (messages_step stepped) sending.cache fun ip => ?_
  by_cases about : ip = hop
  · subst about
    generalize next.interface = interface at sending ⊢
    generalize (t.interface.sendDatagram dgram ip).2 = result at sending
    cases sending with
    -- The datagram goes out at once.
    | direct _ _ => exact .inl rfl
    -- A datagram that throws is not kept.
    | refused _ _ => exact .inl rfl
    | queued unknown due =>
      -- The datagram waits with others that can be sent, and its mapping is not known.
      refine .inr ⟨unknown, ?_⟩
      rw [NetworkInterface.asked, NetworkInterface.waiting_enqueue, if_pos rfl]
      exact List.forall_mem_cons.mpr ⟨serializes, exact_.sendable ip⟩
    -- A datagram that is dropped does not wait.
    | dropped _ _ => exact .inl rfl
  · -- Nothing else waits for another address.
    exact .inl (sending.waiting_of_ne about)

/-- An ARP message that is heard keeps the cache exact. -/
theorem Exact.hear (exact_ : t.Exact) {frame : EthernetFrame} {am : ARPMessage}
    (teaches : t.interface.taught frame = some am)
    (announces : announced t.interface.ethernetAddress frame = some am)
    (stepped : t.step (.recvFrame frame) = .ok next) : next.Exact := by
  obtain ⟨past, ordered⟩ := exact_.times stepped
  have heard : ∀ ip, next.latest ip =
      if ip = am.senderIpAddress then some (t.now, am) else t.latest ip :=
    latest_of_heard (by simp [messages_step stepped, arriving, announces])
  have now : next.now = t.now := step_now stepped
  have handled := t.interface.handleArp_handled am
  rw [show (t.interface.handleArp am).1 = next.interface by
    rw [step_recvFrame stepped, NetworkInterface.recvFrame_fst, teaches]] at handled
  have cached := handled.cache
  -- What waits for the sender can all be sent, so nothing of it is left.
  have emptied : ∀ ip, next.interface.waiting ip =
      if ip = am.senderIpAddress then [] else t.interface.waiting ip := by
    intro ip
    rcases handled.waiting ip with ⟨-, released⟩ | ⟨-, bad, held, thrown, failed⟩
    · -- Everything that waited for the sender is sent.
      exact released
    · -- A datagram that throws would not have been queued.
      exact absurd (exact_.sendable _ bad held) (Ledger.not_isOk_of_error failed)
  refine ⟨exact_.paired.handled handled, past, ordered, ?_, ?_, ?_, ?_⟩
  · -- The age of the sender's mapping starts again.
    rw [now, cached.2]
    have stamped := exact_.ages.stamp (by decide) am.senderIpAddress
    intro ip
    rw [stamped ip]
    dsimp only
    rw [heard ip]
    split <;> rfl
  · -- The sender's mapping is the one that the message brings.
    intro ip dst known
    rw [cached.1, HashMap.lookup_insert] at known
    rw [heard ip]
    split at known
    · rw [if_pos ‹_›]
      exact ⟨_, rfl, Option.some.inj known⟩
    · rw [if_neg ‹_›]
      exact exact_.mapped ip dst known
  · -- The queue for the sender is empty, and that for another known address was.
    intro ip known
    rw [cached.1, HashMap.lookup_insert] at known
    rw [emptied ip]
    split
    · rfl
    · rw [if_neg ‹_›] at known
      exact exact_.released ip known
  · -- Nothing new waits.
    intro ip held member
    rw [emptied ip] at member
    split at member
    · cases member
    · exact exact_.sendable ip held member

/-- Time that passes keeps the cache exact. -/
theorem Exact.tick (exact_ : t.Exact) {ms : Nat} (unwrapped : Unwrapped t.interface.cacheTime ms)
    (stepped : t.step (.tick ms) = .ok next) : next.Exact := by
  obtain ⟨past, ordered⟩ := exact_.times stepped
  have heard : ∀ ip, next.latest ip = t.latest ip := latest_of_messages (messages_step stepped)
  obtain ⟨left, ticked, lookups⟩ := NetworkInterface.tick_spec exact_.paired ms
  rw [step_tick stepped, Except.ok.injEq] at ticked
  -- A tick only forgets mappings.
  have known : ∀ ip dst, next.interface.cache.lookup ip = some dst →
      t.interface.cache.lookup ip = some dst := by
    intro ip dst found
    rw [ticked] at found
    change left.lookup ip = some dst at found
    rw [lookups] at found
    obtain ⟨elapsed, -, kept⟩ := Option.bind_eq_some_iff.mp found
    exact kept
  -- No message came, so every age grows by the time that passed.
  obtain ⟨after, returned, paired⟩ := step_returns exact_.paired (.tick ms)
  rw [stepped, Except.ok.injEq] at returned
  refine ⟨returned ▸ paired, past, ordered, ?_, ?_, ?_, ?_⟩
  · -- The ages grow, and expire with the mappings.
    simp only [heard]
    rw [step_now stepped, ticked]
    exact exact_.ages.pass exact_.latest_le (age_of_unwrapped unwrapped 30000)
  · -- A mapping that is left was there.
    intro ip dst found
    rw [heard]
    exact exact_.mapped ip dst (known ip dst found)
  · -- The queues have not changed.
    intro ip found
    obtain ⟨dst, found⟩ := Option.isSome_iff_exists.mp found
    rw [ticked]
    exact exact_.released ip (by rw [known ip dst found]; rfl)
  · rw [ticked]
    exact exact_.sendable

/-- Every ordinary call keeps the cache exact. -/
theorem Exact.step (exact_ : t.Exact) (ordinary : t.Ordinary call)
    (stepped : t.step call = .ok next) : next.Exact := by
  cases call with
  -- The condition on the datagram is that it can be sent.
  | sendDatagram dgram hop => exact exact_.sendDatagram ordinary stepped
  | recvFrame frame =>
    have same := taught_eq_announced t.interface ordinary.1
    cases announces : announced t.interface.ethernetAddress frame with
    | none =>
      -- A frame that announces nothing changes nothing.
      have unmoved : next.interface = t.interface := by
        rw [step_recvFrame stepped, NetworkInterface.recvFrame_fst, same, announces]
      refine exact_.quiet stepped rfl ?_ (by rw [unmoved]; exact ⟨rfl, rfl⟩) fun ip => .inl ?_
      · simp [messages_step stepped, arriving, announces]
      · rw [unmoved]
    | some am => exact exact_.hear (same.trans announces) announces stepped
  | tick ms => exact exact_.tick ordinary stepped
  | transmit =>
    -- Taking a frame from the queue leaves the cache.
    have unmoved := step_transmit stepped
    refine exact_.quiet stepped rfl (messages_step stepped) ?_ fun ip => .inl ?_
    · rw [unmoved]
      exact ⟨rfl, rfl⟩
    · rw [unmoved]
      rfl

/-- The IPv4 frames among some are addressed as the latest recent message from a hop says. -/
def Directed (t : Timeline) (hop : UInt32) (frames : List EthernetFrame) : Prop :=
  ∀ frame ∈ frames, frame.header.type = EthernetHeader.typeIPv4 → t.Fresh hop frame.header.dst

/-- A submitted datagram goes to the address that was learned for its next hop. -/
theorem Exact.sends (exact_ : t.Exact) {dgram : IPv4Datagram} {hop : UInt32}
    (serializes : dgram.serialize.isOk = true)
    (stepped : t.step (.sendDatagram dgram hop) = .ok next) : next.Directed hop (t.adds next) := by
  have later := exact_.sendDatagram serializes stepped
  have sending := t.interface.sendDatagram_sending dgram hop
  rw [← step_sendDatagram stepped] at sending
  -- Submitting a datagram does not touch the cache.
  have cached := sending.cache.1
  rw [adds]
  have fresh : ∀ dst, t.interface.cache.lookup hop = some dst → next.Fresh hop dst :=
    fun dst known => later.fresh (by rw [cached]; exact known)
  -- The four ways of sending: at once, not at all, after a request, or dropped.
  generalize next.interface = interface at sending
  generalize (t.interface.sendDatagram dgram hop).2 = result at sending
  cases sending with
  | direct known written =>
    -- The frame is addressed to the mapping.
    rw [Ledger.added_of_append rfl]
    rintro frame member -
    rw [List.mem_singleton.mp member]
    exact fresh _ known
  | refused _ _ =>
    rw [Ledger.added_of_append (List.append_nil _).symm]
    exact fun _ member => absurd member List.not_mem_nil
  | @queued request unknown due =>
    rw [Ledger.added_of_append (t.interface.framesOut_asked dgram hop request)]
    intro frame member ipv4
    rw [List.mem_singleton.mp member] at ipv4
    exact absurd (show EthernetHeader.typeARP = EthernetHeader.typeIPv4 from ipv4) (by decide)
  | dropped _ _ =>
    rw [Ledger.added_of_append (List.append_nil _).symm]
    exact fun _ member => absurd member List.not_mem_nil

/-- What waited goes to the address that the message just heard brings. -/
theorem Exact.releases (exact_ : t.Exact) {frame : EthernetFrame} {am : ARPMessage}
    (teaches : t.interface.taught frame = some am)
    (announces : announced t.interface.ethernetAddress frame = some am)
    (stepped : t.step (.recvFrame frame) = .ok next) :
    next.Directed am.senderIpAddress (t.adds next) := by
  have later := exact_.hear teaches announces stepped
  have handled := t.interface.handleArp_handled am
  rw [show (t.interface.handleArp am).1 = next.interface by
    rw [step_recvFrame stepped, NetworkInterface.recvFrame_fst, teaches]] at handled
  have fresh : next.Fresh am.senderIpAddress am.senderEthernetAddress :=
    later.fresh (by rw [handled.cache.1, HashMap.lookup_insert, if_pos rfl])
  -- Each of the released frames goes to the address that was just learned.
  have carries : ∀ {frames dgrams}, List.Forall₂ (t.interface.Carries am.senderEthernetAddress)
      frames dgrams → next.Directed am.senderIpAddress frames := by
    intro frames dgrams carried
    induction carried with
    | nil => exact fun _ member => absurd member List.not_mem_nil
    | cons carries _ ih =>
      exact List.forall_mem_cons.mpr ⟨fun _ => by rw [carries.1]; exact fresh, ih⟩
  rw [adds]
  generalize next.interface = interface at handled
  generalize (t.interface.handleArp am).2 = result at handled
  cases handled with
  | @sent frames reply carried replies =>
    rw [Ledger.added_of_append (show _ = t.interface.framesOut ++ (frames ++ reply) from rfl)]
    intro frame member ipv4
    rcases List.mem_append.mp member with sent | replied
    · exact carries carried frame sent ipv4
    · -- A reply has the type of ARP.
      have arp : frame.header.type = EthernetHeader.typeARP := replies frame replied
      rw [arp] at ipv4
      exact absurd ipv4 (by decide)
  | @stuck frames done bad rest thrown split carried failed =>
    -- Whatever went out before the exception went to that address.
    rw [Ledger.added_of_append (show _ = t.interface.framesOut ++ frames from rfl)]
    exact carries carried

/-- Every IPv4 frame that a call emits for an address carries a datagram submitted for it. -/
theorem carries_submitted (held : t.ledger.Held) (stepped : t.step call = .ok next)
    {new : List (UInt32 × EthernetFrame)}
    (emitted : next.ledger.emitted = t.ledger.emitted ++ new) :
    ∀ record ∈ new, record.2.header.type = EthernetHeader.typeIPv4 →
      ∃ dgram, (record.1, dgram) ∈ next.ledger.submitted ∧ record.2.Carries dgram := by
  intro record member ipv4
  obtain ⟨frames, added, carried⟩ := (held.step (step_ledger stepped)).2 record.1
  -- The new frames for the address are the new records about it.
  have same : frames = Ledger.ipv4Only (Ledger.recordsOf record.1 new) := by
    rw [Ledger.framesFor, Ledger.framesFor, emitted, Ledger.recordsOf, List.filter_append,
      List.map_append, Ledger.ipv4Only, List.filter_append] at added
    exact (List.append_cancel_left added).symm
  obtain ⟨dgram, submitted, carries⟩ := carried record.2 (by
    rw [same]
    exact List.mem_filter.mpr ⟨Ledger.mem_recordsOf.mpr member, decide_eq_true ipv4⟩)
  exact ⟨dgram, Ledger.mem_recordsOf.mp submitted, carries⟩

/-- The frames that an ordinary call emits are all accounted to one hop, and the IPv4 frames among
them go to the address learned for it. -/
theorem Exact.emits (exact_ : t.Exact) (ordinary : t.Ordinary call)
    (stepped : t.step call = .ok next) :
    ∃ hop, next.ledger.emitted = t.ledger.emitted ++ (t.adds next).map (Prod.mk hop) ∧
      next.Directed hop (t.adds next) := by
  -- A call that adds no frame is accounted to any hop.
  have silent : next.ledger.emitted = t.ledger.emitted → t.adds next = [] →
      ∃ hop, next.ledger.emitted = t.ledger.emitted ++ (t.adds next).map (Prod.mk hop) ∧
        next.Directed hop (t.adds next) := by
    intro same none
    refine ⟨0, ?_, ?_⟩
    · rw [none, same, List.map_nil, List.append_nil]
    · -- No frame has to be directed anywhere.
      rw [none]
      exact fun _ member => absurd member List.not_mem_nil
  have moved := step_ledger stepped
  cases call with
  | sendDatagram dgram hop =>
    -- The datagram is the one reason for its frames.
    refine ⟨hop, ?_, exact_.sends ordinary stepped⟩
    rw [Ledger.step, Except.ok.injEq] at moved
    rw [adds, step_sendDatagram stepped, ← moved]
    rfl
  | recvFrame frame =>
    have same := taught_eq_announced t.interface ordinary.1
    rw [Ledger.step, Except.ok.injEq] at moved
    cases announces : announced t.interface.ethernetAddress frame with
    | none =>
      -- A frame that announces nothing changes nothing.
      have unmoved : (t.interface.recvFrame frame).1 = t.interface := by
        rw [NetworkInterface.recvFrame_fst, same, announces]
      have none : t.adds next = [] := by
        rw [adds, step_recvFrame stepped, unmoved, Ledger.added_of_append (List.append_nil _).symm]
      refine silent ?_ none
      rw [adds, step_recvFrame stepped] at none
      rw [← moved]
      change t.ledger.emitted
        ++ (Ledger.added t.interface (t.interface.recvFrame frame).1).map _ = _
      rw [none, List.map_nil, List.append_nil]
    | some am =>
      -- The sender of the message is the hop of all that it releases.
      have taught : t.ledger.interface.taught frame = some am := same.trans announces
      refine ⟨am.senderIpAddress, ?_, exact_.releases taught announces stepped⟩
      rw [adds, step_recvFrame stepped, ← moved]
      simp only [taught]
      rfl
  | tick ms =>
    -- Time touches neither the queue nor the accounts.
    have ticked := step_tick stepped
    obtain ⟨left, explicit, -⟩ := NetworkInterface.tick_spec exact_.paired ms
    rw [ticked, Except.ok.injEq] at explicit
    refine silent ?_ ?_
    · rw [Ledger.step, show t.ledger.interface.tick ms = _ from ticked, Except.ok.injEq] at moved
      rw [← moved]
    · rw [adds, explicit]
      exact Ledger.added_of_append (List.append_nil _).symm
  | transmit =>
    -- The queue only becomes shorter.
    refine silent ?_ ?_
    · rw [Ledger.step, Except.ok.injEq] at moved
      rw [← moved]
    · rw [adds, step_transmit stepped, Ledger.added]
      exact List.drop_eq_nil_of_le (by simp)

end Step

/-- Nothing was heard by a new interface. -/
theorem exact_start (ethernetAddress : EthernetAddress) (ipAddress : UInt32) :
    (start ethernetAddress ipAddress).Exact where
  paired := Ledger.paired_start ethernetAddress ipAddress
  past _ member := nomatch member
  ordered := .nil
  ages := .empty 30000 0
  mapped _ _ known := nomatch known
  released _ _ := rfl
  sendable _ _ member := nomatch member

/-- The cache is exact along every ordinary run, and so are the addresses of the frames emitted. -/
theorem cache_exact (ethernetAddress : EthernetAddress) (ipAddress : UInt32)
    {calls : List InterfaceCall}
    (ordinary : Throughout step Ordinary (start ethernetAddress ipAddress) calls) :
    ∃ t, runCalls step (start ethernetAddress ipAddress) calls = .ok t ∧
      -- A mapping is known exactly while a message from its address is recent.
      (∀ ip, (t.interface.cache.lookup ip).isSome = true ↔
        ∃ time frame am, (time, frame) ∈ t.received ∧
          announced t.interface.ethernetAddress frame = some am ∧ am.senderIpAddress = ip ∧
          t.now < time + 30000) ∧
      -- It is the mapping that the latest message brought.
      (∀ ip dst, t.interface.cache.lookup ip = some dst → t.Fresh ip dst) ∧
      -- The two maps have the same keys, and nothing waits for a known mapping.
      (∀ ip, (t.interface.cache.lookup ip).isSome = (t.interface.cacheTime.lookup ip).isSome) ∧
      (∀ ip, (t.interface.cache.lookup ip).isSome = true → t.interface.waiting ip = []) ∧
      -- Each IPv4 frame of a further call carries a datagram that was submitted for some next hop,
      -- and goes to the address that was learned for that hop.
      ∀ call, t.Ordinary call → ∃ next new, t.step call = .ok next ∧
        next.ledger.emitted = t.ledger.emitted ++ new ∧
        new.map Prod.snd = t.adds next ∧
        ∀ record ∈ new, record.2.header.type = EthernetHeader.typeIPv4 →
          (∃ dgram, (record.1, dgram) ∈ next.ledger.submitted ∧ record.2.Carries dgram) ∧
            next.Fresh record.1 record.2.header.dst := by
  -- Both invariants are kept together, since the second is about the same calls.
  obtain ⟨t, returned, exact_, held⟩ := ordinary.returns (fun t => t.Exact ∧ t.ledger.Held)
    (fun t call invariant ordinary => by
      obtain ⟨next, stepped, -⟩ := step_returns invariant.1.paired call
      exact ⟨next, stepped, invariant.1.step ordinary stepped,
        (invariant.2.step (step_ledger stepped)).1⟩)
    ⟨exact_start ethernetAddress ipAddress, fun _ _ member => nomatch member⟩
  refine ⟨t, returned, fun ip => ?_, fun ip dst => exact_.fresh, exact_.paired, exact_.released,
    fun call ordinary => ?_⟩
  · -- The messages are those among the received frames that carry one.
    rw [exact_.known_iff ip]
    simp only [mem_messages]
    constructor
    · rintro ⟨time, am, ⟨frame, member, teaches⟩, sender, recent⟩
      exact ⟨time, frame, am, member, teaches, sender, recent⟩
    · rintro ⟨time, frame, am, member, teaches, sender, recent⟩
      exact ⟨time, am, ⟨frame, member, teaches⟩, sender, recent⟩
  · -- The further call is one more step of the run.
    obtain ⟨next, stepped, -⟩ := step_returns exact_.paired call
    obtain ⟨hop, emitted, directed⟩ := exact_.emits ordinary stepped
    refine ⟨next, _, stepped, emitted, by simp, fun record member ipv4 => ?_⟩
    refine ⟨carries_submitted held stepped emitted record member ipv4, ?_⟩
    obtain ⟨frame, added, rfl⟩ := List.mem_map.mp member
    exact directed frame added ipv4

open Ledger.Scenario

/-- A mapping is learned again just before it expires, and used almost thirty seconds later. -/
def relearned : List InterfaceCall :=
  [.sendDatagram (dgram 1) hop, .recvFrame reply, .tick 29999, .recvFrame reply, .tick 29999,
    .sendDatagram (dgram 2) hop]

/-- The cache is exact after a mapping was learned again. -/
theorem cache_exact_relearned :
    Throughout step Ordinary (start ours 0x0a000001) relearned ∧
      ∃ t, runCalls step (start ours 0x0a000001) relearned = .ok t ∧
        (∀ ip, (t.interface.cache.lookup ip).isSome = true ↔
          ∃ time frame am, (time, frame) ∈ t.received ∧
            announced t.interface.ethernetAddress frame = some am ∧ am.senderIpAddress = ip ∧
            t.now < time + 30000) ∧
        ∀ ip dst, t.interface.cache.lookup ip = some dst → t.Fresh ip dst := by
  have ordinary : Throughout step Ordinary (start ours 0x0a000001) relearned := by decide +kernel
  obtain ⟨t, returned, known, fresh, -⟩ := cache_exact ours 0x0a000001 ordinary
  exact ⟨ordinary, t, returned, known, fresh⟩

end Timeline

end Sponge
