import Sponge.Net.NetworkInterface

/-! What each call of a network interface can do. -/

namespace Sponge

namespace EthernetFrame

/-- The frame carries a datagram. -/
def Carries (frame : EthernetFrame) (dgram : IPv4Datagram) : Prop :=
  frame.header.type = EthernetHeader.typeIPv4 ∧ dgram.serialize = .ok frame.payload

/-- The frame is for an interface with this address. -/
def AddressedTo (frame : EthernetFrame) (ethernetAddress : EthernetAddress) : Prop :=
  frame.header.dst = .broadcast ∨ frame.header.dst = ethernetAddress

instance (frame : EthernetFrame) (ethernetAddress : EthernetAddress) :
    Decidable (frame.AddressedTo ethernetAddress) :=
  inferInstanceAs (Decidable (_ ∨ _))

/-- The ARP message in the payload of a frame, whatever the type of the frame. -/
def message (frame : EthernetFrame) : Option ARPMessage :=
  match frame.payload.toBuffer with
  | .error _ => none
  | .ok buffer =>
    if (ARPMessage.parse {} buffer).1 = .noError then some (ARPMessage.parse {} buffer).2 else none

/-- The ARP message that a frame carries. -/
def arp (frame : EthernetFrame) : Option ARPMessage :=
  if frame.header.type = EthernetHeader.typeARP then frame.message else none

end EthernetFrame

namespace NetworkInterface

/-- The datagrams that wait for the mapping of an address. -/
def waiting (itf : NetworkInterface) (ip : UInt32) : List IPv4Datagram :=
  (itf.datagrams.lookup ip).getD []

/-- After a datagram is enqueued, it waits in front of the others. -/
theorem waiting_enqueue (itf : NetworkInterface) (ip other : UInt32) (dgram : IPv4Datagram) :
    (itf.enqueue ip dgram).waiting other
      = if other = ip then dgram :: itf.waiting ip else itf.waiting other := by
  rw [waiting, enqueue, HashMap.lookup_insert]
  split <;> rfl

/-- After the waiting list of an address is erased, nothing waits for it. -/
theorem waiting_erase (itf : NetworkInterface) (ip other : UInt32) :
    { itf with datagrams := itf.datagrams.erase ip }.waiting other
      = if other = ip then [] else itf.waiting other := by
  rw [waiting, HashMap.lookup_erase]
  split <;> rfl

/-- A frame of the interface that carries a datagram to an address. -/
def Carries (itf : NetworkInterface) (dst : EthernetAddress) (frame : EthernetFrame)
    (dgram : IPv4Datagram) : Prop :=
  frame.header.dst = dst ∧ frame.header.src = itf.ethernetAddress ∧ frame.Carries dgram

/-- Each of the frames that carry some datagrams carries one of them. -/
theorem exists_carried {carries : EthernetFrame → IPv4Datagram → Prop}
    {frames : List EthernetFrame} {dgrams : List IPv4Datagram}
    (carried : List.Forall₂ carries frames dgrams) :
    ∀ frame ∈ frames, ∃ dgram ∈ dgrams, carries frame dgram := by
  induction carried with
  | nil => simp
  | cons carries _ ih =>
    intro frame member
    -- The first frame carries the first datagram, and each later one a later one.
    rcases List.mem_cons.mp member with rfl | later
    · exact ⟨_, List.mem_cons_self, carries⟩
    · obtain ⟨dgram, inside, carries⟩ := ih frame later
      exact ⟨dgram, List.mem_cons_of_mem _ inside, carries⟩

/-- A frame that carries an ARP message. -/
def IsArp (frame : EthernetFrame) : Prop := frame.header.type = EthernetHeader.typeARP

/-- A request is always serialized. -/
theorem arpRequest_serialize (itf : NetworkInterface) (ip : UInt32) :
    ∃ payload, (itf.arpRequest ip).serialize = .ok payload :=
  ⟨_, rfl⟩

/-- A reply is always serialized. -/
theorem arpReply_serialize (itf : NetworkInterface) (am : ARPMessage) :
    ∃ payload, (itf.arpReply am).serialize = .ok payload :=
  ⟨_, rfl⟩

/-- The state after ARP was asked about the next hop of a datagram, which now waits. -/
def asked (itf : NetworkInterface) (dgram : IPv4Datagram) (ip : UInt32) (request : BufferList) :
    NetworkInterface :=
  ({ itf with sinceLastSent := itf.sinceLastSent.insert ip 0 }.push
    .broadcast EthernetHeader.typeARP request).enqueue ip dgram

/-- Asking emits one ARP request. -/
theorem framesOut_asked (itf : NetworkInterface) (dgram : IPv4Datagram) (ip : UInt32)
    (request : BufferList) :
    (itf.asked dgram ip request).framesOut
      = itf.framesOut ++ [⟨⟨.broadcast, itf.ethernetAddress, EthernetHeader.typeARP⟩, request⟩] :=
  rfl

/-- What sending a datagram can do. -/
inductive Sending (itf : NetworkInterface) (dgram : IPv4Datagram) (ip : UInt32) :
    NetworkInterface → Except Exception Unit → Prop
  /-- The mapping is known, and the datagram goes out. -/
  | direct {dst payload} (known : itf.cache.lookup ip = some dst)
      (written : dgram.serialize = .ok payload) :
      Sending itf dgram ip (itf.push dst EthernetHeader.typeIPv4 payload) (.ok ())
  /-- The mapping is known, but the datagram cannot be serialized. -/
  | refused {dst thrown} (known : itf.cache.lookup ip = some dst)
      (failed : dgram.serialize = .error thrown) :
      Sending itf dgram ip itf (.error thrown)
  /-- The mapping is asked for, and the datagram waits. -/
  | queued {request} (unknown : itf.cache.lookup ip = none) (due : itf.requestDue ip = true) :
      Sending itf dgram ip (itf.asked dgram ip request) (.ok ())
  /-- The mapping was asked for a short time ago, and the datagram is forgotten. -/
  | dropped (unknown : itf.cache.lookup ip = none) (recent : itf.requestDue ip = false) :
      Sending itf dgram ip itf (.ok ())

/-- Sending a datagram does one of four things. -/
theorem sendDatagram_sending (itf : NetworkInterface) (dgram : IPv4Datagram) (ip : UInt32) :
    Sending itf dgram ip (itf.sendDatagram dgram ip).1 (itf.sendDatagram dgram ip).2 := by
  rw [sendDatagram]
  cases known : itf.cache.lookup ip with
  | some dst =>
    -- With a mapping the datagram is sent, if it can be serialized.
    cases written : dgram.serialize with
    | error thrown => exact .refused known written
    | ok payload => exact .direct known written
  | none =>
    -- Without a mapping a request is sent, unless one was sent recently.
    cases due : itf.requestDue ip with
    | false => exact .dropped known due
    | true =>
      -- The request is always a supported message, so writing it does not throw.
      obtain ⟨payload, request⟩ := arpRequest_serialize
        { itf with sinceLastSent := itf.sinceLastSent.insert ip 0 } ip
      simp only [if_true, request]
      exact .queued known due

/-- Sending to one address leaves the waiting lists of the others. -/
theorem Sending.waiting_of_ne {itf next : NetworkInterface} {dgram : IPv4Datagram}
    {ip other : UInt32} {result : Except Exception Unit} (sending : Sending itf dgram ip next result)
    (different : other ≠ ip) : next.waiting other = itf.waiting other := by
  -- Only a datagram that has to wait changes a list.
  cases sending with
  | direct known written => rfl
  | refused known failed => rfl
  | queued unknown due => rw [asked, waiting_enqueue, if_neg different]; rfl
  | dropped unknown recent => rfl

/-- A flush sends datagrams in order, up to the first that cannot be serialized. -/
theorem flush_spec (dst : EthernetAddress) (wait : List IPv4Datagram) (itf : NetworkInterface) :
    ∃ frames sent rest, wait = sent ++ rest ∧ List.Forall₂ (itf.Carries dst) frames sent
      ∧ (flush dst wait itf).1 = { itf with framesOut := itf.framesOut ++ frames }
      ∧ (rest = [] ∧ (flush dst wait itf).2 = .ok ()
        ∨ ∃ bad later thrown, rest = bad :: later ∧ bad.serialize = .error thrown
          ∧ (flush dst wait itf).2 = .error thrown) := by
  -- Each datagram that is sent adds a frame, so the outbound queue stays arbitrary.
  induction wait generalizing itf with
  | nil => exact ⟨[], [], [], rfl, .nil, by simp [flush], .inl ⟨rfl, rfl⟩⟩
  | cons dgram wait ih =>
    cases written : dgram.serialize with
    | error thrown =>
      -- The flush stops at a datagram that throws.
      refine ⟨[], [], dgram :: wait, rfl, .nil, by simp [flush, written], .inr ?_⟩
      exact ⟨dgram, wait, thrown, rfl, written, by simp [flush, written]⟩
    | ok payload =>
      -- The frame is sent, and the rest is flushed behind it.
      have turn : flush dst (dgram :: wait) itf
          = flush dst wait (itf.push dst EthernetHeader.typeIPv4 payload) := by
        simp [flush, written]
      obtain ⟨frames, sent, rest, split, carried, state, ended⟩ :=
        ih (itf.push dst EthernetHeader.typeIPv4 payload)
      refine ⟨⟨⟨dst, itf.ethernetAddress, EthernetHeader.typeIPv4⟩, payload⟩ :: frames,
        dgram :: sent, rest, by rw [split, List.cons_append], .cons ⟨rfl, rfl, rfl, written⟩ carried,
        ?_, ?_⟩
      · rw [turn, state]
        simp [push]
      · rw [turn]
        exact ended

/-- What taking in an ARP message can do. -/
inductive Handled (itf : NetworkInterface) (am : ARPMessage) :
    NetworkInterface → Except Exception Unit → Prop
  /-- Everything that waited for the sender is sent, and a request is answered. -/
  | sent {frames reply}
      (carried : List.Forall₂ (itf.Carries am.senderEthernetAddress) frames
        (itf.waiting am.senderIpAddress))
      (replies : ∀ frame ∈ reply, IsArp frame) :
      Handled itf am
        { itf.learn am with
          framesOut := itf.framesOut ++ (frames ++ reply)
          datagrams := itf.datagrams.erase am.senderIpAddress } (.ok ())
  /-- A datagram that cannot be serialized stops the flush, and all of them keep waiting. -/
  | stuck {frames done bad later thrown}
      (split : itf.waiting am.senderIpAddress = done ++ bad :: later)
      (carried : List.Forall₂ (itf.Carries am.senderEthernetAddress) frames done)
      (failed : bad.serialize = .error thrown) :
      Handled itf am { itf.learn am with framesOut := itf.framesOut ++ frames } (.error thrown)

/-- An answer only adds ARP frames. -/
theorem answer_spec (itf : NetworkInterface) (am : ARPMessage) :
    ∃ reply, (∀ frame ∈ reply, IsArp frame)
      ∧ itf.answer am = ({ itf with framesOut := itf.framesOut ++ reply }, .ok ()) := by
  rw [answer]
  split
  · -- The reply is a supported message, so writing it does not throw.
    obtain ⟨payload, written⟩ := arpReply_serialize itf am
    rw [written]
    refine ⟨[_], ?_, rfl⟩
    rintro frame member
    rw [List.mem_singleton.mp member]
    rfl
  · exact ⟨[], by simp, by simp⟩

/-- Taking in an ARP message sends what waited for its sender, or stops at a bad datagram. -/
theorem handleArp_handled (itf : NetworkInterface) (am : ARPMessage) :
    Handled itf am (itf.handleArp am).1 (itf.handleArp am).2 := by
  cases found : itf.datagrams.lookup am.senderIpAddress with
  | none =>
    -- Nothing waits, so only the mapping is learned.
    have sending : (itf.learn am).sendWaiting am.senderIpAddress am.senderEthernetAddress
        = (itf.learn am, .ok ()) := by
      rw [sendWaiting, show (itf.learn am).datagrams.lookup am.senderIpAddress = none from found]
    obtain ⟨reply, replies, answered⟩ := answer_spec (itf.learn am) am
    have empty : itf.waiting am.senderIpAddress = [] := by rw [waiting, found]; rfl
    rw [handleArp, sending]
    simp only [answered]
    have handled : Handled itf am
        { itf.learn am with
          framesOut := itf.framesOut ++ ([] ++ reply)
          datagrams := itf.datagrams.erase am.senderIpAddress } (.ok ()) :=
      .sent (empty ▸ .nil) replies
    rw [HashMap.erase_of_lookup_none found] at handled
    exact handled
  | some wait =>
    -- What waits is flushed before the reply.
    have here : itf.waiting am.senderIpAddress = wait := by rw [waiting, found]; rfl
    have lookup : (itf.learn am).datagrams.lookup am.senderIpAddress = some wait := found
    obtain ⟨frames, sent, rest, split, carried, state, ended⟩ :=
      flush_spec am.senderEthernetAddress wait (itf.learn am)
    rcases ended with ⟨rfl, fine⟩ | ⟨bad, later, thrown, rfl, failed, stopped⟩
    · -- All of it was sent, so the queue is dropped.
      have flushed := Prod.ext (x := flush am.senderEthernetAddress wait (itf.learn am))
        (y := (_, .ok ())) state fine
      rw [List.append_nil] at split
      subst split
      rw [handleArp, sendWaiting, lookup]
      simp only [flushed]
      obtain ⟨reply, replies, answered⟩ := answer_spec
        { itf.learn am with
          framesOut := (itf.learn am).framesOut ++ frames
          datagrams := (itf.learn am).datagrams.erase am.senderIpAddress } am
      rw [answered]
      simp only [List.append_assoc]
      exact .sent (here.symm ▸ carried) replies
    · -- A datagram has thrown, so the queue stays and no reply is sent.
      have flushed := Prod.ext (x := flush am.senderEthernetAddress wait (itf.learn am))
        (y := (_, .error thrown)) state stopped
      rw [handleArp, sendWaiting, lookup]
      simp only [flushed]
      exact .stuck (here.trans split) carried failed

/-- What waits for the sender of an ARP message is released, unless some of it is bad. -/
theorem Handled.waiting {itf next : NetworkInterface} {am : ARPMessage}
    {result : Except Exception Unit} (handled : Handled itf am next result) (ip : UInt32) :
    result = .ok ()
        ∧ next.waiting ip = (if ip = am.senderIpAddress then [] else itf.waiting ip)
      ∨ next.waiting ip = itf.waiting ip
        ∧ ∃ bad ∈ itf.waiting am.senderIpAddress, ∃ thrown, bad.serialize = .error thrown := by
  cases handled with
  | sent carried replies => exact .inl ⟨rfl, itf.waiting_erase am.senderIpAddress ip⟩
  | @stuck frames done bad later thrown split carried failed =>
    -- A datagram that cannot be written ends the release before the list is erased.
    have held : bad ∈ itf.waiting am.senderIpAddress := by
      rw [split]
      simp
    exact .inr ⟨rfl, bad, held, thrown, failed⟩

/-- The ARP message that a frame brings to the interface, if it does. -/
def taught (itf : NetworkInterface) (frame : EthernetFrame) : Option ARPMessage :=
  if frame.AddressedTo itf.ethernetAddress ∧ frame.header.type ≠ EthernetHeader.typeIPv4 then
    frame.message
  else none

/-- A frame changes the interface only by the ARP message it brings. -/
theorem recvFrame_fst (itf : NetworkInterface) (frame : EthernetFrame) :
    (itf.recvFrame frame).1
      = match itf.taught frame with
        | none => itf
        | some am => (itf.handleArp am).1 := by
  rw [recvFrame, taught, EthernetFrame.message]
  by_cases addressed : frame.AddressedTo itf.ethernetAddress
  · -- The frame is for this interface.
    rw [if_neg (by simpa [EthernetFrame.AddressedTo, or_iff_not_imp_left] using addressed)]
    by_cases ipv4 : frame.header.type = EthernetHeader.typeIPv4
    · -- A datagram is only returned.
      rw [if_neg fun other => other.2 ipv4]
      cases frame.payload.toBuffer with
      | error thrown => rfl
      | ok buffer => simp only [if_pos ipv4]
    · -- The frame is taken for a message.
      rw [if_pos ⟨addressed, ipv4⟩]
      cases frame.payload.toBuffer with
      | error thrown => rfl
      | ok buffer =>
        simp only [if_neg ipv4]
        -- Any type but IPv4 is taken for ARP.
        by_cases parsed : (ARPMessage.parse {} buffer).1 = .noError
        · simp only [parsed, ne_eq, not_true_eq_false, if_false, if_true]
          split <;> simp_all
        · simp only [parsed, ne_eq, not_false_eq_true, if_true, if_false]
  · -- The frame is for another interface.
    rw [if_pos (by simpa [EthernetFrame.AddressedTo] using addressed),
      if_neg fun other => addressed other.1]

/-- The cache and the ages of its mappings have the same keys. -/
def Paired (itf : NetworkInterface) : Prop :=
  ∀ ip, (itf.cache.lookup ip).isSome = (itf.cacheTime.lookup ip).isSome

/-- One pass over the ages erases the expired mappings, which are all there. -/
theorem foldlM_expire {ms : Nat} {entries : List (Sigma fun _ : UInt32 => Nat)}
    (distinct : entries.NodupKeys) {cache : HashMap UInt32 EthernetAddress}
    (present : ∀ entry ∈ entries, (cache.lookup entry.1).isSome) :
    ∃ left, entries.foldlM (expire ms) cache = .ok left
      ∧ (∀ entry ∈ entries, age 30000 ms entry.2 = none → left.lookup entry.1 = none)
      ∧ ∀ ip, (∀ entry ∈ entries, entry.1 = ip → age 30000 ms entry.2 ≠ none) →
        left.lookup ip = cache.lookup ip := by
  -- Erasing one key leaves the keys of the later entries, which differ from it.
  induction entries generalizing cache with
  | nil => exact ⟨cache, rfl, by simp, fun _ _ => rfl⟩
  | cons entry entries ih =>
    obtain ⟨fresh, distinct⟩ := List.nodupKeys_cons.mp distinct
    have other : ∀ later ∈ entries, later.1 ≠ entry.1 := fun later member same =>
      fresh (same ▸ List.mem_keys_of_mem member)
    cases aged : age 30000 ms entry.2 with
    | some elapsed =>
      -- The mapping is young enough.
      have turn : expire ms cache entry = .ok cache := by rw [expire, aged]
      obtain ⟨left, folded, gone, kept⟩ :=
        ih distinct (fun later member => present later (List.mem_cons_of_mem _ member))
      refine ⟨left, by rw [List.foldlM_cons, turn, ok_bind, folded], ?_, fun ip young => ?_⟩
      · rw [List.forall_mem_cons]
        exact ⟨fun expired => by simp [aged] at expired, gone⟩
      · exact kept ip (List.forall_mem_cons.mp young).2
    | none =>
      -- The mapping has expired, and is there to be erased.
      obtain ⟨dst, found⟩ := Option.isSome_iff_exists.mp (present entry (by simp))
      have turn : expire ms cache entry = .ok (cache.erase entry.1) := by rw [expire, aged, found]
      obtain ⟨left, folded, gone, kept⟩ := ih distinct fun later member => by
        rw [HashMap.lookup_erase, if_neg (other later member)]
        exact present later (List.mem_cons_of_mem _ member)
      refine ⟨left, by rw [List.foldlM_cons, turn, ok_bind, folded], ?_, fun ip young => ?_⟩
      · rw [List.forall_mem_cons]
        refine ⟨fun _ => ?_, gone⟩
        rw [kept entry.1 fun later member same => absurd same (other later member),
          AList.lookup_erase]
      · obtain ⟨here, later⟩ := List.forall_mem_cons.mp young
        have different : ip ≠ entry.1 := fun same => here same.symm aged
        rw [kept ip later, HashMap.lookup_erase, if_neg different]

/-- While the two maps have the same keys, time passes without fault and they keep them. -/
theorem tick_spec {itf : NetworkInterface} (paired : itf.Paired) (ms : Nat) :
    ∃ left, itf.tick ms = .ok
        { itf with
          cache := left
          cacheTime := HashMap.updateAll (age 30000 ms) itf.cacheTime
          sinceLastSent := HashMap.updateAll (age 5000 ms) itf.sinceLastSent }
      ∧ ∀ ip, left.lookup ip
        = ((itf.cacheTime.lookup ip).bind (age 30000 ms)).bind fun _ => itf.cache.lookup ip := by
  have present : ∀ entry ∈ itf.cacheTime.entries, (itf.cache.lookup entry.1).isSome := by
    -- Every age belongs to a mapping.
    intro entry member
    rw [paired entry.1, Option.isSome_iff_exists]
    exact ⟨entry.2, AList.mem_lookup_iff.mpr member⟩
  obtain ⟨left, folded, gone, kept⟩ := foldlM_expire itf.cacheTime.nodupKeys present
  refine ⟨left, by rw [tick, folded]; rfl, fun ip => ?_⟩
  cases found : itf.cacheTime.lookup ip with
  | none =>
    -- An address without an age has no mapping either.
    have absent : itf.cache.lookup ip = none := by
      rw [← Option.not_isSome_iff_eq_none, paired ip, found]
      simp
    rw [kept ip fun entry member same => ?_, absent]
    · rfl
    · have here := AList.mem_lookup_iff.mpr member
      rw [same, found] at here
      cases here
  | some elapsed =>
    -- The age decides whether the mapping is left.
    have member := AList.mem_lookup_iff.mp (Option.mem_def.mpr found)
    cases aged : age 30000 ms elapsed with
    | none => rw [gone _ member aged, Option.bind_some, aged, Option.bind_none]
    | some later =>
      rw [Option.bind_some, aged, Option.bind_some, kept ip fun entry other same expired => ?_]
      have here := AList.mem_lookup_iff.mpr other
      rw [same, found, Option.mem_some_iff] at here
      rw [← here, aged] at expired
      cases expired

/-- Sending leaves the mappings alone. -/
theorem Sending.cache {itf next : NetworkInterface} {dgram : IPv4Datagram} {ip : UInt32}
    {result : Except Exception Unit} (sending : Sending itf dgram ip next result) :
    next.cache = itf.cache ∧ next.cacheTime = itf.cacheTime := by
  cases sending <;> exact ⟨rfl, rfl⟩

/-- Taking in an ARP message records the mapping of its sender and no other. -/
theorem Handled.cache {itf next : NetworkInterface} {am : ARPMessage}
    {result : Except Exception Unit} (handled : Handled itf am next result) :
    next.cache = itf.cache.insert am.senderIpAddress am.senderEthernetAddress
      ∧ next.cacheTime = itf.cacheTime.insert am.senderIpAddress 0 := by
  cases handled <;> exact ⟨rfl, rfl⟩

/-- Equal maps have the same keys. -/
theorem Paired.of_eq {itf next : NetworkInterface} (paired : itf.Paired)
    (same : next.cache = itf.cache ∧ next.cacheTime = itf.cacheTime) : next.Paired := by
  intro ip
  rw [same.1, same.2]
  exact paired ip

/-- A mapping is recorded together with its age. -/
theorem Paired.handled {itf next : NetworkInterface} {am : ARPMessage}
    {result : Except Exception Unit} (paired : itf.Paired)
    (handled : Handled itf am next result) : next.Paired := by
  intro ip
  rw [handled.cache.1, handled.cache.2, HashMap.lookup_insert, HashMap.lookup_insert]
  -- The sender's entry is written to both maps.
  split
  · rfl
  · exact paired ip

/-- A mapping expires together with its age. -/
theorem Paired.tick {itf : NetworkInterface} (paired : itf.Paired) (ms : Nat) :
    ∃ next, itf.tick ms = .ok next ∧ next.Paired := by
  obtain ⟨left, ticked, lookups⟩ := tick_spec paired ms
  refine ⟨_, ticked, fun ip => ?_⟩
  rw [HashMap.lookup_updateAll]
  change (left.lookup ip).isSome = _
  rw [lookups]
  -- Both maps look at the same age.
  cases aged : (itf.cacheTime.lookup ip).bind (age 30000 ms) with
  | none => rfl
  | some elapsed =>
    obtain ⟨old, found, -⟩ := Option.bind_eq_some_iff.mp aged
    have mapped := paired ip
    rw [found] at mapped
    exact mapped

end NetworkInterface

end Sponge
