import Sponge.Net.RouterSafety
import Sponge.Wire.EthernetLaws

/-! What an interface believes and sends while everybody on its wire is honest. -/

namespace Sponge

namespace IPv4Datagram

/-- What a datagram says, whatever its checksum is and however its payload is cut. -/
def content (dgram : IPv4Datagram) : IPv4Header × Bytes :=
  ({ dgram.header with cksum := 0 }, dgram.payload.concatenate)

/-- A datagram as it is read back from the wire. -/
def landed (dgram : IPv4Datagram) : IPv4Datagram :=
  ⟨withCksum dgram.header, .ofBuffer dgram.payload.concatenate⟩

/-- On the wire, a datagram goes on to say the same. -/
theorem content_landed (dgram : IPv4Datagram) : dgram.landed.content = dgram.content := by
  -- Only the checksum is filled in, and the payload is put together.
  unfold content landed
  simp [withCksum]

/-- What was read from the wire can be sent and read again. -/
theorem Faithful.landed {dgram : IPv4Datagram} (faithful : dgram.Faithful) :
    dgram.landed.Faithful where
  version := faithful.version
  room := faithful.room
  nibble := faithful.nibble
  fragment := faithful.fragment
  size := by
    -- The payload is the same bytes in one buffer.
    have size := faithful.size
    rw [BufferList.size_eq] at size
    unfold IPv4Datagram.landed
    rw [BufferList.size_ofBuffer]
    exact size

/-- A datagram can be sent and read again after its hop. -/
theorem Faithful.hopped {dgram : IPv4Datagram} (faithful : dgram.Faithful) :
    (Router.hopped dgram).Faithful :=
  -- The time to live is checked nowhere.
  ⟨faithful.version, faithful.room, faithful.nibble, faithful.fragment, faithful.size⟩

end IPv4Datagram

namespace NetworkInterface

section Trust

-- Who owns an IP address on the wire, and which datagrams are meant for which next hop there.
variable {owns : UInt32 → EthernetAddress → Prop} {due : UInt32 → IPv4Datagram → Prop}

/-- A frame that tells the truth: it goes to the owner of the next hop, or its sender is who it says
it is. -/
inductive Honest (owns : UInt32 → EthernetAddress → Prop) (due : UInt32 → IPv4Datagram → Prop)
    (frame : EthernetFrame) : Prop
  /-- A datagram for the owner of its next hop. -/
  | datagram {ip : UInt32} {dgram : IPv4Datagram} {out : BufferList}
      (ipv4 : frame.header.type = EthernetHeader.typeIPv4) (owned : owns ip frame.header.dst)
      (meant : due ip dgram) (written : dgram.serialize = .ok out)
      (bytes : out.concatenate = frame.payload.concatenate)
  /-- An ARP message. -/
  | arp {am : ARPMessage} (arp : frame.header.type = EthernetHeader.typeARP)
      (supported : am.supported = true)
      (owned : owns am.senderIpAddress am.senderEthernetAddress)
      (bytes : frame.payload.concatenate = am.bytes)

/-- An interface that believes and sends nothing but the truth. -/
structure Trusts (owns : UInt32 → EthernetAddress → Prop) (due : UInt32 → IPv4Datagram → Prop)
    (itf : NetworkInterface) : Prop where
  /-- The cache and the ages of its mappings have the same keys. -/
  paired : itf.Paired
  /-- The interface owns its own address. -/
  own : owns itf.ipAddress itf.ethernetAddress
  /-- Every mapping in the cache is true. -/
  cache : ∀ ip dst, itf.cache.lookup ip = some dst → owns ip dst
  /-- What waits for a mapping is meant for that next hop. -/
  waiting : ∀ ip, ∀ dgram ∈ itf.waiting ip, due ip dgram
  /-- Every frame that is to be transmitted is honest. -/
  frames : ∀ frame ∈ itf.framesOut, Honest owns due frame

/-- The interface has the same addresses. -/
def SameAddresses (itf next : NetworkInterface) : Prop :=
  next.ipAddress = itf.ipAddress ∧ next.ethernetAddress = itf.ethernetAddress

/-- A new interface trusts, on a wire on which it owns its address. -/
theorem trusts_new {ethernetAddress : EthernetAddress} {ipAddress : UInt32}
    (own : owns ipAddress ethernetAddress) : Trusts owns due { ethernetAddress, ipAddress } := by
  -- It knows nothing, and has nothing to send.
  refine ⟨fun _ => rfl, own, ?_, ?_, ?_⟩
  · intro ip dst known
    cases known
  · intro ip dgram member
    cases member
  · intro frame member
    cases member

/-- A frame stays honest when more datagrams are on their way. -/
theorem Honest.mono {more : UInt32 → IPv4Datagram → Prop} {frame : EthernetFrame}
    (honest : Honest owns due frame) (weaken : ∀ ip dgram, due ip dgram → more ip dgram) :
    Honest owns more frame := by
  -- Only a datagram depends on what is due.
  cases honest with
  | datagram ipv4 owned meant written bytes =>
    exact .datagram ipv4 owned (weaken _ _ meant) written bytes
  | arp arp supported owned bytes => exact .arp arp supported owned bytes

/-- An interface goes on to trust when more datagrams are on their way. -/
theorem Trusts.mono {more : UInt32 → IPv4Datagram → Prop} {itf : NetworkInterface}
    (trusts : itf.Trusts owns due) (weaken : ∀ ip dgram, due ip dgram → more ip dgram) :
    itf.Trusts owns more where
  paired := trusts.paired
  own := trusts.own
  cache := trusts.cache
  waiting := fun ip dgram member => weaken ip dgram (trusts.waiting ip dgram member)
  frames := fun frame member => (trusts.frames frame member).mono weaken

/-- An honest frame may be pushed. -/
theorem Trusts.push {itf : NetworkInterface} (trusts : itf.Trusts owns due)
    {dst : EthernetAddress} {type : UInt16} {payload : BufferList}
    (honest : Honest owns due ⟨⟨dst, itf.ethernetAddress, type⟩, payload⟩) :
    (itf.push dst type payload).Trusts owns due := by
  refine ⟨trusts.paired, trusts.own, trusts.cache, trusts.waiting, ?_⟩
  intro frame member
  -- The new frame is the last one of the queue.
  rcases List.mem_append.mp member with old | new
  · exact trusts.frames frame old
  · rw [List.mem_singleton.mp new]
    exact honest

/-- What an interface says about itself by ARP is honest. -/
theorem Trusts.honest_arp {itf : NetworkInterface} (trusts : itf.Trusts owns due)
    {am : ARPMessage} (supported : am.supported = true)
    (ip : am.senderIpAddress = itf.ipAddress)
    (ethernet : am.senderEthernetAddress = itf.ethernetAddress) (dst : EthernetAddress) :
    Honest owns due ⟨⟨dst, itf.ethernetAddress, EthernetHeader.typeARP⟩, .ofBuffer am.bytes⟩ := by
  -- The interface owns the address that it tells.
  apply Honest.arp rfl supported
  · rw [ip, ethernet]
    exact trusts.own
  · exact BufferList.concatenate_ofBuffer am.bytes

/-- The first frame of the queue is honest, and may be taken. -/
theorem Trusts.transmit {itf : NetworkInterface} (trusts : itf.Trusts owns due)
    {frame : EthernetFrame} {rest : List EthernetFrame} (front : itf.framesOut = frame :: rest) :
    Honest owns due frame ∧ { itf with framesOut := rest }.Trusts owns due := by
  -- The other frames stay.
  refine ⟨trusts.frames frame (by rw [front]; exact List.mem_cons_self),
    trusts.paired, trusts.own, trusts.cache, trusts.waiting, ?_⟩
  intro other member
  exact trusts.frames other (by rw [front]; exact List.mem_cons_of_mem _ member)

/-- Time passes, and mappings are only forgotten. -/
theorem Trusts.tick {itf : NetworkInterface} (trusts : itf.Trusts owns due) (ms : Nat) :
    ∃ next, itf.tick ms = .ok next ∧ next.Trusts owns due ∧ itf.SameAddresses next := by
  obtain ⟨next, same, paired⟩ := trusts.paired.tick ms
  obtain ⟨left, ticked, lookups⟩ := tick_spec trusts.paired ms
  cases Except.ok.inj (same.symm.trans ticked)
  refine ⟨_, ticked, ⟨paired, trusts.own, ?_, trusts.waiting, trusts.frames⟩, rfl, rfl⟩
  intro ip dst known
  -- A mapping that is left was there before.
  have found := lookups ip
  change left.lookup ip = some dst at known
  rw [known] at found
  obtain ⟨_, -, before⟩ := Option.bind_eq_some_iff.mp found.symm
  exact trusts.cache ip dst before

section Calls

-- Everything that is on its way can be written to the wire and read back.
variable (faithful : ∀ ip dgram, due ip dgram → dgram.Faithful)
include faithful

/-- A datagram to a true owner of its next hop makes an honest frame. -/
theorem honest_datagram {ip : UInt32} {dgram : IPv4Datagram} (meant : due ip dgram)
    {dst : EthernetAddress} (owned : owns ip dst) (src : EthernetAddress) :
    ∃ out, dgram.serialize = .ok out ∧
      Honest owns due ⟨⟨dst, src, EthernetHeader.typeIPv4⟩, out⟩ := by
  have written := (faithful ip dgram meant).serialize
  exact ⟨_, written, .datagram rfl owned meant written rfl⟩

/-- A datagram is sent to the owner of its next hop, or waits for it. -/
theorem Trusts.sendDatagram {itf : NetworkInterface} (trusts : itf.Trusts owns due) {ip : UInt32}
    {dgram : IPv4Datagram} (meant : due ip dgram) :
    ∃ next, itf.sendDatagram dgram ip = (next, .ok ()) ∧ next.Trusts owns due ∧
      itf.SameAddresses next := by
  unfold NetworkInterface.sendDatagram
  cases known : itf.cache.lookup ip with
  | some dst =>
    -- The mapping is true, so the frame goes to the owner of the next hop.
    obtain ⟨out, written, honest⟩ := honest_datagram faithful meant (trusts.cache ip dst known)
      itf.ethernetAddress
    simp only [written]
    exact ⟨_, rfl, trusts.push honest, rfl, rfl⟩
  | none =>
    dsimp only
    split
    · -- The request tells the truth about the interface itself.
      have asked : { itf with sinceLastSent := itf.sinceLastSent.insert ip 0 }.Trusts owns due :=
        ⟨trusts.paired, trusts.own, trusts.cache, trusts.waiting, trusts.frames⟩
      have supported : (itf.arpRequest ip).supported = true := rfl
      have honest : Honest owns due ⟨⟨.broadcast, itf.ethernetAddress, EthernetHeader.typeARP⟩,
          .ofBuffer (itf.arpRequest ip).bytes⟩ :=
        asked.honest_arp supported rfl rfl .broadcast
      have pushed := asked.push honest
      have written : ({ itf with sinceLastSent := itf.sinceLastSent.insert ip 0
          }.arpRequest ip).serialize = .ok (itf.arpRequest ip).bytes :=
        ARPMessage.serialize_eq supported
      rw [written]
      refine ⟨_, rfl, ⟨pushed.paired, pushed.own, pushed.cache, ?_, pushed.frames⟩, rfl, rfl⟩
      intro other waits member
      rw [waiting_enqueue] at member
      split at member
      · rename_i same
        subst same
        rcases List.mem_cons.mp member with rfl | old
        · exact meant
        · exact pushed.waiting _ waits old
      · -- What waits for another address.
        exact pushed.waiting other waits member
    · -- A request was sent a short time ago, so the datagram is dropped.
      exact ⟨_, rfl, trusts, rfl, rfl⟩

/-- Datagrams are flushed to the owner of their next hop. -/
theorem Trusts.flush {ip : UInt32} {dst : EthernetAddress} (owned : owns ip dst) :
    ∀ (wait : List IPv4Datagram) (itf : NetworkInterface), itf.Trusts owns due →
      (∀ dgram ∈ wait, due ip dgram) →
      ∃ next, NetworkInterface.flush dst wait itf = (next, .ok ()) ∧ next.Trusts owns due ∧
        itf.SameAddresses next := by
  intro wait
  -- Each turn pushes one honest frame, whatever is in the queue already.
  induction wait with
  | nil =>
    intro itf trusts _
    exact ⟨itf, rfl, trusts, rfl, rfl⟩
  | cons dgram wait ih =>
    intro itf trusts meant
    obtain ⟨out, written, honest⟩ := honest_datagram faithful (meant dgram List.mem_cons_self)
      owned itf.ethernetAddress
    obtain ⟨next, flushed, kept, same⟩ := ih _ (trusts.push honest)
      (fun other member => meant other (List.mem_cons_of_mem _ member))
    unfold NetworkInterface.flush
    rw [written]
    exact ⟨next, flushed, kept, same⟩

/-- A true ARP message is learned from, and releases what waits for its sender. -/
theorem Trusts.sendWaiting {itf : NetworkInterface} (trusts : itf.Trusts owns due) {ip : UInt32}
    {dst : EthernetAddress} (owned : owns ip dst) :
    ∃ next, itf.sendWaiting ip dst = (next, .ok ()) ∧ next.Trusts owns due ∧
      itf.SameAddresses next := by
  unfold NetworkInterface.sendWaiting
  cases found : itf.datagrams.lookup ip with
  | none => exact ⟨itf, rfl, trusts, rfl, rfl⟩
  | some wait =>
    -- Everything that waits was meant for this address.
    have here : itf.waiting ip = wait := by
      unfold NetworkInterface.waiting
      rw [found]
      rfl
    obtain ⟨next, flushed, kept, same⟩ := Trusts.flush faithful owned wait itf trusts
      (fun dgram member => trusts.waiting ip dgram (by rw [here]; exact member))
    dsimp only
    rw [flushed]
    refine ⟨_, rfl, ⟨kept.paired, kept.own, kept.cache, ?_, kept.frames⟩, same⟩
    intro other dgram member
    -- The list that was sent is forgotten, and the others are as they were.
    rw [waiting_erase] at member
    split at member
    · cases member
    · exact kept.waiting other dgram member

/-- A true ARP message is taken in. -/
theorem Trusts.handleArp {itf : NetworkInterface} (trusts : itf.Trusts owns due) {am : ARPMessage}
    (owned : owns am.senderIpAddress am.senderEthernetAddress) :
    ∃ next, itf.handleArp am = (next, .ok ()) ∧ next.Trusts owns due ∧
      itf.SameAddresses next := by
  have learned : (itf.learn am).Trusts owns due := by
    refine ⟨?_, trusts.own, ?_, trusts.waiting, trusts.frames⟩
    · -- The age is recorded with the mapping.
      intro ip
      unfold learn
      rw [HashMap.lookup_insert, HashMap.lookup_insert]
      split
      · rfl
      · exact trusts.paired ip
    · -- The only new mapping is that of the sender.
      intro ip dst known
      unfold learn at known
      rw [HashMap.lookup_insert] at known
      split at known
      · rename_i same
        rw [same, ← Option.some.inj known]
        exact owned
      · exact trusts.cache ip dst known
  -- What waits for the sender goes to the address that the message tells.
  obtain ⟨sent, waited, kept, ip, ethernet⟩ := learned.sendWaiting faithful owned
  unfold NetworkInterface.handleArp
  rw [waited]
  dsimp only
  unfold answer
  split
  · -- The reply tells the truth about the interface itself.
    have supported : (sent.arpReply am).supported = true := rfl
    rw [ARPMessage.serialize_eq supported]
    exact ⟨_, rfl, kept.push (kept.honest_arp supported rfl rfl _), ip, ethernet⟩
  · -- The message is not a request for this interface, so there is no reply.
    exact ⟨_, rfl, kept, ip, ethernet⟩

/-- An honest frame is taken in, and a datagram is returned only if it was meant for the owner of
the address that the frame went to. -/
theorem Trusts.recvFrame {itf : NetworkInterface} (trusts : itf.Trusts owns due)
    {frame : EthernetFrame} (honest : Honest owns due frame) :
    ∃ next found,
      itf.recvFrame ⟨frame.header, .ofBuffer frame.payload.concatenate⟩ = (next, .ok found) ∧
        next.Trusts owns due ∧ itf.SameAddresses next ∧
        ∀ got ∈ found, ∃ ip dgram, got = dgram.landed ∧ due ip dgram ∧
          owns ip frame.header.dst ∧
          (frame.header.dst = .broadcast ∨ frame.header.dst = itf.ethernetAddress) := by
  unfold NetworkInterface.recvFrame
  split
  · -- The frame is for another interface.
    exact ⟨itf, none, rfl, trusts, ⟨rfl, rfl⟩, by simp⟩
  · rename_i taken
    have addressed : frame.header.dst = .broadcast ∨ frame.header.dst = itf.ethernetAddress := by
      simpa [or_iff_not_imp_left] using taken
    rw [BufferList.toBuffer_ofBuffer]
    dsimp only
    cases honest with
    | @datagram ip dgram out ipv4 owned meant written bytes =>
      rw [if_pos ipv4]
      -- The frame holds what was serialized, so the parser finds the datagram in it.
      have fine := faithful ip dgram meant
      rw [fine.serialize, Except.ok.injEq] at written
      rw [← bytes, ← written, fine.parse]
      refine ⟨itf, some dgram.landed, rfl, trusts, ⟨rfl, rfl⟩, ?_⟩
      intro got member
      exact ⟨ip, dgram, (Option.mem_some_iff.mp member).symm, meant, owned, addressed⟩
    | @arp am arp supported owned bytes =>
      -- The message is supported, so it is parsed as it was written.
      have other : frame.header.type ≠ EthernetHeader.typeIPv4 := by
        rw [arp]
        decide
      rw [if_neg other]
      have parsed := ARPMessage.parse_bytes am {} []
      rw [List.append_nil, supported] at parsed
      obtain ⟨verdict, message⟩ := parsed
      obtain ⟨next, handled, kept, same⟩ := trusts.handleArp faithful owned
      rw [bytes, verdict, message rfl, if_neg (by simp), handled]
      exact ⟨next, none, rfl, kept, same, by simp⟩

end Calls

end Trust

end NetworkInterface

end Sponge
