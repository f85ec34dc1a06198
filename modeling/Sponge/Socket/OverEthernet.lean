import Sponge.Net.InterfaceLaws
import Sponge.Socket.Transparency
import Sponge.Wire.EthernetLaws

/-! The adapter over Ethernet is transparent, although it holds datagrams back until their next hop
is resolved. -/

namespace Sponge

namespace NetworkInterface

open TCPOverIPv4Adapter (Bears)

/-- A frame carries one of some segments, if it carries a datagram. -/
def Bearing (segs : List TCPSegment) (frame : EthernetFrame) : Prop :=
  frame.header.type = EthernetHeader.typeIPv4 →
    ∃ dgram, Bears segs dgram ∧ dgram.serialize = .ok frame.payload

/-- Everything that waits in an interface carries one of some segments. -/
structure Keeps (segs : List TCPSegment) (itf : NetworkInterface) : Prop where
  /-- The cache and the ages of its mappings have the same keys. -/
  paired : itf.Paired
  /-- The datagrams that wait for a mapping. -/
  waiting : ∀ ip, ∀ dgram ∈ itf.waiting ip, Bears segs dgram
  /-- The frames that are to be transmitted. -/
  frames : ∀ frame ∈ itf.framesOut, Bearing segs frame

variable {segs : List TCPSegment} {itf : NetworkInterface}

/-- An interface that keeps some segments keeps more segments. -/
theorem Keeps.mono {more : List TCPSegment} (keeps : itf.Keeps segs) (subset : segs ⊆ more) :
    itf.Keeps more := by
  -- What carries one of some segments carries one of more.
  refine ⟨keeps.paired, ?_, ?_⟩
  · intro ip dgram member
    exact (keeps.waiting ip dgram member).mono subset
  · intro frame member ipv4
    obtain ⟨dgram, bears, written⟩ := keeps.frames frame member ipv4
    exact ⟨dgram, bears.mono subset, written⟩

/-- A datagram that carries a segment is sent without an exception. -/
theorem Keeps.sendDatagram (keeps : itf.Keeps segs) {dgram : IPv4Datagram}
    (bears : Bears segs dgram) (ip : UInt32) :
    (itf.sendDatagram dgram ip).2 = .ok () ∧ (itf.sendDatagram dgram ip).1.Keeps segs := by
  have sending := itf.sendDatagram_sending dgram ip
  generalize itf.sendDatagram dgram ip = result at sending
  obtain ⟨next, outcome⟩ := result
  -- The next hop is known, or the datagram waits for it, or is dropped.
  cases sending with
  | direct known written =>
    -- The datagram goes out in a frame of its own.
    refine ⟨rfl, keeps.paired, keeps.waiting, ?_⟩
    intro frame member
    rcases List.mem_append.mp member with old | new
    · exact keeps.frames frame old
    · rw [List.mem_singleton.mp new]
      exact fun _ => ⟨dgram, bears, written⟩
  | refused known failed =>
    -- A datagram that carries a segment can always be serialized.
    obtain ⟨packet, written, -⟩ := bears.serialize
    cases failed.symm.trans written
  | queued unknown due =>
    refine ⟨rfl, keeps.paired, ?_, ?_⟩
    · intro other waits member
      change waits ∈ (itf.asked dgram ip _).waiting other at member
      unfold asked at member
      rw [waiting_enqueue] at member
      split at member
      · -- What waits for this address: the new datagram and the old ones.
        rcases List.mem_cons.mp member with rfl | old
        · exact bears
        · exact keeps.waiting ip waits old
      · -- What waits for another address.
        exact keeps.waiting other waits member
    · intro frame member
      change frame ∈ (itf.asked dgram ip _).framesOut at member
      rw [framesOut_asked] at member
      rcases List.mem_append.mp member with old | new
      · exact keeps.frames frame old
      · -- The request is no datagram.
        rw [List.mem_singleton.mp new]
        intro ipv4
        change EthernetHeader.typeARP = EthernetHeader.typeIPv4 at ipv4
        exact absurd ipv4 (by decide)
  -- A request was sent a short time ago, so the datagram is dropped.
  | dropped unknown recent => exact ⟨rfl, keeps⟩

/-- An ARP message releases what waits without an exception. -/
theorem Keeps.handleArp (keeps : itf.Keeps segs) (am : ARPMessage) :
    (itf.handleArp am).2 = .ok () ∧ (itf.handleArp am).1.Keeps segs := by
  have handled := itf.handleArp_handled am
  have paired := keeps.paired.handled handled
  generalize itf.handleArp am = result at handled paired
  obtain ⟨next, outcome⟩ := result
  cases handled with
  | sent carried replies =>
    -- The datagrams that waited for the sender of the message are released.
    refine ⟨rfl, paired, ?_, ?_⟩
    · intro ip dgram member
      have shorter := itf.waiting_erase am.senderIpAddress ip
      change dgram ∈ { itf with datagrams := itf.datagrams.erase am.senderIpAddress }.waiting ip
        at member
      rw [shorter] at member
      split at member
      · -- Nothing waits for that address any more.
        cases member
      · exact keeps.waiting ip dgram member
    · intro frame member
      rcases List.mem_append.mp member with old | new
      · exact keeps.frames frame old
      · rcases List.mem_append.mp new with flushed | reply
        · -- A released frame carries one of the datagrams that waited.
          obtain ⟨dgram, waited, carries⟩ := exists_carried carried frame flushed
          exact fun _ => ⟨dgram, keeps.waiting _ dgram waited, carries.2.2.2⟩
        · -- The reply to a request is no datagram.
          intro ipv4
          have arp : frame.header.type = EthernetHeader.typeARP := replies frame reply
          rw [arp] at ipv4
          exact absurd ipv4 (by decide)
  | @stuck frames done bad later thrown split carried failed =>
    -- One of the released datagrams could not be serialized, but all of them can.
    have waits : bad ∈ itf.waiting am.senderIpAddress := by
      rw [split]
      simp
    obtain ⟨packet, written, -⟩ := (keeps.waiting _ bad waits).serialize
    cases failed.symm.trans written

/-- A frame in one buffer is received without an exception. -/
theorem Keeps.recvFrame (keeps : itf.Keeps segs) (header : EthernetHeader) (buffer : Bytes) :
    (∃ found, (itf.recvFrame ⟨header, .ofBuffer buffer⟩).2 = .ok found) ∧
      (itf.recvFrame ⟨header, .ofBuffer buffer⟩).1.Keeps segs := by
  unfold NetworkInterface.recvFrame
  split
  · -- The frame is for another interface.
    exact ⟨⟨_, rfl⟩, keeps⟩
  · simp only [BufferList.toBuffer_ofBuffer]
    split
    · -- A datagram leaves the interface as it is.
      exact ⟨⟨_, rfl⟩, keeps⟩
    · split
      · -- The message is malformed.
        exact ⟨⟨_, rfl⟩, keeps⟩
      · obtain ⟨fine, kept⟩ := keeps.handleArp (ARPMessage.parse {} buffer).2
        generalize itf.handleArp (ARPMessage.parse {} buffer).2 = result at fine kept
        obtain ⟨next, outcome⟩ := result
        subst fine
        exact ⟨⟨_, rfl⟩, kept⟩

/-- Time passes without an exception. -/
theorem Keeps.tick (keeps : itf.Keeps segs) (ms : Nat) :
    ∃ next, itf.tick ms = .ok next ∧ next.Keeps segs := by
  -- What waits and what is queued does not age.
  obtain ⟨left, ticked, -⟩ := tick_spec keeps.paired ms
  obtain ⟨next, same, paired⟩ := keeps.paired.tick ms
  cases Except.ok.inj (ticked.symm.trans same)
  exact ⟨_, ticked, paired, keeps.waiting, keeps.frames⟩

/-- A datagram is returned only from a frame of that type, as the parser finds it. -/
theorem recvFrame_some {frame : EthernetFrame} {dgram : IPv4Datagram}
    (received : (itf.recvFrame frame).2 = .ok (some dgram)) :
    frame.header.type = EthernetHeader.typeIPv4 ∧ ∃ buffer, frame.payload.toBuffer = .ok buffer ∧
      IPv4Datagram.parse {} buffer = (.noError, dgram) := by
  unfold NetworkInterface.recvFrame at received
  split at received
  · -- The frame is for another interface.
    cases received
  · split at received
    · -- The payload is not in one buffer.
      cases received
    · rename_i buffer whole
      split at received
      · -- The frame holds a datagram, which is returned if it was parsed.
        rename_i ipv4
        dsimp only at received
        rw [Except.ok.injEq] at received
        split at received
        · rename_i parsed
          cases received
          exact ⟨ipv4, buffer, whole, Prod.ext parsed rfl⟩
        · cases received
      · -- A frame with a message returns nothing.
        dsimp only at received
        split at received
        · cases received
        · split at received
          · cases received
          · cases received

end NetworkInterface

namespace TCPOverIPv4OverEthernetAdapter

open NetworkInterface (Bearing Keeps)

/-- Everything that the adapter holds back waits in its interface for a mapping. -/
structure Holds (adapter : TCPOverIPv4OverEthernetAdapter) (segs : List TCPSegment) : Prop where
  /-- The interface keeps the segments. -/
  keeps : adapter.interface.Keeps segs
  /-- Every frame has been transmitted. -/
  sent : adapter.interface.framesOut = []

/-- A segment is read out of a frame only if the parsers find it there. -/
theorem read_some {adapter next : TCPOverIPv4OverEthernetAdapter}
    {answer : SysResult Bytes × (Nat → SysResult Unit)} {got : TCPSegment} {sent : List Bytes}
    (done : adapter.read answer = .ok (some got, sent, next)) :
    ∃ data, answer.1 = .returned data ∧
      (EthernetFrame.parse {} data).2.header.type = EthernetHeader.typeIPv4 ∧
      ∃ header buffer, IPv4Datagram.parse {} (EthernetFrame.parse {} data).2.payload.concatenate =
          (.noError, ⟨header, .ofBuffer buffer⟩) ∧
        TCPSegment.parse {} buffer header.pseudoCksum = (.noError, got) := by
  unfold read at done
  obtain ⟨⟨data, tap⟩, received, done⟩ := bind_eq_ok.mp done
  obtain ⟨answered, -, -⟩ := FileDescriptor.read_ok received
  dsimp only at done
  split at done
  · -- The frame was not parsed.
    cases done
  · obtain ⟨ipDgram, found, done⟩ := bind_eq_ok.mp done
    obtain ⟨⟨pending, after⟩, -, done⟩ := bind_eq_ok.mp done
    cases ipDgram with
    -- There was no datagram in the frame.
    | none => cases done
    | some dgram =>
      -- The datagram went on to the adapter below.
      obtain ⟨⟨seg, base⟩, opened, done⟩ := bind_eq_ok.mp done
      simp only [pure_eq_ok, Except.ok.injEq, Prod.mk.injEq] at done
      obtain ⟨rfl, -, -⟩ := done
      rw [ofPacket_ok] at found opened
      obtain ⟨ipv4, buffer, whole, parsed⟩ := NetworkInterface.recvFrame_some found
      -- The payload of the frame is in one buffer, and so is that of the datagram.
      have same : (EthernetFrame.parse {} data).2.payload.concatenate = buffer := by
        have one : (EthernetFrame.parse {} data).2.payload.toBuffer =
            .ok (EthernetFrame.parse {} data).2.payload.concatenate := by
          unfold EthernetFrame.parse
          simp
        exact Except.ok.inj (one.symm.trans whole)
      obtain ⟨header, inner, shape⟩ := IPv4Datagram.parse_payload {} buffer
      rw [parsed] at shape
      dsimp only at shape
      subst shape
      obtain ⟨out, unwrapped, segment⟩ := after.base.unwrapTcpInIp_ofBuffer header inner
      rw [unwrapped, Except.ok.injEq] at opened
      refine ⟨data, answered, ipv4, header, inner, by rw [same]; exact parsed, ?_⟩
      exact segment got (by rw [opened])

/-- A frame that carries a segment is a packet of it. -/
theorem decodes_of_bearing {segs : List TCPSegment} {frame : EthernetFrame}
    (bearing : Bearing segs frame) :
    Decodes TCPOverIPv4OverEthernetAdapter segs frame.serialize.concatenate := by
  intro reader arriving got sent next payload read
  obtain ⟨data, answered, ipv4, header, buffer, opened, segment⟩ := read_some read
  have bytes : data = frame.header.serialize ++ frame.payload.concatenate := by
    -- What arrives are the bytes that were written.
    obtain ⟨first, second⟩ := arriving
    dsimp only at answered
    subst answered
    have same := Option.some.inj payload
    rw [same]
    simp [EthernetFrame.serialize]
  rw [bytes, EthernetFrame.parse_append] at ipv4 opened
  -- The reader finds the frame that was written, and the datagram in it.
  obtain ⟨dgram, bears, written⟩ := bearing ipv4
  obtain ⟨packet, again, decoded⟩ := bears.serialize
  cases Except.ok.inj (written.symm.trans again)
  exact decoded header buffer got (by simpa using opened) segment

/-- Frames are written in order. -/
theorem sendFrames_settles (frames : List EthernetFrame) :
    ∀ (answers : Nat → SysResult Unit) (tap : FileDescriptor),
      Settles Failure.Environmental (fun out =>
        out.1 = frames.map (fun frame => frame.serialize.concatenate) ∧
          out.2.readCount = tap.readCount) (sendFrames frames answers tap) := by
  -- Each frame is written whole, or the kernel has failed.
  induction frames with
  | nil =>
    intro answers tap
    exact ⟨rfl, rfl⟩
  | cons frame frames ih =>
    intro answers tap
    unfold sendFrames
    apply (tap.writePacket_settles frame.serialize (answers 0)).bind
    intro first _ written
    apply (ih (fun later => answers (later + 1)) first.2).bind
    intro rest _ others
    refine ⟨by rw [written.1, others.1]; rfl, ?_⟩
    rw [others.2, written.2]
    rfl

/-- Sending what is pending leaves nothing but what waits for a mapping. -/
theorem sendPending_settles (adapter : TCPOverIPv4OverEthernetAdapter) {segs : List TCPSegment}
    (keeps : adapter.interface.Keeps segs) (answers : Nat → SysResult Unit) :
    Settles Failure.Environmental (fun out => out.2.Holds segs ∧
      (∀ packet ∈ out.1, Decodes TCPOverIPv4OverEthernetAdapter segs packet) ∧
      out.2.tap.readCount = adapter.tap.readCount) (adapter.sendPending answers) := by
  unfold sendPending
  -- Every queued frame is written, and the queue is empty then.
  apply (sendFrames_settles adapter.interface.framesOut answers adapter.tap).bind
  intro out _ sent
  refine ⟨⟨⟨keeps.paired, keeps.waiting, by simp⟩, rfl⟩, ?_, sent.2⟩
  intro packet member
  rw [sent.1] at member
  obtain ⟨frame, queued, rfl⟩ := List.mem_map.mp member
  exact decodes_of_bearing (keeps.frames frame queued)

end TCPOverIPv4OverEthernetAdapter

/-- An adapter over Ethernet holds back the segments whose next hop is not resolved yet. -/
instance : Transparent TCPOverIPv4OverEthernetAdapter
    (SysResult Bytes × (Nat → SysResult Unit)) (Nat → SysResult Unit) where
  Holds := TCPOverIPv4OverEthernetAdapter.Holds
  holds_mono := by
    intro adapter segs more subset holds
    exact ⟨holds.keeps.mono subset, holds.sent⟩
  write_settles := by
    intro adapter segs seg answer holds modest
    have bears : TCPOverIPv4Adapter.Bears (segs ++ [seg]) (adapter.base.carrier seg) :=
      ⟨adapter.base, seg, by simp, modest, rfl⟩
    -- The segment is sent, or waits with the others.
    obtain ⟨fine, kept⟩ := (holds.keeps.mono (List.subset_append_left segs [seg])).sendDatagram
      bears adapter.nextHop
    change Settles _ _ (TCPOverIPv4OverEthernetAdapter.write adapter seg answer)
    unfold TCPOverIPv4OverEthernetAdapter.write
    rw [TCPOverIPv4Adapter.wrapTcpInIp_ok modest.fits.1]
    simp only [ofPacket, ok_bind, fine]
    -- The frames that it has caused go out at once.
    apply (TCPOverIPv4OverEthernetAdapter.sendPending_settles
      ({ adapter with
        interface := (adapter.interface.sendDatagram (adapter.base.carrier seg)
          adapter.nextHop).1 }) kept answer).mono
    intro out settled
    exact ⟨settled.1, settled.2.1⟩
  read_settles := by
    intro adapter segs answer holds
    change Settles _ _ (TCPOverIPv4OverEthernetAdapter.read adapter answer)
    unfold TCPOverIPv4OverEthernetAdapter.read
    apply (adapter.tap.read_settles sizeMax answer.1).bind
    intro out _ got
    have count : out.2.readCount = adapter.tap.readCount + 1 := by rw [got.2.2]
    dsimp only
    split
    · -- The frame is malformed, and changes nothing.
      exact ⟨⟨holds.keeps, holds.sent⟩, by simp, count⟩
    · -- The frame is received, and may release what has waited.
      obtain ⟨⟨found, fine⟩, kept⟩ := holds.keeps.recvFrame
        (EthernetFrame.parse {} out.1).2.header
        ((EthernetHeader.parse {} ⟨out.1, .noError⟩).2.2).buffer
      have frame : (EthernetFrame.parse {} out.1).2 =
          ⟨(EthernetFrame.parse {} out.1).2.header,
            .ofBuffer ((EthernetHeader.parse {} ⟨out.1, .noError⟩).2.2).buffer⟩ := rfl
      rw [← frame] at fine kept
      rw [fine]
      simp only [ofPacket, ok_bind]
      apply (TCPOverIPv4OverEthernetAdapter.sendPending_settles
        ({ adapter with
          tap := out.2
          interface := (adapter.interface.recvFrame (EthernetFrame.parse {} out.1).2).1 })
        kept answer.2).bind
      intro sent _ settled
      obtain ⟨held, packets, reads⟩ := settled
      have counted := reads.trans count
      cases found with
      -- There was no datagram in it.
      | none => exact ⟨held, packets, counted⟩
      | some dgram =>
        -- The datagram was parsed, so it is opened without an exception.
        obtain ⟨-, buffer, -, parsed⟩ := NetworkInterface.recvFrame_some fine
        obtain ⟨header, inner, shape⟩ := IPv4Datagram.parse_payload {} buffer
        rw [parsed] at shape
        dsimp only at shape ⊢
        subst shape
        obtain ⟨unwrapped, opened, -⟩ := sent.2.base.unwrapTcpInIp_ofBuffer header inner
        rw [opened]
        exact ⟨⟨held.keeps, held.sent⟩, packets, counted⟩
  tick_settles := by
    -- Time drops mappings, which makes no segment go out.
    intro adapter segs ms answer holds
    obtain ⟨next, ticked, kept⟩ := holds.keeps.tick ms
    change Settles _ _ (TCPOverIPv4OverEthernetAdapter.tick adapter ms answer)
    unfold TCPOverIPv4OverEthernetAdapter.tick
    rw [ticked]
    simp only [ofPacket, ok_bind]
    apply (TCPOverIPv4OverEthernetAdapter.sendPending_settles
      ({ adapter with interface := next }) kept answer).mono
    intro out settled
    exact ⟨settled.1, settled.2.1⟩
  holds_setConfig := by
    intro adapter segs cfg holds
    exact ⟨holds.keeps, holds.sent⟩
  holds_setListening := by
    intro adapter segs listen holds
    exact ⟨holds.keeps, holds.sent⟩

/-- A new adapter holds nothing back. -/
theorem TCPOverIPv4OverEthernetAdapter.new_settles (ethAddress : EthernetAddress)
    (ipAddress nextHop : UInt32) (answer : SysResult Unit) :
    Settles Failure.Environmental (fun out => Transparent.Holds out.2 [])
      (TCPOverIPv4OverEthernetAdapter.new ethAddress ipAddress nextHop answer) := by
  -- The announcement is written, and nothing waits in a new interface.
  unfold TCPOverIPv4OverEthernetAdapter.new
  apply (FileDescriptor.writePacket_settles {} _ answer).bind
  intro out _ _
  refine ⟨⟨?_, ?_, by simp⟩, rfl⟩
  · intro ip
    rfl
  · intro ip dgram member
    cases member

end Sponge
