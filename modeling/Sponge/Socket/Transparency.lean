import Sponge.Io.Environment
import Sponge.Socket.Adapters
import Sponge.Tcp.SegmentSize

/-! Every adapter is transparent: what it reads out of a packet of its peer is a segment that was
written to the peer, and it throws only what its environment makes it throw. -/

namespace Sponge

/-- A packet is written whole, unless the environment fails. -/
theorem FileDescriptor.writePacket_settles (fd : FileDescriptor) (packet : BufferList)
    (answer : SysResult Unit) :
    Settles Failure.Environmental (fun out =>
      out.1 = packet.concatenate ∧ out.2 = fd.registerWrite) (fd.writePacket packet answer) := by
  -- A view of the buffers has their bytes, and their size.
  have whole : (BufferViewList.mk packet.buffers).concatenate = packet.concatenate := rfl
  have size : (BufferViewList.mk packet.buffers).size = packet.size := rfl
  cases answer with
  -- The write has failed, for which the environment is to blame.
  | failed errno => trivial
  | returned done =>
    -- The kernel takes everything in one turn, so the loop stops there.
    have fair : ({ fd, buffer := ⟨packet.buffers⟩ } : Writing).Fair packet.size :=
      ⟨le_of_eq size.symm, fun some none => some (size.trans none)⟩
    obtain ⟨rest, left, turned⟩ := Writing.turn_returned fair
    have none : rest.size = 0 := by
      rw [BufferViewList.size_eq, left, List.length_drop, whole, ← BufferList.size_eq,
        Nat.sub_self]
    have taken : (BufferViewList.mk packet.buffers).concatenate.take packet.size
        = packet.concatenate := by
      rw [whole, BufferList.size_eq, List.take_length]
    have written : fd.write ⟨packet.buffers⟩ true [.returned packet.size] =
        ({ fd := fd.registerWrite
           buffer := rest
           totalBytesWritten := 0 + packet.size
           chunks := [] ++ [(BufferViewList.mk packet.buffers).concatenate.take packet.size] },
          .returned) := by
      unfold FileDescriptor.write Writing.run
      rw [turned]
      dsimp only
      rw [none]
      rfl
    unfold FileDescriptor.writePacket
    dsimp only
    rw [written]
    refine ⟨?_, rfl⟩
    simpa using taken

/-- A segment arrives as it was sent, but for the ports and the checksum. -/
def TCPSegment.Arrives (sent got : TCPSegment) : Prop :=
  got = ⟨{ sent.header with
    sport := got.header.sport, dport := got.header.dport, cksum := got.header.cksum },
    sent.payload⟩

/-- A connection does not look at what may differ in a segment that arrives. -/
theorem TCPConnection.segmentReceived_arrives (c : TCPConnection) {sent got : TCPSegment}
    (arrives : sent.Arrives got) : c.segmentReceived got = c.segmentReceived sent := by
  rw [arrives]
  rfl

section Decodes

variable {α ρ υ : Type} [FdAdapter α ρ υ]

/-- Whatever adapter reads a packet, it gets one of some segments out of it, or none. -/
def Decodes (α : Type) {ρ υ : Type} [FdAdapter α ρ υ] (segs : List TCPSegment) (packet : Bytes) :
    Prop :=
  ∀ (adapter : α) (answer : ρ) (got : TCPSegment) (sent : List Bytes) (next : α),
    FdAdapter.payload α answer = some packet →
    FdAdapter.read adapter answer = .ok (some got, sent, next) →
    ∃ seg ∈ segs, seg.Arrives got

/-- A packet of some segments is a packet of more segments. -/
theorem Decodes.mono {segs more : List TCPSegment} {packet : Bytes}
    (decodes : Decodes α segs packet) (subset : segs ⊆ more) : Decodes α more packet := by
  intro adapter answer got sent next payload read
  obtain ⟨seg, member, arrives⟩ := decodes adapter answer got sent next payload read
  exact ⟨seg, subset member, arrives⟩

end Decodes

/-- An adapter that carries segments faithfully. -/
class Transparent (α : Type) (ρ υ : outParam Type) [FdAdapter α ρ υ] where
  /-- Everything that the adapter holds back is one of the segments it was given. -/
  Holds : α → List TCPSegment → Prop
  /-- What is one of some segments is one of more segments. -/
  holds_mono : ∀ (adapter : α) (segs more : List TCPSegment), segs ⊆ more → Holds adapter segs →
    Holds adapter more
  /-- A written segment can be read out of the packets that are sent for it. -/
  write_settles : ∀ (adapter : α) (segs : List TCPSegment) (seg : TCPSegment) (answer : υ),
    Holds adapter segs → seg.Modest →
    Settles Failure.Environmental (fun out => Holds out.2 (segs ++ [seg]) ∧
      ∀ packet ∈ out.1, Decodes α (segs ++ [seg]) packet) (FdAdapter.write adapter seg answer)
  /-- A read is counted, and sends at most what the adapter held back. -/
  read_settles : ∀ (adapter : α) (segs : List TCPSegment) (answer : ρ), Holds adapter segs →
    Settles Failure.Environmental (fun out => Holds out.2.2 segs ∧
      (∀ packet ∈ out.2.1, Decodes α segs packet) ∧
      (FdAdapter.fd out.2.2).readCount = (FdAdapter.fd adapter).readCount + 1)
      (FdAdapter.read adapter answer)
  /-- So does the passing of time. -/
  tick_settles : ∀ (adapter : α) (segs : List TCPSegment) (ms : Nat) (answer : υ),
    Holds adapter segs →
    Settles Failure.Environmental (fun out => Holds out.2 segs ∧
      ∀ packet ∈ out.1, Decodes α segs packet) (FdAdapter.tick adapter ms answer)
  /-- The configuration may be set at any time. -/
  holds_setConfig : ∀ (adapter : α) (segs : List TCPSegment) (cfg : FdAdapterConfig),
    Holds adapter segs → Holds (FdAdapter.setConfig adapter cfg) segs
  /-- And so may the listening flag. -/
  holds_setListening : ∀ (adapter : α) (segs : List TCPSegment) (listen : Bool),
    Holds adapter segs → Holds (FdAdapter.setListening adapter listen) segs

/-- A modest segment fits into a datagram. -/
theorem TCPSegment.Modest.fits {seg : TCPSegment} (modest : seg.Modest) :
    5 ≤ seg.header.doff.toNat ∧ seg.header.doff.toNat ≤ 15 ∧
      seg.payload.length + 20 + 4 * seg.header.doff.toNat ≤ 65535 := by
  have size : seg.payload.length ≤ 1000 := modest.size
  rw [modest.doff]
  exact ⟨by decide, by decide, by simp only [UInt8.reduceToNat]; omega⟩

/-! ### UDP -/

namespace TCPOverUDPSocketAdapter

/-- What is taken out of a datagram is what the parser finds in it. -/
theorem filter_spec (adapter : TCPOverUDPSocketAdapter) (source : Address) (payload : Bytes) :
    (adapter.filter source payload).2.sock = adapter.sock ∧
      ∀ seg, (adapter.filter source payload).1 = some seg →
        TCPSegment.parse {} payload 0 = (.noError, seg) := by
  unfold filter
  split
  · -- The datagram is not from the peer that the adapter is bound to.
    exact ⟨rfl, by simp⟩
  · dsimp only
    split
    · exact ⟨rfl, by simp⟩
    · -- The datagram holds a valid segment, which is taken or not.
      rename_i parsed
      have valid : TCPSegment.parse {} payload 0 = (.noError, (TCPSegment.parse {} payload 0).2) :=
        Prod.ext (not_not.mp parsed) rfl
      split
      · split
        · exact ⟨rfl, fun seg same => Option.some.inj same ▸ valid⟩
        · exact ⟨rfl, by simp⟩
      · exact ⟨rfl, fun seg same => Option.some.inj same ▸ valid⟩

/-- What an adapter reads is what the parser finds in the datagram that was received. -/
theorem read_settles (adapter : TCPOverUDPSocketAdapter) (answer : SysResult (Address × Bytes)) :
    Settles Failure.Environmental (fun out =>
      ∃ source payload, answer = .returned (source, payload) ∧ out.2.1 = [] ∧
        out.2.2.sock = adapter.sock.registerRead ∧
        ∀ seg, out.1 = some seg → TCPSegment.parse {} payload 0 = (.noError, seg))
      (adapter.read answer) := by
  unfold read recv
  cases answer with
  -- The call has failed.
  | failed errno => trivial
  | returned datagram =>
    obtain ⟨source, payload⟩ := datagram
    simp only [systemCall, ok_bind]
    split
    · -- An oversized datagram is an error of the call.
      exact (by decide : "recvfrom (oversized datagram)" ∈ kernelErrors)
    · -- The datagram goes through the filter.
      obtain ⟨sock, found⟩ := filter_spec { adapter with sock := adapter.sock.registerRead } source
        payload
      exact ⟨source, payload, rfl, rfl, sock, found⟩

/-- What goes out can be parsed, and gives the segment that was written. -/
theorem write_settles (adapter : TCPOverUDPSocketAdapter) {seg : TCPSegment} (modest : seg.Modest)
    (answer : SysResult Nat) :
    Settles Failure.Environmental (fun out =>
      ∃ packet, out.1 = [packet] ∧ ∀ got, TCPSegment.parse {} packet 0 = (.noError, got) →
        seg.Arrives got) (adapter.write seg answer) := by
  -- The ports are the adapter's own, and nothing else of the segment is changed.
  obtain ⟨room, nibble, size⟩ := modest.fits
  let ported : TCPSegment := { seg with header := { seg.header with
    sport := adapter.cfg.source.port, dport := adapter.cfg.destination.port } }
  have serialized := TCPSegment.serialize_eq (show 5 ≤ ported.header.doff.toNat from room) 0
  have parsed := @TCPSegment.parse_out ported 0 room nibble (by decide)
    (by change 4 * seg.header.doff.toNat + seg.payload.length ≤ 65535; omega) {}
  unfold write
  change Settles _ _ (ofPacket (ported.serialize 0) >>= _)
  rw [serialized]
  unfold ofPacket sendto
  simp only [ok_bind]
  cases answer with
  -- The call has failed.
  | failed errno => trivial
  | returned count =>
    simp only [systemCall, ok_bind]
    split
    · -- The kernel has taken less than the whole datagram.
      exact (by decide : "datagram payload too big for sendmsg()" ∈ kernelErrors)
    · -- The bytes are those of the serializer, so the parser finds the segment in them.
      refine ⟨_, rfl, ?_⟩
      intro got found
      rw [parsed, Prod.mk.injEq] at found
      rw [← found.2]
      rfl

end TCPOverUDPSocketAdapter

/-- An adapter over UDP holds nothing back. -/
instance : Transparent TCPOverUDPSocketAdapter (SysResult (Address × Bytes)) (SysResult Nat) where
  Holds _ _ := True
  holds_mono := by
    intro adapter segs more _ _
    trivial
  write_settles := by
    -- One packet is sent for the segment.
    intro adapter segs seg answer _ modest
    apply (TCPOverUDPSocketAdapter.write_settles adapter modest answer).mono
    intro out sent
    obtain ⟨packet, one, decoded⟩ := sent
    refine ⟨trivial, ?_⟩
    intro other member
    rw [one, List.mem_singleton] at member
    subst member
    intro reader arriving got sent next payload read
    -- Whoever reads the packet parses the same bytes.
    obtain ⟨source, bytes, answered, -, -, found⟩ :=
      (TCPOverUDPSocketAdapter.read_settles reader arriving).of_ok read
    subst answered
    cases Option.some.inj payload
    exact ⟨seg, by simp, decoded got (found got rfl)⟩
  read_settles := by
    -- A read sends nothing, and keeps nothing.
    intro adapter segs answer _
    apply (TCPOverUDPSocketAdapter.read_settles adapter answer).mono
    intro out read
    obtain ⟨source, payload, -, quiet, sock, -⟩ := read
    exact ⟨trivial, by simp [quiet], congrArg FileDescriptor.readCount sock⟩
  tick_settles := by
    -- Time does not matter to it.
    intro adapter segs ms answer _
    exact ⟨trivial, by simp⟩
  holds_setConfig := by
    intro adapter segs cfg _
    trivial
  holds_setListening := by
    intro adapter segs listen _
    trivial

/-! ### IPv4 -/

namespace TCPOverIPv4Adapter

/-- A datagram that was parsed is opened without an exception, and holds what the parser finds. -/
theorem unwrapTcpInIp_ofBuffer (adapter : TCPOverIPv4Adapter) (header : IPv4Header)
    (buffer : Bytes) :
    ∃ out, adapter.unwrapTcpInIp ⟨header, .ofBuffer buffer⟩ = .ok out ∧
      ∀ seg, out.1 = some seg → TCPSegment.parse {} buffer header.pseudoCksum = (.noError, seg) := by
  unfold unwrapTcpInIp
  split
  · -- The datagram is not for this adapter.
    exact ⟨_, rfl, by simp⟩
  · split
    · exact ⟨_, rfl, by simp⟩
    · split
      · exact ⟨_, rfl, by simp⟩
      · simp only [BufferList.toBuffer_ofBuffer, ok_bind]
        split
        · exact ⟨_, rfl, by simp⟩
        · -- The payload was parsed.
          rename_i parsed
          have valid : TCPSegment.parse {} buffer header.pseudoCksum =
              (.noError, (TCPSegment.parse {} buffer header.pseudoCksum).2) :=
            Prod.ext (not_not.mp parsed) rfl
          -- Four checks are left, of the ports and the flags.
          split
          · exact ⟨_, rfl, by simp⟩
          · split
            · exact ⟨_, rfl, by simp⟩
            · generalize (ite (adapter.listen = true) _ adapter) = bound
              split
              · exact ⟨_, rfl, by simp⟩
              · -- The segment is handed up as it was parsed.
                exact ⟨_, rfl, fun seg same => Option.some.inj same ▸ valid⟩

/-- A datagram carries one of some segments. -/
def Bears (segs : List TCPSegment) (dgram : IPv4Datagram) : Prop :=
  ∃ (sender : TCPOverIPv4Adapter) (seg : TCPSegment), seg ∈ segs ∧ seg.Modest ∧
    dgram = sender.carrier seg

/-- A datagram of some segments is a datagram of more segments. -/
theorem Bears.mono {segs more : List TCPSegment} {dgram : IPv4Datagram} (bears : Bears segs dgram)
    (subset : segs ⊆ more) : Bears more dgram := by
  obtain ⟨sender, seg, member, rest⟩ := bears
  exact ⟨sender, seg, subset member, rest⟩

/-- A datagram that carries a segment can be sent, and the segment is found in it again. -/
theorem Bears.serialize {segs : List TCPSegment} {dgram : IPv4Datagram}
    (bears : Bears segs dgram) :
    ∃ packet, dgram.serialize = .ok packet ∧ ∀ header buffer got,
      IPv4Datagram.parse {} packet.concatenate = (.noError, ⟨header, .ofBuffer buffer⟩) →
      TCPSegment.parse {} buffer header.pseudoCksum = (.noError, got) →
      ∃ seg ∈ segs, seg.Arrives got := by
  -- The datagram is the carrier of one of the segments.
  obtain ⟨sender, seg, member, modest, rfl⟩ := bears
  obtain ⟨room, nibble, size⟩ := modest.fits
  have faithful : (sender.carrier seg).Faithful := carrier_faithful room size
  refine ⟨_, faithful.serialize, ?_⟩
  intro header buffer got opened found
  -- Both parsers can only find what was put in.
  have same := (faithful.parse {}).symm.trans opened
  simp only [Prod.mk.injEq, IPv4Datagram.mk.injEq, BufferList.ofBuffer, BufferList.mk.injEq,
    List.cons.injEq, and_true, true_and] at same
  obtain ⟨rfl, rfl⟩ := same
  have parsed : TCPSegment.parse {} (sender.carrier seg).payload.concatenate
      (sender.received seg).header.pseudoCksum = (.noError, sender.arrival seg) :=
    parse_received room nibble size
  have same := parsed.symm.trans found
  rw [Prod.mk.injEq] at same
  refine ⟨seg, member, ?_⟩
  rw [← same.2]
  rfl

end TCPOverIPv4Adapter

/-- The payload of a parsed datagram is in one buffer. -/
theorem IPv4Datagram.parse_payload (old : IPv4Datagram) (data : Bytes) :
    ∃ header buffer, (old.parse data).2 = ⟨header, .ofBuffer buffer⟩ := by
  unfold IPv4Datagram.parse
  dsimp only
  -- Whatever the verdict, the payload is what the header has left of the buffer.
  split
  · exact ⟨_, _, rfl⟩
  · exact ⟨_, _, rfl⟩

namespace TCPOverIPv4OverTunFdAdapter

/-- What an adapter reads is what the parsers find in the datagram. -/
theorem read_settles (adapter : TCPOverIPv4OverTunFdAdapter) (answer : SysResult Bytes) :
    Settles Failure.Environmental (fun out =>
      out.2.1 = [] ∧ out.2.2.tun.readCount = adapter.tun.readCount + 1 ∧
        ∃ data, answer = .returned data ∧ ∀ seg, out.1 = some seg →
          ∃ header buffer, IPv4Datagram.parse {} data = (.noError, ⟨header, .ofBuffer buffer⟩) ∧
            TCPSegment.parse {} buffer header.pseudoCksum = (.noError, seg))
      (adapter.read answer) := by
  unfold read
  -- The device hands over one datagram with each read.
  apply (adapter.tun.read_settles sizeMax answer).bind
  intro out _ got
  obtain ⟨answered, -, counted⟩ := got
  have count : out.2.readCount = adapter.tun.readCount + 1 := by rw [counted]
  dsimp only
  split
  · -- The datagram is malformed, so there is no segment in it.
    exact ⟨rfl, count, out.1, answered, by simp⟩
  · -- The payload of the datagram is opened by the adapter below.
    rename_i parsed
    obtain ⟨header, buffer, shape⟩ := IPv4Datagram.parse_payload {} out.1
    have valid : IPv4Datagram.parse {} out.1 = (.noError, ⟨header, .ofBuffer buffer⟩) :=
      Prod.ext (not_not.mp parsed) shape
    obtain ⟨unwrapped, opened, found⟩ := adapter.base.unwrapTcpInIp_ofBuffer header buffer
    rw [valid]
    dsimp only
    rw [opened]
    exact ⟨rfl, count, out.1, answered, fun seg same => ⟨header, buffer, valid, found seg same⟩⟩

/-- What goes out is the carrier of the segment. -/
theorem write_settles (adapter : TCPOverIPv4OverTunFdAdapter) {seg : TCPSegment}
    (modest : seg.Modest) (answer : SysResult Unit) :
    Settles Failure.Environmental (fun out =>
      ∃ packet, (adapter.base.carrier seg).serialize = .ok packet ∧ out.1 = [packet.concatenate])
      (adapter.write seg answer) := by
  have bears : TCPOverIPv4Adapter.Bears [seg] (adapter.base.carrier seg) :=
    -- The carrier of a modest segment can be serialized.
    ⟨adapter.base, seg, by simp, modest, rfl⟩
  obtain ⟨packet, serialized, -⟩ := bears.serialize
  unfold write
  rw [TCPOverIPv4Adapter.wrapTcpInIp_ok modest.fits.1]
  simp only [ofPacket, ok_bind, serialized]
  apply (adapter.tun.writePacket_settles packet answer).bind
  intro out _ sent
  exact ⟨packet, rfl, by simp [sent.1]⟩

end TCPOverIPv4OverTunFdAdapter

/-- An adapter over a TUN device holds nothing back. -/
instance : Transparent TCPOverIPv4OverTunFdAdapter (SysResult Bytes) (SysResult Unit) where
  Holds _ _ := True
  holds_mono := by
    intro adapter segs more _ _
    trivial
  write_settles := by
    -- One packet is sent for the segment.
    intro adapter segs seg answer _ modest
    apply (TCPOverIPv4OverTunFdAdapter.write_settles adapter modest answer).mono
    intro out sent
    obtain ⟨packet, serialized, one⟩ := sent
    refine ⟨trivial, ?_⟩
    intro other member
    rw [one, List.mem_singleton] at member
    subst member
    intro reader arriving got sent next payload read
    obtain ⟨-, -, data, answered, found⟩ :=
      (TCPOverIPv4OverTunFdAdapter.read_settles reader arriving).of_ok read
    subst answered
    cases Option.some.inj payload
    -- The reader parses the carrier, which bears the segment.
    have bears : TCPOverIPv4Adapter.Bears (segs ++ [seg]) (adapter.base.carrier seg) :=
      ⟨adapter.base, seg, by simp, modest, rfl⟩
    obtain ⟨_, again, decoded⟩ := bears.serialize
    cases Except.ok.inj (serialized.symm.trans again)
    obtain ⟨header, buffer, opened, segment⟩ := found got rfl
    exact decoded header buffer got opened segment
  read_settles := by
    -- A read sends nothing, and keeps nothing.
    intro adapter segs answer _
    apply (TCPOverIPv4OverTunFdAdapter.read_settles adapter answer).mono
    intro out read
    obtain ⟨quiet, counted, -⟩ := read
    exact ⟨trivial, by simp [quiet], counted⟩
  tick_settles := by
    -- Time does not matter to it.
    intro adapter segs ms answer _
    exact ⟨trivial, by simp⟩
  holds_setConfig := by
    intro adapter segs cfg _
    trivial
  holds_setListening := by
    intro adapter segs listen _
    trivial

/-! ### Loss -/

/-- Losing packets leaves the packets of an adapter what they are. -/
theorem Decodes.lossy {α ρ υ : Type} [FdAdapter α ρ υ] {segs : List TCPSegment} {packet : Bytes}
    (decodes : Decodes α segs packet) : Decodes (LossyFdAdapter α) segs packet := by
  intro reader arriving got sent next payload read
  change LossyFdAdapter.read reader arriving = _ at read
  unfold LossyFdAdapter.read at read
  obtain ⟨⟨seg, packets, adapter⟩, inner, done⟩ := bind_eq_ok.mp read
  dsimp only at done
  split at done
  · -- A segment that is dropped is not returned.
    cases done
  · -- One that is not dropped comes from the underlying adapter.
    cases done
    exact decodes reader.adapter arriving.1 got _ _ payload inner

/-- An adapter that loses packets is as transparent as the one below. -/
instance {α ρ υ : Type} [FdAdapter α ρ υ] [Transparent α ρ υ] :
    Transparent (LossyFdAdapter α) (ρ × UInt16) (υ × UInt16) where
  Holds lossy segs := Transparent.Holds lossy.adapter segs
  holds_mono := by
    intro lossy segs more subset holds
    exact Transparent.holds_mono lossy.adapter segs more subset holds
  write_settles := by
    -- The segment is dropped, or written to the adapter below.
    intro lossy segs seg answer holds modest
    change Settles _ _ (LossyFdAdapter.write lossy seg answer)
    unfold LossyFdAdapter.write
    split
    · -- A segment that is dropped is not held back either.
      refine ⟨?_, by simp⟩
      exact Transparent.holds_mono lossy.adapter segs _ (List.subset_append_left _ _) holds
    · apply (Transparent.write_settles lossy.adapter segs seg answer.1 holds modest).bind
      intro out _ settled
      exact ⟨settled.1, fun packet member => (settled.2 packet member).lossy⟩
  read_settles := by
    -- The adapter below has read in either case.
    intro lossy segs answer holds
    change Settles _ _ (LossyFdAdapter.read lossy answer)
    unfold LossyFdAdapter.read
    apply (Transparent.read_settles lossy.adapter segs answer.1 holds).bind
    intro out _ settled
    obtain ⟨held, packets, counted⟩ := settled
    -- The packets are those of the underlying adapter, whether or not the segment is dropped.
    dsimp only
    split
    · exact ⟨held, fun packet member => (packets packet member).lossy, counted⟩
    · exact ⟨held, fun packet member => (packets packet member).lossy, counted⟩
  tick_settles := by
    -- Time passes for the adapter below only.
    intro lossy segs ms answer holds
    apply (Transparent.tick_settles lossy.adapter segs ms answer.1 holds).bind
    intro out _ settled
    exact ⟨settled.1, fun packet member => (settled.2 packet member).lossy⟩
  holds_setConfig := by
    intro lossy segs cfg holds
    exact Transparent.holds_setConfig lossy.adapter segs cfg holds
  holds_setListening := by
    intro lossy segs listen holds
    exact Transparent.holds_setListening lossy.adapter segs listen holds

end Sponge
