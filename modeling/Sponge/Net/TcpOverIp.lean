import Sponge.Wire.IPv4Laws
import Sponge.Wire.TcpLaws

/-! TCP segments inside IPv4 datagrams. -/

namespace Sponge

/-- A numeric IPv4 address with a port. -/
structure Address where
  /-- The address. -/
  ip : UInt32 := 0
  /-- The port. -/
  port : UInt16 := 0
deriving DecidableEq, Repr

/-- The endpoints that an adapter connects. -/
structure FdAdapterConfig where
  /-- Source address and port. -/
  source : Address := {}
  /-- Destination address and port. -/
  destination : Address := {}
  /-- Downlink loss rate, for a lossy adapter. -/
  lossRateDn : UInt16 := 0
  /-- Uplink loss rate, for a lossy adapter. -/
  lossRateUp : UInt16 := 0
deriving DecidableEq, Repr

/-- A converter between TCP segments and IPv4 datagrams. -/
structure TCPOverIPv4Adapter where
  /-- Configuration values. -/
  cfg : FdAdapterConfig := {}
  /-- Whether the TCP connection is in the listen state. -/
  listen : Bool := false
deriving DecidableEq, Repr

namespace TCPOverIPv4Adapter

/-- Takes a segment out of a datagram, if it belongs to the connection. -/
def unwrapTcpInIp (adapter : TCPOverIPv4Adapter) (ipDgram : IPv4Datagram) :
    Except Exception (Option TCPSegment × TCPOverIPv4Adapter) :=
  -- A listening adapter takes datagrams for any address, from any address.
  if !adapter.listen && ipDgram.header.dst != adapter.cfg.source.ip then .ok (none, adapter)
  else if !adapter.listen && ipDgram.header.src != adapter.cfg.destination.ip then
    .ok (none, adapter)
  else if ipDgram.header.proto ≠ IPv4Header.protoTcp then .ok (none, adapter)
  else do
    let buffer ← ipDgram.payload.toBuffer
    let (result, tcpSeg) := TCPSegment.parse {} buffer ipDgram.header.pseudoCksum
    if result ≠ .noError then return (none, adapter)
    if tcpSeg.header.dport ≠ adapter.cfg.source.port then return (none, adapter)
    if adapter.listen && !(tcpSeg.header.syn && !tcpSeg.header.rst) then return (none, adapter)
    -- The first SYN fixes both ends of the connection.
    let adapter : TCPOverIPv4Adapter := if adapter.listen then
        { cfg := { adapter.cfg with
            source := ⟨ipDgram.header.dst, adapter.cfg.source.port⟩
            destination := ⟨ipDgram.header.src, tcpSeg.header.sport⟩ }
          listen := false }
      else adapter
    if tcpSeg.header.sport ≠ adapter.cfg.destination.port then return (none, adapter)
    return (some tcpSeg, adapter)

/-- A segment with the port numbers of the connection. -/
def withPorts (adapter : TCPOverIPv4Adapter) (seg : TCPSegment) : TCPSegment :=
  { seg with header := { seg.header with
      sport := adapter.cfg.source.port, dport := adapter.cfg.destination.port } }

/-- The header of the datagram that carries a segment. -/
def ipHeader (adapter : TCPOverIPv4Adapter) (seg : TCPSegment) : IPv4Header :=
  let header : IPv4Header :=
    { src := adapter.cfg.source.ip, dst := adapter.cfg.destination.ip }
  let length := header.hlen.toNat * 4 + seg.header.doff.toNat * 4 + seg.payload.length
  { header with len := UInt16.ofNat length }

/-- Sets the ports of a segment and puts it into a datagram; the segment keeps its new ports. -/
def wrapTcpInIp (adapter : TCPOverIPv4Adapter) (seg : TCPSegment) :
    TCPSegment × Except Exception IPv4Datagram :=
  let seg := adapter.withPorts seg
  let header := adapter.ipHeader seg
  (seg, do return ⟨header, ← seg.serialize header.pseudoCksum⟩)

/-- The segment that arrives: the one sent, with the ports and the checksum filled in. -/
def Carried (adapter : TCPOverIPv4Adapter) (sent got : TCPSegment) : Prop :=
  got.header = { sent.header with
      sport := adapter.cfg.source.port, dport := adapter.cfg.destination.port
      cksum := got.header.cksum }
    ∧ got.payload = sent.payload

/-- The sum over a pseudo-header is small. -/
theorem pseudoCksum_lt (header : IPv4Header) : header.pseudoCksum.toNat < 2 ^ 20 := by
  -- Each address adds at most two words, the protocol a byte and the length a word.
  have src := OnesComplement.carry_le header.src.toNat_lt
  have dst := OnesComplement.carry_le header.dst.toNat_lt
  have proto := header.proto.toNat_lt
  have length := header.payloadLength.toNat_lt
  rw [IPv4Header.pseudoCksum, UInt32.toNat_add, UInt32.toNat_add, UInt32.toNat_add,
    InternetChecksum.halves_toNat, InternetChecksum.halves_toNat, UInt8.toNat_toUInt32,
    UInt16.toNat_toUInt32]
  omega

section Transparent

variable {sender : TCPOverIPv4Adapter} {seg : TCPSegment}

/-- The datagram that carries a segment. -/
def carrier (sender : TCPOverIPv4Adapter) (seg : TCPSegment) : IPv4Datagram :=
  ⟨sender.ipHeader seg, (BufferList.ofBuffer ((sender.withPorts seg).headerOut
    (sender.ipHeader seg).pseudoCksum)).append (.ofBuffer seg.payload)⟩

/-- The segment that the receiving side reads. -/
def arrival (sender : TCPOverIPv4Adapter) (seg : TCPSegment) : TCPSegment :=
  ⟨(sender.withPorts seg).withCksum (sender.ipHeader seg).pseudoCksum, seg.payload⟩

/-- What arrives is the segment with the ports of the sending side. -/
theorem carried_arrival (sender : TCPOverIPv4Adapter) (seg : TCPSegment) :
    sender.Carried seg (sender.arrival seg) :=
  ⟨rfl, rfl⟩

variable (room : 5 ≤ seg.header.doff.toNat) (nibble : seg.header.doff.toNat ≤ 15)
  (packet : seg.payload.length + 20 + 4 * seg.header.doff.toNat ≤ 65535)

include room in
/-- A segment with room for its header is wrapped. -/
theorem wrapTcpInIp_ok : (sender.wrapTcpInIp seg).2 = .ok (sender.carrier seg) := by
  have serialized := TCPSegment.serialize_eq
    (show 5 ≤ (sender.withPorts seg).header.doff.toNat from room)
    (sender.ipHeader seg).pseudoCksum
  -- Serializing the segment is the only thing that can fail.
  change ((sender.withPorts seg).serialize (sender.ipHeader seg).pseudoCksum >>= fun payload =>
    pure (IPv4Datagram.mk (sender.ipHeader seg) payload)) = _
  rw [serialized]
  rfl

include packet in
/-- The total length of the carrier fits its field. -/
theorem ipHeader_len :
    (sender.ipHeader seg).len.toNat = 20 + 4 * seg.header.doff.toNat + seg.payload.length := by
  change (UInt16.ofNat (5 * 4 + seg.header.doff.toNat * 4 + seg.payload.length)).toNat = _
  rw [UInt16.toNat_ofNat', Nat.mod_eq_of_lt (by omega)]
  omega

include room packet in
/-- The carrier can be serialized and read back. -/
theorem carrier_faithful : (sender.carrier seg).Faithful where
  version := rfl
  room := show 5 ≤ (5 : UInt8).toNat by decide
  nibble := show (5 : UInt8).toNat ≤ 15 by decide
  fragment := show (0 : UInt16).toNat < 2 ^ 13 by decide
  size := by
    -- The total length counts both headers and the payload.
    have total : (sender.carrier seg).header.len.toNat
        = 20 + 4 * seg.header.doff.toNat + seg.payload.length := ipHeader_len packet
    have size : (sender.carrier seg).payload.size
        = 4 * seg.header.doff.toNat + seg.payload.length :=
      TCPSegment.size_out (show 5 ≤ (sender.withPorts seg).header.doff.toNat from room) _
    rw [size, total, show (sender.carrier seg).header.hlen.toNat = 5 from rfl]
    omega

/-- The datagram that the receiving side parses. -/
def received (sender : TCPOverIPv4Adapter) (seg : TCPSegment) : IPv4Datagram :=
  ⟨IPv4Datagram.withCksum (sender.ipHeader seg),
    .ofBuffer (sender.carrier seg).payload.concatenate⟩

include room nibble packet in
/-- The payload of the carrier parses to the segment, under the receiver's own sum. -/
theorem parse_received :
    TCPSegment.parse {} (sender.carrier seg).payload.concatenate
        (sender.received seg).header.pseudoCksum
      = (.noError, sender.arrival seg) :=
  -- The sum is taken over fields that the checksum of the datagram does not touch.
  TCPSegment.parse_out (show 5 ≤ (sender.withPorts seg).header.doff.toNat from room) nibble
    (pseudoCksum_lt (sender.ipHeader seg))
    (show 4 * seg.header.doff.toNat + seg.payload.length ≤ 65535 by omega) {}

section Receiving

variable {receiver : TCPOverIPv4Adapter}

/-- What becomes of a segment for the right port, once it is taken out of its carrier. -/
def screen (receiver : TCPOverIPv4Adapter) (ipDgram : IPv4Datagram) (tcpSeg : TCPSegment) :
    Option TCPSegment × TCPOverIPv4Adapter :=
  if receiver.listen then
    if tcpSeg.header.syn && !tcpSeg.header.rst then
      (some tcpSeg, { cfg := { receiver.cfg with
          source := ⟨ipDgram.header.dst, receiver.cfg.source.port⟩
          destination := ⟨ipDgram.header.src, tcpSeg.header.sport⟩ }, listen := false })
    else (none, receiver)
  else if tcpSeg.header.sport = receiver.cfg.destination.port then (some tcpSeg, receiver)
  else (none, receiver)

include room nibble packet in
/-- A carrier that passes the filter on addresses is opened, and its segment admitted or not. -/
theorem unwrapTcpInIp_received
    (ours : receiver.listen = true ∨ sender.cfg.destination.ip = receiver.cfg.source.ip
      ∧ sender.cfg.source.ip = receiver.cfg.destination.ip)
    (port : sender.cfg.destination.port = receiver.cfg.source.port) :
    receiver.unwrapTcpInIp (sender.received seg)
      = .ok (receiver.screen (sender.received seg) (sender.arrival seg)) := by
  have dst : (sender.received seg).header.dst = sender.cfg.destination.ip := rfl
  have src : (sender.received seg).header.src = sender.cfg.source.ip := rfl
  have proto : (sender.received seg).header.proto = IPv4Header.protoTcp := rfl
  have dport : (sender.arrival seg).header.dport = receiver.cfg.source.port := port
  -- The pseudo-header survives the journey, so the checksum is valid.
  have parsed : TCPSegment.parse {} (sender.carrier seg).payload.concatenate
      (sender.received seg).header.pseudoCksum = (.noError, sender.arrival seg) :=
    parse_received room nibble packet
  have buffer : (sender.received seg).payload.toBuffer
      = .ok (sender.carrier seg).payload.concatenate := BufferList.toBuffer_ofBuffer _
  -- A listening adapter does not look at the addresses.
  rcases ours with listening | ⟨toUs, fromPeer⟩
  · rw [unwrapTcpInIp, if_neg (by simp [listening]), if_neg (by simp [listening]),
      if_neg (not_not.mpr proto)]
    simp only [buffer, ok_bind, parsed, dport, listening, screen]
    cases (sender.arrival seg).header.syn <;> cases (sender.arrival seg).header.rst <;> simp
  · rw [unwrapTcpInIp, if_neg (by simp [dst, toUs]), if_neg (by simp [src, fromPeer]),
      if_neg (not_not.mpr proto)]
    simp only [buffer, ok_bind, parsed, dport, screen]
    cases receiver.listen with
    | true =>
      -- The addresses match as well, which a listener does not ask for.
      cases (sender.arrival seg).header.syn <;> cases (sender.arrival seg).header.rst <;> simp
    | false =>
      -- A connected adapter also asks for the port of the peer.
      by_cases sport : (sender.arrival seg).header.sport = receiver.cfg.destination.port
      · simp [sport]
      · simp [sport]

end Receiving

/-- Encapsulation is transparent: what one adapter wraps, the mirrored one unwraps. -/
theorem wrap_serialize_parse_unwrap (sender : TCPOverIPv4Adapter) (seg : TCPSegment)
    (room : 5 ≤ seg.header.doff.toNat) (nibble : seg.header.doff.toNat ≤ 15)
    (packet : (seg.payload.length : Int) ≤ 65535 - 20 - 4 * seg.header.doff.toNat)
    (old : IPv4Datagram) :
    ∃ dgram out parsed, (sender.wrapTcpInIp seg).2 = .ok dgram
      ∧ dgram.serialize = .ok out ∧ old.parse out.concatenate = (.noError, parsed)
      -- A connected receiver with the mirrored configuration takes the segment.
      ∧ (∀ receiver : TCPOverIPv4Adapter, receiver.listen = false →
        sender.cfg.source = receiver.cfg.destination →
        sender.cfg.destination = receiver.cfg.source →
        ∃ got, receiver.unwrapTcpInIp parsed = .ok (some got, receiver) ∧ sender.Carried seg got)
      -- A receiver listening on the port takes it exactly if it opens a connection.
      ∧ (∀ receiver : TCPOverIPv4Adapter, receiver.listen = true →
        sender.cfg.destination.port = receiver.cfg.source.port →
        if seg.header.syn ∧ ¬ seg.header.rst then
          ∃ got, receiver.unwrapTcpInIp parsed
              = .ok (some got, { cfg := { receiver.cfg with
                  source := sender.cfg.destination
                  destination := sender.cfg.source }, listen := false })
            ∧ sender.Carried seg got
        else receiver.unwrapTcpInIp parsed = .ok (none, receiver)) := by
  have size : seg.payload.length + 20 + 4 * seg.header.doff.toNat ≤ 65535 := by omega
  -- The carrier survives serializing and parsing as it is.
  have faithful : (sender.carrier seg).Faithful := carrier_faithful room size
  refine ⟨_, _, sender.received seg, wrapTcpInIp_ok room, faithful.serialize,
    faithful.parse old, ?_, ?_⟩
  · -- Both endpoints match, so the ports do too.
    intro receiver connected fromPeer toUs
    have unwrapped : receiver.unwrapTcpInIp (sender.received seg) = _ :=
      unwrapTcpInIp_received room nibble size
        (Or.inr ⟨congrArg Address.ip toUs, congrArg Address.ip fromPeer⟩)
        (congrArg Address.port toUs)
    refine ⟨sender.arrival seg, ?_, carried_arrival sender seg⟩
    have sport : (sender.arrival seg).header.sport = receiver.cfg.destination.port :=
      congrArg Address.port fromPeer
    rw [unwrapped, screen, if_neg (by simp [connected]), if_pos sport]
  · -- The port is enough to get as far as the flags.
    intro receiver listening port
    have unwrapped : receiver.unwrapTcpInIp (sender.received seg) = _ :=
      unwrapTcpInIp_received room nibble size (Or.inl listening) port
    rw [screen, if_pos listening] at unwrapped
    have syn : (sender.arrival seg).header.syn = seg.header.syn := rfl
    have rst : (sender.arrival seg).header.rst = seg.header.rst := rfl
    split
    · -- The segment opens the connection, and the adapter takes over its addresses.
      rename_i opens
      rw [if_pos (by simpa [syn, rst] using opens)] at unwrapped
      rw [← port] at unwrapped
      exact ⟨sender.arrival seg, unwrapped, carried_arrival sender seg⟩
    · -- Any other segment is dropped, and the adapter goes on listening.
      rename_i other
      rw [if_neg (by simpa [syn, rst] using other)] at unwrapped
      exact unwrapped

/-- A SYN with options and two bytes is carried from a client to a listening server. -/
theorem wrap_serialize_parse_unwrap_syn :
    let seg : TCPSegment := ⟨{ seqno := ⟨9⟩, doff := 6, syn := true }, [1, 2]⟩
    let client : TCPOverIPv4Adapter :=
      { cfg := { source := ⟨0x0a000001, 4000⟩, destination := ⟨0x0a000002, 80⟩ } }
    ∃ dgram out parsed, (client.wrapTcpInIp seg).2 = .ok dgram
      ∧ dgram.serialize = .ok out ∧ IPv4Datagram.parse {} out.concatenate = (.noError, parsed)
      ∧ ∃ got, (TCPOverIPv4Adapter.mk { source := ⟨0, 80⟩ } true).unwrapTcpInIp parsed
          = .ok (some got,
            { cfg := { source := ⟨0x0a000002, 80⟩, destination := ⟨0x0a000001, 4000⟩ } })
        ∧ client.Carried seg got := by
  intro seg client
  obtain ⟨dgram, out, parsed, wrapped, serialized, read, -, listening⟩ :=
    wrap_serialize_parse_unwrap client seg (by decide) (by decide) (by decide) {}
  -- The server listens on any address.
  have taken := listening ⟨{ source := ⟨0, 80⟩ }, true⟩ rfl rfl
  rw [if_pos (by decide)] at taken
  exact ⟨dgram, out, parsed, wrapped, serialized, read, taken⟩

end Transparent

end TCPOverIPv4Adapter

end Sponge
