import Sponge.Stream.ReassemblerGrowth
import Sponge.Tcp.ConnectionReceiver

/-! What no call on a connection ever takes back: an error, the end of a stream, the end of life. -/

namespace Sponge

namespace ByteStream

/-- The flags of a stream do not turn from one state to another, except for an end. -/
structure Grows (s s' : ByteStream) : Prop where
  /-- The error flag stays. -/
  error : s'.error = s.error
  /-- An end stays an end. -/
  ended : s.ended = true → s'.ended = true

namespace Grows

variable {s s' s'' : ByteStream}

/-- A stream that stays as it is. -/
theorem refl (s : ByteStream) : Grows s s := ⟨rfl, id⟩

/-- One change after another. -/
theorem trans (first : Grows s s') (second : Grows s' s'') : Grows s s'' :=
  ⟨second.error.trans first.error, fun ended => second.ended (first.ended ended)⟩

/-- A write leaves the flags. -/
theorem write (s : ByteStream) (data : Bytes) : Grows s (s.write data).1 := by
  -- Whatever fits is appended, and the flags are not looked at.
  unfold ByteStream.write
  split
  · exact ⟨rfl, id⟩
  · exact ⟨rfl, id⟩

/-- A pop leaves the flags. -/
theorem popOutput {len : Nat} (popped : s.popOutput len = .ok s') : Grows s s' := by
  obtain ⟨-, rfl⟩ := popOutput_ok popped
  exact ⟨rfl, id⟩

/-- A read leaves the flags. -/
theorem read {len : Nat} {data : Bytes} (done : s.read len = .ok (data, s')) : Grows s s' := by
  unfold ByteStream.read at done
  -- A read is a peek and a pop, and only the pop changes the stream.
  obtain ⟨popped, pops, done⟩ := bind_eq_ok.mp done
  cases Except.ok.inj done
  exact popOutput pops

/-- A call of the reader leaves the flags. -/
theorem serve {call : ReaderCall} {bytes : Bytes} (served : s.serve call = .ok (bytes, s')) :
    Grows s s' := by
  rcases serve_ok served with ⟨len, -, same⟩ | same
  · -- Reading takes bytes out.
    cases same
    exact ⟨rfl, id⟩
  · -- Looking changes nothing.
    cases same
    exact refl s

end Grows

end ByteStream

namespace StreamReassembler

open ByteStream (Grows)

/-- A flush writes to the output. -/
theorem flushEntries_flags (entries : List (Nat × Bytes)) :
    ∀ (output : ByteStream) (unassembled : Nat),
      Grows output (flushEntries output unassembled entries).1 := by
  -- Each turn of the flush loop writes one entry.
  induction entries with
  | nil =>
    intro output unassembled
    exact .refl output
  | cons entry rest ih =>
    intro output unassembled
    rw [flushEntries_cons]
    split
    · exact (Grows.write output entry.2).trans (ih _ _)
    · exact .refl output

/-- A push writes to the output, and may end it. -/
theorem pushSubstring_flags {r r' : StreamReassembler} {data : Bytes} {index : Nat} {eof : Bool}
    (pushed : r.pushSubstring data index eof = .ok r') : Grows r.output r'.output := by
  obtain ⟨output, same, grown⟩ := pushSubstring_output pushed
  have written : Grows r.output output := by
    -- Up to its end the push writes what it flushes, or nothing at all.
    rcases grown with rfl | ⟨unassembled, entries, rfl⟩
    · exact .refl r.output
    · exact flushEntries_flags entries r.output unassembled
  rcases same with same | same
  · -- The end of the stream is not reached.
    rw [same]
    exact written
  · -- The end is reached, and the stream is told so.
    rw [same]
    exact ⟨written.error, fun _ => rfl⟩

end StreamReassembler

namespace TCPReceiver

variable {r r' : TCPReceiver} {seg : TCPSegment}

/-- A segment writes to the inbound stream, and may begin or end it. -/
theorem segmentReceived_flags (received : r.segmentReceived seg = .ok r') :
    ByteStream.Grows r.streamOut r'.streamOut ∧ (r.syned = true → r'.syned = true) := by
  obtain ⟨-, syned, content⟩ := segmentReceived_ok received
  constructor
  · -- The payload is pushed, or the segment was not accepted.
    rcases content with same | ⟨idx, pushed⟩
    · unfold streamOut
      rw [same]
      exact .refl _
    · exact StreamReassembler.pushSubstring_flags pushed
  · -- A SYN that was seen stays seen.
    intro before
    rw [syned]
    unfold noteSyn
    split
    · rfl
    · exact before

end TCPReceiver

namespace TCPSender

open ByteStream (Grows)

variable {s s' : TCPSender}

/-- A probe reads from the outbound stream. -/
theorem sendOneByteSegment_flags {f : Bool} (sent : s.sendOneByteSegment f = .ok s') :
    Grows s.stream s'.stream := by
  unfold sendOneByteSegment at sent
  cases f with
  | true =>
    -- A FIN is probed with, which takes no byte.
    simp only [if_true, ok_bind, pure_eq_ok, Except.ok.injEq] at sent
    rw [← sent]
    exact .refl _
  | false =>
    -- One byte is probed with.
    obtain ⟨⟨payload, stream⟩, read, done⟩ := bind_eq_ok.mp sent
    cases Except.ok.inj done
    exact Grows.read read

/-- The loop that fills the window reads from the outbound stream. -/
theorem fillLoop_flags :
    ∀ (turns : Nat) {s s' : TCPSender}, s.fillLoop turns = .ok s' → Grows s.stream s'.stream := by
  intro turns
  -- Every turn of the loop reads the payload of one segment.
  induction turns with
  | zero =>
    intro s s' filled
    cases filled
  | succ turns ih =>
    intro s s' filled
    unfold fillLoop at filled
    split at filled
    · -- The window is full, or there is nothing to send.
      rw [Except.ok.injEq] at filled
      rw [← filled]
      exact .refl _
    · obtain ⟨mid, turned, rest⟩ := bind_eq_ok.mp filled
      unfold sendSegment at turned
      obtain ⟨⟨data, stream⟩, read, done⟩ := bind_eq_ok.mp turned
      cases Except.ok.inj done
      exact (Grows.read read).trans (ih rest)

/-- Filling the window reads from the outbound stream. -/
theorem fillWindow_flags (filled : s.fillWindow = .ok s') : Grows s.stream s'.stream := by
  unfold fillWindow at filled
  split at filled
  · -- Both probes are single segments.
    exact sendOneByteSegment_flags (s := { s with probing := true }) filled
  · split at filled
    · exact sendOneByteSegment_flags (s := { s with probing := true }) filled
    · exact fillLoop_flags _ filled

/-- An acknowledgment leaves the outbound stream. -/
theorem ackReceived_stream {ackno : WrappingInt32} {windowSize : UInt16}
    (received : s.ackReceived ackno windowSize = .ok s') : s'.stream = s.stream := by
  -- Only the outstanding segments, the window and the timer depend on it.
  obtain ⟨ackabs, -, cases⟩ := ackReceived_cases received
  rcases cases with ⟨-, rfl⟩ | ⟨-, kept, inFlights, -, rfl⟩
  · rfl
  · rfl

end TCPSender

namespace TCPConnection

open ByteStream (Grows)

/-- What a call cannot take back. -/
structure Ages (c c' : TCPConnection) : Prop where
  /-- The streams get an error together, with the end of life, or neither does. -/
  error : (c'.sender.stream.error = true ∧ c'.inboundStream.error = true ∧ c'.active = false) ∨
    (c'.sender.stream.error = c.sender.stream.error ∧
      c'.inboundStream.error = c.inboundStream.error)
  /-- The end of the outbound stream stays. -/
  closed : c.sender.stream.ended = true → c'.sender.stream.ended = true
  /-- The SYN of the peer stays received. -/
  syned : c.receiver.syned = true → c'.receiver.syned = true
  /-- The end of the inbound stream stays. -/
  ended : c.inboundStream.inputEnded = true → c'.inboundStream.inputEnded = true
  /-- A connection that is not active stays so. -/
  active : c'.active = true → c.active = true
  /-- One that does not linger stays so. -/
  linger : c'.lingerAfterStreamsFinish = true → c.lingerAfterStreamsFinish = true

namespace Ages

variable {c c' c'' : TCPConnection}

/-- Changes of the sender and the receiver that leave the flags. -/
theorem of_grows {sender : TCPSender} {receiver : TCPReceiver} {out : List TCPSegment}
    (outbound : Grows c.sender.stream sender.stream)
    (inbound : Grows c.inboundStream receiver.streamOut)
    (syned : c.receiver.syned = true → receiver.syned = true) :
    Ages c { c with sender := sender, receiver := receiver, segmentsOut := out } :=
  ⟨.inr ⟨outbound.error, inbound.error⟩, outbound.ended, syned, inbound.ended, id, id⟩

/-- Connecting only reads from the outbound stream. -/
theorem connect (connected : c.connect = .ok c') : Ages c c' := by
  obtain ⟨s, filled, rfl⟩ := connect_ok.mp connected
  have outbound : Grows c.sender.stream s.stream := TCPSender.fillWindow_flags filled
  exact of_grows outbound (.refl _) id

/-- One change after another. -/
theorem trans (first : Ages c c') (second : Ages c' c'') : Ages c c'' := by
  refine ⟨?_, fun is => second.closed (first.closed is), fun is => second.syned (first.syned is),
    fun is => second.ended (first.ended is), fun is => first.active (second.active is),
    fun is => first.linger (second.linger is)⟩
  -- An error of either part is one of the whole.
  rcases second.error with both | ⟨out, inn⟩
  · exact .inl both
  · -- The connection had died of it before, and dead it stays.
    rcases first.error with ⟨out', inn', dead⟩ | ⟨out', inn'⟩
    · refine .inl ⟨out.trans out', inn.trans inn', ?_⟩
      cases alive : c''.active with
      | false => rfl
      | true => exact (second.active alive).symm.trans dead
    · -- Neither part sets an error.
      exact .inr ⟨out.trans out', inn.trans inn'⟩

/-- Handling a segment writes to one stream and reads from the other. -/
theorem handle {seg : TCPSegment} (handled : c.handle seg = .ok c') : Ages c c' := by
  obtain ⟨r, acked, opened, parts⟩ := handle_ok.mp handled
  obtain ⟨queue, rfl⟩ := parts.frame
  obtain ⟨inbound, syned⟩ := TCPReceiver.segmentReceived_flags parts.received
  -- The acknowledgment and the answer to a SYN may both let the sender send.
  have heard : Grows c.sender.stream acked.stream := by
    have step := parts.heard
    split at step
    · obtain ⟨s, acks, fills⟩ := step
      have same := TCPSender.ackReceived_stream acks
      have filled := TCPSender.fillWindow_flags fills
      rw [same] at filled
      exact filled
    · rw [step]
      exact .refl _
  have opens : Grows acked.stream opened.stream := by
    have step := parts.opens
    split at step
    · exact TCPSender.fillWindow_flags step
    · rw [step]
      exact .refl _
  exact of_grows (heard.trans opens) inbound syned

/-- A received segment takes nothing back. -/
theorem segmentReceived {seg : TCPSegment} (received : c.segmentReceived seg = .ok c') :
    Ages c c' := by
  rcases segmentReceived_ok.mp received with ⟨-, -, rfl⟩ | ⟨-, -, rfl⟩ | ⟨-, -, handled⟩
  · -- An acknowledgment before anything was sent is ignored.
    exact ⟨.inr ⟨rfl, rfl⟩, id, id, id, id, id⟩
  · -- A reset ends the life of the connection.
    exact ⟨.inl ⟨rfl, rfl, rfl⟩, id, id, id, nofun, nofun⟩
  · -- The FIN of a peer that finished first may stop the lingering, before the segment is handled.
    have noted : Ages c (c.noted seg) := by
      refine ⟨.inr ⟨rfl, rfl⟩, id, id, id, id, ?_⟩
      intro lingers
      change (c.lingerAfterStreamsFinish && !(seg.header.fin && c.unfinished)) = true at lingers
      rw [Bool.and_eq_true] at lingers
      exact lingers.1
    exact noted.trans (handle handled)

/-- The passing of time takes nothing back. -/
theorem tick (c : TCPConnection) (ms : Nat) : Ages c (c.tick ms) := by
  obtain ⟨again, timePassed, rto, recount, ticked, -⟩ := c.sender.tick_eq ms
  have stream : (c.ticked ms).sender.stream = c.sender.stream := by
    -- A tick retransmits, and does not touch the stream.
    change (c.sender.tick ms).stream = _
    rw [ticked]
  unfold TCPConnection.tick
  dsimp only
  split
  · -- In TIME_WAIT the connection may come to its end.
    unfold tickTimeWait
    dsimp only
    split
    · exact ⟨.inr ⟨congrArg _ stream, rfl⟩, fun is => by rw [stream]; exact is, id, id,
        nofun, nofun⟩
    · exact ⟨.inr ⟨congrArg _ stream, rfl⟩, fun is => by rw [stream]; exact is, id, id, id, id⟩
  · split
    · -- Giving up sets the error on both streams.
      refine ⟨.inl ⟨rfl, rfl, rfl⟩, ?_, id, id, ?_, ?_⟩
      · intro is
        change (c.ticked ms).sender.stream.ended = true
        rw [stream]
        exact is
      · nofun
      · nofun
    · -- Outside of it the connection may have finished without lingering.
      refine ⟨.inr ⟨congrArg _ stream, rfl⟩, fun is => ?_, id, id, ?_, id⟩
      · change (c.ticked ms).sender.stream.ended = true
        rw [stream]
        exact is
      · intro is
        change (c.active && _) = true at is
        rw [Bool.and_eq_true] at is
        exact is.1

/-- No call takes anything back. -/
theorem perform (call : ConnectionCall) (performed : c.perform call = .ok c') : Ages c c' := by
  cases call with
  | connect => exact connect performed
  | write data =>
    have written := perform_write.mp performed
    -- What was written is in the stream when the window is filled.
    exact trans (of_grows (c := c) (Grows.write c.sender.stream data) (.refl _) id)
      (connect written)
  | endInputStream =>
    rw [TCPConnection.perform, endInputStream_eq] at performed
    -- So is the end of the stream.
    have ended : Grows c.sender.stream c.sender.stream.endInput := ⟨rfl, fun _ => rfl⟩
    have grown : Ages c { c with sender := { c.sender with
        stream := c.sender.stream.endInput } } := of_grows ended (.refl _) id
    exact trans grown (connect performed)
  | tick ms =>
    rw [TCPConnection.perform, Except.ok.injEq] at performed
    exact performed ▸ tick c ms
  | segment seg => exact segmentReceived performed
  | reader call =>
    obtain ⟨⟨bytes, output⟩, served, rfl⟩ := perform_reader.mp performed
    exact of_grows (.refl _) (Grows.serve served) id

end Ages

/-- A call that ends the life of a connection is a tick, or sets the error of its streams. -/
theorem perform_closes {c c' : TCPConnection} {call : ConnectionCall}
    (performed : c.perform call = .ok c') (alive : c.active = true) (dead : c'.active = false) :
    c'.inboundStream.error = true ∨ ∃ ms, call = .tick ms := by
  -- Connecting, which every call of the application ends with, leaves the flag.
  have connected : ∀ {d : TCPConnection}, d.connect = .ok c' → d.active = true → False := by
    intro d connects active
    obtain ⟨s, -, rfl⟩ := connect_ok.mp connects
    cases dead.symm.trans active
  cases call with
  | connect => exact (connected performed alive).elim
  | write data => exact (connected (perform_write.mp performed) alive).elim
  | endInputStream =>
    rw [TCPConnection.perform, endInputStream_eq] at performed
    exact (connected performed alive).elim
  | tick ms => exact .inr ⟨ms, rfl⟩
  | segment seg =>
    rcases segmentReceived_ok.mp performed with ⟨-, -, rfl⟩ | ⟨-, -, rfl⟩ | ⟨-, -, handled⟩
    · -- An ignored segment leaves the connection alive.
      cases dead.symm.trans alive
    · -- A reset sets the error.
      exact .inl rfl
    · -- A segment that is handled leaves the flag.
      have same := (handle_flags handled).1
      cases same.symm.trans dead |>.symm.trans alive
  | reader call =>
    obtain ⟨served, -, rfl⟩ := perform_reader.mp performed
    cases dead.symm.trans alive

end TCPConnection

end Sponge
