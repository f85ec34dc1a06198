import Sponge.Lib.Pipe
import Sponge.Stream.ReassemblerGrowth
import Sponge.Tcp.EndToEnd
import Sponge.Tcp.ReceiverIsn

/-! Two endpoints and their network are, in either direction, one reliable stream. -/

namespace Sponge

namespace TCPConnection

variable {c c' : TCPConnection} {seg : TCPSegment}

/-- A segment is received, or leaves the inbound stream but for its error flag. -/
theorem segmentReceived_inbound (received : c.segmentReceived seg = .ok c') :
    c.receiver.segmentReceived seg = .ok c'.receiver ∨
      (c'.inboundStream.buffer = c.inboundStream.buffer ∧
        c'.inboundStream.ended = c.inboundStream.ended) := by
  rw [segmentReceived] at received
  -- Ignored, a reset, or handled.
  split at received
  · rw [Except.ok.injEq] at received
    exact .inr (by rw [← received]; exact ⟨rfl, rfl⟩)
  · split at received
    · rw [Except.ok.injEq] at received
      exact .inr (by rw [← received]; exact ⟨rfl, rfl⟩)
    · have got := handle_receiver received
      exact .inl got

/-- A tick leaves the inbound stream but for its error flag. -/
theorem tick_inbound (c : TCPConnection) (ms : Nat) :
    (c.tick ms).inboundStream.buffer = c.inboundStream.buffer ∧
      (c.tick ms).inboundStream.ended = c.inboundStream.ended := by
  rw [tick]
  split
  · -- In TIME_WAIT no stream is touched.
    rw [tickTimeWait]
    split <;> exact ⟨rfl, rfl⟩
  · -- Otherwise the stream can get an error, which neither fact is about.
    split <;> exact ⟨rfl, rfl⟩

end TCPConnection

/-- Handing a segment to the network changes neither the streams nor what the application did. -/
theorem Endpoint.transmitted_kept (x : Endpoint) :
    x.transmitted.accepted = x.accepted ∧ x.transmitted.closed = x.closed ∧
      x.transmitted.popped = x.popped ∧
      x.transmitted.connection.receiver = x.connection.receiver := by
  rw [Endpoint.transmitted]
  split <;> exact ⟨rfl, rfl, rfl, rfl⟩

namespace Coupled

variable {x x' y : Endpoint} {sent received sent' received' : List TCPSegment}

/-- A received segment takes nothing back from the inbound stream. -/
theorem segment_inbound (coupled : Coupled x y sent received)
    (after : Coupled x' y sent' received') (popped : x'.popped = x.popped) {seg : TCPSegment}
    (got : x.connection.receiver.segmentReceived seg = .ok x'.connection.receiver) :
    x.delivered.length ≤ x'.delivered.length ∧
      (x.connection.inboundStream.ended = true → x'.connection.inboundStream.ended = true) := by
  have counts := coupled.inbound.flow.data.sound.counts
  have small := after.inbound.flow.data.sound.small
  simp only [StreamReassembler.assembled, List.length_append] at small
  simp only [Endpoint.delivered, popped, List.length_append]
  -- The payload is pushed at most once, and a push only adds to the output.
  rcases (TCPReceiver.segmentReceived_ok got).2.2 with same | ⟨idx, pushed⟩
  · simp only [TCPConnection.inboundStream, TCPReceiver.streamOut, same]
    exact ⟨Nat.le_refl _, id⟩
  · have more := StreamReassembler.pushSubstring_buffer_le pushed
    have grown := StreamReassembler.pushSubstring_grows counts pushed (by omega)
    exact ⟨Nat.add_le_add_left more _, grown.2⟩

/-- No call on an endpoint takes anything back from its inbound stream. -/
theorem step_inbound (coupled : Coupled x y sent received)
    (after : Coupled x' y sent' received') {call : EndpointCall}
    (stepped : x.step y.sent call = .ok x') :
    x.delivered.length ≤ x'.delivered.length ∧
      (x.connection.inboundStream.ended = true → x'.connection.inboundStream.ended = true) := by
  -- Most calls leave the receiver and the reader alone.
  have unchanged : x'.popped = x.popped → x'.connection.receiver = x.connection.receiver →
      x.delivered.length ≤ x'.delivered.length ∧
      (x.connection.inboundStream.ended = true → x'.connection.inboundStream.ended = true) := by
    intro popped receiver
    simp only [Endpoint.delivered, TCPConnection.inboundStream, popped, receiver]
    exact ⟨Nat.le_refl _, id⟩
  cases call with
  | connect =>
    simp only [Endpoint.step, bind_eq_ok, pure_eq_ok, Except.ok.injEq] at stepped
    obtain ⟨c, connects, rfl⟩ := stepped
    have kept := TCPConnection.connect_receiver connects
    exact unchanged rfl kept
  | write data =>
    simp only [Endpoint.step, bind_eq_ok, pure_eq_ok, Except.ok.injEq] at stepped
    obtain ⟨⟨c, count⟩, writes, rfl⟩ := stepped
    have kept := TCPConnection.connect_receiver (TCPConnection.write_ok.mp writes).1
    exact unchanged rfl kept
  | endInputStream =>
    simp only [Endpoint.step, TCPConnection.endInputStream_eq, bind_eq_ok, pure_eq_ok,
      Except.ok.injEq] at stepped
    obtain ⟨c, connects, rfl⟩ := stepped
    have kept := TCPConnection.connect_receiver connects
    exact unchanged rfl kept
  | tick ms =>
    -- A tick can only set the error.
    rw [Endpoint.step, Except.ok.injEq] at stepped
    subst stepped
    obtain ⟨buffer, ended⟩ := x.connection.tick_inbound ms
    simp only [Endpoint.delivered, Endpoint.withConnection, buffer, ended]
    exact ⟨Nat.le_refl _, id⟩
  | reader call =>
    -- The reader moves bytes from the buffer to what it has popped.
    simp only [Endpoint.step, bind_eq_ok, pure_eq_ok, Except.ok.injEq] at stepped
    obtain ⟨served, serves, rfl⟩ := stepped
    rcases ByteStream.serve_ok serves with ⟨len, _, rfl⟩ | rfl
    · -- Bytes were taken.
      simp only [Endpoint.delivered, Endpoint.served, TCPConnection.withInbound,
        TCPReceiver.withOutput_output, TCPConnection.inboundStream, TCPReceiver.streamOut,
        StreamReassembler.streamOut, ByteStream.taken, List.append_assoc, List.take_append_drop]
      exact ⟨Nat.le_refl _, id⟩
    · -- Nothing was taken.
      simp only [Endpoint.delivered, Endpoint.served, TCPConnection.withInbound,
        TCPReceiver.withOutput_output, TCPConnection.inboundStream, TCPReceiver.streamOut,
        StreamReassembler.streamOut, List.append_nil]
      exact ⟨Nat.le_refl _, id⟩
  | transmit =>
    -- The queue belongs to the sending half.
    rw [Endpoint.step, Except.ok.injEq] at stepped
    subst stepped
    obtain ⟨_, _, popped, receiver⟩ := x.transmitted_kept
    exact unchanged popped receiver
  | deliver position =>
    rw [Endpoint.step] at stepped
    split at stepped
    · -- There is nothing at the position.
      rw [Except.ok.injEq] at stepped
      exact unchanged (by rw [stepped]) (by rw [stepped])
    · obtain ⟨c, got, same⟩ := bind_eq_ok.mp stepped
      rw [pure_eq_ok, Except.ok.injEq] at same
      subst same
      rcases TCPConnection.segmentReceived_inbound got with receives | ⟨buffer, ended⟩
      · -- The receiver takes the segment.
        exact coupled.segment_inbound after rfl receives
      · -- The segment leaves the stream but for its error flag.
        simp only [Endpoint.delivered, Endpoint.withConnection, buffer, ended]
        exact ⟨Nat.le_refl _, id⟩

/-- The stream from one endpoint to the other. -/
def pipe (coupled : Coupled x y sent received) : Pipe UInt8 where
  put := x.accepted
  got := y.delivered
  closed := x.closed
  ended := y.connection.inboundStream.inputEnded
  leads := coupled.delivered.1
  complete finished := ⟨(coupled.delivered.2 finished).2, (coupled.delivered.2 finished).1⟩

/-- To the stream that leaves an endpoint, a call is a write, the end or nothing. -/
theorem outbound_step (coupled : Coupled x y sent received)
    (after : Coupled x' y sent' received') {call : EndpointCall} (legal : x.Legal y call)
    (stepped : x.step y.sent call = .ok x') : Pipe.Step coupled.pipe after.pipe := by
  -- Most calls change neither what was accepted nor whether the stream is closed.
  have nothing : x'.accepted = x.accepted → x'.closed = x.closed →
      Pipe.Step coupled.pipe after.pipe :=
    fun accepted closed => .deliver accepted (List.prefix_refl _) closed id
  cases call with
  | write data =>
    -- What the connection accepts of the data is appended.
    rw [Endpoint.step] at stepped
    obtain ⟨written, _, same⟩ := bind_eq_ok.mp stepped
    rw [pure_eq_ok, Except.ok.injEq] at same
    subst same
    exact .write legal.1 (List.prefix_append _ _) rfl rfl rfl
  | endInputStream =>
    -- The stream is closed, with nothing more accepted.
    rw [Endpoint.step] at stepped
    obtain ⟨c, _, same⟩ := bind_eq_ok.mp stepped
    rw [pure_eq_ok, Except.ok.injEq] at same
    subst same
    exact .close rfl rfl rfl rfl
  | connect =>
    rw [Endpoint.step] at stepped
    obtain ⟨c, _, same⟩ := bind_eq_ok.mp stepped
    rw [pure_eq_ok, Except.ok.injEq] at same
    exact nothing (by rw [← same]; rfl) (by rw [← same]; rfl)
  | tick ms =>
    rw [Endpoint.step, Except.ok.injEq] at stepped
    exact nothing (by rw [← stepped]; rfl) (by rw [← stepped]; rfl)
  | reader call =>
    rw [Endpoint.step] at stepped
    obtain ⟨served, _, same⟩ := bind_eq_ok.mp stepped
    rw [pure_eq_ok, Except.ok.injEq] at same
    exact nothing (by rw [← same]; rfl) (by rw [← same]; rfl)
  | transmit =>
    rw [Endpoint.step, Except.ok.injEq] at stepped
    subst stepped
    obtain ⟨accepted, closed, _, _⟩ := x.transmitted_kept
    exact nothing accepted closed
  | deliver position =>
    rw [Endpoint.step] at stepped
    split at stepped
    · -- There is nothing at the position.
      rw [Except.ok.injEq] at stepped
      exact nothing (by rw [stepped]) (by rw [stepped])
    · obtain ⟨c, _, same⟩ := bind_eq_ok.mp stepped
      rw [pure_eq_ok, Except.ok.injEq] at same
      exact nothing (by rw [← same]; rfl) (by rw [← same]; rfl)

/-- To the stream that reaches an endpoint, a call delivers something or nothing. -/
theorem inbound_step (coupled : Coupled x y sent received)
    (after : Coupled x' y sent' received') {call : EndpointCall}
    (stepped : x.step y.sent call = .ok x') :
    Pipe.Step coupled.symm.pipe after.symm.pipe := by
  obtain ⟨more, ended⟩ := coupled.step_inbound after stepped
  -- Both are leading parts of what the peer has accepted, so the shorter leads the longer.
  have leads : x.delivered <+: x'.delivered :=
    List.prefix_of_prefix_length_le coupled.symm.delivered.1 after.symm.delivered.1 more
  exact .deliver rfl leads rfl ended

end Coupled

namespace System

variable {sys next last : System}

/-- The stream from one side to the other. -/
def pipe (sys : System) (linked : sys.Linked) (side : Side) : Pipe UInt8 where
  put := (sys.side side).accepted
  got := (sys.side side.other).delivered
  closed := (sys.side side).closed
  ended := (sys.side side.other).connection.inboundStream.inputEnded
  leads := by
    obtain ⟨sent, received, coupled⟩ := linked.side side
    exact coupled.pipe.leads
  complete := by
    obtain ⟨sent, received, coupled⟩ := linked.side side
    exact coupled.pipe.complete

/-- To the stream in either direction, every legal call is a step. -/
theorem Linked.step_refines (linked : sys.Linked) {call : Side × EndpointCall}
    (legal : sys.Legal call) (stepped : sys.step call = .ok next) (after : next.Linked)
    (side : Side) : Pipe.Step (sys.pipe linked side) (next.pipe after side) := by
  -- Both the old and the new state give a pipe for each direction.
  obtain ⟨caller, call⟩ := call
  obtain ⟨sent, received, coupled⟩ := linked.side caller
  obtain ⟨sent', received', coupled'⟩ := after.side caller
  rw [System.step] at stepped
  obtain ⟨x, steps, same⟩ := bind_eq_ok.mp stepped
  rw [pure_eq_ok, Except.ok.injEq] at same
  subst same
  -- The caller's side writes to its own stream and reads from the other.
  cases caller with
  | a =>
    cases side with
    | a => exact coupled.outbound_step coupled' legal steps
    | b => exact coupled.inbound_step coupled' steps
  | b =>
    cases side with
    | a => exact coupled.inbound_step coupled' steps
    | b => exact coupled.outbound_step coupled' legal steps

/-- Over a whole run of legal calls, the streams only move on. -/
theorem Linked.run_later :
    ∀ {calls : List (Side × EndpointCall)} {sys : System} (linked : sys.Linked),
      Throughout System.step Legal sys calls → runCalls System.step sys calls = .ok last →
      ∃ after : last.Linked, ∀ side, Pipe.Later (sys.pipe linked side) (last.pipe after side) := by
  intro calls
  induction calls with
  | nil =>
    -- The empty run changes nothing.
    intro sys linked _ returned
    rw [runCalls_nil, Except.ok.injEq] at returned
    subst returned
    exact ⟨linked, fun side => .refl _⟩
  | cons call rest ih =>
    rintro sys linked ⟨legal, later⟩ returned
    obtain ⟨mid, stepped, returned⟩ := runCalls_cons_ok.mp returned
    rw [stepped] at later
    obtain ⟨found, stepped', after⟩ := linked.step legal
    rw [stepped, Except.ok.injEq] at stepped'
    subst stepped'
    -- One step first, then the rest of the run by induction.
    obtain ⟨final, moved⟩ := ih after later returned
    exact ⟨final, fun side => (linked.step_refines legal stepped after side).later.trans (moved side)⟩

/-- What has been delivered stays delivered, and the end of a stream is final. -/
theorem delivery_final {cfgA cfgB : TCPConfig} {isnA isnB : WrappingInt32}
    {calls more : List (Side × EndpointCall)}
    (roomA : cfgA.sendCapacity + cfgB.recvCapacity < 2 ^ 31 - 2)
    (roomB : cfgB.sendCapacity + cfgA.recvCapacity < 2 ^ 31 - 2)
    (legal : Throughout step Legal (start cfgA cfgB isnA isnB) calls)
    (returned : runCalls step (start cfgA cfgB isnA isnB) calls = .ok sys)
    (legal' : Throughout step Legal sys more) (returned' : runCalls step sys more = .ok last)
    (side : Side) :
    (sys.side side.other).delivered <+: (last.side side.other).delivered ∧
      ((sys.side side.other).connection.inboundStream.inputEnded = true →
        (last.side side.other).delivered = (sys.side side.other).delivered ∧
          (last.side side).accepted = (sys.side side).accepted) := by
  obtain ⟨found, returned'', linked⟩ := linked_run roomA roomB legal
  rw [returned, Except.ok.injEq] at returned''
  subst returned''
  obtain ⟨after, later⟩ := linked.run_later legal' returned'
  refine ⟨(later side).got, fun ended => ?_⟩
  -- A closed pipe that has delivered everything cannot change.
  have same := (later side).eq_of_ended ended
  exact ⟨congrArg Pipe.got same, congrArg Pipe.put same⟩

end System

end Sponge
