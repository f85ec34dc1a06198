import Sponge.Tcp.ConnectionRuns
import Sponge.Tcp.ReceiverIsn

/-! What the calls of a connection do to its receiver and its flags. -/

namespace Sponge

namespace TCPConnection

variable {c c' : TCPConnection} {seg : TCPSegment} {call : ConnectionCall}

/-- Handling a segment leaves the flags as they are. -/
theorem handle_flags (handled : c.handle seg = .ok c') :
    c'.active = c.active ∧ c'.lingerAfterStreamsFinish = c.lingerAfterStreamsFinish := by
  obtain ⟨r, acked, opened, parts⟩ := handle_ok.mp handled
  obtain ⟨queue, rfl⟩ := parts.frame
  exact ⟨rfl, rfl⟩

/-- A tick leaves the receiver alone, except for an error when it gives up. -/
theorem tick_frame (c : TCPConnection) (ms : Nat) :
    ((c.tick ms).receiver = c.receiver ∧
      ((c.tick ms).active = true → c.active = true ∧
        (c.tick ms).lingerAfterStreamsFinish = c.lingerAfterStreamsFinish)) ∨
    ((c.tick ms).active = false ∧ (c.tick ms).receiver = c.setError.receiver) := by
  rw [tick]
  split
  · -- The wait goes on, or it ends the connection.
    rw [tickTimeWait]
    split
    · exact .inl ⟨rfl, fun alive => absurd alive Bool.false_ne_true⟩
    · exact .inl ⟨rfl, fun alive => ⟨alive, rfl⟩⟩
  · split
    · exact .inr ⟨rfl, rfl⟩
    · refine .inl ⟨rfl, fun alive => ⟨?_, rfl⟩⟩
      rw [tickOpen, Bool.and_eq_true] at alive
      exact alive.1

/-- What a call can do to the receiver and the flags of a connection. -/
theorem perform_frame (performed : c.perform call = .ok c') :
    (c'.receiver = c.receiver ∧ (c'.active = true → c.active = true ∧
      c'.lingerAfterStreamsFinish = c.lingerAfterStreamsFinish)) ∨
    (c'.active = false ∧ c'.receiver = c.setError.receiver) ∨
    (∃ seg, call = .segment seg ∧ (seg.header.ack = true → 0 < c.sender.nextSeqnoAbsolute) ∧
      seg.header.rst = false ∧ c.receiver.segmentReceived seg = .ok c'.receiver ∧
      c'.active = c.active ∧
      c'.lingerAfterStreamsFinish = (c.noted seg).lingerAfterStreamsFinish) ∨
    (∃ taken served, call = .reader taken ∧ c.inboundStream.serve taken = .ok served ∧
      c.withInbound served.2 = c') := by
  -- Connecting only lets the sender send.
  have connected : ∀ {d : TCPConnection}, d.connect = .ok c' → d.receiver = c.receiver →
      d.active = c.active → d.lingerAfterStreamsFinish = c.lingerAfterStreamsFinish →
      c'.receiver = c.receiver ∧ (c'.active = true → c.active = true ∧
        c'.lingerAfterStreamsFinish = c.lingerAfterStreamsFinish) := by
    intro d connects receiver active linger
    obtain ⟨s, _, rfl⟩ := connect_ok.mp connects
    exact ⟨receiver, fun alive => ⟨active ▸ alive, linger⟩⟩
  cases call with
  | connect => exact .inl (connected performed rfl rfl rfl)
  | write data => exact .inl (connected (perform_write.mp performed) rfl rfl rfl)
  | endInputStream =>
    rw [perform, endInputStream_eq] at performed
    exact .inl (connected performed rfl rfl rfl)
  | tick ms =>
    rw [perform, Except.ok.injEq] at performed
    subst performed
    -- A tick leaves the receiver, unless the connection gives up.
    rcases c.tick_frame ms with kept | gaveUp
    · exact .inl kept
    · exact .inr (.inl gaveUp)
  | segment seg =>
    rcases segmentReceived_ok.mp performed with ⟨_, _, rfl⟩ | ⟨_, _, rfl⟩ | ⟨sentSyn, rst, handled⟩
    · -- The segment is ignored.
      exact .inl ⟨rfl, fun alive => ⟨alive, rfl⟩⟩
    · -- The segment resets the connection.
      exact .inr (.inl ⟨rfl, rfl⟩)
    · -- The segment is handled.
      obtain ⟨active, linger⟩ := handle_flags handled
      have received := handle_receiver handled
      exact .inr (.inr (.inl ⟨seg, rfl, sentSyn, rst, received, active, linger⟩))
  | reader taken =>
    obtain ⟨served, serves, same⟩ := perform_reader.mp performed
    exact .inr (.inr (.inr ⟨taken, served, rfl, serves, same⟩))

/-- No call brings a connection back to life. -/
theorem active_of_perform (performed : c.perform call = .ok c') (alive : c'.active = true) :
    c.active = true := by
  -- In each case the flag of before is known.
  rcases perform_frame performed with ⟨_, kept⟩ | ⟨dead, _⟩ | ⟨_, _, _, _, _, same, _⟩ |
    ⟨_, _, _, _, rfl⟩
  · exact (kept alive).1
  · exact absurd alive (by simp [dead])
  · exact same.symm.trans alive
  · exact alive

end TCPConnection

/-- The call that a call of a connection makes on its receiver, if it reaches it. -/
def ConnectionCall.inbound : ConnectionCall → Option ReceiverCall
  | .segment seg => some (.segment seg)
  | .reader call => some (.reader call)
  | .connect | .write _ | .endInputStream | .tick _ => none

namespace ReceiverRun

/-- The run once an error was recorded on the inbound stream. -/
def failed (t : ReceiverRun) : ReceiverRun :=
  t.served [] t.receiver.streamOut.setError

end ReceiverRun

namespace ConnectionRun

variable {t next : ConnectionRun} {call : ConnectionCall}

/-- The receiver of a connection, with what its reader has taken. -/
def inbound (t : ConnectionRun) : ReceiverRun := ⟨t.connection.receiver, t.popped⟩

/-- A call of a connection is at most one call of its receiver. -/
theorem step_inbound (steps : t.step call = .ok next) :
    next.inbound = t.inbound ∨
    (next.connection.active = false ∧ next.inbound = t.inbound.failed) ∨
    ∃ taken, call.inbound = some taken ∧ t.inbound.step taken = .ok next.inbound := by
  obtain ⟨c, performed, rfl⟩ := step_ok.mp steps
  -- Only the reader takes bytes.
  have untaken : t.connection.takenBy call = [] →
      (t.after call c).inbound = ⟨c.receiver, t.popped⟩ := by
    intro none
    simp only [inbound, after, none, List.append_nil]
  cases call with
  | reader taken =>
    -- The reader is a call of the receiver.
    obtain ⟨served, serves, rfl⟩ := TCPConnection.perform_reader.mp performed
    refine .inr (.inr ⟨.reader taken, rfl, ?_⟩)
    have takes : t.connection.takenBy (.reader taken) = served.1 := by
      rw [TCPConnection.takenBy, serves]
    simp only [ReceiverRun.step, bind_eq_ok, pure_eq_ok, Except.ok.injEq]
    refine ⟨served, serves, ?_⟩
    simp only [inbound, after, takes]
    rfl
  | connect | write data | endInputStream | tick ms | segment seg =>
    rw [untaken rfl]
    rcases TCPConnection.perform_frame performed with ⟨kept, _⟩ | ⟨dead, failed⟩ |
      ⟨seg, same, _, _, received, _⟩ | ⟨_, _, reads, _⟩
    · -- The receiver is left alone.
      exact .inl (by rw [kept]; rfl)
    · -- The connection dies, and the stream gets its error.
      refine .inr (.inl ⟨dead, ?_⟩)
      rw [failed, ReceiverRun.failed, ReceiverRun.served, List.append_nil]
      rfl
    · -- The receiver takes the segment.
      refine .inr (.inr ⟨.segment seg, by rw [same]; rfl, ?_⟩)
      simp only [ReceiverRun.step, bind_eq_ok, pure_eq_ok, Except.ok.injEq]
      exact ⟨c.receiver, received, rfl⟩
    · -- The call was no reader.
      exact absurd reads (by simp)

/-- A call hands a segment to the receiver, or at most reads from its stream or marks it. -/
theorem step_receiver (steps : t.step call = .ok next) :
    (∃ output, next.connection.receiver = (t.connection.withInbound output).receiver ∧
      (output = t.connection.inboundStream ∨ output = t.connection.inboundStream.setError ∨
        ∃ len, output = t.connection.inboundStream.taken len)) ∨
    ∃ seg, call = .segment seg ∧
      t.connection.receiver.segmentReceived seg = .ok next.connection.receiver := by
  obtain ⟨c, performed, rfl⟩ := step_ok.mp steps
  -- Four kinds of calls: no change, an error, a segment, and a read.
  rcases TCPConnection.perform_frame performed with ⟨kept, _⟩ | ⟨_, failed⟩ |
    ⟨seg, same, _, _, received, _⟩ | ⟨taken, served, _, serves, rfl⟩
  · exact .inl ⟨t.connection.inboundStream, kept, .inl rfl⟩
  · exact .inl ⟨t.connection.inboundStream.setError, failed, .inr (.inl rfl)⟩
  · exact .inr ⟨seg, same, received⟩
  · rcases ByteStream.serve_ok serves with ⟨len, _, rfl⟩ | rfl
    · exact .inl ⟨_, rfl, .inr (.inr ⟨len, rfl⟩)⟩
    · exact .inl ⟨_, rfl, .inl rfl⟩

/-- No call takes back bytes of the inbound stream. -/
theorem assembled_inbound_le (steps : t.step call = .ok next) :
    t.inbound.assembled ≤ next.inbound.assembled := by
  rcases step_inbound steps with same | ⟨_, failed⟩ | ⟨taken, _, stepped⟩
  · rw [same]
  · -- An error takes nothing from the stream.
    rw [failed, ReceiverRun.failed, ReceiverRun.served, List.append_nil]
    exact Nat.le_refl _
  · exact ReceiverRun.assembled_le stepped

/-- With a small buffer, a call keeps the counters of the inbound stream and does not reopen it. -/
theorem counted_step (counted : t.inbound.Counted) (steps : t.step call = .ok next)
    (short : next.connection.inboundStream.buffer.length < 2 ^ 31) :
    next.inbound.Counted ∧
      (t.connection.inboundStream.ended = true → next.connection.inboundStream.ended = true) := by
  rcases step_inbound steps with same | ⟨_, failed⟩ | ⟨taken, _, stepped⟩
  · refine ⟨by rwa [same], ?_⟩
    have stream := congrArg (fun r => r.receiver.streamOut.ended) same
    exact fun ended => stream.trans ended
  · -- An error leaves the counters and the end alone.
    have stream := congrArg (fun r => r.receiver.streamOut.ended) failed
    refine ⟨?_, fun ended => stream.trans ended⟩
    rw [failed, ReceiverRun.failed, ReceiverRun.served, List.append_nil]
    exact ⟨counted.read, counted.written⟩
  · exact counted.step stepped short

end ConnectionRun

end Sponge
