import Sponge.Tcp.Connection
import Sponge.Tcp.Flow

/-! What the calls of a connection do to its sender, its receiver and its queue. -/

namespace Sponge

namespace TCPState

/-- A finished and acknowledged sender has an empty stream, has sent its FIN and waits for nothing. -/
theorem senderSummary_finAcked {sender : TCPSender} (found : senderSummary sender = .finAcked) :
    sender.streamIn.eof = true ∧
      add64 sender.streamIn.bytesWritten 2 ≤ sender.nextSeqnoAbsolute ∧
      sender.bytesInFlight = 0 := by
  rw [senderSummary] at found
  split_ifs at found with error zero unacked writing unsent waiting
  exact ⟨by simpa using writing, by omega, by simpa using waiting⟩

/-- A receiver that has got the FIN has an inbound stream that ended. -/
theorem receiverSummary_finRecv {receiver : TCPReceiver}
    (found : receiverSummary receiver = .finRecv) : receiver.streamOut.inputEnded = true := by
  rw [receiverSummary] at found
  split_ifs at found with error listens ended
  exact ended

end TCPState

namespace TCPConnection

variable {c c' : TCPConnection} {seg : TCPSegment}

/-- Filling the window changes only the sender. -/
theorem fillWindow_ok :
    c.fillWindow = .ok c' ↔ ∃ s, c.sender.fillWindow = .ok s ∧ { c with sender := s } = c' := by
  simp only [fillWindow, bind_eq_ok, pure_eq_ok, Except.ok.injEq]

/-- Connecting fills the window and moves the segments on. -/
theorem connect_ok :
    c.connect = .ok c' ↔
      ∃ s, c.sender.fillWindow = .ok s ∧ { c with sender := s }.seg2seg = c' := by
  simp only [connect, fillWindow, bind_eq_ok, pure_eq_ok, Except.ok.injEq]
  constructor
  · -- The segments are moved on from whatever the sender has become.
    rintro ⟨filled, ⟨s, fills, rfl⟩, same⟩
    exact ⟨s, fills, same⟩
  · rintro ⟨s, fills, same⟩
    exact ⟨_, ⟨s, fills, rfl⟩, same⟩

/-- Connecting does not touch the receiver. -/
theorem connect_receiver (connected : c.connect = .ok c') : c'.receiver = c.receiver := by
  obtain ⟨s, _, rfl⟩ := connect_ok.mp connected
  rfl

/-- Writing goes on as connecting does, once the data is in the stream. -/
theorem write_ok {data : Bytes} {count : Nat} :
    c.write data = .ok (c', count) ↔
      { c with sender := { c.sender with stream := (c.sender.stream.write data).1 } }.connect =
        .ok c' ∧ (c.sender.stream.write data).2 = count := by
  simp only [write, connect, bind_eq_ok, pure_eq_ok, Except.ok.injEq, Prod.mk.injEq]
  -- Both functions fill the window and move the segments on.
  constructor
  · rintro ⟨filled, fills, same, counted⟩
    exact ⟨⟨filled, fills, same⟩, counted⟩
  · rintro ⟨⟨filled, fills, same⟩, counted⟩
    exact ⟨filled, fills, same, counted⟩

/-- So does shutting down the outbound stream. -/
theorem endInputStream_eq (c : TCPConnection) :
    c.endInputStream =
      { c with sender := { c.sender with stream := c.sender.stream.endInput } }.connect := by
  rw [endInputStream, connect]

/-- Asking twice for an answer is asking once for either reason. -/
theorem answer_answer (c : TCPConnection) (first second : Bool) :
    (c.answer first).answer second = c.answer (first || second) := by
  cases empty : c.sender.segmentsOut.isEmpty with
  -- The sender has something to send, which answers already.
  | false => simp [answer, empty]
  | true =>
    cases first with
    -- The first reason does not apply.
    | false => simp [answer]
    -- After one answer the queue is not empty, so there is no second.
    | true => simp [answer, empty, TCPSender.sendEmptySegment]

/-- An answer does not change what the receiver recognizes as a probe. -/
theorem answer_isKeepAlive (c : TCPConnection) (due : Bool) (seg : TCPSegment) :
    (c.answer due).isKeepAlive seg = c.isKeepAlive seg := by
  rw [answer]
  split <;> rfl

/-- How a segment was handled, in the order in which the parts of the connection saw it. -/
structure Handled (c : TCPConnection) (seg : TCPSegment) (r : TCPReceiver)
    (acked opened : TCPSender) (c' : TCPConnection) : Prop where
  /-- The receiver took the segment. -/
  received : c.receiver.segmentReceived seg = .ok r
  /-- The sender took the acknowledgment, if there was one, and sent what it could. -/
  heard : if seg.header.ack then
      ∃ s, c.sender.ackReceived seg.header.ackno seg.header.win = .ok s ∧ s.fillWindow = .ok acked
    else acked = c.sender
  /-- A SYN that is due was sent. -/
  opens : if acked.nextSeqnoAbsolute = 0 ∧ r.ackno.isSome then acked.fillWindow = .ok opened
    else opened = acked
  /-- The segment was answered, and everything was moved on. -/
  result : ({ c with receiver := r, sender := opened }.answer
    (decide (0 < seg.lengthInSequenceSpace) ||
      { c with receiver := r, sender := opened }.isKeepAlive seg)).seg2seg = c'

/-- An acknowledgment, if there is one, reaches the sender, which then fills the window. -/
theorem handleAck_ok {header : TCPHeader} :
    c.handleAck header = .ok c' ↔ ∃ acked,
      (if header.ack then ∃ s, c.sender.ackReceived header.ackno header.win = .ok s ∧
        s.fillWindow = .ok acked else acked = c.sender) ∧ { c with sender := acked } = c' := by
  rw [handleAck]
  split
  · -- The acknowledgment is heard, and then the window is filled.
    simp only [bind_eq_ok, fillWindow_ok]
    constructor
    · rintro ⟨s, acks, acked, fills, rfl⟩
      exact ⟨acked, ⟨s, acks, fills⟩, rfl⟩
    · rintro ⟨acked, ⟨s, acks, fills⟩, rfl⟩
      exact ⟨s, acks, acked, fills, rfl⟩
  · -- Without acknowledgment the sender is left alone.
    simp only [Except.ok.injEq, exists_eq_left]

/-- A SYN that is due is sent by filling the window. -/
theorem answerSyn_ok :
    c.answerSyn = .ok c' ↔ ∃ opened,
      (if c.sender.nextSeqnoAbsolute = 0 ∧ c.receiver.ackno.isSome then
        c.sender.fillWindow = .ok opened else opened = c.sender) ∧
      { c with sender := opened } = c' := by
  rw [answerSyn]
  split
  · -- The peer's SYN has come, and no SYN was sent.
    exact fillWindow_ok
  · -- The SYN was sent, or the peer's has not come.
    simp only [Except.ok.injEq, exists_eq_left]

/-- A segment is handled part by part. -/
theorem handle_ok :
    c.handle seg = .ok c' ↔ ∃ r acked opened, Handled c seg r acked opened c' := by
  -- The two tests for an answer are one, and every part names the state that it leaves.
  simp only [handle, receive, bind_eq_ok, pure_eq_ok, Except.ok.injEq, handleAck_ok,
    answerSyn_ok, answer_isKeepAlive, answer_answer]
  constructor
  · rintro ⟨_, ⟨r, receives, rfl⟩, _, ⟨acked, hears, rfl⟩, _, ⟨opened, opening, rfl⟩, result⟩
    exact ⟨r, acked, opened, receives, hears, opening, result⟩
  · rintro ⟨r, acked, opened, receives, hears, opening, result⟩
    exact ⟨_, ⟨r, receives, rfl⟩, _, ⟨acked, hears, rfl⟩, _, ⟨opened, opening, rfl⟩, result⟩

/-- The connection once it has noted that a segment came, and whether the peer finishes first. -/
def noted (c : TCPConnection) (seg : TCPSegment) : TCPConnection :=
  { c with
    timeSinceLastSegmentReceived := 0
    lingerAfterStreamsFinish :=
      c.lingerAfterStreamsFinish && !(seg.header.fin && c.unfinished) }

/-- The connection once it has been reset by its peer. -/
def wasReset (c : TCPConnection) : TCPConnection :=
  { c.setError with
    timeSinceLastSegmentReceived := 0
    active := false
    lingerAfterStreamsFinish := false }

/-- A segment is ignored, resets the connection or is handled. -/
theorem segmentReceived_ok :
    c.segmentReceived seg = .ok c' ↔
      (c.sender.nextSeqnoAbsolute = 0 ∧ seg.header.ack = true ∧
        { c with timeSinceLastSegmentReceived := 0 } = c') ∨
      ((seg.header.ack = true → 0 < c.sender.nextSeqnoAbsolute) ∧ seg.header.rst = true ∧
        c.wasReset = c') ∨
      ((seg.header.ack = true → 0 < c.sender.nextSeqnoAbsolute) ∧ seg.header.rst = false ∧
        (c.noted seg).handle seg = .ok c') := by
  -- The two guards of the function, in the order in which it tests them.
  have result : c.segmentReceived seg =
      if c.sender.nextSeqnoAbsolute = 0 ∧ seg.header.ack = true then
        .ok { c with timeSinceLastSegmentReceived := 0 }
      else if seg.header.rst = true then .ok c.wasReset else (c.noted seg).handle seg := rfl
  rw [result]
  by_cases early : c.sender.nextSeqnoAbsolute = 0 ∧ seg.header.ack = true
  · -- The first guard holds, and excludes the other cases.
    rw [if_pos early, Except.ok.injEq]
    constructor
    · exact fun same => .inl ⟨early.1, early.2, same⟩
    · rintro (⟨_, _, same⟩ | ⟨sent, _⟩ | ⟨sent, _⟩)
      · exact same
      · exact absurd (sent early.2) (by omega)
      · exact absurd (sent early.2) (by omega)
  · -- The first guard fails, so an acknowledgment is one of something that was sent.
    have sent : seg.header.ack = true → 0 < c.sender.nextSeqnoAbsolute :=
      fun carries => Nat.pos_of_ne_zero fun zero => early ⟨zero, carries⟩
    rw [if_neg early]
    cases rst : seg.header.rst with
    | true =>
      -- The segment resets the connection.
      rw [if_pos rfl, Except.ok.injEq]
      constructor
      · exact fun same => .inr (.inl ⟨sent, rfl, same⟩)
      · rintro (⟨zero, carries, _⟩ | ⟨_, _, same⟩ | ⟨_, plain, _⟩)
        · exact absurd ⟨zero, carries⟩ early
        · exact same
        · exact absurd plain (by decide)
    | false =>
      -- The segment is handled.
      rw [if_neg (by decide)]
      constructor
      · exact fun handled => .inr (.inr ⟨sent, rfl, handled⟩)
      · rintro (⟨zero, carries, _⟩ | ⟨_, resets, _⟩ | ⟨_, _, handled⟩)
        · exact absurd ⟨zero, carries⟩ early
        · exact absurd resets (by decide)
        · exact handled

/-- An answer leaves everything but the queue of the sender. -/
theorem answer_eq (c : TCPConnection) (due : Bool) :
    ∃ out, c.answer due = { c with sender := { c.sender with segmentsOut := out } } ∧
      ((out = c.sender.segmentsOut ∧ (due = true → c.sender.segmentsOut ≠ [])) ∨
        (due = true ∧ c.sender.segmentsOut = [] ∧
          out = [{ header := { seqno := c.sender.nextSeqno } }])) := by
  rw [answer]
  split
  · rename_i asked
    -- An answer that is due is only needed if nothing else goes out.
    simp only [Bool.and_eq_true, List.isEmpty_iff] at asked
    refine ⟨_, rfl, .inr ⟨asked.1, asked.2, ?_⟩⟩
    rw [asked.2, List.nil_append]
  · rename_i unasked
    refine ⟨c.sender.segmentsOut, rfl, .inl ⟨rfl, fun due empty => ?_⟩⟩
    simp [due, empty] at unasked

/-- A stamp changes neither the position nor the contents of a segment. -/
theorem stamp_kept (c : TCPConnection) (seg : TCPSegment) :
    (c.stamp seg).header.seqno = seg.header.seqno ∧ (c.stamp seg).header.syn = seg.header.syn ∧
      (c.stamp seg).header.fin = seg.header.fin ∧ (c.stamp seg).payload = seg.payload := by
  rw [stamp]
  split <;> exact ⟨rfl, rfl, rfl, rfl⟩

/-- A stamp does not change the length of a segment. -/
theorem stamp_length (c : TCPConnection) (seg : TCPSegment) :
    (c.stamp seg).lengthInSequenceSpace = seg.lengthInSequenceSpace := by
  obtain ⟨_, syn, fin, payload⟩ := c.stamp_kept seg
  simp only [TCPSegment.lengthInSequenceSpace, syn, fin, payload]

/-- A handled segment changes the receiver, the sender and the queue, and nothing else. -/
theorem Handled.frame {r : TCPReceiver} {acked opened : TCPSender}
    (parts : Handled c seg r acked opened c') :
    ∃ queue, c' = { c with
      receiver := r
      sender := { opened with segmentsOut := [] }
      segmentsOut := queue } := by
  -- An answer is put into the queue of the sender, which is then moved on.
  obtain ⟨out, answered, _⟩ := answer_eq { c with receiver := r, sender := opened }
    (decide (0 < seg.lengthInSequenceSpace) ||
      { c with receiver := r, sender := opened }.isKeepAlive seg)
  have result := parts.result
  rw [answered] at result
  exact ⟨_, result.symm⟩

/-- A handled segment changes the receiver only by being received. -/
theorem handle_receiver (handled : c.handle seg = .ok c') :
    c.receiver.segmentReceived seg = .ok c'.receiver := by
  obtain ⟨r, acked, opened, parts⟩ := handle_ok.mp handled
  obtain ⟨queue, rfl⟩ := parts.frame
  exact parts.received

/-- Outside TIME_WAIT, a connection is only closed once it has finished. -/
theorem finished_of_tickOpen {c : TCPConnection} (closes : c.tickOpen.active = false)
    (active : c.active = true) : c.seg2seg.finished = true := by
  -- Only the last assignment of the tick changes the flag, and it requires that all is finished.
  rw [tickOpen] at closes
  dsimp only at closes
  rw [show c.seg2seg.active = true from active, Bool.true_and, Bool.not_eq_false',
    Bool.and_eq_true] at closes
  exact closes.2

/-- A tick that closes a connection without an error finds both of its streams finished. -/
theorem finished_of_tick {c : TCPConnection} {ms : Nat} (active : c.active = true)
    (closes : (c.tick ms).active = false) (clean : (c.tick ms).sender.streamIn.error = false) :
    (c.tick ms).inboundStream.inputEnded = true ∧ (c.tick ms).sender.streamIn.eof = true ∧
      add64 (c.tick ms).sender.streamIn.bytesWritten 2 ≤ (c.tick ms).sender.nextSeqnoAbsolute ∧
      (c.tick ms).sender.bytesInFlight = 0 := by
  rw [tick] at closes clean ⊢
  split at closes
  · -- In TIME_WAIT the summary of the state says so.
    rename_i waits
    rw [if_pos waits]
    have sender := TCPState.senderSummary_finAcked (congrArg TCPState.sender waits)
    have receiver := TCPState.receiverSummary_finRecv (congrArg TCPState.receiver waits)
    rw [tickTimeWait]
    split
    · exact ⟨receiver, sender⟩
    · exact ⟨receiver, sender⟩
  · -- Outside TIME_WAIT the connection gives up, or finds itself finished.
    rename_i open_
    rw [if_neg open_] at clean ⊢
    split at closes
    · -- Giving up sets the error flags.
      rename_i exhausted
      rw [if_pos exhausted] at clean
      simp [abort, setError, ByteStream.setError, TCPSender.streamIn] at clean
    · -- The connection is closed because it has finished.
      rename_i patient
      rw [if_neg patient]
      have done := finished_of_tickOpen closes active
      simp only [finished, Bool.and_eq_true, decide_eq_true_eq] at done
      obtain ⟨⟨⟨ended, eof⟩, next⟩, quiet⟩ := done
      exact ⟨ended, eof, Nat.le_of_eq next.symm, quiet⟩

end TCPConnection

end Sponge
