import Sponge.Tcp.ConnectionRuns
import Sponge.Tcp.SenderQueue

/-! Every segment that a connection sends is of a size that a datagram can carry. -/

namespace Sponge

/-- A segment without options and without urgent data, whose payload is of a size that is sent. -/
structure TCPSegment.Modest (seg : TCPSegment) : Prop where
  /-- The header has no options. -/
  doff : seg.header.doff = 5
  /-- The payload is small. -/
  size : seg.payload.length ≤ TCPConfig.maxPayloadSize

/-- A stamp keeps a segment modest. -/
theorem TCPConnection.stamp_modest (c : TCPConnection) {seg : TCPSegment} (modest : seg.Modest) :
    (c.stamp seg).Modest := by
  -- The stamp sets fields of the header other than the offset, and leaves the payload.
  unfold stamp
  split
  · exact modest
  · exact ⟨modest.doff, modest.size⟩

/-- A short read returns no more than was asked for. -/
theorem ByteStream.read_length {s s' : ByteStream} {len : Nat} {data : Bytes}
    (short : len ≤ TCPConfig.maxPayloadSize) (done : s.read len = .ok (data, s')) :
    data.length ≤ len := by
  have limit : len ≤ 1000 := short
  unfold read at done
  obtain ⟨popped, _, done⟩ := bind_eq_ok.mp done
  simp only [pure_eq_ok, Except.ok.injEq, Prod.mk.injEq] at done
  -- The length is so small that the detour through an `int` does not change it.
  have clipped : (if s.buffer.length < len then s.buffer.length else len) ≤ len := by
    split <;> omega
  rw [← done.1, peekOutput, ofInt_toInt32 (by omega)]
  exact (List.length_take_le _ _).trans clipped

namespace TCPSender

variable {s s' : TCPSender}

/-- Everything that a sender has queued is modest. -/
def Modest (s : TCPSender) : Prop := ∀ seg ∈ s.outstandings ++ s.segmentsOut, seg.Modest

/-- One more modest segment in both queues. -/
theorem Modest.enqueue (modest : s.Modest) {seg : TCPSegment} (fits : seg.Modest) (count : Nat) :
    (s.enqueue seg count).Modest := by
  intro other member
  simp only [TCPSender.enqueue, List.mem_append, List.mem_singleton] at member
  -- It was queued before, or it is the new one, in either queue.
  rcases member with (old | rfl) | old | rfl
  · exact modest other (List.mem_append_left _ old)
  · exact fits
  · exact modest other (List.mem_append_right _ old)
  · exact fits

/-- A probe carries at most one byte. -/
theorem Modest.sendOneByteSegment (modest : s.Modest) {f : Bool}
    (sent : s.sendOneByteSegment f = .ok s') : s'.Modest := by
  unfold TCPSender.sendOneByteSegment at sent
  cases f with
  | true =>
    -- The FIN is sent without payload.
    simp only [if_true, ok_bind, pure_eq_ok, Except.ok.injEq] at sent
    rw [← sent]
    apply Modest.enqueue
    · exact modest
    · exact ⟨rfl, Nat.zero_le _⟩
  | false =>
    -- The byte to send is read from the stream.
    obtain ⟨⟨payload, stream⟩, read, done⟩ := bind_eq_ok.mp sent
    simp only [pure_eq_ok, Except.ok.injEq] at done
    have one := ByteStream.read_length (by decide) read
    rw [← done]
    apply Modest.enqueue
    · exact modest
    · exact ⟨rfl, one.trans (by decide)⟩

/-- A segment of the loop that fills the window takes at most as much as one may carry. -/
theorem Modest.sendSegment (modest : s.Modest) (sent : s.sendSegment = .ok s') : s'.Modest := by
  unfold TCPSender.sendSegment at sent
  -- The read is asked for what fits, which is at most the largest payload.
  obtain ⟨⟨data, stream⟩, read, done⟩ := bind_eq_ok.mp sent
  simp only [pure_eq_ok, Except.ok.injEq] at done
  have room : s.payloadRoom ≤ TCPConfig.maxPayloadSize := Nat.min_le_right _ _
  have size := (ByteStream.read_length room read).trans room
  rw [← done]
  apply Modest.enqueue
  · exact modest
  · exact ⟨rfl, size⟩

/-- The loop that fills the window sends modest segments. -/
theorem Modest.fillLoop : ∀ (turns : Nat) {s s' : TCPSender}, s.Modest →
    s.fillLoop turns = .ok s' → s'.Modest := by
  -- Induction on the turns, each of which sends one segment.
  intro turns
  induction turns with
  | zero =>
    -- Without turns the loop does not return.
    intro s s' _ filled
    cases filled
  | succ turns ih =>
    intro s s' modest filled
    unfold TCPSender.fillLoop at filled
    split at filled
    · -- The window is filled, so nothing is sent.
      rw [Except.ok.injEq] at filled
      exact filled ▸ modest
    · obtain ⟨mid, sent, rest⟩ := bind_eq_ok.mp filled
      exact ih (modest.sendSegment sent) rest

/-- Filling the window sends modest segments. -/
theorem Modest.fillWindow (modest : s.Modest) (filled : s.fillWindow = .ok s') : s'.Modest := by
  unfold TCPSender.fillWindow at filled
  -- A probe with a byte, a probe with the FIN, or the loop.
  split at filled
  · exact Modest.sendOneByteSegment (s := { s with probing := true }) modest filled
  · split at filled
    · exact Modest.sendOneByteSegment (s := { s with probing := true }) modest filled
    · exact Modest.fillLoop _ modest filled

/-- An acknowledgment only drops segments. -/
theorem Modest.ackReceived (modest : s.Modest) {ackno : WrappingInt32} {windowSize : UInt16}
    (received : s.ackReceived ackno windowSize = .ok s') : s'.Modest := by
  obtain ⟨ackabs, -, cases⟩ := ackReceived_cases received
  -- The queue of outstanding segments is a part of the old one.
  rcases cases with ⟨-, rfl⟩ | ⟨-, kept, inFlights, suffix, rfl⟩
  · exact modest
  · intro seg member
    cases List.mem_append.mp member with
    | inl queued => exact modest seg (List.mem_append_left _ (suffix.subset queued))
    | inr out => exact modest seg (List.mem_append_right _ out)

/-- A tick only repeats a segment. -/
theorem Modest.tick (modest : s.Modest) (ms : Nat) : (s.tick ms).Modest := by
  -- Apart from its counters, a tick changes the sender by one segment at most.
  obtain ⟨again, timePassed, rto, recount, ticked, repeats⟩ := s.tick_eq ms
  rw [ticked]
  intro seg member
  simp only [List.mem_append] at member
  rcases member with queued | out | now
  · exact modest seg (List.mem_append_left _ queued)
  · exact modest seg (List.mem_append_right _ out)
  · -- The segment sent now is the oldest one that is outstanding.
    rcases repeats with none | ⟨rest, oldest, queue, one⟩
    · rw [none] at now
      cases now
    · rw [one, List.mem_singleton] at now
      exact modest seg (List.mem_append_left _ (by rw [queue, now]; exact List.mem_cons_self))

end TCPSender

namespace TCPConnection

variable {c c' : TCPConnection}

/-- Everything that a connection has queued is modest. -/
structure Modest (c : TCPConnection) : Prop where
  /-- In the sender. -/
  sender : c.sender.Modest
  /-- And in the queue of the connection itself. -/
  queue : ∀ seg ∈ c.segmentsOut, seg.Modest

/-- A fresh connection has queued nothing. -/
theorem modest_new (cfg : TCPConfig) (isn : WrappingInt32) : (new cfg isn).Modest := by
  constructor
  · simp [TCPSender.Modest, new, TCPSender.new]
  · simp [new]

/-- Moving segments on keeps them modest. -/
theorem Modest.seg2seg (modest : c.Modest) : c.seg2seg.Modest := by
  -- The sender keeps what is outstanding, and gives away what it had queued.
  constructor
  · intro seg member
    exact modest.sender seg (List.mem_append_left _ (by simpa [TCPConnection.seg2seg] using member))
  · -- A segment of the queue was there before, or is a stamped one of the sender.
    intro seg member
    cases List.mem_append.mp member with
    | inl old => exact modest.queue seg old
    | inr moved =>
      obtain ⟨source, inside, rfl⟩ := List.mem_map.mp moved
      exact c.stamp_modest (modest.sender source (List.mem_append_right _ inside))

/-- The outbound stream is not a segment. -/
theorem Modest.withStream (modest : c.Modest) (stream : ByteStream) :
    Modest { c with sender := { c.sender with stream := stream } } :=
  ⟨modest.sender, modest.queue⟩

/-- Connecting sends modest segments. -/
theorem Modest.connect (modest : c.Modest) (connected : c.connect = .ok c') : c'.Modest := by
  obtain ⟨s, filled, rfl⟩ := connect_ok.mp connected
  apply Modest.seg2seg
  exact ⟨modest.sender.fillWindow filled, modest.queue⟩

/-- An answer is an empty segment. -/
theorem Modest.answer (modest : c.Modest) (due : Bool) : (c.answer due).Modest := by
  -- The sender queues one more segment, or none.
  obtain ⟨out, answered, content⟩ := c.answer_eq due
  rw [answered]
  refine ⟨?_, modest.queue⟩
  intro seg member
  cases List.mem_append.mp member with
  | inl queued => exact modest.sender seg (List.mem_append_left _ queued)
  | inr sent =>
    rcases content with ⟨rfl, -⟩ | ⟨-, -, rfl⟩
    · exact modest.sender seg (List.mem_append_right _ sent)
    · rw [List.mem_singleton.mp sent]
      exact ⟨rfl, Nat.zero_le _⟩

/-- A received segment is answered with modest ones, whatever it is. -/
theorem Modest.segmentReceived (modest : c.Modest) {seg : TCPSegment}
    (received : c.segmentReceived seg = .ok c') : c'.Modest := by
  -- The first two cases queue nothing.
  rcases segmentReceived_ok.mp received with ⟨-, -, rfl⟩ | ⟨-, -, rfl⟩ | ⟨-, -, handled⟩
  · exact ⟨modest.sender, modest.queue⟩
  · exact ⟨modest.sender, modest.queue⟩
  · obtain ⟨r, acked, opened, parts⟩ := handle_ok.mp handled
    -- The sender hears the acknowledgment, and opens the connection if that is due.
    have heard : acked.Modest := by
      have step := parts.heard
      split at step
      · obtain ⟨s, acks, fills⟩ := step
        have kept : s.Modest := TCPSender.Modest.ackReceived modest.sender acks
        exact kept.fillWindow fills
      · rw [step]
        exact modest.sender
    have opens : opened.Modest := by
      have step := parts.opens
      split at step
      · exact heard.fillWindow step
      · rw [step]
        exact heard
    rw [← parts.result]
    apply Modest.seg2seg
    apply Modest.answer
    exact ⟨opens, modest.queue⟩

/-- A tick sends modest segments. -/
theorem Modest.tick (modest : c.Modest) (ms : Nat) : (c.tick ms).Modest := by
  have ticked : (c.ticked ms).Modest := ⟨modest.sender.tick ms, modest.queue⟩
  -- The connection waits for its end, gives up, or moves on what the sender repeats.
  unfold TCPConnection.tick
  dsimp only
  split
  · -- Waiting sends nothing.
    unfold tickTimeWait
    dsimp only
    split <;> exact ⟨ticked.sender, ticked.queue⟩
  · split
    · -- The queues are emptied, and only the reset goes out.
      have reset : TCPConnection.Modest { c.ticked ms with
          active := false
          sender := { (c.ticked ms).sender with segmentsOut := [] }.sendEmptySegmentRST
          segmentsOut := [] } := by
        refine ⟨?_, by intro seg member; cases member⟩
        intro seg member
        cases List.mem_append.mp member with
        | inl queued => exact ticked.sender seg (List.mem_append_left _ queued)
        | inr sent =>
          simp only [TCPSender.sendEmptySegmentRST, List.nil_append, List.mem_singleton] at sent
          rw [sent]
          exact ⟨rfl, Nat.zero_le _⟩
      have moved := reset.seg2seg
      exact ⟨moved.sender, moved.queue⟩
    · -- The retransmission, if there is one, is moved on.
      have moved := ticked.seg2seg
      exact ⟨moved.sender, moved.queue⟩

/-- Whatever is done to a connection, it only ever queues modest segments. -/
theorem Modest.perform (modest : c.Modest) (call : ConnectionCall)
    (performed : c.perform call = .ok c') : c'.Modest := by
  -- Every call fills the window, moves segments on, or both.
  cases call with
  | connect => exact modest.connect performed
  | write data =>
    exact (modest.withStream _).connect (perform_write.mp performed)
  | endInputStream =>
    rw [TCPConnection.perform, endInputStream_eq] at performed
    exact (modest.withStream _).connect performed
  | tick ms =>
    rw [TCPConnection.perform, Except.ok.injEq] at performed
    exact performed ▸ modest.tick ms
  | segment seg => exact modest.segmentReceived performed
  | reader call =>
    -- The reader has no access to the sender.
    obtain ⟨served, -, rfl⟩ := perform_reader.mp performed
    exact ⟨modest.sender, modest.queue⟩

end TCPConnection

end Sponge
