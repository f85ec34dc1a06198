import Sponge.Tcp.Flow
import Sponge.Tcp.Network

/-! The invariant of two endpoints that feed each other, kept by every call on either. -/

namespace Sponge

namespace Endpoint

/-- A call that keeps the contract of the application: no write after the end, and few bytes. -/
def Legal (x y : Endpoint) : EndpointCall → Prop
  | .write data =>
    x.closed = false ∧
      (x.accepted ++ data.take (x.connection.sender.stream.write data).2).length +
        x.connection.cfg.sendCapacity + y.connection.cfg.recvCapacity < 2 ^ 31 - 2
  | _ => True

instance (x y : Endpoint) : DecidablePred (x.Legal y)
  | .write _ => inferInstanceAs (Decidable (_ ∧ _))
  | .connect => .isTrue trivial
  | .endInputStream => .isTrue trivial
  | .tick _ => .isTrue trivial
  | .reader _ => .isTrue trivial
  | .transmit => .isTrue trivial
  | .deliver _ => .isTrue trivial

end Endpoint

/-- A stamped segment is still genuine, and acknowledges what the receiver has reached. -/
theorem TCPConnection.stamp_genuine (c : TCPConnection) {emitted : List TCPSegment}
    {seg : TCPSegment} (genuine : Genuine emitted seg) (plain : seg.header.ack = false) :
    Genuine emitted (c.stamp seg) ∧ c.receiver.Acks (c.stamp seg) := by
  rw [TCPConnection.stamp]
  split
  · -- The receiver has nothing to acknowledge, so the segment goes as it is.
    exact ⟨genuine, fun carries => by simp [plain] at carries⟩
  · -- The stamped number is the one that the receiver has reached.
    rename_i ackno found
    obtain ⟨syned, number⟩ := TCPReceiver.ackno_eq_some found
    exact ⟨genuine, fun _ => ⟨syned, _, Nat.le_refl _, number⟩⟩

/-- An endpoint produces only genuine segments that acknowledge what it has assembled. -/
structure Producing (x : Endpoint) (emitted : List TCPSegment) : Prop where
  /-- The sender is orderly. -/
  orderly : x.connection.sender.Orderly x.accepted emitted
  /-- The outbound stream ends with the application's call. -/
  ended : x.connection.sender.stream.ended = x.closed
  /-- What waits in the sender is genuine, and does not acknowledge yet. -/
  queued : ∀ seg ∈ x.connection.sender.segmentsOut,
    Genuine emitted seg ∧ seg.header.ack = false
  /-- So is what has left the sender, and it acknowledges only assembled positions. -/
  produced : ∀ seg ∈ x.sent ++ x.connection.segmentsOut,
    Genuine emitted seg ∧ x.connection.receiver.Acks seg

/-- The bytes of one endpoint flow to the other, within the bounds on their number. -/
structure Feeding (x y : Endpoint) (emitted : List TCPSegment) : Prop where
  /-- The receiver of one assembles what the sender of the other emits. -/
  flow : Flow x.connection.sender x.accepted emitted y.connection.receiver y.popped
  /-- The accepted bytes and the capacities are bounded. -/
  room : x.accepted.length + x.connection.cfg.sendCapacity + y.connection.cfg.recvCapacity <
    2 ^ 31 - 2
  /-- The reassembler has the configured capacity. -/
  capacity : y.connection.receiver.reassembler.capacity = y.connection.cfg.recvCapacity

/-- Two endpoints that feed each other. -/
structure Coupled (x y : Endpoint) (sent received : List TCPSegment) : Prop where
  /-- One produces what it has emitted. -/
  here : Producing x sent
  /-- So does the other. -/
  there : Producing y received
  /-- The bytes of one flow to the other. -/
  outbound : Feeding x y sent
  /-- The bytes of the other flow back. -/
  inbound : Feeding y x received

namespace Coupled

variable {x y : Endpoint} {sent received : List TCPSegment} {seg : TCPSegment}

/-- Neither endpoint is special. -/
theorem symm (coupled : Coupled x y sent received) : Coupled y x received sent :=
  ⟨coupled.there, coupled.here, coupled.inbound, coupled.outbound⟩

/-- Two fresh endpoints are coupled. -/
theorem new {cfg cfg' : TCPConfig} (room : cfg.sendCapacity + cfg'.recvCapacity < 2 ^ 31 - 2)
    (room' : cfg'.sendCapacity + cfg.recvCapacity < 2 ^ 31 - 2) (isn isn' : WrappingInt32) :
    Coupled { connection := .new cfg isn } { connection := .new cfg' isn' } [] [] := by
  -- Either endpoint has sent nothing.
  have producing : ∀ cfg isn, Producing { connection := .new cfg isn } [] := by
    intro cfg isn
    refine ⟨TCPSender.orderly_new _ _ _, rfl, ?_, ?_⟩
    · simp [TCPConnection.new, TCPSender.new]
    · simp [TCPConnection.new]
  refine ⟨producing _ _, producing _ _, ⟨.new _ _ _ _, ?_, rfl⟩, ⟨.new _ _ _ _, ?_, rfl⟩⟩
  · simpa [TCPConnection.new] using room
  · simpa [TCPConnection.new] using room'

/-- The sender goes on from one state to another. -/
theorem sends (coupled : Coupled x y sent received) {s : TCPSender} {emitted : List TCPSegment}
    {accepted : Bytes} {closed : Bool} (orderly : s.Orderly accepted emitted)
    (more : sent <+: emitted) (fixed : ¬ NoFin sent → accepted = x.accepted)
    (isn : s.isn = x.connection.sender.isn)
    (base : s.base ≤ y.connection.receiver.ackPoint) (ended : s.stream.ended = closed)
    (queued : ∀ seg ∈ s.segmentsOut, Genuine emitted seg ∧ seg.header.ack = false)
    (room : accepted.length + x.connection.cfg.sendCapacity + y.connection.cfg.recvCapacity <
      2 ^ 31 - 2) :
    Coupled { x with
      connection := { x.connection with sender := s }
      accepted := accepted
      closed := closed } y emitted received := by
  -- The peer is untouched, and the receiver of this side is too.
  refine ⟨⟨orderly, ended, queued, ?_⟩, coupled.there,
    ⟨coupled.outbound.flow.sends more fixed isn base, room, coupled.outbound.capacity⟩,
    ⟨coupled.inbound.flow, coupled.inbound.room, coupled.inbound.capacity⟩⟩
  -- What was produced before belongs to the longer history as well.
  intro seg member
  obtain ⟨genuine, acks⟩ := coupled.here.produced seg member
  exact ⟨genuine.mono more, acks⟩

/-- The receiver moves on, and its reader may take bytes. -/
theorem receives (coupled : Coupled x y sent received) {r : TCPReceiver} {popped : Bytes}
    (flow : Flow y.connection.sender y.accepted received r popped)
    (advances : x.connection.receiver.Advances r)
    (capacity : r.reassembler.capacity = x.connection.receiver.reassembler.capacity) :
    Coupled { x with connection := { x.connection with receiver := r }, popped := popped } y
      sent received := by
  -- The receiver's progress leaves the sender and the peer as they are.
  refine ⟨⟨coupled.here.orderly, coupled.here.ended, coupled.here.queued, ?_⟩, coupled.there,
    ⟨coupled.outbound.flow, coupled.outbound.room, coupled.outbound.capacity⟩,
    ⟨flow, coupled.inbound.room, capacity.trans coupled.inbound.capacity⟩⟩
  -- An old acknowledgment is still one of something received.
  intro seg member
  obtain ⟨genuine, acks⟩ := coupled.here.produced seg member
  exact ⟨genuine, acks.mono advances⟩

/-- The queues change, but what they hold stays genuine. -/
theorem queues (coupled : Coupled x y sent received) (waiting out gone : List TCPSegment)
    (queued : ∀ seg ∈ waiting, Genuine sent seg ∧ seg.header.ack = false)
    (produced : ∀ seg ∈ gone ++ out, Genuine sent seg ∧ x.connection.receiver.Acks seg) :
    Coupled { x with
      connection := { x.connection with
        sender := { x.connection.sender with segmentsOut := waiting }
        segmentsOut := out }
      sent := gone } y sent received := by
  -- The invariant of the sender does not look at its queue.
  have orderly := coupled.here.orderly.congr waiting x.connection.sender.timePassed
    x.connection.sender.rto x.connection.sender.recount
  exact ⟨⟨orderly, coupled.here.ended, queued, produced⟩, coupled.there,
    ⟨⟨coupled.outbound.flow.data, coupled.outbound.flow.isn, coupled.outbound.flow.acked⟩,
      coupled.outbound.room, coupled.outbound.capacity⟩,
    ⟨coupled.inbound.flow, coupled.inbound.room, coupled.inbound.capacity⟩⟩

/-- The flags and the clocks of the connection do not matter. -/
theorem flags (coupled : Coupled x y sent received) (linger active : Bool) (since waited : Nat) :
    Coupled (x.withConnection { x.connection with
      lingerAfterStreamsFinish := linger
      active := active
      timeSinceLastSegmentReceived := since
      sinceTimeWait := waited }) y sent received :=
  ⟨⟨coupled.here.orderly, coupled.here.ended, coupled.here.queued, coupled.here.produced⟩,
    coupled.there, ⟨coupled.outbound.flow, coupled.outbound.room, coupled.outbound.capacity⟩,
    ⟨coupled.inbound.flow, coupled.inbound.room, coupled.inbound.capacity⟩⟩

/-- The error flags of the streams do not matter. -/
theorem setError (coupled : Coupled x y sent received) :
    Coupled (x.withConnection x.connection.setError) y sent received := by
  have orderly := coupled.here.orderly
  have out := coupled.outbound.flow
  have back := coupled.inbound.flow
  -- No invariant mentions the error flags, so each of its parts is carried over.
  exact ⟨⟨⟨orderly.tracked.congr rfl rfl rfl rfl rfl rfl, orderly.content, orderly.written,
        orderly.small, orderly.positive, orderly.syn, orderly.fin, orderly.finSent,
        orderly.started⟩, coupled.here.ended, coupled.here.queued, coupled.here.produced⟩,
    coupled.there, ⟨⟨out.data, out.isn, out.acked⟩, coupled.outbound.room,
      coupled.outbound.capacity⟩,
    ⟨⟨back.data.setError, back.isn, back.acked⟩, coupled.inbound.room, coupled.inbound.capacity⟩⟩

/-- Filling the window returns and keeps the endpoints coupled. -/
theorem fillWindow (coupled : Coupled x y sent received) :
    ∃ c emitted, x.connection.fillWindow = .ok c ∧
      Coupled (x.withConnection c) y emitted received := by
  -- The sender's own lemma says that the call returns.
  obtain ⟨s, new, filled, out, orderly, isn, base, ended⟩ := coupled.here.orderly.fillWindow
  refine ⟨{ x.connection with sender := s }, sent ++ new, ?_, ?_⟩
  · rw [TCPConnection.fillWindow, filled, ok_bind, pure_eq_ok]
  · refine coupled.sends orderly (List.prefix_append _ _) (fun _ => rfl) isn ?_
      (ended.trans coupled.here.ended) ?_ coupled.outbound.room
    · -- The oldest outstanding position is where it was.
      rw [base]
      exact coupled.outbound.flow.acked
    · -- The queue grows by what is emitted.
      intro seg member
      rw [out] at member
      -- The queue holds what it held before and what is emitted now.
      rcases List.mem_append.mp member with old | fresh
      · obtain ⟨genuine, plain⟩ := coupled.here.queued seg old
        exact ⟨genuine.mono (List.prefix_append _ _), plain⟩
      · have emitted : seg ∈ sent ++ new := List.mem_append_right _ fresh
        exact ⟨genuine_of_mem emitted, orderly.plain emitted⟩

/-- A genuine segment is received and keeps the endpoints coupled. -/
theorem receive (coupled : Coupled x y sent received) (genuine : Genuine received seg) :
    ∃ c, x.connection.receive seg = .ok c ∧ Coupled (x.withConnection c) y sent received ∧
      c.sender = x.connection.sender := by
  have room := coupled.inbound.room
  have capacity := coupled.inbound.capacity
  -- The reassembler's capacity bounds what may be ahead of the stream.
  obtain ⟨r, got, same, advances, flow⟩ := coupled.inbound.flow.receives coupled.there.orderly
    (by omega) genuine
  refine ⟨{ x.connection with receiver := r }, ?_, coupled.receives flow advances same, rfl⟩
  rw [TCPConnection.receive, got, ok_bind, pure_eq_ok]

/-- The acknowledgment in a segment of the peer keeps the endpoints coupled. -/
theorem handleAck (coupled : Coupled x y sent received) (acks : y.connection.receiver.Acks seg)
    (sentSyn : seg.header.ack = true → 0 < x.connection.sender.nextSeqnoAbsolute) :
    ∃ c emitted, x.connection.handleAck seg.header = .ok c ∧
      Coupled (x.withConnection c) y emitted received := by
  rw [TCPConnection.handleAck]
  split
  · -- An acknowledgment of the peer is one of something that this side has sent.
    rename_i carries
    obtain ⟨s, got, orderly, flow, stream, out⟩ := coupled.outbound.flow.acknowledged
      coupled.here.orderly acks carries (sentSyn carries)
    have queued : ∀ seg ∈ s.segmentsOut, Genuine sent seg ∧ seg.header.ack = false := by
      rw [out]
      exact coupled.here.queued
    have ended : s.stream.ended = x.closed := by rw [stream, coupled.here.ended]
    -- Only the sender has changed.
    have acked : Coupled (x.withConnection { x.connection with sender := s }) y sent received :=
      ⟨⟨orderly, ended, queued, coupled.here.produced⟩, coupled.there,
        ⟨flow, coupled.outbound.room, coupled.outbound.capacity⟩,
        ⟨coupled.inbound.flow, coupled.inbound.room, coupled.inbound.capacity⟩⟩
    rw [got, ok_bind]
    exact acked.fillWindow
  · -- There is no acknowledgment to handle.
    exact ⟨x.connection, sent, rfl, coupled⟩

/-- The SYN in answer to the peer's keeps the endpoints coupled. -/
theorem answerSyn (coupled : Coupled x y sent received) :
    ∃ c emitted, x.connection.answerSyn = .ok c ∧
      Coupled (x.withConnection c) y emitted received := by
  rw [TCPConnection.answerSyn]
  split
  · -- The SYN is due.
    exact coupled.fillWindow
  · -- It is not due, or was sent before.
    exact ⟨x.connection, sent, rfl, coupled⟩

/-- An empty segment keeps the endpoints coupled. -/
theorem answer (coupled : Coupled x y sent received) (due : Bool) :
    Coupled (x.withConnection (x.connection.answer due)) y sent received := by
  rw [TCPConnection.answer]
  split
  · -- The empty segment carries neither data nor an acknowledgment of its own.
    refine coupled.queues _ _ _ ?_ coupled.here.produced
    intro seg member
    rcases List.mem_append.mp member with old | fresh
    · exact coupled.here.queued seg old
    · rw [List.mem_singleton.mp fresh]
      exact ⟨.inr ⟨rfl, rfl, rfl⟩, rfl⟩
  · exact coupled

/-- Moving the segments on keeps the endpoints coupled. -/
theorem seg2seg (coupled : Coupled x y sent received) :
    Coupled (x.withConnection x.connection.seg2seg) y sent received := by
  refine coupled.queues _ _ _ (by simp) ?_
  intro seg member
  rw [← List.append_assoc] at member
  -- What was in the queue, and what the sender adds with a stamp.
  rcases List.mem_append.mp member with old | fresh
  · exact coupled.here.produced seg old
  · obtain ⟨original, waiting, rfl⟩ := List.mem_map.mp fresh
    obtain ⟨genuine, plain⟩ := coupled.here.queued original waiting
    exact x.connection.stamp_genuine genuine plain

/-- A segment of the peer is handled and keeps the endpoints coupled. -/
theorem handle (coupled : Coupled x y sent received) (arrives : seg ∈ y.sent)
    (sentSyn : seg.header.ack = true → 0 < x.connection.sender.nextSeqnoAbsolute) :
    ∃ c emitted, x.connection.handle seg = .ok c ∧
      Coupled (x.withConnection c) y emitted received := by
  -- The receiver first, then the sender, the SYN and the answer.
  obtain ⟨genuine, acks⟩ := coupled.there.produced seg (List.mem_append_left _ arrives)
  obtain ⟨c, got, coupled, same⟩ := coupled.receive genuine
  obtain ⟨acked, _, heard, coupled⟩ := coupled.handleAck acks (fun carries => by
    rw [Endpoint.withConnection_connection, same]
    exact sentSyn carries)
  obtain ⟨opened, emitted, answered, coupled⟩ := coupled.answerSyn
  simp only [Endpoint.withConnection_connection, Endpoint.withConnection_withConnection] at *
  refine ⟨_, emitted, by rw [TCPConnection.handle, got, ok_bind, heard, ok_bind, answered,
    ok_bind, pure_eq_ok], ?_⟩
  exact ((coupled.answer _).answer _).seg2seg

/-- Filling the window and moving the segments on keeps the endpoints coupled. -/
theorem connect (coupled : Coupled x y sent received) :
    ∃ c emitted, x.connection.connect = .ok c ∧
      Coupled (x.withConnection c) y emitted received := by
  obtain ⟨c, emitted, filled, coupled⟩ := coupled.fillWindow
  exact ⟨c.seg2seg, emitted, by rw [TCPConnection.connect, filled, ok_bind, pure_eq_ok],
    coupled.seg2seg⟩

/-- A write before the end keeps the endpoints coupled. -/
theorem write (coupled : Coupled x y sent received) {data : Bytes}
    (legal : x.Legal y (.write data)) :
    ∃ c emitted, x.connection.write data = .ok (c, (x.connection.sender.stream.write data).2) ∧
      Coupled { x.withConnection c with
        accepted := x.accepted ++ data.take (x.connection.sender.stream.write data).2 } y
        emitted received := by
  -- A legal write comes before the end of the stream, and leaves room for its bytes.
  obtain ⟨writing, room⟩ := legal
  have orderly := coupled.here.orderly
  have unended : x.connection.sender.stream.ended = false := by rw [coupled.here.ended, writing]
  have ended : (x.connection.sender.stream.write data).1.ended = x.closed := by
    rw [← coupled.here.ended, ByteStream.write]
    split <;> rfl
  have wrote := orderly.write data (.inl (orderly.noFin_of_writing unended)) (by omega)
  -- Before the end of the stream, no FIN can have been emitted.
  have none : NoFin sent := by
    by_contra some
    exact absurd (orderly.next_of_fin some).2.1 (by simp [unended])
  have coupled := coupled.sends wrote (List.prefix_refl _) (fun some => absurd none some) rfl
    coupled.outbound.flow.acked ended coupled.here.queued room
  -- The bytes are in the stream, and the window is filled as by any other call.
  obtain ⟨c, emitted, filled, coupled⟩ := coupled.fillWindow
  refine ⟨c.seg2seg, emitted, ?_, coupled.seg2seg⟩
  rw [TCPConnection.write, filled, ok_bind, pure_eq_ok]

/-- The end of the outbound stream keeps the endpoints coupled. -/
theorem endInputStream (coupled : Coupled x y sent received) :
    ∃ c emitted, x.connection.endInputStream = .ok c ∧
      Coupled { x.withConnection c with closed := true } y emitted received := by
  -- The flag is set first, so that the FIN may be sent at once.
  have ended : x.connection.sender.stream.endInput.ended = true := rfl
  have coupled := coupled.sends coupled.here.orderly.endInput (List.prefix_refl _)
    (fun _ => rfl) rfl coupled.outbound.flow.acked ended coupled.here.queued coupled.outbound.room
  obtain ⟨c, emitted, filled, coupled⟩ := coupled.fillWindow
  refine ⟨c.seg2seg, emitted, ?_, coupled.seg2seg⟩
  rw [TCPConnection.endInputStream, filled, ok_bind, pure_eq_ok]

/-- Whatever the peer has sent is received and keeps the endpoints coupled. -/
theorem segmentReceived (coupled : Coupled x y sent received) (arrives : seg ∈ y.sent) :
    ∃ c emitted, x.connection.segmentReceived seg = .ok c ∧
      Coupled (x.withConnection c) y emitted received := by
  rw [TCPConnection.segmentReceived]
  split
  · exact ⟨_, sent, rfl, coupled.flags _ _ _ _⟩
  · -- Past the first guard, an acknowledgment means that the SYN was sent.
    rename_i unexpected
    split
    · exact ⟨_, sent, rfl, coupled.setError.flags _ _ _ _⟩
    · exact (coupled.flags _ _ _ _).handle arrives
        (fun carries => Nat.pos_of_ne_zero fun zero => unexpected ⟨zero, carries⟩)

/-- Time passes for the sender. -/
theorem ticked (coupled : Coupled x y sent received) (ms : Nat) :
    Coupled (x.withConnection (x.connection.ticked ms)) y sent received := by
  -- Of the sender only the queue and the timer change.
  obtain ⟨again, timePassed, rto, recount, ticks, oldest⟩ := x.connection.sender.tick_eq ms
  have orderly := coupled.here.orderly
  have queued : ∀ seg ∈ x.connection.sender.segmentsOut ++ again,
      Genuine sent seg ∧ seg.header.ack = false := by
    intro seg member
    rcases List.mem_append.mp member with old | new
    · -- The segment was in the queue before.
      exact coupled.here.queued seg old
    · -- Only an outstanding segment is sent again.
      rcases oldest with none | ⟨rest, first, queue, one⟩
      · simp [none] at new
      · rw [one, List.mem_singleton] at new
        have emitted : seg ∈ sent := orderly.tracked.queue.subset (by simp [queue, new])
        exact ⟨genuine_of_mem emitted, orderly.plain emitted⟩
  rw [TCPConnection.ticked, ticks]
  have coupled := coupled.sends (orderly.congr (x.connection.sender.segmentsOut ++ again)
    timePassed rto recount) (List.prefix_refl _) (fun _ => rfl) rfl coupled.outbound.flow.acked
    coupled.here.ended queued coupled.outbound.room
  exact coupled.flags _ _ _ _

/-- A tick keeps the endpoints coupled. -/
theorem tick (coupled : Coupled x y sent received) (ms : Nat) :
    Coupled (x.withConnection (x.connection.tick ms)) y sent received := by
  have ticked := coupled.ticked ms
  rw [TCPConnection.tick]
  split
  · -- TIME_WAIT only counts the time, and clears the flag at the end.
    rw [TCPConnection.tickTimeWait]
    split
    · exact ticked.flags _ _ _ _
    · exact ticked.flags _ _ _ _
  · split
    · -- Only the reset is left in the queues.
      have emptied := ticked.queues
        [{ header := { seqno := (x.connection.sender.tick ms).nextSeqno, rst := true } }] [] x.sent
        (by simp [Genuine]) (fun seg member =>
          coupled.here.produced seg (List.mem_append_left _ (by simpa using member)))
      exact (emptied.flags _ false _ _).seg2seg.setError.flags _ _ _ _
    · -- What was sent again is moved on.
      exact ticked.seg2seg.flags _ _ _ _

/-- A call of the reader returns and keeps the endpoints coupled. -/
theorem reader (coupled : Coupled x y sent received) (call : ByteStream.ReaderCall) :
    ∃ bytes output, x.connection.inboundStream.serve call = .ok (bytes, output) ∧
      Coupled (x.served bytes output) y sent received := by
  have sound := coupled.inbound.flow.data.sound
  have small := sound.small
  -- Fewer than `2 ^ 31` bytes were assembled, so no counter has wrapped.
  simp only [StreamReassembler.assembled, List.length_append] at small
  obtain ⟨len, inside, served⟩ := sound.counts.serve (by omega) call
  exact ⟨_, _, served, coupled.receives (coupled.inbound.flow.taken inside)
    ⟨fun syned => ⟨syned, rfl⟩, Nat.le_refl _⟩ rfl⟩

/-- Handing a segment to the network keeps the endpoints coupled. -/
theorem transmitted (coupled : Coupled x y sent received) :
    Coupled x.transmitted y sent received := by
  rw [Endpoint.transmitted]
  split
  · exact coupled
  · -- The segment only moves from the queue to what was sent.
    rename_i seg rest front
    refine coupled.queues _ _ _ coupled.here.queued ?_
    intro other member
    refine coupled.here.produced other ?_
    rw [front]
    simpa using member

/-- Every legal call returns and keeps the endpoints coupled. -/
theorem step (coupled : Coupled x y sent received) {call : EndpointCall} (legal : x.Legal y call) :
    ∃ next emitted, x.step y.sent call = .ok next ∧ Coupled next y emitted received := by
  -- Each call has its own lemma; a delivery finds a segment that the peer has sent.
  cases call with
  | connect =>
    obtain ⟨c, emitted, connected, coupled⟩ := coupled.connect
    exact ⟨_, emitted, by rw [Endpoint.step, connected, ok_bind, pure_eq_ok], coupled⟩
  | write data =>
    obtain ⟨c, emitted, written, coupled⟩ := coupled.write legal
    exact ⟨_, emitted, by rw [Endpoint.step, written, ok_bind, pure_eq_ok], coupled⟩
  | endInputStream =>
    obtain ⟨c, emitted, ended, coupled⟩ := coupled.endInputStream
    exact ⟨_, emitted, by rw [Endpoint.step, ended, ok_bind, pure_eq_ok], coupled⟩
  | tick ms => exact ⟨_, sent, rfl, coupled.tick ms⟩
  | reader call =>
    obtain ⟨bytes, output, served, coupled⟩ := coupled.reader call
    exact ⟨_, sent, by rw [Endpoint.step, served, ok_bind, pure_eq_ok], coupled⟩
  | transmit => exact ⟨_, sent, rfl, coupled.transmitted⟩
  | deliver position =>
    rw [Endpoint.step]
    split
    · -- There is no such segment, so nothing is delivered.
      exact ⟨x, sent, rfl, coupled⟩
    · -- The segment was sent by the peer.
      rename_i seg found
      obtain ⟨c, emitted, got, coupled⟩ := coupled.segmentReceived (List.mem_of_getElem? found)
      exact ⟨_, emitted, by rw [got, ok_bind, pure_eq_ok], coupled⟩

end Coupled

end Sponge
