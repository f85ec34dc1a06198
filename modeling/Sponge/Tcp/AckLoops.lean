import Sponge.Tcp.EndToEnd
import Sponge.Tcp.FinLast

/-! A fresh acknowledgment provokes no acknowledgment: two endpoints cannot answer each other
forever. -/

namespace Sponge

namespace TCPConnection

variable {c c' : TCPConnection} {seg : TCPSegment}

/-- Connecting leaves nothing in the queue of the sender. -/
theorem connect_drained (connected : c.connect = .ok c') : c'.sender.segmentsOut = [] := by
  obtain ⟨s, _, rfl⟩ := connect_ok.mp connected
  rfl

/-- Neither does handling a segment. -/
theorem handle_drained (handled : c.handle seg = .ok c') : c'.sender.segmentsOut = [] := by
  obtain ⟨r, acked, opened, parts⟩ := handle_ok.mp handled
  obtain ⟨queue, rfl⟩ := parts.frame
  rfl

end TCPConnection

namespace Coupled

variable {x y : Endpoint} {sent received : List TCPSegment} {seg : TCPSegment}

/-- Every call leaves the queue of the sender empty. -/
theorem drained_step (coupled : Coupled x y sent received)
    (drained : x.connection.sender.segmentsOut = []) {call : EndpointCall} {next : Endpoint}
    (steps : x.step y.sent call = .ok next) : next.connection.sender.segmentsOut = [] := by
  -- Whatever lets the sender send moves its queue on before it returns.
  cases call with
  | connect =>
    simp only [Endpoint.step, bind_eq_ok, pure_eq_ok, Except.ok.injEq] at steps
    obtain ⟨c, connected, rfl⟩ := steps
    exact TCPConnection.connect_drained connected
  | write data =>
    simp only [Endpoint.step, bind_eq_ok, pure_eq_ok, Except.ok.injEq] at steps
    obtain ⟨⟨c, count⟩, written, rfl⟩ := steps
    exact TCPConnection.connect_drained (TCPConnection.write_ok.mp written).1
  | endInputStream =>
    simp only [Endpoint.step, bind_eq_ok, pure_eq_ok, Except.ok.injEq] at steps
    obtain ⟨c, ended, rfl⟩ := steps
    rw [TCPConnection.endInputStream_eq] at ended
    exact TCPConnection.connect_drained ended
  | tick ms =>
    rw [Endpoint.step, Except.ok.injEq] at steps
    subst steps
    exact ((TCPSender.Orderly.rule x.accepted x.connection.sender.isn).tick
      ⟨coupled.here.orderly, rfl⟩ drained ms).2.1
  | reader call =>
    simp only [Endpoint.step, bind_eq_ok, pure_eq_ok, Except.ok.injEq] at steps
    obtain ⟨served, _, rfl⟩ := steps
    exact drained
  | transmit =>
    rw [Endpoint.step, Except.ok.injEq, Endpoint.transmitted] at steps
    subst steps
    split <;> exact drained
  | deliver position =>
    rw [Endpoint.step] at steps
    split at steps
    · -- There is nothing to deliver.
      rw [Except.ok.injEq] at steps
      exact steps ▸ drained
    · simp only [bind_eq_ok, pure_eq_ok, Except.ok.injEq] at steps
      obtain ⟨c, got, rfl⟩ := steps
      rcases TCPConnection.segmentReceived_ok.mp got with ⟨_, _, rfl⟩ | ⟨_, _, rfl⟩ | ⟨_, _, handled⟩
      · exact drained
      · exact drained
      · -- Handling a segment ends with moving the queue on.
        exact TCPConnection.handle_drained handled

/-- What the peer numbers with its next position is no probe, once it is received. -/
theorem not_keepAlive (coupled : Coupled x y sent received)
    (fresh : seg.header.seqno = y.connection.sender.nextSeqno) :
    x.connection.isKeepAlive seg = false := by
  rw [TCPConnection.isKeepAlive]
  split
  · -- The receiver has no number yet.
    rfl
  · rename_i ackno found
    obtain ⟨syned, number⟩ := TCPReceiver.ackno_eq_some found
    have flow := coupled.inbound.flow
    have orderly := coupled.there.orderly
    -- The expected position is at most the next one, and all of them fit into 32 bits.
    have reached := flow.ackPoint_le orderly
    have next := orderly.next_le
    have small := orderly.small
    have positive : 0 < x.connection.receiver.ackPoint := by
      rw [TCPReceiver.ackPoint, if_pos syned]
      omega
    rw [Bool.and_eq_false_iff, decide_eq_false_iff_not, decide_eq_false_iff_not]
    refine .inr fun probe => ?_
    rw [fresh, number, (flow.isn syned).1, TCPSender.nextSeqno, wrap_back_one positive,
      wrap_eq_iff] at probe
    omega

/-- An empty segment that the peer numbers with its next position makes an endpoint send no empty
one. -/
theorem unanswered (coupled : Coupled x y sent received)
    (drained : x.connection.sender.segmentsOut = []) (arrives : seg ∈ y.sent)
    (empty : seg.lengthInSequenceSpace = 0) (plain : seg.header.rst = false)
    (fresh : seg.header.seqno = y.connection.sender.nextSeqno) :
    ∃ c new, x.connection.segmentReceived seg = .ok c ∧
      c.segmentsOut = x.connection.segmentsOut ++ new ∧
      ∀ out ∈ new, 0 < out.lengthInSequenceSpace := by
  obtain ⟨c, emitted, got, _⟩ := coupled.segmentReceived arrives
  refine ⟨c, ?_⟩
  rcases TCPConnection.segmentReceived_ok.mp got with ⟨_, _, rfl⟩ | ⟨_, resets, _⟩ |
    ⟨sentSyn, _, handled⟩
  · -- The segment is ignored.
    exact ⟨[], got, (List.append_nil _).symm, by simp⟩
  · exact absurd resets (by simp [plain])
  · -- The receiver takes the segment first, and stays coupled to the sender of the peer.
    obtain ⟨genuine, _⟩ := coupled.there.produced seg (List.mem_append_left _ arrives)
    obtain ⟨d, receives, coupled', _⟩ := coupled.receive genuine
    rw [TCPConnection.receive] at receives
    obtain ⟨r, received', same⟩ := bind_eq_ok.mp receives
    rw [pure_eq_ok, Except.ok.injEq] at same
    subst same
    obtain ⟨c', new, out, handled', answered⟩ :=
      (TCPSender.Orderly.rule x.accepted x.connection.sender.isn).handle
        (show (x.connection.noted seg).sender.Orderly x.accepted sent ∧
          (x.connection.noted seg).sender.isn = x.connection.sender.isn
          from ⟨coupled.here.orderly, rfl⟩) drained received' sentSyn
    rw [handled, Except.ok.injEq] at handled'
    subst handled'
    refine ⟨_, got, answered.queued, fun other member => ?_⟩
    obtain ⟨original, fresh', rfl⟩ := List.mem_map.mp member
    rw [TCPConnection.stamp_length]
    rcases answered.content with same | ⟨_, _, due | probe⟩
    · -- What the sender emits has a length.
      rw [same] at fresh'
      exact answered.kept.1.positive original (List.mem_append_right _ fresh')
    · -- The segment is empty, so it asks for no answer by its length.
      omega
    · -- It does not probe either.
      exact absurd ((coupled'.not_keepAlive fresh).symm.trans probe) Bool.false_ne_true

end Coupled

namespace System

variable {sys : System}

/-- Nothing is left in the queue of either sender. -/
def Drained (sys : System) : Prop :=
  ∀ side, (sys.side side).connection.sender.segmentsOut = []

/-- Every legal call returns, and keeps the system linked and drained. -/
theorem Drained.step (drained : sys.Drained) (linked : sys.Linked) {call : Side × EndpointCall}
    (legal : sys.Legal call) :
    ∃ next, sys.step call = .ok next ∧ next.Linked ∧ next.Drained := by
  -- The call returns, as the coupling says.
  obtain ⟨next, steps, linked'⟩ := linked.step legal
  refine ⟨next, steps, linked', ?_⟩
  obtain ⟨sent, received, coupled⟩ := linked.side call.1
  simp only [System.step, bind_eq_ok, pure_eq_ok, Except.ok.injEq] at steps
  obtain ⟨x, stepped, rfl⟩ := steps
  have moved := coupled.drained_step (drained call.1) stepped
  -- The other side has not moved.
  intro side
  rcases call with ⟨here, call⟩
  cases here with
  | a =>
    cases side with
    | a => exact moved
    | b => exact drained .b
  | b =>
    cases side with
    | a => exact drained .a
    | b => exact moved

/-- A fresh empty segment without RST makes the other side send no empty segment. -/
theorem fresh_ack_unanswered (cfgA cfgB : TCPConfig) (isnA isnB : WrappingInt32)
    (calls : List (Side × EndpointCall))
    (roomA : cfgA.sendCapacity + cfgB.recvCapacity < 2 ^ 31 - 2)
    (roomB : cfgB.sendCapacity + cfgA.recvCapacity < 2 ^ 31 - 2)
    (legal : Throughout step Legal (start cfgA cfgB isnA isnB) calls) :
    ∃ sys, runCalls step (start cfgA cfgB isnA isnB) calls = .ok sys ∧
      ∀ side position seg, (sys.side side.other).sent[position]? = some seg →
        seg.lengthInSequenceSpace = 0 → seg.header.rst = false →
        seg.header.seqno = (sys.side side.other).connection.sender.nextSeqno →
        ∃ next new, sys.step (side, .deliver position) = .ok next ∧
          (next.side side).connection.segmentsOut =
            (sys.side side).connection.segmentsOut ++ new ∧
          ∀ out ∈ new, 0 < out.lengthInSequenceSpace := by
  -- Both invariants are kept by every legal call.
  obtain ⟨sys, returned, linked, drained⟩ := legal.returns
    (fun sys => sys.Linked ∧ sys.Drained)
    (fun _ _ held legal => held.2.step held.1 legal)
    ⟨⟨[], [], .new roomA roomB isnA isnB⟩, fun side => by cases side <;> rfl⟩
  refine ⟨sys, returned, fun side position seg found empty plain fresh => ?_⟩
  obtain ⟨sent, received, coupled⟩ := linked.side side
  obtain ⟨c, new, got, queue, full⟩ := coupled.unanswered (drained side)
    (List.mem_of_getElem? found) empty plain fresh
  -- The segment is delivered as the next call of this side.
  have stepped : (sys.side side).step (sys.side side.other).sent (.deliver position) =
      .ok ((sys.side side).withConnection c) := by
    rw [Endpoint.step, found]
    dsimp only
    rw [got, ok_bind, pure_eq_ok]
  refine ⟨_, new, by rw [System.step, stepped, ok_bind, pure_eq_ok], ?_, full⟩
  cases side with
  | a => exact queue
  | b => exact queue

/-- The acknowledgment that completes a handshake is not acknowledged. -/
theorem fresh_ack_unanswered_handshake :
    ∃ sys seg next, runCalls step (start narrow narrow ⟨4294967294⟩ ⟨7⟩)
        [(.a, .connect), (.a, .transmit), (.b, .deliver 0), (.b, .transmit), (.a, .deliver 0),
          (.a, .transmit)] = .ok sys ∧
      sys.a.sent[1]? = some seg ∧ seg.lengthInSequenceSpace = 0 ∧
      sys.step (.b, .deliver 1) = .ok next ∧
      ∃ new, next.b.connection.segmentsOut = sys.b.connection.segmentsOut ++ new ∧
        ∀ out ∈ new, 0 < out.lengthInSequenceSpace := by
  -- The third segment of a handshake, with sequence numbers that wrap around.
  have ran : ∃ sys, runCalls step (start narrow narrow ⟨4294967294⟩ ⟨7⟩)
      [(.a, .connect), (.a, .transmit), (.b, .deliver 0), (.b, .transmit), (.a, .deliver 0),
        (.a, .transmit)] = .ok sys ∧
      ∃ seg ∈ sys.a.sent[1]?, seg.lengthInSequenceSpace = 0 ∧ seg.header.rst = false ∧
        seg.header.seqno = sys.a.connection.sender.nextSeqno := exists_runCalls (by decide +kernel)
  obtain ⟨sys, returned, seg, found, empty, plain, fresh⟩ := ran
  obtain ⟨sys', returned', unanswered⟩ := fresh_ack_unanswered narrow narrow ⟨4294967294⟩ ⟨7⟩
    [(.a, .connect), (.a, .transmit), (.b, .deliver 0), (.b, .transmit), (.a, .deliver 0),
      (.a, .transmit)] (by decide) (by decide) (by decide +kernel)
  rw [returned, Except.ok.injEq] at returned'
  subst returned'
  obtain ⟨next, new, stepped, queue, full⟩ := unanswered .b 1 seg found empty plain fresh
  exact ⟨sys, seg, next, returned, found, empty, stepped, new, queue, full⟩

end System

end Sponge
