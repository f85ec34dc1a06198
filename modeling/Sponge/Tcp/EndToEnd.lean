import Sponge.Tcp.ConnectionLaws
import Sponge.Tcp.Coupling

/-! End to end: what one endpoint writes is what the other reads, and a clean close means all of it. -/

namespace Sponge

namespace Coupled

variable {x y : Endpoint} {sent received : List TCPSegment}

/-- What an endpoint has assembled leads what its peer has accepted, and ends where that ends. -/
theorem delivered (coupled : Coupled x y sent received) :
    y.delivered <+: x.accepted ∧
      (y.connection.inboundStream.inputEnded = true →
        y.delivered = x.accepted ∧ x.closed = true) := by
  have orderly := coupled.here.orderly
  have data := coupled.outbound.flow.data
  have emitted : payloads sent <+: x.accepted := ⟨_, orderly.content⟩
  -- What is delivered was emitted, and what was emitted had been accepted.
  have leads : y.delivered <+: x.accepted := data.content.trans emitted
  refine ⟨leads, fun finished => ?_⟩
  obtain ⟨some, whole⟩ := data.ended finished
  refine ⟨leads.eq_of_length whole, ?_⟩
  rw [← coupled.here.ended]
  exact (orderly.next_of_fin some).2.1

end Coupled

namespace TCPSender

/-- The absolute number of the oldest outstanding segment, or the next one if there is none. -/
def oldestAbsolute (s : TCPSender) : Nat :=
  match s.outstandings with
  | [] => s.nextSeqnoAbsolute
  | seg :: _ => offsetFrom seg.header.seqno s.isn

/-- The oldest outstanding segment starts where the dropped ones end. -/
theorem Orderly.oldestAbsolute_eq {s : TCPSender} {accepted : Bytes} {emitted : List TCPSegment}
    (orderly : s.Orderly accepted emitted) : s.oldestAbsolute = s.base := by
  have total := orderly.tracked.base_add
  have bound := orderly.next_le
  have small := orderly.small
  have chain := orderly.tracked.consecutive_queue
  rw [oldestAbsolute]
  -- Positions are small enough to be read off the sequence number.
  split
  · rename_i none
    rw [none, occupied_nil] at total
    omega
  · rename_i seg rest some
    rw [some] at chain
    rw [chain.1, offsetFrom_wrap, Nat.mod_eq_of_lt (by omega)]

/-- Without a position in flight, the queue is empty. -/
theorem Orderly.outstandings_nil {s : TCPSender} {accepted : Bytes} {emitted : List TCPSegment}
    (orderly : s.Orderly accepted emitted) (quiet : s.bytesInFlight = 0) : s.outstandings = [] := by
  -- Everything emitted occupies a position, and what is outstanding was emitted.
  refine eq_nil_of_occupied_eq_zero (fun seg member => ?_)
    (orderly.tracked.flights.symm.trans quiet)
  exact orderly.positive seg (orderly.tracked.queue.subset member)

end TCPSender

/-- Both streams are complete at both ends, and nothing is left to send or to acknowledge. -/
structure Complete (x y : Endpoint) : Prop where
  /-- The inbound stream of the peer has ended with every accepted byte. -/
  outbound : y.connection.inboundStream.inputEnded = true ∧ y.delivered = x.accepted
  /-- The inbound stream has ended with every byte that the peer has accepted. -/
  inbound : x.connection.inboundStream.inputEnded = true ∧ x.delivered = y.accepted
  /-- No byte is left unsent. -/
  sent : x.connection.sender.streamIn.buffer = []
  /-- No segment is left unacknowledged. -/
  acknowledged : x.connection.sender.outstandings = []

namespace Coupled

variable {x y : Endpoint} {sent received : List TCPSegment}

/-- Once everything up to the FIN is acknowledged and the peer has finished, all is complete. -/
theorem complete (coupled : Coupled x y sent received)
    (ended : x.connection.inboundStream.inputEnded = true)
    (eof : x.connection.sender.streamIn.eof = true)
    (next : add64 x.connection.sender.streamIn.bytesWritten 2 ≤
      x.connection.sender.nextSeqnoAbsolute)
    (quiet : x.connection.sender.bytesInFlight = 0) : Complete x y := by
  have orderly := coupled.here.orderly
  have flow := coupled.outbound.flow
  have small := orderly.small
  have none := orderly.outstandings_nil quiet
  -- Nothing is outstanding, so the peer expects the position behind the FIN.
  have base := orderly.tracked.base_add
  have acked := flow.acked
  have point := flow.ackPoint_eq
  have bytes : y.connection.receiver.reassembler.assembled y.popped ≤ x.accepted.length :=
    coupled.delivered.1.length_le
  rw [TCPSender.streamIn, orderly.bytesWritten, add64_of_lt (by omega)] at next
  rw [none, occupied_nil] at base
  have finished : y.connection.inboundStream.inputEnded = true := by
    -- Otherwise the peer would expect the position of the FIN at most.
    by_contra unfinished
    have flag : y.connection.receiver.reassembler.output.ended = false :=
      Bool.eq_false_iff.mpr unfinished
    rw [flag, if_neg Bool.false_ne_true] at point
    split at point <;> omega
  have buffer : x.connection.sender.streamIn.buffer = [] := by
    -- The stream is at its end, so nothing is left in it.
    simp only [ByteStream.eof, Bool.and_eq_true, beq_iff_eq] at eof
    exact List.length_eq_zero_iff.mp eof.2
  exact ⟨⟨finished, (coupled.delivered.2 finished).1⟩,
    ⟨ended, (coupled.symm.delivered.2 ended).1⟩, buffer, none⟩

end Coupled

namespace System

variable {sys : System}

/-- A call that keeps the contract on its side. -/
def Legal (sys : System) (call : Side × EndpointCall) : Prop :=
  (sys.side call.1).Legal (sys.side call.1.other) call.2

instance (sys : System) : DecidablePred sys.Legal :=
  fun call => inferInstanceAs (Decidable ((sys.side call.1).Legal (sys.side call.1.other) call.2))

/-- The two endpoints are coupled. -/
def Linked (sys : System) : Prop := ∃ sent received, Coupled sys.a sys.b sent received

/-- The endpoints are coupled as seen from either side. -/
theorem Linked.side (linked : sys.Linked) (side : Side) :
    ∃ sent received, Coupled (sys.side side) (sys.side side.other) sent received := by
  -- The coupling is symmetric.
  obtain ⟨sent, received, coupled⟩ := linked
  cases side with
  | a => exact ⟨sent, received, coupled⟩
  | b => exact ⟨received, sent, coupled.symm⟩

/-- Replacing an endpoint by one that is coupled to the other keeps the system linked. -/
theorem linked_put {side : Side} {x : Endpoint} {sent received : List TCPSegment}
    (coupled : Coupled x (sys.side side.other) sent received) : (sys.put x side).Linked := by
  cases side with
  | a => exact ⟨sent, received, coupled⟩
  | b => exact ⟨received, sent, coupled.symm⟩

/-- Every legal call returns and keeps the system linked. -/
theorem Linked.step (linked : sys.Linked) {call : Side × EndpointCall} (legal : sys.Legal call) :
    ∃ next, sys.step call = .ok next ∧ next.Linked := by
  obtain ⟨sent, received, coupled⟩ := linked.side call.1
  obtain ⟨x, emitted, stepped, coupled⟩ := coupled.step legal
  exact ⟨_, by rw [System.step, stepped, ok_bind, pure_eq_ok], linked_put coupled⟩

/-- Every run of legal calls returns a linked system. -/
theorem linked_run {cfgA cfgB : TCPConfig} {isnA isnB : WrappingInt32}
    {calls : List (Side × EndpointCall)}
    (roomA : cfgA.sendCapacity + cfgB.recvCapacity < 2 ^ 31 - 2)
    (roomB : cfgB.sendCapacity + cfgA.recvCapacity < 2 ^ 31 - 2)
    (legal : Throughout step Legal (start cfgA cfgB isnA isnB) calls) :
    ∃ sys, runCalls step (start cfgA cfgB isnA isnB) calls = .ok sys ∧ sys.Linked :=
  legal.returns Linked (fun _ _ linked legal => linked.step legal)
    ⟨[], [], .new roomA roomB isnA isnB⟩

/-- Small capacities, so that windows close. -/
def narrow : TCPConfig := { rtTimeout := 100, recvCapacity := 4, sendCapacity := 8 }

/-- A handshake with a repeated SYN, then data that is reordered, lost and sent again. -/
def opening : List (Side × EndpointCall) :=
  [(.a, .connect), (.a, .transmit), (.b, .deliver 0), (.b, .deliver 0), (.b, .transmit),
    (.b, .transmit), (.a, .deliver 1), (.a, .deliver 0), (.a, .transmit), (.b, .deliver 1),
    (.a, .write [1, 2]), (.a, .write [3, 4, 5]), (.a, .endInputStream), (.a, .transmit),
    (.a, .transmit), (.b, .deliver 3), (.a, .tick 100), (.a, .transmit), (.b, .deliver 4)]

/-- A closed window that is probed, data in the other direction, and the two FINs. -/
def closing : List (Side × EndpointCall) :=
  [(.b, .transmit), (.b, .transmit), (.b, .reader (.read 4)), (.b, .write [9]), (.b, .transmit),
    (.a, .deliver 3), (.a, .transmit), (.b, .deliver 5), (.b, .transmit), (.a, .deliver 5),
    (.a, .transmit), (.b, .deliver 6), (.b, .transmit), (.a, .deliver 4), (.a, .transmit),
    (.a, .deliver 6), (.b, .deliver 7), (.b, .reader (.pop 1)), (.b, .endInputStream),
    (.b, .transmit), (.a, .deliver 7), (.a, .transmit), (.a, .reader (.read 9)), (.b, .deliver 8)]

/-- On either side, what was delivered leads what the other side accepted, and ends with all of it. -/
theorem end_to_end_safety (cfgA cfgB : TCPConfig) (isnA isnB : WrappingInt32)
    (calls : List (Side × EndpointCall))
    (roomA : cfgA.sendCapacity + cfgB.recvCapacity < 2 ^ 31 - 2)
    (roomB : cfgB.sendCapacity + cfgA.recvCapacity < 2 ^ 31 - 2)
    (legal : Throughout step Legal (start cfgA cfgB isnA isnB) calls) :
    ∃ sys, runCalls step (start cfgA cfgB isnA isnB) calls = .ok sys ∧
      ∀ side,
        (sys.side side.other).delivered <+: (sys.side side).accepted ∧
          ((sys.side side.other).connection.inboundStream.inputEnded = true →
            (sys.side side.other).delivered = (sys.side side).accepted ∧
              (sys.side side).closed = true) := by
  -- The endpoints stay coupled along every legal run.
  obtain ⟨sys, returned, linked⟩ := linked_run roomA roomB legal
  refine ⟨sys, returned, fun side => ?_⟩
  obtain ⟨sent, received, coupled⟩ := linked.side side
  exact coupled.delivered

/-- Data that was reordered, lost and sent again reaches the other side in order. -/
theorem end_to_end_safety_opening :
    ∃ sys, runCalls step (start narrow narrow ⟨4294967294⟩ ⟨7⟩) opening = .ok sys ∧
      ∀ side,
        (sys.side side.other).delivered <+: (sys.side side).accepted ∧
          ((sys.side side.other).connection.inboundStream.inputEnded = true →
            (sys.side side.other).delivered = (sys.side side).accepted ∧
              (sys.side side).closed = true) :=
  end_to_end_safety narrow narrow _ _ opening (by decide) (by decide) (by decide +kernel)

/-- No segment is dropped before the peer has assembled it, and nothing unsent is acknowledged. -/
theorem acknowledged_is_assembled (cfgA cfgB : TCPConfig) (isnA isnB : WrappingInt32)
    (calls : List (Side × EndpointCall))
    (roomA : cfgA.sendCapacity + cfgB.recvCapacity < 2 ^ 31 - 2)
    (roomB : cfgB.sendCapacity + cfgA.recvCapacity < 2 ^ 31 - 2)
    (legal : Throughout step Legal (start cfgA cfgB isnA isnB) calls) :
    ∃ sys, runCalls step (start cfgA cfgB isnA isnB) calls = .ok sys ∧
      ∀ side,
        (sys.side side).connection.sender.oldestAbsolute ≤
            (sys.side side.other).connection.receiver.ackPoint ∧
          (sys.side side.other).connection.receiver.ackPoint ≤
            (sys.side side).connection.sender.nextSeqnoAbsolute := by
  -- The coupling bounds what each side has acknowledged.
  obtain ⟨sys, returned, linked⟩ := linked_run roomA roomB legal
  refine ⟨sys, returned, fun side => ?_⟩
  obtain ⟨sent, received, coupled⟩ := linked.side side
  rw [coupled.here.orderly.oldestAbsolute_eq]
  exact ⟨coupled.outbound.flow.acked, coupled.outbound.flow.ackPoint_le coupled.here.orderly⟩

/-- After the probe of a closed window and both FINs, the queue and the peer still agree. -/
theorem acknowledged_is_assembled_closing :
    ∃ sys, runCalls step (start narrow narrow ⟨4294967294⟩ ⟨7⟩) (opening ++ closing) = .ok sys ∧
      ∀ side,
        (sys.side side).connection.sender.oldestAbsolute ≤
            (sys.side side.other).connection.receiver.ackPoint ∧
          (sys.side side.other).connection.receiver.ackPoint ≤
            (sys.side side).connection.sender.nextSeqnoAbsolute :=
  acknowledged_is_assembled narrow narrow _ _ _ (by decide) (by decide) (by decide +kernel)

/-- A tick that closes one side without an error finds both streams complete. -/
theorem clean_close_complete (cfgA cfgB : TCPConfig) (isnA isnB : WrappingInt32)
    (calls : List (Side × EndpointCall))
    (roomA : cfgA.sendCapacity + cfgB.recvCapacity < 2 ^ 31 - 2)
    (roomB : cfgB.sendCapacity + cfgA.recvCapacity < 2 ^ 31 - 2)
    (legal : Throughout step Legal (start cfgA cfgB isnA isnB) calls) :
    ∃ sys, runCalls step (start cfgA cfgB isnA isnB) calls = .ok sys ∧
      ∀ side ms, ∃ next, sys.step (side, .tick ms) = .ok next ∧
        ((sys.side side).connection.active = true →
          (next.side side).connection.active = false →
          (next.side side).connection.sender.streamIn.error = false →
          (next.side side).connection.inboundStream.error = false →
          Complete (next.side side) (next.side side.other)) := by
  obtain ⟨sys, returned, linked⟩ := linked_run roomA roomB legal
  refine ⟨sys, returned, fun side ms => ?_⟩
  obtain ⟨sent, received, coupled⟩ := linked.side side
  -- The tick keeps the coupling, from which the completeness is read off.
  have coupled := coupled.tick ms
  refine ⟨_, rfl, ?_⟩
  intro active closes clean _
  cases side with
  | a =>
    -- A clean end means that both streams have finished, in either branch of the tick.
    obtain ⟨ended, eof, next, quiet⟩ := TCPConnection.finished_of_tick active closes clean
    exact coupled.complete ended eof next quiet
  | b =>
    obtain ⟨ended, eof, next, quiet⟩ := TCPConnection.finished_of_tick active closes clean
    exact coupled.complete ended eof next quiet

/-- Both ways of closing: one side leaves TIME_WAIT, the other need not wait. -/
theorem clean_close_complete_closing :
    ∃ sys, runCalls step (start narrow narrow ⟨4294967294⟩ ⟨7⟩) (opening ++ closing) = .ok sys ∧
      ∀ side, ∃ next, sys.step (side, .tick 1000) = .ok next ∧
        (sys.side side).connection.active = true ∧ (next.side side).connection.active = false ∧
        Complete (next.side side) (next.side side.other) := by
  -- Both sides are about to close: one after its wait, the other at once.
  have ran : ∃ sys, runCalls step (start narrow narrow ⟨4294967294⟩ ⟨7⟩) (opening ++ closing) =
      .ok sys ∧ ∀ side ∈ [Side.a, Side.b], (sys.side side).connection.active = true ∧
        ((sys.side side).connection.tick 1000).active = false ∧
        ((sys.side side).connection.tick 1000).sender.streamIn.error = false ∧
        ((sys.side side).connection.tick 1000).inboundStream.error = false :=
    exists_runCalls (by decide +kernel)
  obtain ⟨sys, returned, closes⟩ := ran
  obtain ⟨sys', returned', complete⟩ := clean_close_complete narrow narrow ⟨4294967294⟩ ⟨7⟩
    (opening ++ closing) (by decide) (by decide) (by decide +kernel)
  rw [returned, Except.ok.injEq] at returned'
  subst returned'
  refine ⟨sys, returned, fun side => ?_⟩
  obtain ⟨next, stepped, closed⟩ := complete side 1000
  cases side with
  | a =>
    obtain ⟨active, inactive, clean, clean'⟩ := closes .a (by decide)
    cases stepped
    exact ⟨_, rfl, active, inactive, closed active inactive clean clean'⟩
  | b =>
    obtain ⟨active, inactive, clean, clean'⟩ := closes .b (by decide)
    cases stepped
    exact ⟨_, rfl, active, inactive, closed active inactive clean clean'⟩

end System

end Sponge
