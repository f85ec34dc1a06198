import Sponge.Stream.ReassemblerEnd
import Sponge.Tcp.ConnectionReceiver
import Sponge.Tcp.FinLast
import Sponge.Tcp.ReceiverEnd

/-! A connection lingers unless its peer finished first, as long as a FIN ends the stream at once. -/

namespace Sponge

namespace TCPReceiver

variable {r r' : TCPReceiver} {seg : TCPSegment} {popped : Bytes}

/-- The payload of a segment completes the inbound stream. -/
def Completes (r : TCPReceiver) (seg : TCPSegment) : Prop :=
  match r.payloadIndex seg with
  | .ok (some idx) => r.reassembler.Completes seg.payload idx
  | _ => False

instance (r : TCPReceiver) (seg : TCPSegment) : Decidable (r.Completes seg) :=
  match places : r.payloadIndex seg with
  | .ok (some idx) =>
    decidable_of_iff (r.reassembler.Completes seg.payload idx) (by rw [Completes, places])
  | .ok none => .isFalse (by rw [Completes, places]; exact id)
  | .error _ => .isFalse (by rw [Completes, places]; exact id)

/-- A FIN whose segment completes the stream ends it. -/
theorem Completes.received (completes : r.Completes seg) (fin : seg.header.fin = true)
    (counts : r.streamOut.Counts popped) (small : r.reassembler.assembled popped < 2 ^ 31)
    (few : r'.reassembler.assembled popped < 2 ^ 31)
    (received : r.segmentReceived seg = .ok r') : r'.streamOut.ended = true := by
  rw [segmentReceived_payload] at received
  obtain ⟨place, places, handled⟩ := bind_eq_ok.mp received
  rw [Completes, places] at completes
  -- A payload without a place completes nothing.
  cases place with
  | none => exact absurd completes id
  | some idx =>
    obtain ⟨reassembler, pushes, rfl⟩ := push_ok.mp handled
    rw [noteSyn_reassembler, fin] at pushes
    exact StreamReassembler.Completes.push completes counts small few pushes

/-- No end of the inbound stream is known. -/
def Endless (r : TCPReceiver) : Prop :=
  r.streamOut.ended = false ∧ r.reassembler.endIdx = 2 ^ 64 - 1

/-- Without a FIN, no end becomes known. -/
theorem Endless.received (endless : r.Endless) (plain : seg.header.fin = false)
    (counts : r.streamOut.Counts popped) (few : r'.reassembler.assembled popped < 2 ^ 31)
    (received : r.segmentReceived seg = .ok r') : r'.Endless := by
  rcases (segmentReceived_ok received).2.2 with same | ⟨idx, pushed⟩
  · -- The segment is ignored.
    rw [Endless, streamOut, StreamReassembler.streamOut, same]
    exact endless
  · -- The payload is pushed without an end.
    rw [plain] at pushed
    exact StreamReassembler.push_unended counts few endless.1 endless.2 pushed

end TCPReceiver

/-- An orderly sender is finished exactly once it has sent its FIN. -/
theorem TCPConnection.unfinished_iff {c : TCPConnection} {accepted : Bytes}
    {sent : List TCPSegment} (orderly : c.sender.Orderly accepted sent) :
    c.unfinished = true ↔ NoFin sent := by
  have small := orderly.small
  have edge : add64 c.sender.streamIn.bytesWritten 2 = accepted.length + 2 := by
    rw [TCPSender.streamIn, orderly.bytesWritten, add64_of_lt (by omega)]
  rw [unfinished, edge, Bool.or_eq_true, decide_eq_true_eq]
  constructor
  · -- After the FIN the stream is at its end, and the last position is taken.
    intro more
    by_contra some
    obtain ⟨next, ended, empty⟩ := orderly.next_of_fin some
    rcases more with writing | short
    · simp [TCPSender.streamIn, ByteStream.eof, ByteStream.inputEnded, ended,
        empty] at writing
    · omega
  · intro none
    have next := orderly.next_of_noFin none
    have content := congrArg List.length orderly.content
    rw [List.length_append] at content
    -- Without the FIN, one position is missing.
    right
    split at next <;> omega

namespace ConnectionRun

/-- A FIN that the connection takes for the end of the stream is the end of the stream. -/
def EndsInOrder (t : ConnectionRun) (call : ConnectionCall) : Prop :=
  t.connection.active = true → t.KeepsFin call ∧
    match call with
    | .segment seg =>
      (seg.header.ack = true → 0 < t.connection.sender.nextSeqnoAbsolute) →
      seg.header.rst = false → seg.header.fin = true →
      t.connection.lingerAfterStreamsFinish = true → t.connection.unfinished = true →
      t.connection.receiver.Completes seg
    | _ => True

instance (t : ConnectionRun) : DecidablePred t.EndsInOrder
  | .segment _ => inferInstanceAs (Decidable (_ → _ ∧ (_ → _ → _ → _ → _ → _)))
  | .connect => inferInstanceAs (Decidable (_ → _ ∧ True))
  | .write _ => inferInstanceAs (Decidable (_ → _ ∧ True))
  | .endInputStream => inferInstanceAs (Decidable (_ → _ ∧ True))
  | .tick _ => inferInstanceAs (Decidable (_ → _ ∧ True))
  | .reader _ => inferInstanceAs (Decidable (_ → _ ∧ True))

/-- The inbound stream has ended. -/
def inboundEnded (t : ConnectionRun) : Bool := t.connection.inboundStream.inputEnded

end ConnectionRun

/-- A run of a connection that also records in which order its streams ended. -/
structure ClosingRun where
  /-- The run itself. -/
  run : ConnectionRun
  /-- The inbound stream ended at a moment when the outbound FIN had not been sent. -/
  endedFirst : Bool := false
deriving DecidableEq, Repr

namespace ClosingRun

/-- A fresh connection that has seen no call. -/
def start (cfg : TCPConfig) (isn : WrappingInt32) : ClosingRun := { run := .start cfg isn }

/-- The record after a call that left a run. -/
def after (t : ClosingRun) (next : ConnectionRun) : ClosingRun where
  run := next
  -- A segment reaches the receiver before the sender, so the FIN was sent by an earlier call.
  endedFirst := t.endedFirst ||
    (!t.run.inboundEnded && next.inboundEnded && decide (NoFin t.run.emitted))

/-- Performs one call and records it. -/
def step (t : ClosingRun) (call : ConnectionCall) : Except Fault ClosingRun := do
  let next ← t.run.step call
  return t.after next

/-- The flag agrees with the record, and the sender and the receiver with their histories. -/
structure Decided (isn : WrappingInt32) (t : ClosingRun) (sent : List TCPSegment) : Prop where
  /-- The sender is orderly. -/
  ordered : t.run.Ordered isn sent
  /-- The counters of the inbound stream are exact. -/
  counted : t.run.inbound.Counted
  /-- The flag is cleared exactly when the peer finished first. -/
  agrees : t.run.connection.lingerAfterStreamsFinish = false ↔ t.endedFirst = true
  /-- Until the flag is cleared or the FIN is sent, no end is known. -/
  endless : t.run.connection.lingerAfterStreamsFinish = true → NoFin sent →
    t.run.connection.receiver.Endless

variable {isn : WrappingInt32} {t : ClosingRun} {sent new : List TCPSegment}
  {next : ConnectionRun}

/-- A call that leaves the flag and the end of the inbound stream alone keeps the agreement. -/
theorem Decided.unchanged (decided : t.Decided isn sent) (ordered : next.Ordered isn (sent ++ new))
    (counted : next.inbound.Counted)
    (linger : next.connection.lingerAfterStreamsFinish =
      t.run.connection.lingerAfterStreamsFinish)
    (ended : next.inboundEnded = t.run.inboundEnded)
    (ending : next.connection.receiver.reassembler.endIdx =
      t.run.connection.receiver.reassembler.endIdx) :
    (t.after next).Decided isn (sent ++ new) := by
  -- The record of who finished first looks only at the end of the inbound stream.
  have same : (t.after next).endedFirst = t.endedFirst := by
    simp [after, ended]
  refine ⟨ordered, counted, ?_, ?_⟩
  · rw [same, ← decided.agrees]
    exact Eq.congr_left linger
  · intro lingers none
    obtain ⟨unended, unknown⟩ := decided.endless (linger ▸ lingers)
      (fun seg member => none seg (List.mem_append_left _ member))
    exact ⟨ended.trans unended, ending.trans unknown⟩

/-- Once the flag is cleared and the peer finished first, nothing else is to be said. -/
theorem Decided.cleared (ordered : next.Ordered isn sent) (counted : next.inbound.Counted)
    (cleared : next.connection.lingerAfterStreamsFinish = false)
    (first : (t.after next).endedFirst = true) : (t.after next).Decided isn sent := by
  refine ⟨ordered, counted, ?_, fun still => ?_⟩
  · -- Both sides of the agreement hold.
    rw [first]
    exact iff_of_true cleared rfl
  · -- The flag is cleared, so there is nothing to show about lingering.
    exact absurd (cleared.symm.trans still) Bool.false_ne_true

/-- A handled segment keeps the agreement. -/
theorem Decided.segment (decided : t.Decided isn sent)
    (ordered : next.Ordered isn (sent ++ new)) (counted : next.inbound.Counted)
    {seg : TCPSegment} (small : t.run.inbound.assembled < 2 ^ 31)
    (few : next.inbound.assembled < 2 ^ 31) (popped : next.popped = t.run.popped)
    (received : t.run.connection.receiver.segmentReceived seg = .ok next.connection.receiver)
    (linger : next.connection.lingerAfterStreamsFinish =
      (t.run.connection.noted seg).lingerAfterStreamsFinish)
    (inOrder : seg.header.fin = true → t.run.connection.lingerAfterStreamsFinish = true →
      t.run.connection.unfinished = true → t.run.connection.receiver.Completes seg) :
    (t.after next).Decided isn (sent ++ new) := by
  obtain ⟨orderly, _, recorded⟩ := decided.ordered
  have unfinished := TCPConnection.unfinished_iff orderly
  have unsent := recorded.noFin_iff
  rw [TCPConnection.noted] at linger
  have few' : next.connection.receiver.reassembler.assembled t.run.popped < 2 ^ 31 := by
    rw [← popped]
    exact few
  have earlier : NoFin (sent ++ new) → NoFin sent :=
    fun none other member => none other (List.mem_append_left _ member)
  cases lingers : t.run.connection.lingerAfterStreamsFinish with
  | false =>
    -- What was decided before stays so.
    have cleared : next.connection.lingerAfterStreamsFinish = false := by rw [linger, lingers]; rfl
    exact .cleared ordered counted cleared (by simp [after, decided.agrees.mp lingers])
  | true =>
    have undecided : t.endedFirst = false := by
      rw [← Bool.not_eq_true, ← decided.agrees, lingers]
      decide
    by_cases none : NoFin sent
    · have endless := decided.endless lingers none
      have open_ : t.run.inboundEnded = false := endless.1
      cases fin : seg.header.fin with
      | true =>
        -- The flag is cleared, and the stream ends in the same call.
        have more := unfinished.mpr none
        have ended : next.inboundEnded = true := (inOrder fin lingers more).received fin
          decided.counted small few' received
        have cleared : next.connection.lingerAfterStreamsFinish = false := by
          rw [linger, fin, more]
          simp
        exact .cleared ordered counted cleared
          (by simp [after, open_, ended, unsent.mpr none])
      | false =>
        -- Nothing ends, and the flag stays.
        have kept := endless.received fin decided.counted few' received
        refine decided.unchanged ordered counted ?_ (kept.1.trans open_.symm)
          (kept.2.trans endless.2.symm)
        rw [linger, fin]
        simp
    · -- After the FIN the flag is not cleared any more, whatever ends.
      have finished : t.run.connection.unfinished = false := by
        rw [← Bool.not_eq_true, unfinished]
        exact none
      have still : next.connection.lingerAfterStreamsFinish = true := by
        rw [linger, lingers, finished]
        simp
      have sentFin : ¬ NoFin t.run.emitted := fun absent => none (unsent.mp absent)
      refine ⟨ordered, counted, ?_, fun _ absent => absurd (earlier absent) none⟩
      simp [after, still, undecided, sentFin]

/-- While the connection is alive and its counters are exact, the agreement holds. -/
def Agreed (isn : WrappingInt32) (t : ClosingRun) : Prop :=
  t.run.connection.active = true → t.run.inbound.assembled < 2 ^ 31 → ∃ sent, t.Decided isn sent

/-- Every call whose FINs end the stream keeps the agreement. -/
theorem Agreed.step {call : ConnectionCall} {last : ClosingRun} (agreed : t.Agreed isn)
    (inOrder : t.run.EndsInOrder call) (steps : t.step call = .ok last) : last.Agreed isn := by
  intro alive few
  simp only [ClosingRun.step, bind_eq_ok, pure_eq_ok, Except.ok.injEq] at steps
  obtain ⟨next, steps, rfl⟩ := steps
  obtain ⟨c, performed, rfl⟩ := ConnectionRun.step_ok.mp steps
  have small := Nat.lt_of_le_of_lt (ConnectionRun.assembled_inbound_le steps) few
  have alive' := TCPConnection.active_of_perform performed alive
  obtain ⟨keeps, inOrder⟩ := inOrder alive'
  obtain ⟨sent, decided⟩ := agreed alive' small
  obtain ⟨new, ordered⟩ := decided.ordered.step keeps steps
  have counted := (ConnectionRun.counted_step decided.counted steps
    (Nat.lt_of_le_of_lt (t.run.after call c).inbound.buffer_le_assembled few)).1
  refine ⟨sent ++ new, ?_⟩
  rcases TCPConnection.perform_frame performed with ⟨receiver, kept⟩ | ⟨dead, _⟩ |
    ⟨seg, rfl, sentSyn, rst, received, _, linger⟩ | ⟨taken, served, rfl, serves, rfl⟩
  · -- The call leaves the receiver and the flag.
    refine decided.unchanged ordered counted (kept alive).2 ?_ ?_
    · exact congrArg (fun r => r.streamOut.ended) receiver
    · exact congrArg (fun r => r.reassembler.endIdx) receiver
  · -- The connection has died, which was excluded.
    exact absurd alive (by simp [after, ConnectionRun.after, dead])
  · -- A segment was handled.
    exact decided.segment ordered counted small few (List.append_nil _) received linger
      (inOrder sentSyn rst)
  · -- The owner has read.
    refine decided.unchanged ordered counted rfl ?_ rfl
    -- Reading does not change whether the stream has ended.
    rcases ByteStream.serve_ok serves with ⟨len, _, rfl⟩ | rfl
    · rfl
    · rfl

/-- While a connection is active, it does not linger exactly when its peer finished first. -/
theorem linger_iff_ended_first {cfg : TCPConfig} {isn : WrappingInt32}
    {calls : List ConnectionCall} {last : ClosingRun}
    (along : Throughout step (fun t => t.run.EndsInOrder) (start cfg isn) calls)
    (returned : runCalls step (start cfg isn) calls = .ok last)
    (few : last.run.delivered.length < 2 ^ 31) (active : last.run.connection.active = true) :
    last.run.connection.lingerAfterStreamsFinish = false ↔ last.endedFirst = true := by
  -- The flag and the order of the ends agree in every state of the run.
  have agreed : last.Agreed isn := by
    refine Throughout.invariant (fun t => t.Agreed isn) ?_ along ?_ returned
    · intro state call next held inOrder steps
      exact held.step inOrder steps
    · intro _ _
      refine ⟨[], ⟨⟨TCPSender.orderly_new _ _ _, rfl, ConnectionRun.recorded_start cfg isn⟩,
        ByteStream.counts_new cfg.recvCapacity, ?_, fun _ _ => ⟨rfl, rfl⟩⟩⟩
      simp [start, ConnectionRun.start, TCPConnection.new]
  obtain ⟨sent, decided⟩ := agreed active few
  exact decided.agrees

/-- An endpoint whose peer sends its last byte early, and then everything together with the FIN. -/
def peerFinishes : List ConnectionCall :=
  [.connect,
    .segment { header := { seqno := ⟨9⟩, syn := true, ack := true, ackno := ⟨1⟩, win := 100 } },
    .segment { header := { seqno := ⟨12⟩, ack := true, ackno := ⟨1⟩, win := 100 }, payload := [3] },
    .segment { header := { seqno := ⟨10⟩, fin := true, ack := true, ackno := ⟨1⟩, win := 100 },
               payload := [1, 2, 3] },
    .endInputStream]

/-- A FIN that comes with all missing bytes makes a connection stop lingering. -/
theorem linger_iff_ended_first_in_order :
    ∃ last, runCalls step (start {} ⟨0⟩) peerFinishes = .ok last ∧
      last.run.connection.active = true ∧ last.endedFirst = true ∧
      last.run.connection.lingerAfterStreamsFinish = false := by
  -- The run is evaluated for the hypotheses, and the theorem gives the flag.
  have ran : ∃ last, runCalls step (start {} ⟨0⟩) peerFinishes = .ok last ∧
      last.run.delivered.length < 2 ^ 31 ∧ last.run.connection.active = true ∧
      last.endedFirst = true := exists_runCalls (by decide +kernel)
  obtain ⟨last, returned, few, active, first⟩ := ran
  exact ⟨last, returned, active, first,
    (linger_iff_ended_first (by decide +kernel) returned few active).mpr first⟩

/-- After a FIN ahead of its bytes, a connection that finishes first does not linger. -/
theorem early_fin_clears_linger :
    ∃ last, runCalls step (start {} ⟨0⟩)
        [.connect,
          .segment
            { header := { seqno := ⟨9⟩, syn := true, ack := true, ackno := ⟨1⟩, win := 100 } },
          .segment
            { header := { seqno := ⟨11⟩, fin := true, ack := true, ackno := ⟨1⟩, win := 100 } },
          .endInputStream,
          .segment
            { header := { seqno := ⟨10⟩, ack := true, ackno := ⟨1⟩, win := 100 },
              payload := [5] }] = .ok last ∧
      last.run.connection.active = true ∧ last.run.inboundEnded = true ∧
      last.endedFirst = false ∧ last.run.connection.lingerAfterStreamsFinish = false :=
  exists_runCalls (by decide +kernel)

end ClosingRun

end Sponge
