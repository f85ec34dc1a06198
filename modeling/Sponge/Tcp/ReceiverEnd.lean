import Sponge.Stream.ReassemblerRest
import Sponge.Tcp.ReceiverIsn

/-! When the end of the inbound stream is final, and how a late segment breaks it. -/

namespace Sponge

namespace TCPReceiver

variable {r r' : TCPReceiver} {seg : TCPSegment}

/-- The index at which a segment places its payload, as the receiver computes it. -/
def payloadIndex (r : TCPReceiver) (seg : TCPSegment) : Except Fault (Option Nat) :=
  if seg.header.syn then .ok (some 0)
  else if !r.syned then .ok none
  else do
    let abs ← unwrap seg.header.seqno r.isn r.streamOut.bytesWritten
    return if abs = 0 then none else some (sub64 abs 1)

/-- A segment is ignored or pushed at its index, whatever the counters hold. -/
theorem segmentReceived_payload (r : TCPReceiver) (seg : TCPSegment) :
    r.segmentReceived seg = (do
      match ← r.payloadIndex seg with
      | none => return r
      | some idx => (r.noteSyn seg.header).push seg idx) := by
  rw [segmentReceived, payloadIndex]
  -- A SYN is at index zero; without one, the number is unwrapped against what was written.
  cases syn : seg.header.syn with
  | true => simp
  | false =>
    have same : r.noteSyn seg.header = r := by simp [noteSyn, syn]
    cases r.syned with
    -- Before the SYN there is no index.
    | false => simp
    | true =>
      simp only [Bool.not_true, Bool.not_false, Bool.false_and, Bool.false_eq_true, if_false, same]
      cases unwrap seg.header.seqno r.isn r.streamOut.bytesWritten with
      | error fault => simp
      | ok abs =>
        simp only [ok_bind, pure_eq_ok]
        split <;> rfl

/-- A segment leaves the end alone: it repeats the SYN, and its payload goes past the output. -/
def PassesBy (r : TCPReceiver) (seg : TCPSegment) : Prop :=
  (seg.header.syn = true → seg.header.seqno = r.isn) ∧
    match r.payloadIndex seg with
    | .ok (some idx) => r.reassembler.PassesBy seg.payload idx
    | _ => True

instance (r : TCPReceiver) (seg : TCPSegment) : Decidable (r.PassesBy seg) := by
  rw [PassesBy]
  cases r.payloadIndex seg with
  | error fault => exact inferInstanceAs (Decidable (_ ∧ True))
  | ok place =>
    cases place with
    | none => exact inferInstanceAs (Decidable (_ ∧ True))
    | some idx => exact inferInstanceAs (Decidable (_ ∧ _))

/-- What holds of a receiver in every run: it is at rest, and only a SYN lets its stream end. -/
structure Settled (r : TCPReceiver) : Prop where
  /-- The reassembler has flushed everything it could. -/
  rest : r.reassembler.AtRest
  /-- A stream that has ended has begun. -/
  begun : r.streamOut.ended = true → r.syned = true

/-- A new receiver is settled. -/
theorem settled_new (capacity : Nat) : (new capacity).Settled :=
  ⟨StreamReassembler.atRest_new capacity, by simp [new, streamOut, StreamReassembler.streamOut,
    StreamReassembler.new, ByteStream.new]⟩

/-- Every segment keeps a receiver settled. -/
theorem Settled.segment (settled : r.Settled) (received : r.segmentReceived seg = .ok r') :
    r'.Settled := by
  rw [segmentReceived_payload] at received
  obtain ⟨place, places, handled⟩ := bind_eq_ok.mp received
  cases place with
  | none =>
    -- The segment is ignored.
    rw [pure_eq_ok, Except.ok.injEq] at handled
    exact handled ▸ settled
  | some idx =>
    obtain ⟨reassembler, pushes, rfl⟩ := push_ok.mp handled
    rw [noteSyn_reassembler] at pushes
    refine ⟨settled.rest.push pushes, fun _ => ?_⟩
    -- Only a segment after or with a SYN is handed over.
    rw [payloadIndex] at places
    simp only [noteSyn]
    cases syn : seg.header.syn with
    | true => simp
    | false =>
      cases begun : r.syned with
      | true => simp [begun]
      | false => simp [syn, begun] at places

/-- A segment that leaves the end alone changes neither the stream nor the number. -/
theorem PassesBy.received (passes : r.PassesBy seg) (settled : r.Settled)
    (ended : r.streamOut.ended = true) (received : r.segmentReceived seg = .ok r') :
    r'.streamOut = r.streamOut ∧ r'.ackno = r.ackno := by
  obtain ⟨repeated, past⟩ := passes
  rw [segmentReceived_payload] at received
  obtain ⟨place, places, handled⟩ := bind_eq_ok.mp received
  rw [places] at past
  cases place with
  | none =>
    -- The segment is ignored, so nothing changes.
    rw [pure_eq_ok, Except.ok.injEq] at handled
    rw [handled]
    exact ⟨rfl, rfl⟩
  | some idx =>
    obtain ⟨reassembler, pushes, rfl⟩ := push_ok.mp handled
    rw [noteSyn_reassembler] at pushes
    have output : reassembler.output = r.reassembler.output :=
      past.push_output settled.rest ended pushes
    -- A stream that has ended had begun, and a repeated SYN brings the same number.
    have syned : (r.noteSyn seg.header).syned = r.syned := by
      rw [noteSyn]
      split
      · -- The receiver had seen a SYN before.
        exact (settled.begun ended).symm
      · rfl
    have isn : (r.noteSyn seg.header).isn = r.isn := by
      rw [noteSyn]
      split
      · -- The SYN is a repeated one.
        rename_i carries
        exact repeated carries
      · rfl
    refine ⟨output, ?_⟩
    simp only [ackno, streamOut, StreamReassembler.streamOut, output, syned, isn]
    rfl

end TCPReceiver

namespace ReceiverRun

variable {t next last : ReceiverRun} {call : ReceiverCall}

/-- A call leaves the end of the stream alone. -/
def PassesBy (t : ReceiverRun) : ReceiverCall → Prop
  | .segment seg => t.receiver.PassesBy seg
  | .reader _ => True

instance (t : ReceiverRun) : DecidablePred t.PassesBy
  | .segment seg => inferInstanceAs (Decidable (t.receiver.PassesBy seg))
  | .reader _ => .isTrue trivial

/-- Every call keeps the receiver settled. -/
theorem settled_step (settled : t.receiver.Settled) (steps : t.step call = .ok next) :
    next.receiver.Settled := by
  cases call with
  | segment seg => exact settled.segment (step_segment steps).2
  | reader call =>
    rcases step_reader steps with rfl | ⟨len, _, rfl⟩
    · -- Nothing was taken.
      exact settled
    · -- The reader changes neither the counter of writes nor the map.
      exact ⟨settled.rest.congr rfl rfl, settled.begun⟩

/-- The stream has ended at a point of a run, and nothing has changed there since. -/
structure Final (t last : ReceiverRun) : Prop where
  /-- The receiver is settled. -/
  settled : last.receiver.Settled
  /-- The stream is still ended. -/
  ended : last.receiver.streamOut.ended = true
  /-- No byte was written. -/
  written : last.receiver.streamOut.bytesWritten = t.receiver.streamOut.bytesWritten
  /-- The acknowledgment number is the same. -/
  ackno : last.receiver.ackno = t.receiver.ackno
  /-- A reader that was at the end still is. -/
  eof : t.receiver.streamOut.eof = true → last.receiver.streamOut.eof = true

/-- A call that leaves the end alone keeps it final. -/
theorem Final.step (final : Final t last) (passes : last.PassesBy call)
    (steps : last.step call = .ok next) : Final t next := by
  have settled := settled_step final.settled steps
  cases call with
  | segment seg =>
    -- The stream and the number are those of before.
    obtain ⟨stream, ackno⟩ := TCPReceiver.PassesBy.received passes final.settled final.ended
      (step_segment steps).2
    refine ⟨settled, ?_, ?_, ackno.trans final.ackno, ?_⟩
    · rw [stream]; exact final.ended
    · rw [stream]; exact final.written
    · rw [stream]; exact final.eof
  | reader call =>
    rcases step_reader steps with rfl | ⟨len, _, rfl⟩
    · exact final
    · refine ⟨settled, final.ended, final.written, final.ackno, fun before => ?_⟩
      -- Nothing is left to read at the end, so nothing was taken.
      have after := final.eof before
      simp only [ByteStream.eof, Bool.and_eq_true, beq_iff_eq] at after ⊢
      refine ⟨after.1, ?_⟩
      show (last.receiver.streamOut.buffer.drop len).length = 0
      rw [List.length_drop, after.2, Nat.zero_sub]

/-- Once the inbound stream has ended, its length, the acknowledgment number and the end of the
reader stay as they are, as long as every later segment leaves the end alone. -/
theorem end_is_final (capacity : Nat) (calls more : List ReceiverCall) (t last : ReceiverRun)
    (returned : runCalls step (start capacity) calls = .ok t)
    (ended : t.receiver.streamOut.inputEnded = true)
    (passing : Throughout step PassesBy t more) (later : runCalls step t more = .ok last) :
    last.receiver.streamOut.bytesWritten = t.receiver.streamOut.bytesWritten ∧
      last.receiver.ackno = t.receiver.ackno ∧
      (t.receiver.streamOut.eof = true → last.receiver.streamOut.eof = true) := by
  have settled : t.receiver.Settled := runCalls_invariant (fun t => t.receiver.Settled)
    (fun _ _ _ held steps => settled_step held steps) (TCPReceiver.settled_new capacity) returned
  have final := passing.invariant (Final t)
    (fun _ _ _ held passes steps => held.step passes steps)
    ⟨settled, ended, rfl, rfl, id⟩ later
  exact ⟨final.written, final.ackno, final.eof⟩

/-- A stream of three bytes that arrives out of order and ends. -/
def threeBytes : List ReceiverCall :=
  [.segment { header := { seqno := ⟨100⟩, syn := true } },
    .segment { header := { seqno := ⟨102⟩ }, payload := [2] },
    .segment { header := { seqno := ⟨101⟩ }, payload := [1] },
    .segment { header := { seqno := ⟨103⟩, fin := true }, payload := [3] }]

/-- What a stale peer may still send: the SYN, old data, the FIN, and data far past the end. -/
def staleSegments : List ReceiverCall :=
  [.segment { header := { seqno := ⟨100⟩, syn := true } },
    .segment { header := { seqno := ⟨101⟩ }, payload := [1, 2] },
    .reader (.read 8),
    .segment { header := { seqno := ⟨103⟩, fin := true }, payload := [3] },
    .segment { header := { seqno := ⟨106⟩ }, payload := [9] },
    .segment { header := { seqno := ⟨105⟩ }, payload := [8, 9] }]

/-- Stale segments leave the end of the stream of three bytes as it is. -/
theorem end_is_final_stale :
    ∃ t last, runCalls step (start 8) threeBytes = .ok t ∧
      runCalls step t staleSegments = .ok last ∧
      last.receiver.streamOut.bytesWritten = t.receiver.streamOut.bytesWritten ∧
      last.receiver.ackno = t.receiver.ackno := by
  have ran : ∃ t, runCalls step (start 8) threeBytes = .ok t ∧
      t.receiver.streamOut.inputEnded = true ∧ Throughout step PassesBy t staleSegments ∧
      (runCalls step t staleSegments).isOk = true := exists_runCalls (by decide +kernel)
  obtain ⟨t, returned, ended, passing, fine⟩ := ran
  obtain ⟨last, later⟩ := exists_ok_of_isOk fine
  obtain ⟨written, ackno, _⟩ := end_is_final 8 threeBytes staleSegments t last returned ended
    passing later
  exact ⟨t, last, returned, later, written, ackno⟩

/-- A byte after the FIN is written all the same, and the stream is no longer at its end. -/
theorem written_after_end :
    ∃ t, runCalls step (start 8)
        [.segment { header := { seqno := ⟨0⟩, syn := true } },
          .segment { header := { seqno := ⟨1⟩, fin := true } }] = .ok t ∧
      t.receiver.streamOut.eof = true ∧ t.receiver.streamOut.bytesWritten = 0 ∧
      t.receiver.ackno = some ⟨2⟩ ∧
      (t.step (.segment { header := { seqno := ⟨1⟩ }, payload := [7] })).toOption.map
        (fun next => (next.receiver.streamOut.inputEnded, next.receiver.streamOut.eof,
          next.receiver.streamOut.bytesWritten, next.receiver.ackno)) =
        some (true, false, 1, some ⟨3⟩) :=
  exists_runCalls (by decide +kernel)

end ReceiverRun

end Sponge
