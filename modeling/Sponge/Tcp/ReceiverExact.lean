import Sponge.Stream.ExactReassembly
import Sponge.Tcp.ReceiverIsn

/-! Whatever order the slices of a stream arrive in, a receiver makes exactly the progress due. -/

namespace Sponge

/-- A receiver's run, with an account of the segments that arrived from the first SYN on. -/
structure ReceiverLog where
  /-- The receiver and its reader. -/
  run : ReceiverRun
  /-- A SYN has arrived. -/
  opened : Bool := false
  /-- Stream index and size of every payload, with the edge `bytes_read + capacity` it met. -/
  arrived : List (Nat × Nat × Nat) := []
  /-- A FIN has arrived. -/
  finArrived : Bool := false
deriving DecidableEq, Repr

namespace ReceiverLog

/-- A fresh receiver that has seen no call. -/
def start (capacity : Nat) : ReceiverLog := { run := .start capacity }

/-- The stream index of a payload, when the stream starts after the given sequence number. -/
def streamIndex (i : WrappingInt32) (seg : TCPSegment) : Nat :=
  if seg.header.syn then 0 else offsetFrom seg.header.seqno i - 1

/-- The account after a segment arrived. -/
def noted (log : ReceiverLog) (i : WrappingInt32) (seg : TCPSegment) (run : ReceiverRun) :
    ReceiverLog where
  run := run
  opened := true
  arrived := log.arrived ++ [(streamIndex i seg, seg.payload.length,
    log.run.receiver.streamOut.bytesRead + log.run.receiver.capacity)]
  finArrived := log.finArrived || seg.header.fin

/-- The account after a call led to a state; what arrives before the first SYN does not count. -/
def record (log : ReceiverLog) (i : WrappingInt32) (run : ReceiverRun) :
    ReceiverCall → ReceiverLog
  | .reader _ => { log with run }
  | .segment seg =>
    if log.opened || seg.header.syn then log.noted i seg run else { log with run }

/-- Performs one call and records it. -/
def step (i : WrappingInt32) (log : ReceiverLog) (call : ReceiverCall) :
    Except Fault ReceiverLog := do
  let run ← log.run.step call
  return log.record i run call

/-- An index was covered by a segment when it was below the right edge. -/
def Accepted (log : ReceiverLog) (j : Nat) : Prop :=
  ∃ payload ∈ log.arrived, payload.1 ≤ j ∧ j < payload.1 + payload.2.1 ∧ j < payload.2.2

/-- All bytes that the inbound stream ever received. -/
def received (log : ReceiverLog) : Bytes := log.run.popped ++ log.run.receiver.streamOut.buffer

/-- A segment of the stream that carries a byte string after an initial sequence number. -/
inductive SegmentOf (s : Bytes) (i : WrappingInt32) (seg : TCPSegment) : Prop
  /-- The segment opens the stream, perhaps with its first bytes. -/
  | opening (syn : seg.header.syn = true) (seqno : seg.header.seqno = i)
      (first : seg.payload <+: s)
      (final : seg.header.fin = true → seg.payload.length = s.length)
  /-- The segment carries a later slice. -/
  | later (k : Nat) (syn : seg.header.syn = false)
      (seqno : seg.header.seqno.rawValue.toNat = (i.rawValue.toNat + 1 + k) % 2 ^ 32)
      (inside : k + seg.payload.length ≤ s.length)
      (slice : seg.payload = (s.drop k).take seg.payload.length)
      (final : seg.header.fin = true → k + seg.payload.length = s.length)

/-- A call that reads, or brings a segment of the stream. -/
def CallOf (s : Bytes) (i : WrappingInt32) : ReceiverCall → Prop
  | .segment seg => SegmentOf s i seg
  | .reader _ => True

variable {s : Bytes} {i : WrappingInt32} {capacity : Nat} {log : ReceiverLog}

/-- The payload of a segment of the stream is the slice at its stream index. -/
theorem SegmentOf.slice {seg : TCPSegment} (isOf : SegmentOf s i seg) (short : s.length < 2 ^ 31) :
    ReassemblerRun.SliceOf s (.push seg.payload (streamIndex i seg) seg.header.fin)
      ∧ (seg.header.syn = true → seg.header.seqno = i)
      ∧ (seg.header.syn = false →
        offsetFrom seg.header.seqno i = streamIndex i seg + 1) := by
  cases isOf with
  | opening syn seqno first final =>
    -- The SYN comes with the first slice.
    have index : streamIndex i seg = 0 := by rw [streamIndex, if_pos syn]
    rw [index]
    refine ⟨⟨?_, ?_, ?_⟩, fun _ => seqno, by simp [syn]⟩
    · rw [Nat.zero_add]
      exact first.length_le
    · rw [List.drop_zero]
      exact List.prefix_iff_eq_take.mp first
    · rw [Nat.zero_add]
      exact final
  | later k syn seqno inside slice final =>
    -- The sequence number of a slice is at most one turn past the initial one.
    have offset : offsetFrom seg.header.seqno i = k + 1 := by
      have word := i.rawValue.toNat_lt
      rw [offsetFrom, seqno]
      omega
    have index : streamIndex i seg = k := by
      rw [streamIndex, syn, offset]
      rfl
    rw [index]
    exact ⟨⟨inside, slice, final⟩, by simp [syn], fun _ => offset⟩

/-- A call that returns is recorded. -/
theorem step_of_run {call : ReceiverCall} {run : ReceiverRun} (ran : log.run.step call = .ok run) :
    step i log call = .ok (log.record i run call) := by
  rw [step, ran, ok_bind, pure_eq_ok]

/-- A segment that the receiver handles is a call that returns. -/
theorem step_of_received {seg : TCPSegment} {receiver : TCPReceiver}
    (received : log.run.receiver.segmentReceived seg = .ok receiver) :
    step i log (.segment seg)
      = .ok (log.record i { log.run with receiver } (.segment seg)) :=
  step_of_run (by rw [ReceiverRun.step, received, ok_bind, pure_eq_ok])

/-- The reassembler of the receiver, with the pushes that it has met. -/
def reassembly (log : ReceiverLog) : ReassemblerRun where
  reassembler := log.run.receiver.reassembler
  popped := log.run.popped
  pushes := log.arrived
  eofPushed := log.finArrived

/-- The invariant of a run over the segments of one stream. -/
structure Tracks (s : Bytes) (i : WrappingInt32) (capacity : Nat) (log : ReceiverLog) :
    Prop where
  /-- The reassembler has absorbed exactly what arrived. -/
  exact : ReassemblerRun.Exact s capacity log.reassembly
  /-- The capacity is the one the receiver was built with. -/
  capacity : log.run.receiver.capacity = capacity
  /-- The receiver knows whether a SYN has arrived. -/
  syned : log.run.receiver.syned = log.opened
  /-- It then knows where the stream starts. -/
  isn : log.opened = true → log.run.receiver.isn = i
  /-- Before, nothing has arrived. -/
  silent : log.opened = false → log.arrived = []

/-- A fresh receiver satisfies the invariant. -/
theorem tracks_start (s : Bytes) (i : WrappingInt32) (capacity : Nat) :
    Tracks s i capacity (start capacity) where
  exact := ReassemblerRun.exact_start s capacity
  capacity := rfl
  syned := rfl
  isn := fun opened => by cases opened
  silent := fun _ => rfl

/-- Once a SYN has arrived, each segment of the stream is absorbed at its stream index. -/
theorem Tracks.segment (held : Tracks s i capacity log) (short : s.length + capacity < 2 ^ 31)
    {seg : TCPSegment} (isOf : SegmentOf s i seg)
    (opens : (log.opened || seg.header.syn) = true) :
    ∃ next, ReceiverLog.step i log (.segment seg) = .ok next ∧ Tracks s i capacity next := by
  obtain ⟨slice, opening, later⟩ := isOf.slice (by omega)
  have low : log.run.receiver.streamOut.bytesWritten < 2 ^ 31 := by
    -- The write counter has not wrapped.
    have exact := held.exact.sound.bytesWritten
    have small := held.exact.sound.small
    exact exact.trans_lt small
  -- The receiver computes the stream index from its own counters.
  have index : log.run.receiver.segmentIndex seg = some (streamIndex i seg) := by
    rw [TCPReceiver.segmentIndex]
    cases syn : seg.header.syn with
    | true => rw [if_pos rfl, streamIndex, if_pos syn]
    | false =>
      have opened : log.opened = true := by simpa [syn] using opens
      have offset := later syn
      simp only [held.syned, opened, held.isn opened, offset]
      simp
  obtain ⟨pushed, stepped, exact⟩ := held.exact.push short slice
  simp only [ReassemblerRun.step, bind_eq_ok, pure_eq_ok, Except.ok.injEq] at stepped
  obtain ⟨reassembler, pushes, rfl⟩ := stepped
  have receives : log.run.receiver.segmentReceived seg
      = .ok { log.run.receiver.noteSyn seg.header with reassembler } := by
    rw [TCPReceiver.segmentReceived_eq _ _ low, index]
    refine TCPReceiver.push_ok.mpr ⟨reassembler, ?_, rfl⟩
    rw [TCPReceiver.noteSyn_reassembler]
    exact pushes
  -- The window that the log notes is that of the reassembler.
  have edge : log.run.receiver.streamOut.bytesRead + log.run.receiver.capacity
      = log.reassembly.reassembler.output.bytesRead + log.reassembly.reassembler.capacity := by
    rw [held.capacity, held.exact.fixed]
    rfl
  refine ⟨log.noted i seg
    { log.run with receiver := { log.run.receiver.noteSyn seg.header with reassembler } },
    ?_, ?_, ?_, ?_, ?_, ?_⟩
  · -- The log records the segment.
    rw [step_of_received receives, record, if_pos opens]
  · -- The reassembler has absorbed the slice.
    simp only [reassembly, noted, edge]
    exact exact
  · simp only [noted, TCPReceiver.noteSyn_capacity, held.capacity]
  · -- Either this segment carries SYN, or an earlier one did.
    simp only [noted, TCPReceiver.noteSyn]
    split
    · rfl
    · rename_i syn
      simp only [held.syned]
      simpa [syn] using opens
  · -- The number is that of the SYN, whichever segment brought it.
    intro _
    simp only [noted, TCPReceiver.noteSyn]
    split
    · rename_i syn
      exact opening syn
    · rename_i syn
      exact held.isn (by simpa [syn] using opens)
  · -- The stream is open now.
    exact fun closed => by cases closed

/-- Every call of the stream returns and keeps the invariant. -/
theorem Tracks.step (held : Tracks s i capacity log) (short : s.length + capacity < 2 ^ 31)
    {call : ReceiverCall} (isOf : CallOf s i call) :
    ∃ next, ReceiverLog.step i log call = .ok next ∧ Tracks s i capacity next := by
  cases call with
  | segment seg =>
    by_cases opens : (log.opened || seg.header.syn) = true
    · exact held.segment short isOf opens
    · -- Without any SYN the segment is ignored.
      obtain ⟨closed, syn⟩ := Bool.or_eq_false_iff.mp (Bool.not_eq_true _ ▸ opens)
      have ignored : log.run.receiver.segmentReceived seg = .ok log.run.receiver := by
        simp [TCPReceiver.segmentReceived, held.syned, closed, syn]
      refine ⟨log, ?_, held⟩
      rw [step_of_received ignored, record, if_neg opens]
  | reader call =>
    -- The reader takes bytes from the front of the stream.
    have small := held.exact.sound.small
    simp only [StreamReassembler.assembled, List.length_append] at small
    obtain ⟨len, inside, served⟩ := held.exact.sound.counts.serve (by omega) call
    have ran : log.run.step (.reader call) = .ok (log.run.served
        (log.run.receiver.streamOut.buffer.take len) (log.run.receiver.streamOut.taken len)) := by
      rw [ReceiverRun.step, show log.run.receiver.streamOut.serve call = _ from served, ok_bind,
        pure_eq_ok]
      rfl
    exact ⟨_, step_of_run ran, held.exact.taken inside, held.capacity, held.syned, held.isn,
      held.silent⟩

/-- Before the first SYN nothing is stored and nothing is acknowledged. -/
theorem Tracks.closed (held : Tracks s i capacity log) (closed : log.opened = false) :
    log.run.receiver.ackno = none ∧ log.received = []
      ∧ log.run.receiver.unassembledBytes = 0 := by
  -- Nothing has been handed to the reassembler, so no index is accepted.
  have none : ∀ j, ¬ log.reassembly.Accepted j := by
    rintro j ⟨payload, member, -⟩
    rw [reassembly, held.silent closed] at member
    exact absurd member List.not_mem_nil
  refine ⟨?_, ?_, ?_⟩
  · simp [TCPReceiver.ackno, held.syned, closed]
  · exact List.eq_nil_of_length_eq_zero
      (Nat.le_zero.mp (held.exact.isLeast.2 (show 0 ∈ {j | ¬ _} from none 0)))
  · have waiting := held.exact.waiting
    simp only [none, false_and, Set.ofPred_false, Set.ncard_empty] at waiting
    exact waiting

/-- From the first SYN on, the counters of the receiver show exactly what has been accepted. -/
theorem Tracks.progress (held : Tracks s i capacity log) (short : s.length + capacity < 2 ^ 31)
    (opened : log.opened = true) :
    ∃ n, IsLeast {j | ¬ log.Accepted j} n
      ∧ log.run.receiver.ackno.map (fun ackno => ackno.rawValue.toNat)
        = some ((i.rawValue.toNat + 1 + n
            + if log.finArrived = true ∧ n = s.length then 1 else 0) % 2 ^ 32)
      ∧ log.received = s.take n
      ∧ (log.run.receiver.windowSize : Int)
        = capacity - (n - log.run.receiver.streamOut.bytesRead) := by
  have sound := held.exact.sound
  -- The counters show the lengths of what was received and read.
  have written : log.run.receiver.streamOut.bytesWritten = log.received.length :=
    sound.bytesWritten
  have read : log.run.receiver.streamOut.bytesRead = log.run.popped.length := sound.bytesRead
  have ended : log.run.receiver.streamOut.inputEnded = true
      ↔ log.finArrived = true ∧ log.received.length = s.length := held.exact.ended
  refine ⟨log.received.length, held.exact.isLeast, ?_,
    List.prefix_iff_eq_take.mp held.exact.content, ?_⟩
  · -- The acknowledgment number counts the SYN, the bytes and the FIN.
    rw [ReceiverRun.ackno_eq (held.syned.trans opened), held.isn opened, ReceiverRun.ackPoint,
      written]
    simp only [ended, Nat.add_assoc]
  · -- What is buffered is what was received and not yet read.
    have within : log.run.receiver.streamOut.buffer.length ≤ capacity := by
      have edge := sound.assembled_le_edge
      simp only [StreamReassembler.assembled, StreamReassembler.edge, List.length_append,
        held.exact.fixed] at edge
      exact Nat.le_of_add_le_add_left edge
    have window : log.run.receiver.windowSize
        = capacity - log.run.receiver.streamOut.buffer.length :=
      ByteStream.remainingCapacity_new (by omega) held.exact.room within
    rw [window, read, received, List.length_append]
    omega

/-- Whatever order the slices of a stream arrive in, the receiver makes exactly the progress due. -/
theorem progress_exact (i : WrappingInt32) (s : Bytes) (capacity : Nat)
    (short : s.length + capacity < 2 ^ 31) (calls : List ReceiverCall)
    (isOf : ∀ call ∈ calls, CallOf s i call) :
    ∃ log, runCalls (step i) (start capacity) calls = .ok log
      ∧ (log.opened = false →
        log.run.receiver.ackno = none ∧ log.received = []
          ∧ log.run.receiver.unassembledBytes = 0)
      ∧ (log.opened = true → ∃ n, IsLeast {j | ¬ log.Accepted j} n
        ∧ log.run.receiver.ackno.map (fun ackno => ackno.rawValue.toNat)
          = some ((i.rawValue.toNat + 1 + n
              + if log.finArrived = true ∧ n = s.length then 1 else 0) % 2 ^ 32)
        ∧ log.received = s.take n
        ∧ (log.run.receiver.windowSize : Int)
          = capacity - (n - log.run.receiver.streamOut.bytesRead)) := by
  have along : Throughout (step i) (fun _ call => CallOf s i call) (start capacity) calls :=
    .of_forall calls _ isOf
  -- The invariant does not depend on the order of the slices.
  obtain ⟨log, returned, held⟩ := along.returns (Tracks s i capacity)
    (fun _ _ held isOf => held.step short isOf) (tracks_start s i capacity)
  exact ⟨log, returned, held.closed, held.progress short⟩

/-- Slices of a stream of five bytes that starts one step before the sequence numbers wrap. -/
def disordered : List ReceiverCall :=
  [.segment { header := { seqno := ⟨2⟩ }, payload := [3] },
    .segment { header := { seqno := ⟨4294967295⟩, syn := true }, payload := [1] },
    .segment { header := { seqno := ⟨3⟩, fin := true }, payload := [4, 5] },
    .segment { header := { seqno := ⟨1⟩ }, payload := [2, 3] },
    .reader (.read 2),
    .segment { header := { seqno := ⟨4⟩, fin := true }, payload := [5] }]

/-- A slice before the SYN, one cut at the window, and others out of order. -/
theorem progress_exact_disordered :
    (∀ call ∈ disordered, CallOf [1, 2, 3, 4, 5] ⟨4294967295⟩ call)
      ∧ ∃ log, runCalls (step ⟨4294967295⟩) (start 4) disordered = .ok log
        ∧ (log.opened = false →
          log.run.receiver.ackno = none ∧ log.received = []
            ∧ log.run.receiver.unassembledBytes = 0)
        ∧ (log.opened = true → ∃ n, IsLeast {j | ¬ log.Accepted j} n
          ∧ log.run.receiver.ackno.map (fun ackno => ackno.rawValue.toNat)
            = some (((⟨4294967295⟩ : WrappingInt32).rawValue.toNat + 1 + n
                + if log.finArrived = true ∧ n = [1, 2, 3, 4, 5].length then 1 else 0) % 2 ^ 32)
          ∧ log.received = [1, 2, 3, 4, 5].take n
          ∧ (log.run.receiver.windowSize : Int)
            = (4 : Nat) - (n - log.run.receiver.streamOut.bytesRead)) := by
  have isOf : ∀ call ∈ disordered, CallOf [1, 2, 3, 4, 5] ⟨4294967295⟩ call := by
    -- Each segment is one of the stream.
    simp only [disordered, List.forall_mem_cons]
    exact ⟨.later 2 rfl (by decide) (by decide) (by decide) (by decide),
      .opening rfl rfl (by decide) (by decide),
      .later 3 rfl (by decide) (by decide) (by decide) (by decide),
      .later 1 rfl (by decide) (by decide) (by decide) (by decide), trivial,
      .later 4 rfl (by decide) (by decide) (by decide) (by decide),
      fun _ member => absurd member List.not_mem_nil⟩
  exact ⟨isOf, progress_exact ⟨4294967295⟩ [1, 2, 3, 4, 5] 4 (by decide) disordered isOf⟩

/-- All five bytes are acknowledged, and the FIN. -/
example : ∃ log, runCalls (step ⟨4294967295⟩) (start 4) disordered = .ok log
    ∧ log.run.receiver.ackno = some ⟨6⟩ ∧ log.received = [1, 2, 3, 4, 5] :=
  exists_runCalls (by decide +kernel)

end ReceiverLog

end Sponge
