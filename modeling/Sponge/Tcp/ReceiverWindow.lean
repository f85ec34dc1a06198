import Sponge.Tcp.ReceiverLaws

/-! What a receiver stores stays inside its window wherever the overflow test keeps its sign. -/

namespace Sponge

instance (edge index : Nat) : Decidable (SignKept edge index) :=
  inferInstanceAs (Decidable (_ ↔ _))

instance (r : StreamReassembler) (popped data : Bytes) (index : Nat) :
    Decidable (r.SignsKept popped data index) :=
  inferInstanceAs (Decidable (_ → _ → _ ∧ _))

namespace ReceiverRun

/-- The overflow test judges the ends of a segment's payload by their true side of the edge. -/
def Judged (t : ReceiverRun) : ReceiverCall → Prop
  | .segment seg =>
    match t.receiver.segmentIndex seg with
    | some idx => t.receiver.reassembler.SignsKept t.popped seg.payload idx
    | none => True
  | .reader _ => True

instance (t : ReceiverRun) : DecidablePred t.Judged
  | .segment seg =>
    match found : t.receiver.segmentIndex seg with
    | some idx => decidable_of_iff (t.receiver.reassembler.SignsKept t.popped seg.payload idx)
        (by rw [Judged, found])
    | none => .isTrue (by rw [Judged, found]; trivial)
  | .reader _ => .isTrue trivial

/-- No byte of a segment lies in the window of the receiver. -/
def Outside (t : ReceiverRun) (capacity : Nat) (seg : TCPSegment) : Prop :=
  ∀ idx, t.receiver.segmentIndex seg = some idx →
    ∀ i, idx ≤ i → i < idx + seg.payload.length →
      i < t.receiver.streamOut.bytesWritten ∨ t.receiver.streamOut.bytesRead + capacity ≤ i

/-- The payload is of a size that a string can have. -/
def Sized : ReceiverCall → Prop
  | .segment seg => seg.payload.length < 2 ^ 63
  | .reader _ => True

instance : DecidablePred Sized
  | .segment seg => inferInstanceAs (Decidable (seg.payload.length < 2 ^ 63))
  | .reader _ => .isTrue trivial

/-- The invariant of a run whose segments are all judged rightly. -/
structure Windowed (capacity : Nat) (t : ReceiverRun) : Prop where
  /-- The reassembler keeps its own invariant. -/
  sound : t.receiver.reassembler.Sound t.popped
  /-- The capacity is the one it was built with. -/
  fixed : t.receiver.reassembler.capacity = capacity

variable {capacity : Nat} {t : ReceiverRun}

/-- A fresh receiver satisfies the invariant. -/
theorem windowed_start (capacity : Nat) : Windowed capacity (start capacity) :=
  ⟨StreamReassembler.sound_new capacity, rfl⟩

/-- The counter of the stream is exact. -/
theorem Windowed.bytesWritten (held : Windowed capacity t) :
    t.receiver.streamOut.bytesWritten = t.assembled := held.sound.bytesWritten

/-- A rightly judged segment is handled without an exception. -/
theorem Windowed.push (held : Windowed capacity t) {seg : TCPSegment} {idx : Nat}
    (index : t.receiver.segmentIndex seg = some idx) (sized : Sized (.segment seg))
    (judged : t.Judged (.segment seg)) :
    ∃ r, t.receiver.segmentReceived seg =
        .ok { t.receiver.noteSyn seg.header with reassembler := r } ∧
      t.receiver.reassembler.pushSubstring seg.payload idx seg.header.fin = .ok r ∧
      (r.assembled t.popped < 2 ^ 31 →
        StreamReassembler.Pushed t.popped t.receiver.reassembler r seg.payload idx
          seg.header.fin) := by
  -- Below the sign bit, the sequence number unwraps to its offset.
  have low : t.receiver.streamOut.bytesWritten < 2 ^ 31 := by
    rw [held.bytesWritten]
    exact held.sound.small
  have bound := TCPReceiver.segmentIndex_lt index
  rw [Judged, index] at judged
  rw [Sized] at sized
  obtain ⟨r, pushes, _, pushed⟩ :=
    StreamReassembler.pushSubstring_spec held.sound (by omega) judged seg.header.fin
  refine ⟨r, ?_, pushes, pushed⟩
  rw [TCPReceiver.segmentReceived_eq _ _ low, index]
  exact TCPReceiver.push_ok.mpr ⟨r, by rw [TCPReceiver.noteSyn_reassembler]; exact pushes, rfl⟩

/-- A segment without an index is ignored. -/
theorem Windowed.ignored (held : Windowed capacity t) {seg : TCPSegment}
    (index : t.receiver.segmentIndex seg = none) :
    t.receiver.segmentReceived seg = .ok t.receiver := by
  have low : t.receiver.streamOut.bytesWritten < 2 ^ 31 := by
    -- The write counter has not wrapped.
    rw [held.bytesWritten]
    exact held.sound.small
  rw [TCPReceiver.segmentReceived_eq _ _ low, index]

/-- Every rightly judged call returns and keeps the invariant. -/
theorem Windowed.step (held : Windowed capacity t) {call : ReceiverCall}
    (sized : Sized call) (judged : t.Judged call) (few : t.FewBytes call) :
    ∃ next, t.step call = .ok next ∧ Windowed capacity next := by
  cases call with
  | segment seg =>
    cases index : t.receiver.segmentIndex seg with
    -- Without an index the segment is ignored.
    | none => exact ⟨t, by rw [ReceiverRun.step, held.ignored index, ok_bind, pure_eq_ok], held⟩
    | some idx =>
      obtain ⟨r, received, _, absorbs⟩ := held.push index sized judged
      -- The bound on the assembled bytes is about the state after the call.
      have steps : t.step (.segment seg) =
          .ok { t with receiver := { t.receiver.noteSyn seg.header with reassembler := r } } := by
        rw [ReceiverRun.step, received, ok_bind, pure_eq_ok]
      rw [FewBytes, steps] at few
      have pushed := absorbs few
      exact ⟨_, steps, pushed.sound, pushed.capacity.trans held.fixed⟩
  | reader call =>
    -- The reader takes from the front of the buffer.
    have small := held.sound.small
    simp only [StreamReassembler.assembled, List.length_append] at small
    obtain ⟨len, inside, served⟩ := held.sound.counts.serve (by omega) call
    refine ⟨t.served (t.receiver.reassembler.output.buffer.take len)
      (t.receiver.reassembler.output.taken len), ?_, held.sound.taken inside, held.fixed⟩
    rw [ReceiverRun.step, TCPReceiver.streamOut, StreamReassembler.streamOut, served, ok_bind,
      pure_eq_ok]

/-- Every stored byte has an index inside the window. -/
theorem Windowed.stored_inside (held : Windowed capacity t) {i : Nat}
    (stored : Covered t.receiver.reassembler.m.entries i) :
    t.receiver.streamOut.bytesWritten ≤ i ∧ i < t.receiver.streamOut.bytesRead + capacity := by
  -- The entries lie between the next byte and the edge.
  have range := held.sound.placed.covered_range stored
  have read : t.receiver.streamOut.bytesRead = t.popped.length := held.sound.bytesRead
  rw [held.bytesWritten, read, ← held.fixed]
  simp only [StreamReassembler.edge] at range
  rw [assembled]
  omega

/-- Stored and readable bytes together fit the capacity. -/
theorem Windowed.held_le (held : Windowed capacity t) :
    t.receiver.unassembledBytes + t.receiver.streamOut.bufferSize ≤ capacity := by
  -- The stored entries lie between the output and the edge.
  have total := held.sound.placed.totalSize_le
  have within := held.sound.assembled_le_edge
  have counted : t.receiver.unassembledBytes = totalSize t.receiver.reassembler.m.entries :=
    held.sound.counted
  have size : t.receiver.streamOut.bufferSize = t.receiver.reassembler.output.buffer.length := rfl
  rw [counted, size]
  simp only [StreamReassembler.edge, StreamReassembler.assembled, List.length_append,
    held.fixed] at total within
  omega

/-- A rightly judged segment outside the window changes nothing that is stored. -/
theorem Windowed.outside (held : Windowed capacity t) {seg : TCPSegment}
    (sized : Sized (.segment seg)) (judged : t.Judged (.segment seg))
    (outside : t.Outside capacity seg) :
    ∃ r, t.receiver.segmentReceived seg = .ok r ∧
      r.reassembler.m = t.receiver.reassembler.m ∧
      r.unassembledBytes = t.receiver.unassembledBytes := by
  cases index : t.receiver.segmentIndex seg with
  | none => exact ⟨_, held.ignored index, rfl, rfl⟩
  | some idx =>
    obtain ⟨r, received, pushes, _⟩ := held.push index sized judged
    -- Index by index, the payload is already written or past the edge.
    have bound := TCPReceiver.segmentIndex_lt index
    have read : t.receiver.streamOut.bytesRead = t.popped.length := held.sound.bytesRead
    rw [Judged, index] at judged
    rw [Sized] at sized
    obtain ⟨entries, count⟩ := StreamReassembler.pushSubstring_outside held.sound (by omega) judged
      (fun i low high admitted => by
        have := outside idx index i low high
        rw [held.bytesWritten, read, assembled] at this
        rw [StreamReassembler.edge, held.fixed] at admitted
        omega) pushes
    exact ⟨_, received, entries, count⟩

/-- In every run whose segments are judged rightly, the receiver holds only its window. -/
theorem window_bounded (capacity : Nat) (calls : List ReceiverCall)
    (sized : ∀ call ∈ calls, Sized call)
    (few : Throughout step FewBytes (start capacity) calls)
    (judged : Throughout step Judged (start capacity) calls) :
    ∃ t, runCalls step (start capacity) calls = .ok t ∧
      (∀ i, Covered t.receiver.reassembler.m.entries i →
        t.receiver.streamOut.bytesWritten ≤ i ∧
          i < t.receiver.streamOut.bytesRead + capacity) ∧
      t.receiver.unassembledBytes + t.receiver.streamOut.bufferSize ≤ capacity ∧
      ∀ seg, Sized (.segment seg) → t.Judged (.segment seg) → t.Outside capacity seg →
        ∃ r, t.receiver.segmentReceived seg = .ok r ∧
          r.reassembler.m = t.receiver.reassembler.m ∧
          r.unassembledBytes = t.receiver.unassembledBytes := by
  have fits : Throughout step (fun _ call => Sized call) (start capacity) calls :=
    -- The three conditions on the calls are met together.
    .of_forall calls _ sized
  obtain ⟨t, returned, held⟩ := ((fits.and judged).and few).returns (Windowed capacity)
    (fun _ _ held cond => Windowed.step held cond.1.1 cond.1.2 cond.2) (windowed_start capacity)
  exact ⟨t, returned, fun _ => held.stored_inside, held.held_le,
    fun _ sized judged outside => held.outside sized judged outside⟩

/-- A SYN, an early segment that is cut at the edge and one that fills the gap before it. -/
theorem window_bounded_gap :
    ∃ t, runCalls step (start 4)
        [.segment { header := { seqno := ⟨7⟩, syn := true } },
          .segment { header := { seqno := ⟨10⟩ }, payload := [3, 4, 5] },
          .segment { header := { seqno := ⟨8⟩ }, payload := [1, 2] },
          .reader (.read 3)] = .ok t ∧
      (∀ i, Covered t.receiver.reassembler.m.entries i →
        t.receiver.streamOut.bytesWritten ≤ i ∧ i < t.receiver.streamOut.bytesRead + 4) ∧
      t.receiver.unassembledBytes + t.receiver.streamOut.bufferSize ≤ 4 ∧
      ∀ seg, Sized (.segment seg) → t.Judged (.segment seg) → t.Outside 4 seg →
        ∃ r, t.receiver.segmentReceived seg = .ok r ∧
          r.reassembler.m = t.receiver.reassembler.m ∧
          r.unassembledBytes = t.receiver.unassembledBytes :=
  window_bounded 4 _ (by decide) (by decide +kernel) (by decide +kernel)

/-- A number just below the initial one places a byte almost a whole turn past the window. -/
theorem window_escaped :
    ∃ t, runCalls step (start 10)
        [.segment { header := { seqno := ⟨1⟩, syn := true } },
          .segment { header := { seqno := ⟨0⟩ }, payload := [97] }] = .ok t ∧
      t.assembled < 2 ^ 31 ∧
      Covered t.receiver.reassembler.m.entries (2 ^ 32 - 2) ∧
      ¬ 2 ^ 32 - 2 < t.receiver.streamOut.bytesRead + 10 :=
  exists_runCalls (by decide +kernel)

end ReceiverRun

end Sponge
