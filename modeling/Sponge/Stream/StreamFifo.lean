import Sponge.Lib.BoundedFifo
import Sponge.Lib.Runs
import Sponge.Stream.ByteStreamLaws

/-! A byte stream is a bounded queue: every run of it is one of the abstract queue. -/

namespace Sponge

/-- A byte stream with the bytes that it accepted and the bytes that were removed from it. -/
structure StreamRun where
  /-- The stream. -/
  stream : ByteStream
  /-- The leading parts of the data that `write` reported as accepted. -/
  accepted : Bytes
  /-- The bytes popped or read. -/
  removed : Bytes
deriving DecidableEq, Repr

namespace StreamRun

/-- A new stream. -/
def new (capacity : Nat) : StreamRun := ⟨.new capacity, [], []⟩

/-- Performs a call and records what it moved. -/
def step (t : StreamRun) : BoundedFifo.Call UInt8 → Except Fault StreamRun
  | .write data =>
    let (stream, count) := t.stream.write data
    .ok { t with stream, accepted := t.accepted ++ data.take count }
  | .peek _ => .ok t
  | .pop len =>
    match t.stream.popOutput len with
    | .ok stream => .ok { t with stream, removed := t.removed ++ t.stream.peekOutput len }
    -- The exception of an overlong pop leaves the stream as it was.
    | .error _ => .ok t
  | .read len => do
    let (bytes, stream) ← t.stream.read len
    return { t with stream, removed := t.removed ++ bytes }

/-- A stream shows an abstract queue. -/
structure Refines {capacity : Nat} (t : StreamRun) (q : BoundedFifo UInt8 capacity) : Prop where
  /-- The stream was made with the queue's bound. -/
  capacity : t.stream.capacity = toInt32 capacity
  /-- The buffer holds the items. -/
  items : t.stream.buffer = q.items
  /-- What the stream accepted was put in. -/
  put : t.accepted = q.put
  /-- What was removed from the stream was taken out. -/
  got : t.removed = q.got

/-- What it means for a stream to be a bounded queue. -/
structure IsFifo (capacity : Nat) (t : StreamRun) : Prop where
  /-- The buffer fits the capacity. -/
  bounded : t.stream.bufferSize ≤ capacity
  /-- The remaining capacity is the rest of it. -/
  remaining : t.stream.remainingCapacity = capacity - t.stream.bufferSize
  /-- The removed bytes and the buffered bytes are the accepted bytes, in order. -/
  conserved : t.removed ++ t.stream.buffer = t.accepted
  /-- A write accepts what there is room for, and appends that much of the data. -/
  write : ∀ data, (t.stream.write data).2 = min data.length t.stream.remainingCapacity ∧
    (t.stream.write data).1.buffer = t.stream.buffer ++ data.take (t.stream.write data).2
  /-- A read returns what peeking shows, and removes it. -/
  read : ∀ len, ∃ after, t.stream.read len = .ok (t.stream.peekOutput len, after) ∧
    t.stream.peekOutput len ++ after.buffer = t.stream.buffer
  /-- A pop of buffered bytes removes what peeking shows. -/
  pop : ∀ len ≤ t.stream.bufferSize, ∃ after, t.stream.popOutput len = .ok after ∧
    t.stream.peekOutput len ++ after.buffer = t.stream.buffer
  /-- A pop of more bytes than are buffered throws, and leaves everything as it was. -/
  overlong : ∀ len, t.stream.bufferSize < len →
    t.stream.popOutput len = .error .outOfRange ∧ t.step (.pop len) = .ok t

variable {capacity : Nat} {t : StreamRun} {q : BoundedFifo UInt8 capacity}

/-- A pop of more bytes than are buffered throws. -/
theorem popOutput_overlong {s : ByteStream} {len : Nat} (beyond : s.buffer.length < len) :
    s.popOutput len = .error .outOfRange := by
  -- The substring would start past the end of the buffer.
  simp only [ByteStream.popOutput, substr, if_pos beyond, error_bind]

/-- A read from a small buffer takes the leading bytes. -/
theorem read_small {s : ByteStream} (small : s.buffer.length < 2 ^ 31) (len : Nat) :
    s.read len = .ok (s.peekOutput len, s.taken (min len s.buffer.length)) := by
  -- Clipping the length at the end of the buffer does not change what is copied.
  rw [ByteStream.read_of_small (.inr small), ByteStream.peekOutput, ← List.take_eq_take_min]

section Small

variable (small : capacity < 2 ^ 31) (refines : t.Refines q)
include small refines

/-- The buffer of a stream that shows a queue is within the bound, and so is small. -/
theorem Refines.within : t.stream.buffer.length ≤ capacity ∧ t.stream.buffer.length < 2 ^ 31 := by
  have bound := q.bound
  rw [refines.items]
  omega

/-- A write is one of the queue. -/
theorem Refines.write (data : Bytes) :
    ∃ next, t.step (.write data) = .ok next ∧ next.Refines (q.write data) := by
  -- What is counted as accepted is a prefix that fits the room.
  have accepted : data.take (data.take q.room).length = data.take q.room := by
    rw [List.length_take, ← List.take_eq_take_min]
  refine ⟨⟨t.stream.appended (data.take q.room), t.accepted ++ data.take q.room, t.removed⟩, ?_,
    refines.capacity, ?_, ?_, refines.got⟩
  · have room : capacity - t.stream.buffer.length = q.room := by
      rw [refines.items, BoundedFifo.room]
    rw [StreamRun.step, ByteStream.write_min small refines.capacity (refines.within small).1, room]
    simp only [accepted]
  · rw [ByteStream.appended, refines.items, BoundedFifo.write]
  · rw [refines.put, BoundedFifo.write]

omit small in
/-- Removing the leading bytes is a read of the queue. -/
theorem Refines.taken (len : Nat) : Refines
    ⟨t.stream.taken (min len t.stream.buffer.length), t.accepted,
      t.removed ++ t.stream.peekOutput len⟩ (q.read len) := by
  refine ⟨refines.capacity, ?_, refines.put, ?_⟩
  · -- Dropping more than there is drops everything.
    simp only [ByteStream.taken, BoundedFifo.read, ← refines.items]
    rcases Nat.le_total len t.stream.buffer.length with inside | beyond
    · rw [Nat.min_eq_left inside]
    · rw [Nat.min_eq_right beyond, List.drop_length, List.drop_of_length_le beyond]
  · rw [BoundedFifo.read, ByteStream.peekOutput, refines.got, refines.items]

/-- Every call on the stream returns, and is the call on the queue. -/
theorem Refines.step (call : BoundedFifo.Call UInt8) :
    ∃ next, t.step call = .ok next ∧ next.Refines (q.step call) := by
  have buffered := (refines.within small).2
  cases call with
  | write data => exact refines.write small data
  | peek len => exact ⟨t, rfl, refines⟩
  | pop len =>
    rw [StreamRun.step, BoundedFifo.step, ← refines.items]
    -- A pop beyond the buffer is refused on both sides.
    by_cases inside : len ≤ t.stream.buffer.length
    · have taken := refines.taken len
      rw [Nat.min_eq_left inside] at taken
      rw [if_pos inside, ByteStream.popOutput_of_le inside]
      exact ⟨_, rfl, taken⟩
    · -- The exception leaves the stream as it is.
      rw [if_neg inside, popOutput_overlong (Nat.lt_of_not_le inside)]
      exact ⟨t, rfl, refines⟩
  | read len =>
    rw [StreamRun.step, read_small buffered, ok_bind]
    exact ⟨_, rfl, refines.taken len⟩

/-- A stream that shows a queue behaves as one. -/
theorem Refines.isFifo : t.IsFifo capacity := by
  obtain ⟨within, buffered⟩ := refines.within small
  have remaining : t.stream.remainingCapacity = capacity - t.stream.buffer.length :=
    ByteStream.remainingCapacity_new small refines.capacity within
  refine ⟨within, remaining, ?_, fun data => ⟨?_, ByteStream.write_buffer _ _⟩, fun len => ?_,
    fun len inside => ?_, fun len beyond => ?_⟩
  · -- What was read and what is buffered is what was written.
    rw [refines.got, refines.items, q.conserved, refines.put]
  · -- A write takes as much as there is room for.
    rw [ByteStream.write_min small refines.capacity within, remaining, List.length_take,
      Nat.min_comm]
  · -- What is copied and what is left make up the buffer.
    refine ⟨_, read_small buffered len, ?_⟩
    rw [ByteStream.peekOutput, ByteStream.taken, List.take_eq_take_min, List.take_append_drop]
  · -- A pop within the buffer takes its front.
    refine ⟨_, ByteStream.popOutput_of_le inside, ?_⟩
    rw [ByteStream.peekOutput, ByteStream.taken, List.take_append_drop]
  · -- A pop beyond it throws, and takes nothing.
    have thrown := popOutput_overlong beyond
    exact ⟨thrown, by rw [StreamRun.step, thrown]⟩

end Small

/-- Every run of a stream returns, and shows the same run of the abstract queue. -/
theorem Refines.run (small : capacity < 2 ^ 31) {calls : List (BoundedFifo.Call UInt8)} :
    ∀ {t : StreamRun} {q : BoundedFifo UInt8 capacity}, t.Refines q →
      ∃ last, runCalls StreamRun.step t calls = .ok last ∧
        last.Refines (calls.foldl BoundedFifo.step q) := by
  -- The two runs advance together, call by call.
  induction calls with
  | nil => exact fun refines => ⟨_, runCalls_nil _ _, refines⟩
  | cons call calls ih =>
    intro t q refines
    obtain ⟨next, stepped, still⟩ := refines.step small call
    obtain ⟨last, returned, shown⟩ := ih still
    exact ⟨last, runCalls_cons_ok.mpr ⟨next, stepped, returned⟩, shown⟩

/-- On every run of writes, peeks, pops and reads, a byte stream is a bounded queue. -/
theorem isFifo_of_small (small : capacity < 2 ^ 31) (calls : List (BoundedFifo.Call UInt8)) :
    ∃ last, runCalls step (.new capacity) calls = .ok last ∧ last.IsFifo capacity := by
  have fresh : (new capacity).Refines (.empty : BoundedFifo UInt8 capacity) := ⟨rfl, rfl, rfl, rfl⟩
  obtain ⟨last, returned, refines⟩ := fresh.run small
  exact ⟨last, returned, refines.isFifo small⟩

/-- A run in which a write is cut off and a pop is refused. -/
theorem isFifo_of_small_four :
    4 < 2 ^ 31 ∧ ∃ last, runCalls step (.new 4)
        [.write [1, 2, 3], .read 1, .write [4, 5, 6], .pop 9, .peek 2, .pop 2] = .ok last ∧
      last.IsFifo 4 :=
  ⟨by decide, isFifo_of_small (by decide) _⟩

end StreamRun

end Sponge
