import Sponge.Lib.Runs
import Sponge.Stream.ReassemblerLaws

/-! Every order of pushes and reads assembles exactly the accepted part of the stream. -/

namespace Sponge

/-- A call on a reassembler or on the stream it writes to. -/
inductive ReassemblerCall where
  /-- `push_substring`. -/
  | push (data : Bytes) (index : Nat) (eof : Bool)
  /-- A call of the reader on `stream_out()`. -/
  | reader (call : ByteStream.ReaderCall)
deriving DecidableEq, Repr

/-- A reassembler together with the history of its run. -/
structure ReassemblerRun where
  /-- The reassembler itself. -/
  reassembler : StreamReassembler
  /-- The bytes the reader has taken from the output. -/
  popped : Bytes := []
  /-- Index and size of every push, with the right edge `bytes_read + capacity` it met. -/
  pushes : List (Nat × Nat × Nat) := []
  /-- Some push carried the end of the stream. -/
  eofPushed : Bool := false
deriving DecidableEq, Repr

namespace ReassemblerRun

/-- A fresh reassembler that has seen no call. -/
def start (capacity : Nat) : ReassemblerRun := { reassembler := .new capacity }

/-- Performs one call and records it. -/
def step (t : ReassemblerRun) : ReassemblerCall → Except Fault ReassemblerRun
  | .push data index eof => do
    let edge := t.reassembler.output.bytesRead + t.reassembler.capacity
    let pushed ← t.reassembler.pushSubstring data index eof
    return { t with
      reassembler := pushed
      pushes := t.pushes ++ [(index, data.length, edge)]
      eofPushed := t.eofPushed || eof }
  | .reader call => do
    let served ← t.reassembler.output.serve call
    return { t with
      reassembler := { t.reassembler with output := served.2 }
      popped := t.popped ++ served.1 }

/-- An index was covered by a push when it was below the right edge. -/
def Accepted (t : ReassemblerRun) (i : Nat) : Prop :=
  ∃ push ∈ t.pushes, push.1 ≤ i ∧ i < push.1 + push.2.1 ∧ i < push.2.2

/-- All bytes ever written to the output. -/
def output (t : ReassemblerRun) : Bytes := t.popped ++ t.reassembler.output.buffer

/-- A call whose data is the slice of a fixed byte string at its index. -/
def SliceOf (s : Bytes) : ReassemblerCall → Prop
  | .push data index eof =>
    index + data.length ≤ s.length ∧ data = (s.drop index).take data.length ∧
      -- Only a slice that ends the string may carry the end of the stream.
      (eof = true → index + data.length = s.length)
  | .reader _ => True

/-- The invariant of a run that pushes slices of one byte string. -/
structure Exact (s : Bytes) (capacity : Nat) (t : ReassemblerRun) : Prop where
  /-- The reassembler keeps its own invariant. -/
  sound : t.reassembler.Sound t.popped
  /-- The capacity is the one it was built with. -/
  fixed : t.reassembler.capacity = capacity
  /-- So is the capacity of the output. -/
  room : t.reassembler.output.capacity = toInt32 capacity
  /-- The output is a leading part of the byte string. -/
  content : t.output <+: s
  /-- Every waiting byte is the one the byte string has at its index. -/
  stored : ∀ i value, Stored t.reassembler.m.entries i value → s[i]? = some value
  /-- The accepted indices are the written and the waiting ones. -/
  accepted : ∀ i, t.Accepted i ↔ i < t.output.length ∨ Covered t.reassembler.m.entries i
  /-- The end is known exactly once it was pushed. -/
  endIdx : t.reassembler.endIdx = if t.eofPushed then s.length else 2 ^ 64 - 1
  /-- The output has ended exactly when it is complete and the end was pushed. -/
  ended : t.reassembler.output.ended = true ↔ t.eofPushed = true ∧ t.output.length = s.length

variable {s : Bytes} {capacity : Nat} {t : ReassemblerRun}

/-- A fresh reassembler satisfies the invariant. -/
theorem exact_start (s : Bytes) (capacity : Nat) : Exact s capacity (start capacity) := by
  refine ⟨StreamReassembler.sound_new capacity, rfl, rfl, List.nil_prefix, ?_, ?_, rfl, ?_⟩
  · -- Nothing is stored.
    rintro i value ⟨run, member, _⟩
    simp [start, StreamReassembler.new, OrderedMap.empty] at member
  · -- Nothing was accepted.
    intro i
    simp [start, Accepted, output, Covered, StreamReassembler.new, OrderedMap.empty, ByteStream.new]
  · simp [start, StreamReassembler.new, ByteStream.new]

/-- The output has room for the whole window. -/
theorem Exact.roomy (held : Exact s capacity t) (small : capacity < 2 ^ 31) :
    min (t.reassembler.edge t.popped) (2 ^ 64 - 1) ≤
      t.reassembler.assembled t.popped + t.reassembler.output.remainingCapacity := by
  -- What is assembled and not popped is in the buffer, so the two bounds meet.
  have within := held.sound.assembled_le_edge
  simp only [StreamReassembler.assembled, StreamReassembler.edge, List.length_append,
    held.fixed] at within ⊢
  rw [ByteStream.remainingCapacity_new small held.room (by omega)]
  omega

/-- Taking bytes from the output changes nothing but who holds them. -/
theorem Exact.taken (held : Exact s capacity t) {len : Nat}
    (inside : len ≤ t.reassembler.output.buffer.length) :
    Exact s capacity { t with
      reassembler := { t.reassembler with output := t.reassembler.output.taken len }
      popped := t.popped ++ t.reassembler.output.buffer.take len } := by
  -- What was popped and what is buffered are together the same.
  have same : output { t with
      reassembler := { t.reassembler with output := t.reassembler.output.taken len }
      popped := t.popped ++ t.reassembler.output.buffer.take len } = t.output := by
    simp only [output, ByteStream.taken, List.append_assoc, List.take_append_drop]
  refine ⟨held.sound.taken inside, held.fixed, held.room, ?_, held.stored, ?_, held.endIdx, ?_⟩
  · rw [same]; exact held.content
  · rw [same]; exact held.accepted
  · rw [same]; exact held.ended

/-- A pushed slice is absorbed exactly. -/
theorem Exact.push (held : Exact s capacity t) (short : s.length + capacity < 2 ^ 31)
    {data : Bytes} {index : Nat} {eof : Bool} (slice : SliceOf s (.push data index eof)) :
    ∃ next, t.step (.push data index eof) = .ok next ∧ Exact s capacity next := by
  obtain ⟨inside, same, final⟩ := slice
  have sound := held.sound
  have written := held.content.length_le
  have popped : t.popped.length ≤ s.length := by
    simp only [output, List.length_append] at written
    omega
  have edge : t.reassembler.edge t.popped = t.popped.length + capacity := by
    rw [StreamReassembler.edge, held.fixed]
  -- Every index in play is below half the 32-bit range, so the narrowing is exact.
  have signs : t.reassembler.SignsKept t.popped data index := by
    intro nonempty reaches
    have kept := sound.assembled_le_edge
    exact ⟨signKept_of_near (by omega) (by omega), fun _ => signKept_of_near (by omega) (by omega)⟩
  obtain ⟨r, pushes, bounded, absorbs⟩ :=
    StreamReassembler.pushSubstring_spec sound (by omega) signs eof
  have pushed := absorbs (by omega)
  obtain ⟨bytes, buffer, origin⟩ := pushed.moved
  have slice : ∀ i value, PlacedAt index data i value → s[i]? = some value := by
    -- Every pushed byte is that of the string at its index.
    intro i value found
    rw [same] at found
    exact found.of_take.getElem?_of_drop
  -- The output grows by bytes that agree with the string at their places.
  have content : t.popped ++ r.output.buffer <+: s := by
    rw [buffer, ← List.append_assoc]
    refine prefix_extend held.content fun i value found => ?_
    rcases origin i value found with stored | new
    · exact held.stored i value stored
    · exact slice i value new
  have more : t.output.length ≤ (t.popped ++ r.output.buffer).length := by
    simp only [output, buffer, List.length_append]
    omega
  refine ⟨_, by rw [step, pushes, ok_bind, pure_eq_ok], ?_⟩
  refine ⟨pushed.sound, ?_, ?_, content, ?_, ?_, ?_, ?_⟩
  · exact pushed.capacity.trans held.fixed
  · exact pushed.room.trans held.room
  · -- A stored byte was stored before, or is a pushed one.
    intro i value found
    rcases pushed.stored i value found with stored | new
    · exact held.stored i value stored
    · exact slice i value new
  · -- What is accepted now was accepted before, or is pushed inside the window.
    intro i
    have old : (i < t.reassembler.assembled t.popped ∨ Covered t.reassembler.m.entries i) ↔
        t.Accepted i := (held.accepted i).symm
    refine Iff.trans ?_ ((pushed.covered (held.roomy (by omega)) i).trans (by rw [old])).symm
    have met : t.reassembler.output.bytesRead + t.reassembler.capacity =
        t.reassembler.edge t.popped := by rw [sound.bytesRead, StreamReassembler.edge]
    simp only [Accepted, List.mem_append, List.mem_singleton, or_and_right, exists_or,
      exists_eq_left, met]
  · -- The end is the length of the string, once it was announced.
    rw [pushed.endIdx, held.endIdx]
    cases eof with
    | true => simp [final rfl]
    | false => simp
  · -- The output has ended once it is as long as the string, and the end was announced.
    rw [pushed.ended, pushed.endIdx, held.ended, held.endIdx]
    have whole := content.length_le
    simp only [StreamReassembler.assembled, output] at more ⊢
    cases eof with
    | true => simp only [if_true, Bool.or_true, true_and, final rfl]; omega
    | false =>
      -- Without a known end the counter would have to be past every length.
      simp only [Bool.false_eq_true, if_false, Bool.or_false]
      cases t.eofPushed with
      | true => simp only [if_true, true_and]; omega
      | false => simp only [Bool.false_eq_true, if_false, false_and, false_or, iff_false]; omega

/-- Every call on slices of the string returns and keeps the invariant. -/
theorem Exact.step (held : Exact s capacity t) (short : s.length + capacity < 2 ^ 31)
    {call : ReassemblerCall} (slice : SliceOf s call) :
    ∃ next, t.step call = .ok next ∧ Exact s capacity next := by
  -- The output is part of a short string, so its counters are exact.
  have written := held.content.length_le
  simp only [output, List.length_append] at written
  cases call with
  | push data index eof => exact held.push short slice
  | reader call =>
    obtain ⟨len, inside, served⟩ := held.sound.counts.serve (by omega) call
    exact ⟨_, by rw [ReassemblerRun.step, served, ok_bind, pure_eq_ok], held.taken inside⟩

/-- The length of the output is the least index not accepted. -/
theorem Exact.isLeast (held : Exact s capacity t) :
    IsLeast {i | ¬ t.Accepted i} t.output.length := by
  constructor
  · simp only [Set.mem_ofPred_eq, held.accepted, Nat.lt_irrefl, false_or]
    -- Stored entries lie beyond the next index.
    rintro ⟨entry, member, low, _⟩
    have := held.sound.waiting entry member
    exact absurd low (Nat.not_le.mpr this)
  · intro i missing
    by_contra below
    exact missing ((held.accepted i).mpr (.inl (Nat.lt_of_not_le below)))

/-- The waiting bytes are the accepted indices past the output. -/
theorem Exact.waiting (held : Exact s capacity t) :
    t.reassembler.unassembledBytes = {i | t.Accepted i ∧ t.output.length ≤ i}.ncard := by
  -- Accepted indices are below the output or covered by a stored entry.
  have same : {i | t.Accepted i ∧ t.output.length ≤ i} =
      {i | Covered t.reassembler.m.entries i} := by
    ext i
    simp only [Set.mem_ofPred_eq, held.accepted]
    constructor
    · rintro ⟨below | covered, reached⟩
      · omega
      · exact covered
    · intro covered
      exact ⟨.inr covered, (held.sound.placed.covered_range covered).1⟩
  rw [same, held.sound.placed.ncard_covered, StreamReassembler.unassembledBytes,
    held.sound.counted]

/-- Every order of pushes and reads assembles exactly the accepted leading part of the string. -/
theorem reassembly_exact (s : Bytes) (capacity : Nat) (calls : List ReassemblerCall)
    (small : capacity < 2 ^ 31) (short : s.length < 2 ^ 31 - capacity)
    (slices : ∀ call ∈ calls, SliceOf s call) :
    ∃ t n, runCalls step (start capacity) calls = .ok t ∧
      IsLeast {i | ¬ t.Accepted i} n ∧
      t.output = s.take n ∧
      t.reassembler.unassembledBytes = {i | t.Accepted i ∧ n ≤ i}.ncard ∧
      (t.reassembler.streamOut.inputEnded = true ↔ t.eofPushed = true ∧ n = s.length) := by
  have along : Throughout step (fun _ call => SliceOf s call) (start capacity) calls :=
    -- The invariant does not depend on the order of the calls.
    .of_forall calls _ slices
  obtain ⟨t, returned, held⟩ := along.returns (Exact s capacity)
    (fun _ _ held slice => Exact.step held (by omega) slice) (exact_start s capacity)
  refine ⟨t, t.output.length, returned, held.isLeast, ?_, held.waiting, held.ended⟩
  exact List.prefix_iff_eq_take.mp held.content

/-- Three overlapping slices, out of order and cut at the window, with a read between them. -/
theorem reassembly_exact_overlapping :
    ∃ t n, runCalls step (start 4)
        [.push [3, 4, 5] 2 true, .push [1, 2, 3] 0 false, .reader (.read 3),
          .push [4, 5] 3 true] = .ok t ∧
      IsLeast {i | ¬ t.Accepted i} n ∧
      t.output = [1, 2, 3, 4, 5].take n ∧
      t.reassembler.unassembledBytes = {i | t.Accepted i ∧ n ≤ i}.ncard ∧
      (t.reassembler.streamOut.inputEnded = true ↔
        t.eofPushed = true ∧ n = [1, 2, 3, 4, 5].length) :=
  reassembly_exact [1, 2, 3, 4, 5] 4 _ (by decide) (by decide) (by simp [SliceOf])

end ReassemblerRun

end Sponge
