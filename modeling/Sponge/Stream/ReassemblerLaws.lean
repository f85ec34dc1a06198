import Sponge.Stream.ReassemblerFlush

/-! One push: what it accepts, what it writes, and the invariant it keeps. -/

namespace Sponge

/-- Narrowing the room left of a right edge to an `int` does not change its sign. -/
def SignKept (edge index : Nat) : Prop :=
  -- A negative result is the code's test for an index past the edge.
  toInt32 ((edge : Int) - 1 - index) < 0 ↔ edge ≤ index

/-- An index at most half the 32-bit range past the edge, in a window not wider, is judged rightly. -/
theorem signKept_of_near {edge index : Nat} (near : index < edge + 2 ^ 31)
    (narrow : edge ≤ index + 2 ^ 31) : SignKept edge index := by
  rw [SignKept, toInt32_of_fits (by omega) (by omega)]
  omega

namespace StreamReassembler

/-- The number of bytes ever written to the output. -/
def assembled (r : StreamReassembler) (popped : Bytes) : Nat :=
  (popped ++ r.output.buffer).length

/-- The first index that the window does not admit. -/
def edge (r : StreamReassembler) (popped : Bytes) : Nat := popped.length + r.capacity

/-- The invariant of a reassembler whose reader has popped some bytes. -/
structure Sound (r : StreamReassembler) (popped : Bytes) : Prop where
  /-- The counters of the output are those of its bytes. -/
  counts : r.output.Counts popped
  /-- The counters have not reached the sign bit. -/
  small : r.assembled popped < 2 ^ 31
  /-- The waiting entries are nonempty, disjoint and within the window. -/
  placed : Placed (r.assembled popped) r.m.entries (min (r.edge popped) (2 ^ 64 - 1))
  /-- No waiting entry continues the output. -/
  waiting : ∀ entry ∈ r.m.entries, r.assembled popped < runFirst entry
  /-- The count of waiting bytes is exact. -/
  counted : r.unassembled = totalSize r.m.entries

/-- A new reassembler satisfies the invariant. -/
theorem sound_new (capacity : Nat) : (new capacity).Sound [] := by
  -- Nothing is assembled, stored or counted.
  refine ⟨ByteStream.counts_new capacity, ?_, ?_, ?_, ?_⟩
  · simp [assembled, new, ByteStream.new]
  · simp [assembled, new, ByteStream.new, OrderedMap.empty, Placed]
  · simp [new, OrderedMap.empty]
  · simp [new, OrderedMap.empty]

namespace Sound

variable {r : StreamReassembler} {popped : Bytes}

/-- The output has accepted as many bytes as its counter says. -/
theorem bytesWritten (sound : r.Sound popped) : r.output.bytesWritten = r.assembled popped :=
  sound.counts.bytesWritten sound.small

/-- The reader has popped as many bytes as the counter says. -/
theorem bytesRead (sound : r.Sound popped) : r.output.bytesRead = popped.length := by
  have small := sound.small
  simp only [assembled, List.length_append] at small
  exact sound.counts.bytesRead (by omega)

/-- The output never passes the right edge. -/
theorem assembled_le_edge (sound : r.Sound popped) : r.assembled popped ≤ r.edge popped := by
  have := sound.placed.le
  omega

/-- The overflow test compares an index with the right edge wherever narrowing keeps the sign. -/
theorem overflow_neg_iff (sound : r.Sound popped) {index : Nat} (word : index < 2 ^ 64)
    (kept : SignKept (r.edge popped) index) : r.overflow index < 0 ↔ r.edge popped ≤ index := by
  rw [SignKept] at kept
  -- The difference is narrowed to an `int`, of which only the sign is tested.
  rw [← kept, overflow, sound.bytesRead, edge]
  simp only [toInt32, sub64, add64]
  omega

end Sound

/-- What a push adds to the entries and to the output. -/
structure Absorbed (popped : Bytes) (r r' : StreamReassembler) (data : Bytes) (index : Nat) :
    Prop where
  /-- The invariant is kept. -/
  sound : r'.Sound popped
  /-- The capacity is fixed. -/
  capacity : r'.capacity = r.capacity
  /-- The known end is not touched. -/
  endIdx : r'.endIdx = r.endIdx
  /-- The output grows by bytes that were stored or pushed at their place. -/
  moved : ∃ bytes, r'.output = r.output.appended bytes ∧
    ∀ i value, PlacedAt (r.assembled popped) bytes i value →
      Stored r.m.entries i value ∨ PlacedAt index data i value
  /-- Every waiting byte was stored or pushed at its place. -/
  stored : ∀ i value, Stored r'.m.entries i value →
    Stored r.m.entries i value ∨ PlacedAt index data i value
  /-- With room in the output, exactly the pushed indices inside the window are added. -/
  covered : min (r.edge popped) (2 ^ 64 - 1) ≤ r.assembled popped + r.output.remainingCapacity →
    ∀ i, (i < r'.assembled popped ∨ Covered r'.m.entries i) ↔
      (i < r.assembled popped ∨ Covered r.m.entries i) ∨
        (index ≤ i ∧ i < index + data.length ∧ i < r.edge popped)

section Push

variable {r : StreamReassembler} {popped data : Bytes} {index : Nat}

/-- A push that brings nothing new leaves everything as it is. -/
theorem absorbed_nothing (sound : r.Sound popped)
    (nothing : ∀ i, index ≤ i → i < index + data.length → i < r.edge popped →
      i < r.assembled popped) : Absorbed popped r r data index := by
  refine ⟨sound, rfl, rfl, ⟨[], sound.counts.appended_nil.symm, ?_⟩, fun _ _ held => .inl held, ?_⟩
  · rintro i value ⟨offset, found, _⟩
    simp at found
  · intro _ i
    constructor
    · exact .inl
    · -- What the push could bring is already in the output.
      rintro (held | ⟨low, high, admitted⟩)
      · exact held
      · exact .inl (nothing i low high admitted)

/-- What clipping leaves of pushed data, with its first and its last index. -/
structure Clipped (r : StreamReassembler) (popped data : Bytes) (index : Nat) (d : Bytes)
    (lb rb : Nat) : Prop where
  /-- The indices are those of the first and of the last byte. -/
  size : lb + d.length = rb + 1
  /-- Some byte is left. -/
  nonempty : 0 < d.length
  /-- Nothing is left of the written part. -/
  start : r.assembled popped ≤ lb
  /-- Nothing is left past the right edge. -/
  stop : rb < min (r.edge popped) (2 ^ 64 - 1)
  /-- What is left stands where it was pushed. -/
  placed : ∀ i value, PlacedAt lb d i value → PlacedAt index data i value
  /-- Every new index inside the window is left. -/
  range : ∀ i, (lb ≤ i ∧ i ≤ rb) ↔ r.assembled popped ≤ i ∧
    (index ≤ i ∧ i < index + data.length ∧ i < r.edge popped)

/-- Storing clipped data and flushing absorbs it. -/
theorem store_flush_spec (sound : r.Sound popped) {d : Bytes} {lb rb : Nat}
    (clipped : r.Clipped popped data index d lb rb) :
    ∃ stored, r.store d lb rb = .ok stored ∧
      stored.flush.assembled popped ≤ r.edge popped ∧
      (stored.flush.assembled popped < 2 ^ 31 → Absorbed popped r stored.flush data index) := by
  obtain ⟨m, stores, merged⟩ :=
    store_spec sound.placed (by omega) sound.counted clipped.size clipped.nonempty clipped.start
      clipped.stop
  refine ⟨_, stores, ?_, fun short => ?_⟩
  · -- The flush writes no more than is stored.
    have grows := flushEntries_buffer_le_add r.output (totalSize m.entries) m.entries
    have bounded := merged.placed.totalSize_le
    simp only [assembled, flush_output, List.length_append] at bounded ⊢
    omega
  -- The flush starts from the merged entries, whose count is exact.
  obtain ⟨bytes, rest, flushes, flushed⟩ := flushEntries_spec (by omega) m.entries r.output
    (totalSize m.entries) sound.counts merged.placed rfl short
  have output : (flush { r with m := m, unassembled := totalSize m.entries }).output =
      r.output.appended bytes := by rw [flush_output, flushes]
  have entries : (flush { r with m := m, unassembled := totalSize m.entries }).m.entries = rest := by
    rw [flush_entries, flushes]
  have grown : (flush { r with m := m, unassembled := totalSize m.entries }).assembled popped =
      r.assembled popped + bytes.length := by
    rw [assembled, output]
    simp only [ByteStream.appended, assembled, List.length_append]
    omega
  refine ⟨⟨?_, short, ?_, ?_, ?_⟩, rfl, rfl, ⟨bytes, output, ?_⟩, ?_, ?_⟩
  · -- The output counts what it was given.
    rw [output]; exact sound.counts.appended bytes
  · -- The entries that are left lie behind the output.
    rw [grown, entries]; exact flushed.placed
  · -- The first of them does not continue it.
    rw [grown, entries]; exact flushed.waiting
  · -- The count is that of the entries that are left.
    rw [entries, flush_unassembled, flushes]
  · -- A byte that was moved was stored before, or came with the data.
    intro i value held
    exact (merged.stored i value (flushed.moves i value held)).imp id
      (clipped.placed i value)
  · -- So was one that is still stored.
    intro i value held
    rw [entries] at held
    exact (merged.stored i value (flushed.stored i value held)).imp id
      (clipped.placed i value)
  · -- With room for everything, no index is lost and none is made up.
    intro room i
    have kept := flushed.covered room i
    rw [merged.covered i, clipped.range i] at kept
    rw [grown, entries]
    constructor
    · -- An index that is covered now was covered before, or is one of the data.
      rintro (below | held)
      · by_cases old : i < r.assembled popped
        · exact .inl (.inl old)
        · rcases kept.mpr (.inl ⟨by rw [assembled] at old; omega, by rw [assembled] at below; omega⟩)
            with held | ⟨_, new⟩
          · exact .inl (.inr held)
          · exact .inr new
      · rcases kept.mpr (.inr held) with held | ⟨_, new⟩
        · exact .inl (.inr held)
        · exact .inr new
    · have moves : ∀ i, (r.assembled popped ≤ i ∧ i < (popped ++ r.output.buffer).length +
          bytes.length) → i < r.assembled popped + bytes.length := by
        intro i inside
        rw [assembled]
        exact inside.2
      -- An index covered before, or one of the data, is written or stored now.
      rintro ((old | held) | new)
      · exact .inl (by omega)
      · exact (kept.mp (.inl held)).imp (moves i) id
      · by_cases old : i < r.assembled popped
        · exact .inl (by omega)
        · exact (kept.mp (.inr ⟨by omega, new⟩)).imp (moves i) id

/-- The narrowing in the overflow test keeps the sign at both ends of pushed data. -/
def SignsKept (r : StreamReassembler) (popped data : Bytes) (index : Nat) : Prop :=
  -- Only data that reaches past the written part is tested at all.
  0 < data.length → r.assembled popped < index + data.length →
    SignKept (r.edge popped) (index + data.length - 1) ∧
      (r.edge popped < index + data.length →
        SignKept (r.edge popped) (max index (r.assembled popped)))

/-- The part of pushed data that the written bytes leave over. -/
theorem clipLeft_eq (sound : r.Sound popped) (word : index + data.length < 2 ^ 64 - 1)
    (reaches : r.assembled popped < index + data.length) :
    r.clipLeft data index = .ok (data.drop (r.assembled popped - index)) := by
  have small := sound.small
  rw [clipLeft, sound.bytesWritten]
  -- Only data that starts before the next byte is cut.
  split
  · rw [sub64_of_le (by omega) (by omega), substr_of_le (by omega), List.take_of_length_le]
    rw [List.length_drop]
    omega
  · rw [show r.assembled popped - index = 0 by omega, List.drop_zero]

/-- The clipping computes the last index of the data, and the first one not yet written. -/
theorem clip_bounds (sound : r.Sound popped) (word : index + data.length < 2 ^ 64 - 1)
    (nonempty : data.length ≠ 0) :
    sub64 (add64 index data.length) 1 = index + data.length - 1 ∧
      (if index < r.output.bytesWritten then r.output.bytesWritten else index) =
        max index (r.assembled popped) := by
  rw [sound.bytesWritten, add64_of_lt (by omega), sub64_of_le (by omega) (by omega)]
  refine ⟨rfl, ?_⟩
  split <;> omega

/-- Nothing is left of data wholly outside the window. -/
theorem clipThen_outside {m : Type → Type} [Monad m] [LawfulMonad m] {β : Type}
    (sound : r.Sound popped) (word : index + data.length < 2 ^ 64 - 1)
    (signs : r.SignsKept popped data index)
    (outside : ∀ i, index ≤ i → i < index + data.length → i < r.edge popped →
      i < r.assembled popped) (nothing : β)
    (keep : Bytes → Nat → Nat → ExceptT Fault m β) :
    r.clipThen data index nothing keep = pure nothing := by
  rw [clipThen]
  by_cases empty : data.length = 0
  · -- Empty data is left alone.
    rw [if_pos empty]
  · rw [if_neg empty]
    obtain ⟨last, first⟩ := clip_bounds sound word empty
    dsimp only
    rw [last, first, sound.bytesWritten]
    by_cases written : index + data.length ≤ r.assembled popped
    · -- All of the data was written before.
      rw [if_pos (by omega)]
    · -- The last byte is past the written part, so it is past the edge, and so is the first.
      obtain ⟨atLast, atFirst⟩ := signs (by omega) (by omega)
      have beyond : r.edge popped ≤ index + data.length - 1 := by
        by_contra inside
        have := outside (index + data.length - 1) (by omega) (by omega) (by omega)
        omega
      have dropped : r.edge popped ≤ max index (r.assembled popped) := by
        by_contra inside
        have := outside (max index (r.assembled popped)) (by omega) (by omega) (by omega)
        omega
      have small := sound.small
      rw [if_neg (by omega), clipLeft_eq sound word (by omega), mk_ok_bind,
        if_pos ((sound.overflow_neg_iff (by omega) atLast).mpr beyond),
        if_pos ((sound.overflow_neg_iff (by omega) (atFirst (by omega))).mpr dropped)]

/-- Of data with a new index inside the window, exactly such indices are left. -/
theorem clipThen_inside (sound : r.Sound popped) (word : index + data.length < 2 ^ 64 - 1)
    (signs : r.SignsKept popped data index) {new : Nat} (low : index ≤ new)
    (high : new < index + data.length) (admitted : new < r.edge popped)
    (unwritten : r.assembled popped ≤ new) :
    ∃ d lb rb, r.Clipped popped data index d lb rb ∧
      ∀ {m : Type → Type} [Monad m] [LawfulMonad m] {β : Type} (nothing : β)
        (keep : Bytes → Nat → Nat → ExceptT Fault m β),
        r.clipThen data index nothing keep = keep d lb rb := by
  obtain ⟨atLast, atFirst⟩ := signs (by omega) (by omega)
  obtain ⟨last, first⟩ := clip_bounds sound word (by omega)
  have small := sound.small
  have rest : (data.drop (r.assembled popped - index)).length =
      data.length - (r.assembled popped - index) := List.length_drop
  -- What is left on the left starts at the end of the written part, or where the data does.
  have placed : ∀ i value, PlacedAt (max index (r.assembled popped))
      (data.drop (r.assembled popped - index)) i value → PlacedAt index data i value := by
    intro i value held
    have shifted : max index (r.assembled popped) = index + (r.assembled popped - index) := by
      omega
    rw [shifted] at held
    exact held.of_drop
  by_cases beyond : r.edge popped ≤ index + data.length - 1
  · -- The trailing excess is cut off at the right edge.
    have edge : sub64 (add64 r.output.bytesRead r.capacity) 1 = r.edge popped - 1 := by
      rw [sound.bytesRead]
      simp only [StreamReassembler.edge] at beyond admitted ⊢
      rw [add64_of_lt (by omega), sub64_of_le (by omega) (by omega)]
    have kept : add64 (sub64 (r.edge popped - 1) (max index (r.assembled popped))) 1 =
        r.edge popped - max index (r.assembled popped) := by
      rw [sub64_of_le (by omega) (by omega), add64_of_lt (by omega)]
      omega
    refine ⟨(data.drop (r.assembled popped - index)).take
      (r.edge popped - max index (r.assembled popped)), max index (r.assembled popped),
      r.edge popped - 1, ⟨?_, ?_, by omega, by omega,
        fun i value held => placed i value held.of_take, fun i => by omega⟩, ?_⟩
    · -- The length up to the edge.
      rw [List.length_take, rest]
      omega
    · rw [List.length_take, rest]
      omega
    · -- The code tests the last index, and then the first.
      intro m _ _ β nothing keep
      rw [clipThen, if_neg (by omega)]
      dsimp only
      rw [last, first, sound.bytesWritten, if_neg (by omega), clipLeft_eq sound word (by omega),
        mk_ok_bind, if_pos ((sound.overflow_neg_iff (by omega) atLast).mpr beyond),
        if_neg (fun past => by
          have := (sound.overflow_neg_iff (by omega) (atFirst (by omega))).mp past
          omega), edge, kept]
  · -- The data ends inside the window.
    refine ⟨data.drop (r.assembled popped - index), max index (r.assembled popped),
      index + data.length - 1, ⟨by omega, by omega, by omega, by omega, placed,
        fun i => by omega⟩, ?_⟩
    intro m _ _ β nothing keep
    rw [clipThen, if_neg (by omega)]
    dsimp only
    rw [last, first, sound.bytesWritten, if_neg (by omega), clipLeft_eq sound word (by omega),
      mk_ok_bind, if_neg (fun past => beyond ((sound.overflow_neg_iff (by omega) atLast).mp past))]

/-- Data wholly outside the window is dropped. -/
theorem addTempCash_outside (sound : r.Sound popped) (word : index + data.length < 2 ^ 64 - 1)
    (signs : r.SignsKept popped data index)
    (outside : ∀ i, index ≤ i → i < index + data.length → i < r.edge popped →
      i < r.assembled popped) : r.addTempCash data index = .ok r := by
  rw [addTempCash, Observable.result, addTempCashWith, clipThen_outside sound word signs outside,
    run_pure]

/-- A push of data succeeds whenever narrowing keeps the signs, and absorbs the data. -/
theorem addTempCash_spec (sound : r.Sound popped) (word : index + data.length < 2 ^ 64 - 1)
    (signs : r.SignsKept popped data index) :
    ∃ r', r.addTempCash data index = .ok r' ∧ r'.assembled popped ≤ r.edge popped ∧
      (r'.assembled popped < 2 ^ 31 → Absorbed popped r r' data index) := by
  by_cases outside : ∀ i, index ≤ i → i < index + data.length → i < r.edge popped →
      i < r.assembled popped
  · -- Nothing is left of the data.
    exact ⟨r, addTempCash_outside sound word signs outside, sound.assembled_le_edge,
      fun _ => absorbed_nothing sound outside⟩
  · -- Some pushed index is new and inside the window, so something is left to store.
    simp only [not_forall, Nat.not_lt] at outside
    obtain ⟨new, low, high, admitted, unwritten⟩ := outside
    obtain ⟨d, lb, rb, clipped, clips⟩ :=
      clipThen_inside sound word signs low high admitted unwritten
    obtain ⟨stored, stores, bounded, absorbed⟩ := store_flush_spec sound clipped
    refine ⟨stored.flush, ?_, bounded, absorbed⟩
    rw [addTempCash, Observable.result, addTempCashWith, clips, run_bind,
      show Id.run (r.storeWith (fun _ => pure ()) d lb rb).run = _ from stores, ok_bind]
    rfl

end Push

/-- What a push of a substring leaves behind. -/
structure Pushed (popped : Bytes) (r r' : StreamReassembler) (data : Bytes) (index : Nat)
    (eof : Bool) : Prop where
  /-- The invariant is kept. -/
  sound : r'.Sound popped
  /-- The capacity is fixed. -/
  capacity : r'.capacity = r.capacity
  /-- So is the capacity of the output. -/
  room : r'.output.capacity = r.output.capacity
  /-- The error flag is not touched. -/
  error : r'.output.error = r.output.error
  /-- The end becomes known with the last substring. -/
  endIdx : r'.endIdx = if eof then index + data.length else r.endIdx
  /-- The output ends when it has reached the known end. -/
  ended : r'.output.ended = true ↔ r.output.ended = true ∨ r'.assembled popped = r'.endIdx
  /-- The output grows by bytes that were stored or pushed at their place. -/
  moved : ∃ bytes, r'.output.buffer = r.output.buffer ++ bytes ∧
    ∀ i value, PlacedAt (r.assembled popped) bytes i value →
      Stored r.m.entries i value ∨ PlacedAt index data i value
  /-- Every waiting byte was stored or pushed at its place. -/
  stored : ∀ i value, Stored r'.m.entries i value →
    Stored r.m.entries i value ∨ PlacedAt index data i value
  /-- With room in the output, exactly the pushed indices inside the window are added. -/
  covered : min (r.edge popped) (2 ^ 64 - 1) ≤ r.assembled popped + r.output.remainingCapacity →
    ∀ i, (i < r'.assembled popped ∨ Covered r'.m.entries i) ↔
      (i < r.assembled popped ∨ Covered r.m.entries i) ∨
        (index ≤ i ∧ i < index + data.length ∧ i < r.edge popped)

/-- The invariant does not depend on the known end. -/
theorem Sound.withEnd {r : StreamReassembler} {popped : Bytes} (sound : r.Sound popped)
    (endIdx : Nat) : Sound { r with endIdx := endIdx } popped :=
  ⟨sound.counts, sound.small, sound.placed, sound.waiting, sound.counted⟩

/-- The invariant does not depend on whether the output has ended. -/
theorem Sound.withEndInput {r : StreamReassembler} {popped : Bytes} (sound : r.Sound popped) :
    Sound { r with output := r.output.endInput } popped :=
  ⟨⟨sound.counts.read, sound.counts.written⟩, sound.small, sound.placed, sound.waiting,
    sound.counted⟩

/-- A push of a substring succeeds whenever narrowing keeps the signs. -/
theorem pushSubstring_spec {r : StreamReassembler} {popped data : Bytes} {index : Nat}
    (sound : r.Sound popped) (word : index + data.length < 2 ^ 64 - 1)
    (signs : r.SignsKept popped data index) (eof : Bool) :
    ∃ r', r.pushSubstring data index eof = .ok r' ∧ r'.assembled popped ≤ r.edge popped ∧
      (r'.assembled popped < 2 ^ 31 → Pushed popped r r' data index eof) := by
  -- Noting the end changes nothing that storing the data reads.
  have known : (if eof then { r with endIdx := add64 index data.length } else r) =
      { r with endIdx := if eof then index + data.length else r.endIdx } := by
    rw [add64_of_lt (by omega)]
    cases eof <;> rfl
  obtain ⟨added, adds, bounded, absorbs⟩ := addTempCash_spec
    (sound.withEnd (if eof then index + data.length else r.endIdx)) word signs
  rw [pushSubstring_def]
  rw [known, adds, ok_bind]
  by_cases reached : added.output.bytesWritten = added.endIdx
  · -- The end of the stream is reached.
    rw [if_pos reached]
    refine ⟨_, pure_eq_ok _, bounded, fun short => ?_⟩
    have absorbed := absorbs short
    obtain ⟨bytes, output, origin⟩ := absorbed.moved
    refine ⟨absorbed.sound.withEndInput, absorbed.capacity, ?_, ?_, absorbed.endIdx, ?_,
      ⟨bytes, ?_, origin⟩, absorbed.stored, absorbed.covered⟩
    · rw [output]; rfl
    · rw [output]; rfl
    · -- The stream ends exactly with the last byte.
      refine ⟨fun _ => .inr ?_, fun _ => rfl⟩
      rw [absorbed.sound.bytesWritten] at reached
      exact reached
    · rw [output]; rfl
  · -- The end is not reached, or not known.
    rw [if_neg reached]
    refine ⟨_, pure_eq_ok _, bounded, fun short => ?_⟩
    have absorbed := absorbs short
    obtain ⟨bytes, output, origin⟩ := absorbed.moved
    refine ⟨absorbed.sound, absorbed.capacity, ?_, ?_, absorbed.endIdx, ?_,
      ⟨bytes, ?_, origin⟩, absorbed.stored, absorbed.covered⟩
    · rw [output]; rfl
    · rw [output]; rfl
    · -- The stream has ended only if it had before.
      rw [absorbed.sound.bytesWritten] at reached
      simp only [reached, or_false]
      rw [output]
      rfl
    · rw [output]; rfl

/-- A push wholly outside the window only notes the end. -/
theorem pushSubstring_outside {r r' : StreamReassembler} {popped data : Bytes} {index : Nat}
    {eof : Bool} (sound : r.Sound popped) (word : index + data.length < 2 ^ 64 - 1)
    (signs : r.SignsKept popped data index)
    (outside : ∀ i, index ≤ i → i < index + data.length → i < r.edge popped →
      i < r.assembled popped) (pushed : r.pushSubstring data index eof = .ok r') :
    r'.m = r.m ∧ r'.unassembled = r.unassembled := by
  -- Noting the end is all that happens before the data is looked at.
  have known : (if eof then { r with endIdx := add64 index data.length } else r) =
      { r with endIdx := if eof then add64 index data.length else r.endIdx } := by
    cases eof <;> rfl
  rw [pushSubstring_def] at pushed
  rw [known, addTempCash_outside (sound.withEnd (if eof then add64 index data.length else r.endIdx))
    word signs outside, ok_bind] at pushed
  generalize (if eof then add64 index data.length else r.endIdx) = last at pushed
  -- The input may end here, which leaves the map alone.
  split at pushed
  · rw [pure_eq_ok, Except.ok.injEq] at pushed
    rw [← pushed]
    exact ⟨rfl, rfl⟩
  · rw [pure_eq_ok, Except.ok.injEq] at pushed
    rw [← pushed]
    exact ⟨rfl, rfl⟩

/-- Taking bytes from the output keeps the invariant, with the window moved on. -/
theorem Sound.taken {r : StreamReassembler} {popped : Bytes} (sound : r.Sound popped) {len : Nat}
    (inside : len ≤ r.output.buffer.length) :
    Sound { r with output := r.output.taken len } (popped ++ r.output.buffer.take len) := by
  -- What is taken from the output still counts as assembled.
  have same : assembled { r with output := r.output.taken len }
      (popped ++ r.output.buffer.take len) = r.assembled popped := by
    rw [assembled, ByteStream.taken, List.append_assoc, List.take_append_drop, assembled]
  refine ⟨sound.counts.taken inside, ?_, ?_, ?_, sound.counted⟩
  · rw [same]; exact sound.small
  · rw [same]
    refine sound.placed.raise ?_
    simp only [edge, List.length_append]
    omega
  · rw [same]; exact sound.waiting

end StreamReassembler

end Sponge
