import Sponge.Stream.ReassemblerGrowth

/-! The output of a reassembler never holds more than its capacity. -/

namespace Sponge

namespace ByteStream

/-- A stream was built for a number of bytes, and holds no more. -/
structure Within (s : ByteStream) (capacity : Nat) : Prop where
  /-- The capacity is the one it was built with. -/
  room : s.capacity = toInt32 capacity
  /-- The buffered bytes fit. -/
  held : s.buffer.length ≤ capacity

variable {s : ByteStream} {capacity : Nat}

/-- A new stream holds nothing. -/
theorem within_new (capacity : Nat) : (new capacity).Within capacity := ⟨rfl, Nat.zero_le _⟩

namespace Within

/-- A write takes no more than fits. -/
theorem write (within : s.Within capacity) (small : capacity < 2 ^ 31) (data : Bytes) :
    (s.write data).1.Within capacity := by
  have remaining := remainingCapacity_new small within.room within.held
  have held := within.held
  rw [ByteStream.write]
  split
  · rename_i fits
    refine ⟨within.room, ?_⟩
    rw [remaining] at fits
    rw [List.length_append]
    omega
  · refine ⟨within.room, ?_⟩
    -- The room is a small number, so the count is the room.
    rw [List.length_append, List.length_take, remaining, ofInt_toInt32 (by omega)]
    omega

/-- Taking bytes leaves no more. -/
theorem taken (within : s.Within capacity) (len : Nat) : (s.taken len).Within capacity := by
  refine ⟨within.room, ?_⟩
  have held := within.held
  rw [ByteStream.taken, List.length_drop]
  omega

end Within

end ByteStream

namespace StreamReassembler

/-- Flushing puts no more into the output than fits. -/
theorem flushEntries_within {capacity : Nat} (small : capacity < 2 ^ 31)
    (entries : List (Nat × Bytes)) :
    ∀ (output : ByteStream) (unassembled : Nat), output.Within capacity →
      (flushEntries output unassembled entries).1.Within capacity := by
  -- Each write accepts no more than there is room for.
  induction entries with
  | nil => exact fun _ _ within => within
  | cons entry rest ih =>
    intro output unassembled within
    rw [flushEntries_cons]
    split
    · exact ih _ _ (within.write small entry.2)
    · exact within

/-- Neither does a push. -/
theorem pushSubstring_within {r r' : StreamReassembler} {data : Bytes} {index capacity : Nat}
    {eof : Bool} (small : capacity < 2 ^ 31) (within : r.output.Within capacity)
    (pushed : r.pushSubstring data index eof = .ok r') : r'.output.Within capacity := by
  obtain ⟨output, same, grown⟩ := pushSubstring_output pushed
  have kept : output.Within capacity := by
    rcases grown with rfl | ⟨unassembled, entries, rfl⟩
    · exact within
    · exact flushEntries_within small entries _ _ within
  -- Ending the input leaves the buffer alone.
  rcases same with same | same
  · rw [same]
    exact kept
  · rw [same]
    exact ⟨kept.room, kept.held⟩

/-- Nothing is written by a push of nothing to a new reassembler. -/
theorem push_nothing (capacity : Nat) :
    (new capacity).pushSubstring [] 0 false = .ok (new capacity) := by
  have short : (new capacity).output.bytesWritten ≠ (new capacity).endIdx := by
    -- The end is not known, so the output does not reach it.
    simp [new, ByteStream.new, ByteStream.bytesWritten, ofInt]
  rw [pushSubstring_def, if_neg (by decide), addTempCash_def, if_pos List.length_nil, ok_bind,
    if_neg short, pure_eq_ok]

/-- The first byte of a stream is written at once. -/
theorem push_first {capacity : Nat} (small : capacity < 2 ^ 31) (some : 0 < capacity)
    (byte : UInt8) :
    ∃ r, (new capacity).pushSubstring [byte] 0 false = .ok r ∧
      r.output = (ByteStream.new capacity).appended [byte] := by
  have zero : (new capacity).output.bytesWritten = 0 := by
    -- Nothing is cut off on either side, and the byte is the next one.
    simp [new, ByteStream.new, ByteStream.bytesWritten, ofInt]
  have last : sub64 (add64 0 [byte].length) 1 = 0 := by simp [sub64, add64]
  have room : ¬ (new capacity).overflow 0 < 0 := by
    simp only [overflow, new, ByteStream.new, ByteStream.bytesRead, add64, sub64, ofInt, toInt32]
    omega
  have fits : [byte].length ≤ (ByteStream.new capacity).remainingCapacity := by
    rw [ByteStream.remainingCapacity_new small rfl (Nat.zero_le _)]
    exact some
  have next : (ByteStream.new capacity).bytesWritten = firstIdx (0, [byte]) := by
    rw [show (ByteStream.new capacity).bytesWritten = 0 from zero]
    simp [firstIdx, sub64, add64]
  -- The byte is stored alone, and flushed.
  obtain ⟨stored, stores, entries, output, ending⟩ : ∃ stored,
      (new capacity).store [byte] 0 0 = .ok stored ∧ stored.m.entries = [(0, [byte])] ∧
        stored.output = ByteStream.new capacity ∧ stored.endIdx = 2 ^ 64 - 1 :=
    ⟨_, rfl, rfl, rfl, rfl⟩
  have added : (new capacity).addTempCash [byte] 0 = .ok stored.flush := by
    rw [addTempCash_def, if_neg (by simp)]
    dsimp only
    rw [last, zero, if_neg (by omega), clipLeft, zero, if_neg (by omega), if_neg (by omega),
      ok_bind, if_neg room, stores, ok_bind, pure_eq_ok]
  have flushed : stored.flush.output = (ByteStream.new capacity).appended [byte] := by
    rw [flush_output, entries, output, flushEntries_cons, if_pos next,
      ByteStream.write_of_fits _ [byte] fits]
    rfl
  have short : stored.flush.output.bytesWritten ≠ stored.flush.endIdx := by
    -- The end is not known, so the output does not reach it.
    have one : ([] ++ ((ByteStream.new capacity).appended [byte]).buffer).length = 1 := rfl
    rw [flushed, ((ByteStream.counts_new capacity).appended [byte]).bytesWritten (by omega), one,
      show stored.flush.endIdx = 2 ^ 64 - 1 from ending]
    decide
  rw [pushSubstring_def, if_neg (by decide), added, ok_bind]
  exact ⟨_, if_neg short, flushed⟩

end StreamReassembler

end Sponge
