import Sponge.Stream.ReassemblerStore

/-! Flushing moves exactly the contiguous entries from the map to the output. -/

namespace Sponge

open StreamReassembler

/-- Flushing never removes buffered bytes. -/
theorem flushEntries_buffer_le (output : ByteStream) (unassembled : Nat)
    (entries : List (Nat × Bytes)) :
    output.buffer.length ≤ (flushEntries output unassembled entries).1.buffer.length := by
  -- No write removes anything.
  induction entries generalizing output unassembled with
  | nil => exact Nat.le_refl _
  | cons entry rest ih =>
    simp only [flushEntries_cons]
    split
    · exact (output.write_buffer_le entry.2).trans (ih _ _)
    · exact Nat.le_refl _

/-- Flushing adds at most the waiting bytes. -/
theorem flushEntries_buffer_le_add (output : ByteStream) (unassembled : Nat)
    (entries : List (Nat × Bytes)) :
    (flushEntries output unassembled entries).1.buffer.length ≤
      output.buffer.length + totalSize entries := by
  -- Each write adds at most its entry.
  induction entries generalizing output unassembled with
  | nil => exact Nat.le_refl _
  | cons entry rest ih =>
    simp only [flushEntries_cons, totalSize_cons]
    split
    · have := output.write_buffer_le_add entry.2
      have := ih (output.write entry.2).1 (sub64 unassembled entry.2.length)
      omega
    · dsimp only
      omega

/-- What a flush moves from the waiting entries to the end of the output. -/
structure Flushed (output : ByteStream) (before after : List (Nat × Bytes)) (moved : Bytes)
    (lo hi : Nat) : Prop where
  /-- What is left waits strictly after the end of the output. -/
  waiting : ∀ entry ∈ after, lo + moved.length < runFirst entry
  /-- What is left stays disjoint and within the window. -/
  placed : Placed (lo + moved.length) after hi
  /-- Every moved byte was stored at its place in the output. -/
  moves : ∀ index value, PlacedAt lo moved index value → Stored before index value
  /-- What is left was there before. -/
  stored : ∀ index value, Stored after index value → Stored before index value
  /-- With room in the output, no stored index is lost. -/
  covered : hi ≤ lo + output.remainingCapacity → ∀ index,
    Covered before index ↔ (lo ≤ index ∧ index < lo + moved.length) ∨ Covered after index

/-- Nothing moves when every entry leaves a gap after the output. -/
theorem Flushed.nothing {output : ByteStream} {entries : List (Nat × Bytes)} {lo hi : Nat}
    (placed : Placed lo entries hi) (gap : ∀ entry ∈ entries, lo < runFirst entry) :
    Flushed output entries entries [] lo hi where
  waiting := gap
  placed := placed
  moves := fun index value ⟨offset, found, _⟩ => by simp at found
  stored := fun _ _ held => held
  covered := fun _ index => by
    simp only [List.length_nil, Nat.add_zero]
    constructor
    · exact .inr
    · -- The range of moved bytes is empty.
      rintro (inside | held)
      · omega
      · exact held

/-- An entry that continues the output moves, and the rest follows as far as it can. -/
theorem Flushed.cons {output : ByteStream} {entry : Nat × Bytes} {rest left : List (Nat × Bytes)}
    {moved : Bytes} {count hi : Nat} (whole : Placed (runFirst entry) (entry :: rest) hi)
    (within : count ≤ entry.2.length)
    (accepted : output.write entry.2 = (output.appended (entry.2.take count), count))
    (result : Flushed (output.appended (entry.2.take count)) rest left moved
      (runFirst entry + count) hi) :
    Flushed output (entry :: rest) left (entry.2.take count ++ moved) (runFirst entry) hi := by
  -- The entry is as long as its key says.
  have extent := whole.first_add_length (List.mem_cons_self : entry ∈ entry :: rest)
  have stop := (whole.of_mem (List.mem_cons_self : entry ∈ entry :: rest)).2.2
  have size : (entry.2.take count).length = count := by
    rw [List.length_take, Nat.min_eq_left within]
  have total : runFirst entry + (entry.2.take count ++ moved).length =
      runFirst entry + count + moved.length := by
    rw [List.length_append, size, Nat.add_assoc]
  refine ⟨?_, ?_, ?_, ?_, ?_⟩
  · rw [total]; exact result.waiting
  · rw [total]; exact result.placed
  · -- A moved byte is from this entry or from a later one.
    intro index value held
    rcases held.of_append with early | late
    · exact stored_cons.mpr (.inl early.of_take)
    · rw [size] at late
      exact stored_cons.mpr (.inr (result.moves index value late))
  · -- What is left was in a later entry.
    intro index value held
    exact stored_cons.mpr (.inr (result.stored index value held))
  · intro room index
    -- With room for the whole window, the entry was written in full.
    have full : count = entry.2.length := by
      have fits := output.write_of_fits entry.2 (by omega)
      rw [accepted] at fits
      exact congrArg Prod.snd fits
    have remains : hi ≤ runFirst entry + count +
        (output.appended (entry.2.take count)).remainingCapacity := by
      rw [ByteStream.remainingCapacity_appended (by omega), size]
      omega
    rw [covered_cons, result.covered remains index, total]
    constructor
    · -- A byte of the entry, a moved one behind it, or one that is left.
      rintro (⟨low, high⟩ | ⟨low, high⟩ | held)
      · exact .inl ⟨low, by omega⟩
      · exact .inl ⟨by omega, high⟩
      · exact .inr held
    · -- The moved range is split where the entry ends.
      rintro (⟨low, high⟩ | held)
      · by_cases inside : index ≤ entry.1
        · exact .inl ⟨low, inside⟩
        · exact .inr (.inl ⟨by omega, high⟩)
      · exact .inr (.inr held)

/-- The flush loop moves leading entries and keeps the count of waiting bytes exact. -/
theorem flushEntries_spec {popped : Bytes} {hi : Nat} (word : hi < 2 ^ 64)
    (entries : List (Nat × Bytes)) :
    ∀ (output : ByteStream) (unassembled : Nat), output.Counts popped →
      Placed (popped ++ output.buffer).length entries hi →
      unassembled = totalSize entries →
      (popped ++ (flushEntries output unassembled entries).1.buffer).length < 2 ^ 31 →
      ∃ moved rest, flushEntries output unassembled entries =
          (output.appended moved, totalSize rest, rest) ∧
        Flushed output entries rest moved (popped ++ output.buffer).length hi := by
  -- The induction follows the loop, with the output and its counters free at every turn.
  induction entries with
  | nil =>
    -- There is nothing to move.
    intro output unassembled counts placed counted _
    refine ⟨[], [], ?_, .nothing placed fun _ member => absurd member List.not_mem_nil⟩
    rw [flushEntries_nil, counts.appended_nil, counted]
  | cons entry rest ih =>
    intro output unassembled counts placed counted short
    have first := placed.firstIdx_eq word (List.mem_cons_self : entry ∈ entry :: rest)
    have start := placed.le_first (List.mem_cons_self : entry ∈ entry :: rest)
    have bounded := placed.totalSize_le
    have tail := placed.2.2
    have grows := flushEntries_buffer_le output unassembled (entry :: rest)
    have exact_ : output.bytesWritten = (popped ++ output.buffer).length := by
      -- The write counter is exact, as the bytes stay below the sign bit.
      refine counts.bytesWritten ?_
      simp only [List.length_append] at short ⊢
      omega
    by_cases contiguous : output.bytesWritten = firstIdx entry
    · -- The entry continues the output, and as much of it as fits is written.
      have turn : flushEntries output unassembled (entry :: rest) =
          flushEntries (output.write entry.2).1 (sub64 unassembled entry.2.length) rest := by
        rw [flushEntries_cons, if_pos contiguous]
      rw [turn] at short ⊢
      have afterWrite := flushEntries_buffer_le (output.write entry.2).1
        (sub64 unassembled entry.2.length) rest
      obtain ⟨count, within, accepted⟩ := output.write_eq entry.2 (by
        simp only [List.length_append] at short
        omega)
      have position : (popped ++ output.buffer).length = runFirst entry := by
        rw [← exact_, contiguous, first]
      have next : (popped ++ (output.appended (entry.2.take count)).buffer).length =
          runFirst entry + count := by
        rw [← position]
        simp only [ByteStream.appended, List.length_append, List.length_take,
          Nat.min_eq_left within]
        omega
      have less : sub64 unassembled entry.2.length = totalSize rest := by
        -- The count of waiting bytes goes down by the whole entry, whatever of it was accepted.
        rw [totalSize_cons] at counted bounded
        rw [sub64_of_le (by omega) (by omega)]
        omega
      have extent := placed.first_add_length (List.mem_cons_self : entry ∈ entry :: rest)
      rw [accepted] at short ⊢
      obtain ⟨moved, left, flushed, result⟩ := ih (output.appended (entry.2.take count))
        (sub64 unassembled entry.2.length) (counts.appended _)
        (by rw [next]; exact tail.lower (by omega)) less short
      rw [next] at result
      refine ⟨entry.2.take count ++ moved, left, ?_, ?_⟩
      · rw [flushed, ByteStream.appended_append]
      · rw [position] at placed ⊢
        exact .cons placed within accepted result
    · -- The entry leaves a gap, so the loop stops.
      have gap : (popped ++ output.buffer).length < runFirst entry := by
        rw [exact_, first] at contiguous
        omega
      refine ⟨[], entry :: rest, ?_, .nothing placed fun other member => ?_⟩
      · -- The loop changes nothing.
        rw [flushEntries_cons, if_neg contiguous, counts.appended_nil, counted]
      · -- The first entry leaves a gap, and the others come later still.
        rcases List.mem_cons.mp member with same | later
        · subst same; exact gap
        · have := (tail.le_first later).1
          omega

end Sponge
