import Sponge.Stream.ReassemblerFlush

/-! No push takes anything back from the output, whatever the map holds. -/

namespace Sponge

namespace StreamReassembler

/-- Flushing only accepts bytes into the output. -/
theorem flushEntries_appended {popped : Bytes} (entries : List (Nat × Bytes)) :
    ∀ (output : ByteStream) (unassembled : Nat), output.Counts popped →
      (flushEntries output unassembled entries).1.buffer.length < 2 ^ 31 →
      ∃ bytes, (flushEntries output unassembled entries).1 = output.appended bytes := by
  -- Each written entry is accepted behind what is buffered.
  induction entries with
  | nil => exact fun output _ counts _ => ⟨[], counts.appended_nil.symm⟩
  | cons entry rest ih =>
    intro output unassembled counts short
    simp only [flushEntries_cons] at short ⊢
    split
    · -- The entry is written, as far as it fits.
      rename_i contiguous
      rw [if_pos contiguous] at short
      have grows := flushEntries_buffer_le (output.write entry.2).1
        (sub64 unassembled entry.2.length) rest
      obtain ⟨count, _, accepted⟩ := output.write_eq entry.2 (by omega)
      rw [accepted] at short ⊢
      obtain ⟨bytes, flushed⟩ := ih _ _ (counts.appended _) short
      exact ⟨entry.2.take count ++ bytes, by rw [flushed, ByteStream.appended_append]⟩
    · -- The scan stops.
      exact ⟨[], counts.appended_nil.symm⟩

/-- Storing data does not touch the output. -/
theorem store_output {r r' : StreamReassembler} {d : Bytes} {lb rb : Nat}
    (stored : r.store d lb rb = .ok r') : r'.output = r.output := by
  rw [store_def] at stored
  -- Merged or not, only the map and the counter are written.
  split at stored
  · rw [Except.ok.injEq] at stored
    rw [← stored]
  · simp only [bind_eq_ok, pure_eq_ok, Except.ok.injEq] at stored
    obtain ⟨_, _, _, _, rfl⟩ := stored
    rfl

/-- The index of the last byte of data, in 64-bit arithmetic. -/
def lastIdx (data : Bytes) (index : Nat) : Nat := sub64 (add64 index data.length) 1

/-- The index from which data is stored, once its written part is cut off. -/
def leftBound (r : StreamReassembler) (index : Nat) : Nat :=
  if index < r.output.bytesWritten then r.output.bytesWritten else index

/-- The index up to which data is stored, once its excess is cut off. -/
def rightBound (r : StreamReassembler) (data : Bytes) (index : Nat) : Nat :=
  if r.overflow (lastIdx data index) < 0 then sub64 (add64 r.output.bytesRead r.capacity) 1
  else lastIdx data index

/-- Data without its excess past the capacity. -/
def clipRight (r : StreamReassembler) (d data : Bytes) (index : Nat) : Bytes :=
  if r.overflow (lastIdx data index) < 0 then
    d.take (add64 (sub64 (r.rightBound data index) (r.leftBound index)) 1)
  else d

/-- Data is dropped: it is empty, already written, or past the capacity as a whole. -/
def Drops (r : StreamReassembler) (data : Bytes) (index : Nat) : Prop :=
  data.length = 0 ∨
    (index < r.output.bytesWritten ∧ lastIdx data index < r.output.bytesWritten) ∨
    (r.overflow (lastIdx data index) < 0 ∧ r.overflow (r.leftBound index) < 0)

instance (r : StreamReassembler) (data : Bytes) (index : Nat) : Decidable (r.Drops data index) :=
  inferInstanceAs (Decidable (_ ∨ _ ∨ _))

/-- Data that was added is dropped, or it is clipped, stored and flushed. -/
theorem addTempCash_ok {r r' : StreamReassembler} {data : Bytes} {index : Nat}
    (added : r.addTempCash data index = .ok r') :
    (r.Drops data index ∧ r' = r) ∨ (¬ r.Drops data index ∧ ∃ d stored,
      r.clipLeft data index = .ok d ∧
      r.store (r.clipRight d data index) (r.leftBound index) (r.rightBound data index) =
        .ok stored ∧ r' = stored.flush) := by
  have kept : (.ok r : Except Fault StreamReassembler) = .ok r' → r' = r := by
    intro same
    rw [Except.ok.injEq] at same
    exact same.symm
  have flushed : ∀ {d : Bytes} {lb rb : Nat},
      ((r.store d lb rb) >>= fun stored => pure stored.flush) = .ok r' →
      ∃ stored, r.store d lb rb = .ok stored ∧ r' = stored.flush := by
    intro d lb rb found
    obtain ⟨stored, stores, same⟩ := bind_eq_ok.mp found
    rw [pure_eq_ok, Except.ok.injEq] at same
    exact ⟨stored, stores, same.symm⟩
  rw [addTempCash_def] at added
  split at added
  · -- The data is empty.
    rename_i none
    exact .inl ⟨.inl none, kept added⟩
  · rename_i some
    -- The bounds are named before the cases are split, so that the tests stay readable.
    have lower : (if index < r.output.bytesWritten then r.output.bytesWritten else index) =
        r.leftBound index := rfl
    have upper : sub64 (add64 index data.length) 1 = lastIdx data index := rfl
    dsimp only at added
    rw [lower, upper] at added
    split at added
    · -- All of it was written before.
      rename_i written
      exact .inl ⟨.inr (.inl written), kept added⟩
    · rename_i fresh
      obtain ⟨d, clips, clipped⟩ := bind_eq_ok.mp added
      split at clipped
      · rename_i beyond
        split at clipped
        · -- All of it is beyond the window.
          rename_i whole
          exact .inl ⟨.inr (.inr ⟨beyond, whole⟩), kept (by rwa [pure_eq_ok] at clipped)⟩
        · -- The data is cut at the edge of the window.
          rename_i part
          have takes : ¬ r.Drops data index := by
            rintro (empty | old | past)
            · exact some empty
            · exact fresh old
            · exact part past.2
          obtain ⟨stored, stores, same⟩ := flushed clipped
          refine .inr ⟨takes, d, stored, clips, ?_, same⟩
          rw [clipRight, rightBound, if_pos beyond, if_pos beyond]
          exact stores
      · -- The data ends inside the window.
        rename_i within
        have takes : ¬ r.Drops data index := by
          rintro (empty | old | past)
          · exact some empty
          · exact fresh old
          · exact within past.1
        obtain ⟨stored, stores, same⟩ := flushed clipped
        refine .inr ⟨takes, d, stored, clips, ?_, same⟩
        rw [clipRight, rightBound, if_neg within, if_neg within]
        exact stores

/-- A push of data leaves the output alone or flushes entries into it. -/
theorem addTempCash_output {r r' : StreamReassembler} {data : Bytes} {index : Nat}
    (added : r.addTempCash data index = .ok r') :
    r'.output = r.output ∨
      ∃ unassembled entries, r'.output = (flushEntries r.output unassembled entries).1 := by
  rcases addTempCash_ok added with ⟨_, same⟩ | ⟨_, d, stored, _, stores, same⟩
  · -- Nothing is stored.
    exact .inl (by rw [same])
  · refine .inr ⟨stored.unassembled, stored.m.entries, ?_⟩
    rw [same, flush_output, store_output stores]

/-- The output before and after a push. -/
theorem pushSubstring_output {r r' : StreamReassembler} {data : Bytes} {index : Nat} {eof : Bool}
    (pushed : r.pushSubstring data index eof = .ok r') :
    ∃ output, (r'.output = output ∨ r'.output = output.endInput) ∧
      (output = r.output ∨
        ∃ unassembled entries, output = (flushEntries r.output unassembled entries).1) := by
  rw [pushSubstring_def] at pushed
  obtain ⟨added, adds, ends⟩ := bind_eq_ok.mp pushed
  -- Announcing the end changes nothing about the output.
  have noted : (if eof then { r with endIdx := add64 index data.length } else r).output =
      r.output := by cases eof <;> rfl
  have output := addTempCash_output adds
  rw [noted] at output
  refine ⟨added.output, ?_, output⟩
  split at ends
  · rw [pure_eq_ok, Except.ok.injEq] at ends
    exact .inr (by rw [← ends])
  · rw [pure_eq_ok, Except.ok.injEq] at ends
    exact .inl (by rw [← ends])

/-- A push never removes buffered bytes. -/
theorem pushSubstring_buffer_le {r r' : StreamReassembler} {data : Bytes} {index : Nat}
    {eof : Bool} (pushed : r.pushSubstring data index eof = .ok r') :
    r.output.buffer.length ≤ r'.output.buffer.length := by
  obtain ⟨output, same, grown⟩ := pushSubstring_output pushed
  -- Ending the input leaves the buffer alone.
  have buffer : r'.output.buffer = output.buffer := by
    rcases same with same | same
    · rw [same]
    · rw [same]; rfl
  rw [buffer]
  rcases grown with rfl | ⟨unassembled, entries, rfl⟩
  · exact Nat.le_refl _
  · exact flushEntries_buffer_le _ _ _

/-- Below the sign bit, a push keeps the counters exact and never reopens the output. -/
theorem pushSubstring_grows {r r' : StreamReassembler} {popped data : Bytes} {index : Nat}
    {eof : Bool} (counts : r.output.Counts popped)
    (pushed : r.pushSubstring data index eof = .ok r')
    (short : r'.output.buffer.length < 2 ^ 31) :
    r'.output.Counts popped ∧ (r.output.ended = true → r'.output.ended = true) := by
  obtain ⟨output, same, grown⟩ := pushSubstring_output pushed
  -- The output is the old one, or has accepted what was flushed.
  have kept : output.Counts popped ∧ (r.output.ended = true → output.ended = true) := by
    rcases grown with rfl | ⟨unassembled, entries, rfl⟩
    · -- Nothing was flushed.
      exact ⟨counts, id⟩
    · obtain ⟨bytes, flushed⟩ := flushEntries_appended entries r.output unassembled counts (by
        rcases same with same | same <;> rw [same] at short <;> exact short)
      rw [flushed]
      exact ⟨counts.appended bytes, id⟩
  -- The end was not reached, or the output is ended on top.
  rcases same with same | same
  · rw [same]
    exact kept
  · rw [same]
    exact ⟨⟨kept.1.read, kept.1.written⟩, fun _ => rfl⟩

end StreamReassembler

end Sponge
