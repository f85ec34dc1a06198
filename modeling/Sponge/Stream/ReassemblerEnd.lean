import Sponge.Stream.ReassemblerLaws
import Sponge.Stream.ReassemblerRest

/-! When a push that announces the end also reaches it. -/

namespace Sponge

/-- Whether runs are placed within a range can be checked one after another. -/
instance Placed.decide {α : Type} :
    ∀ (lo : Nat) (runs : List (Nat × List α)) (hi : Nat), Decidable (Placed lo runs hi)
  | lo, [], hi => inferInstanceAs (Decidable (lo ≤ hi))
  | lo, run :: rest, hi =>
    have := Placed.decide (run.1 + 1) rest hi
    inferInstanceAs (Decidable (0 < run.2.length ∧ lo + run.2.length ≤ run.1 + 1 ∧ _))

/-- Joining a substring with one that reaches over it gives the longer one. -/
theorem combine_inside {inner outer : Bytes} {first start : Nat} (starts : start ≤ first)
    (stops : first + inner.length ≤ start + outer.length)
    (word : start + outer.length < 2 ^ 64) : combine inner outer first start = .ok outer := by
  -- The inner one does not start first, and ends within the outer one.
  have order : ¬ first < start := by omega
  simp only [combine, if_neg order]
  rw [add64_of_lt (by omega), add64_of_lt word, if_pos stops]
  rfl

namespace StreamReassembler

variable {r r' : StreamReassembler} {data popped : Bytes} {index : Nat}

/-- Data that reaches over every waiting entry takes the place of all of them. -/
theorem store_covering {d : Bytes} {lo hi : Nat} (placed : Placed lo r.m.entries hi)
    (size : lo + d.length = hi) (word : hi < 2 ^ 64)
    (stored : r.store d lo (hi - 1) = .ok r') :
    r'.m.entries = [(hi - 1, d)] := by
  -- Every entry starts at or after the data and ends at or before its last byte.
  have inside : ∀ entry ∈ r.m.entries, firstIdx entry = runFirst entry ∧
      lo ≤ runFirst entry ∧ runFirst entry + entry.2.length = entry.1 + 1 ∧
      0 < entry.2.length ∧ entry.1 < hi := by
    intro entry member
    obtain ⟨nonempty, fits, below⟩ := placed.of_mem member
    refine ⟨placed.firstIdx_eq word member, ?_, ?_, nonempty, below⟩
    · simp only [runFirst]
      omega
    · simp only [runFirst]
      omega
  have none : r.m.below lo = [] := by
    -- So no entry is below the data, and all of them are overlapped.
    rw [List.eq_nil_iff_forall_not_mem]
    intro entry member
    have low := OrderedMap.lt_of_mem_below member
    have known : entry ∈ r.m.entries := (List.takeWhile_prefix _).subset member
    obtain ⟨_, starts, span, nonempty, _⟩ := inside entry known
    omega
  have whole : r.m.lowerBound lo = r.m.entries := by
    have parts := r.m.below_append_lowerBound lo
    rwa [none, List.nil_append] at parts
  have early : ∀ entry ∈ r.m.entries, decide (firstIdx entry ≤ hi - 1) = true := by
    intro entry member
    obtain ⟨exact_, _, span, nonempty, below⟩ := inside entry member
    rw [exact_, decide_eq_true_eq]
    omega
  have all : r.overlapped lo (hi - 1) = r.m.entries := by
    rw [overlapped, whole]
    exact List.takeWhile_eq_self_iff.mpr early
  rw [store_def] at stored
  split at stored
  · -- There was no entry.
    rename_i nothing
    rw [Except.ok.injEq] at stored
    rw [all] at nothing
    rw [← stored]
    simp only [OrderedMap.set, nothing, OrderedMap.setEntry]
  · -- There were some, and the data is joined with the first and the last.
    rename_i fit more found
    rw [all] at found
    have last : (fit :: more).getLast (List.cons_ne_nil fit more) ∈ r.m.entries := by
      rw [found]
      exact List.getLast_mem _
    have first : fit ∈ r.m.entries := by simp [found]
    simp only [bind_eq_ok, pure_eq_ok, Except.ok.injEq] at stored
    generalize (fit :: more).getLast (List.cons_ne_nil fit more) = eit at last stored
    obtain ⟨fitIdx, fitStarts, fitSpan, _, fitBelow⟩ := inside fit first
    obtain ⟨eitIdx, eitStarts, eitSpan, _, eitBelow⟩ := inside eit last
    obtain ⟨joined, left, ins, right, rfl⟩ := stored
    -- Both joins give the data itself.
    rw [fitIdx, combine_inside fitStarts (by omega) (by omega), Except.ok.injEq] at left
    subst left
    rw [fitIdx, eitIdx, Nat.min_eq_left fitStarts,
      combine_inside eitStarts (by omega) (by omega), Except.ok.injEq] at right
    subst right
    have erased : (r.m.eraseRun lo (fun entry => firstIdx entry ≤ hi - 1)).entries = [] := by
      simp only [OrderedMap.eraseRun, none, whole, List.nil_append]
      exact List.dropWhile_eq_nil_iff.mpr early
    simp only [OrderedMap.set, erased, OrderedMap.setEntry,
      Nat.max_eq_left (show eit.1 ≤ hi - 1 by omega)]

/-- Adding data does not change the known end. -/
theorem addTempCash_endIdx (added : r.addTempCash data index = .ok r') : r'.endIdx = r.endIdx := by
  rcases addTempCash_ok added with ⟨_, rfl⟩ | ⟨_, d, stored, _, stores, rfl⟩
  · rfl
  · show stored.endIdx = r.endIdx
    rw [store_def] at stores
    -- Whether the data is merged or not, only the map and the counter are written.
    split at stores
    · rw [Except.ok.injEq] at stores
      rw [← stores]
    · simp only [bind_eq_ok, pure_eq_ok, Except.ok.injEq] at stores
      obtain ⟨_, _, _, _, rfl⟩ := stores
      rfl

/-- While no end is known, a push that announces none does not end the stream. -/
theorem push_unended (counts : r.output.Counts popped) (few : r'.assembled popped < 2 ^ 31)
    (unended : r.output.ended = false) (unknown : r.endIdx = 2 ^ 64 - 1)
    (pushed : r.pushSubstring data index false = .ok r') :
    r'.output.ended = false ∧ r'.endIdx = 2 ^ 64 - 1 := by
  obtain ⟨noted, added, announces, adds, result⟩ := pushSubstring_ok pushed
  -- No end is announced.
  rw [if_neg (by decide)] at announces
  subst announces
  have ending : added.endIdx = 2 ^ 64 - 1 := (addTempCash_endIdx adds).trans unknown
  have same : (popped ++ added.output.buffer).length = r'.assembled popped := by
    -- The number of bytes does not depend on whether the stream has ended.
    rw [result]
    split <;> rfl
  have short : added.output.buffer.length < 2 ^ 31 := by
    rw [List.length_append] at same
    omega
  -- Bytes are only appended, and too few of them to reach the unknown end.
  have grown : ∃ bytes, added.output = noted.output.appended bytes := by
    rcases addTempCash_output adds with same | ⟨unassembled, entries, flushed⟩
    · exact ⟨[], same.trans counts.appended_nil.symm⟩
    · rw [flushed] at short ⊢
      exact flushEntries_appended entries _ _ counts short
  obtain ⟨bytes, grown⟩ := grown
  have below : added.output.bytesWritten ≠ added.endIdx := by
    rw [ending]
    rw [grown] at same ⊢
    rw [(counts.appended bytes).bytesWritten (by omega)]
    omega
  rw [result, if_neg below]
  exact ⟨by rw [grown]; exact unended, ending⟩

/-- Data completes the stream: it is next, and nothing waits past it. -/
def Completes (r : StreamReassembler) (data : Bytes) (index : Nat) : Prop :=
  index ≤ r.output.bytesWritten ∧ r.output.bytesWritten ≤ index + data.length ∧
    index + data.length < 2 ^ 64 ∧
    -- Only bytes that are new need room.
    (r.output.bytesWritten < index + data.length →
      0 ≤ r.overflow (lastIdx data index) ∧
      index + data.length ≤ r.output.bytesWritten + r.output.remainingCapacity ∧
      Placed r.output.bytesWritten r.m.entries (index + data.length))

instance (r : StreamReassembler) (data : Bytes) (index : Nat) :
    Decidable (r.Completes data index) := inferInstanceAs (Decidable (_ ∧ _ ∧ _ ∧ (_ → _)))

/-- Data that completes the stream is written to its end. -/
theorem Completes.addTempCash (completes : r.Completes data index)
    (counts : r.output.Counts popped) (few : r'.assembled popped < 2 ^ 31)
    (small : r.assembled popped < 2 ^ 31) (added : r.addTempCash data index = .ok r') :
    r'.output.bytesWritten = index + data.length := by
  obtain ⟨starts, stops, word, fits⟩ := completes
  have last : 0 < data.length → lastIdx data index = index + data.length - 1 := by
    -- The index of the last byte does not wrap.
    intro some
    rw [lastIdx, add64_of_lt word, sub64_of_le (by omega) (by omega)]
  rcases addTempCash_ok added with ⟨drops, rfl⟩ | ⟨takes, d, stored, clips, stores, rfl⟩
  · -- What is dropped has been written before.
    by_contra short
    have new : r'.output.bytesWritten < index + data.length := by omega
    obtain ⟨within, _, _⟩ := fits new
    rcases drops with empty | ⟨_, old⟩ | ⟨beyond, _⟩
    · -- The data is empty.
      omega
    · -- The data is old.
      rw [last (by omega)] at old
      omega
    · -- The data is beyond the window.
      omega
  · -- The data is clipped to what is new, and stored.
    have some : 0 < data.length := Nat.pos_of_ne_zero fun none => takes (.inl none)
    have new : r.output.bytesWritten < index + data.length := by
      by_contra old
      exact takes (.inr (.inl ⟨by omega, by rw [last some]; omega⟩))
    obtain ⟨within, room, placed⟩ := fits new
    have lower : r.leftBound index = r.output.bytesWritten := by
      rw [leftBound]
      split
      · -- The data starts before the next byte.
        rfl
      · -- The data starts with the next byte.
        omega
    have upper : r.rightBound data index = index + data.length - 1 := by
      rw [rightBound, if_neg (by omega), last some]
    have fresh : d = data.drop (r.output.bytesWritten - index) := by
      rw [clipLeft] at clips
      split at clips
      · rw [sub64_of_le (by omega) (by omega), substr_of_le (by omega), Except.ok.injEq,
          List.take_of_length_le (by rw [List.length_drop]; omega)] at clips
        exact clips.symm
      · rw [Except.ok.injEq] at clips
        rw [← clips, show r.output.bytesWritten - index = 0 by omega, List.drop_zero]
    have size : r.output.bytesWritten + d.length = index + data.length := by
      rw [fresh, List.length_drop]
      omega
    rw [clipRight, if_neg (by omega), lower, upper] at stores
    have entries := store_covering placed size word stores
    have output := store_output stores
    -- The one entry that is left continues the output and fits into it.
    have next : firstIdx (index + data.length - 1, d) = r.output.bytesWritten := by
      simp only [firstIdx, add64, sub64]
      omega
    have flushed : stored.flush.output = r.output.appended d := by
      rw [flush_output, entries, output, flushEntries_cons, if_pos next.symm,
        ByteStream.write_of_fits _ d (by omega)]
      rfl
    rw [assembled] at few small
    rw [flushed] at few ⊢
    rw [(counts.appended d).bytesWritten few, ← size, counts.bytesWritten small]
    simp only [ByteStream.appended, List.length_append, Nat.add_assoc]

/-- A push that completes the stream and announces its end ends it. -/
theorem Completes.push (completes : r.Completes data index) (counts : r.output.Counts popped)
    (small : r.assembled popped < 2 ^ 31) (few : r'.assembled popped < 2 ^ 31)
    (pushed : r.pushSubstring data index true = .ok r') : r'.output.ended = true := by
  obtain ⟨noted, added, announces, adds, result⟩ := pushSubstring_ok pushed
  rw [if_pos rfl] at announces
  have same : added.assembled popped = r'.assembled popped := by
    rw [result]
    split <;> rfl
  have known : noted.Completes data index := by rw [announces]; exact completes
  -- Everything up to the announced end is flushed by this push.
  have written := known.addTempCash (by rw [announces]; exact counts)
    (by rw [same]; exact few) (by rw [announces]; exact small) adds
  have reached : added.output.bytesWritten = added.endIdx := by
    rw [written, addTempCash_endIdx adds, announces, add64_of_lt completes.2.2.1]
  rw [result, if_pos reached]
  rfl

end StreamReassembler

end Sponge
