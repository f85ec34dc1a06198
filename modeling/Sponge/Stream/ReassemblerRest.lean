import Sponge.Stream.ReassemblerGrowth

/-! When a push writes nothing, whatever the map holds. -/

namespace Sponge

namespace StreamReassembler

variable {r r' : StreamReassembler} {data : Bytes} {index : Nat} {eof : Bool}

/-- The first waiting entry does not continue the output. -/
def AtRest (r : StreamReassembler) : Prop :=
  ∀ entry ∈ r.m.entries.head?, r.output.bytesWritten ≠ firstIdx entry

/-- A new reassembler is at rest. -/
theorem atRest_new (capacity : Nat) : (new capacity).AtRest := by
  simp [AtRest, new, OrderedMap.empty]

/-- Flushing stops before an entry that does not continue the output. -/
theorem flushEntries_rest (entries : List (Nat × Bytes)) :
    ∀ (output : ByteStream) (unassembled : Nat),
      ∀ entry ∈ (flushEntries output unassembled entries).2.2.head?,
        (flushEntries output unassembled entries).1.bytesWritten ≠ firstIdx entry := by
  -- Each entry that continues the output is written, and the scan goes on behind it.
  induction entries with
  | nil => simp
  | cons first rest ih =>
    intro output unassembled entry member
    rw [flushEntries_cons] at member ⊢
    split at member
    · -- The entry is written, and the scan goes on.
      rename_i contiguous
      rw [if_pos contiguous]
      exact ih _ _ entry member
    · -- The scan stops here, so this entry is the front.
      rename_i apart
      rw [if_neg apart]
      simp only [List.head?_cons, Option.mem_def, Option.some.injEq] at member
      rw [← member]
      exact apart

/-- A flushed reassembler is at rest. -/
theorem atRest_flush (r : StreamReassembler) : r.flush.AtRest :=
  flushEntries_rest r.m.entries r.output r.unassembled

/-- A reassembler at rest flushes nothing. -/
theorem AtRest.flush_output (rest : r.AtRest) : r.flush.output = r.output := by
  rw [StreamReassembler.flush_output]
  -- Only the first entry could be flushed, and it does not continue the output.
  cases waiting : r.m.entries with
  | nil => rfl
  | cons first others =>
    have apart := rest first (by simp [waiting])
    rw [flushEntries_cons, if_neg apart]

/-- Only the output and the waiting entries decide whether a reassembler is at rest. -/
theorem AtRest.congr (rest : r.AtRest)
    (written : r'.output.bytesWritten = r.output.bytesWritten)
    (entries : r'.m.entries = r.m.entries) : r'.AtRest := by
  rw [AtRest, written, entries]
  exact rest

/-- The end that a push may announce changes neither the output nor the map. -/
theorem pushSubstring_ok (pushed : r.pushSubstring data index eof = .ok r') :
    ∃ noted added, noted = (if eof then { r with endIdx := add64 index data.length } else r) ∧
      noted.addTempCash data index = .ok added ∧
      r' = if added.output.bytesWritten = added.endIdx then
        { added with output := added.output.endInput } else added := by
  rw [pushSubstring_def] at pushed
  obtain ⟨added, adds, ends⟩ := bind_eq_ok.mp pushed
  refine ⟨_, added, rfl, adds, ?_⟩
  -- The input ends if the output has reached the known end.
  split at ends
  · rename_i reached
    rw [pure_eq_ok, Except.ok.injEq] at ends
    rw [if_pos reached, ends]
  · rename_i short
    rw [pure_eq_ok, Except.ok.injEq] at ends
    rw [if_neg short, ends]

/-- Every push leaves the reassembler at rest. -/
theorem AtRest.push (rest : r.AtRest) (pushed : r.pushSubstring data index eof = .ok r') :
    r'.AtRest := by
  obtain ⟨noted, added, announces, adds, result⟩ := pushSubstring_ok pushed
  have quiet : noted.AtRest := by
    -- Noting the end changes neither the output nor the map.
    rw [announces]
    cases eof with
    | false => exact rest
    | true => exact rest.congr rfl rfl
  -- Either nothing is stored, or storing is followed by a flush.
  have settled : added.AtRest := by
    rcases addTempCash_ok adds with ⟨_, same⟩ | ⟨_, _, stored, _, _, same⟩
    · rw [same]; exact quiet
    · rw [same]; exact atRest_flush stored
  rw [result]
  -- Ending the output does not change its counter.
  split
  · exact settled.congr rfl rfl
  · exact settled

/-- Whatever a stretch of indices is merged with starts past the output. -/
def Clear (r : StreamReassembler) (lb rb : Nat) : Prop :=
  ∀ entry ∈ r.overlapped lb rb, r.output.bytesWritten < runFirst entry ∧ entry.1 + 1 < 2 ^ 64

instance (r : StreamReassembler) (lb rb : Nat) : Decidable (r.Clear lb rb) :=
  List.decidableBAll _ _

/-- Data goes past the output: it is dropped, or it is stored clear of the next byte. -/
def PassesBy (r : StreamReassembler) (data : Bytes) (index : Nat) : Prop :=
  r.Drops data index ∨
    (r.output.bytesWritten < index ∧ index + data.length < 2 ^ 64 ∧
      index ≤ r.rightBound data index ∧ r.rightBound data index ≤ lastIdx data index ∧
      r.Clear index (r.rightBound data index))

instance (r : StreamReassembler) (data : Bytes) (index : Nat) :
    Decidable (r.PassesBy data index) := inferInstanceAs (Decidable (_ ∨ _))

/-- The front of entries among which one was placed is that entry or the old front. -/
theorem head_setEntry {key : Nat} {value : Bytes} {entries : List (Nat × Bytes)}
    {entry : Nat × Bytes} (member : entry ∈ (OrderedMap.setEntry key value entries).head?) :
    entry = (key, value) ∨ entry ∈ entries.head? := by
  -- The new entry comes before the first one, in its place, or behind it.
  cases entries with
  | nil => simpa [OrderedMap.setEntry, eq_comm] using member
  | cons first rest =>
    simp only [OrderedMap.setEntry] at member
    split at member
    · simp only [List.head?_cons, Option.mem_def, Option.some.injEq] at member
      exact .inl member.symm
    · split at member
      · simp only [List.head?_cons, Option.mem_def, Option.some.injEq] at member
        exact .inl member.symm
      · exact .inr member

/-- The front of what is left after erasing overlapped entries is the old one or starts later. -/
theorem head_eraseRun {m : OrderedMap Bytes} {lb rb : Nat} {entry : Nat × Bytes}
    (member : entry ∈ (m.eraseRun lb (fun entry => firstIdx entry ≤ rb)).entries.head?) :
    entry ∈ m.entries.head? ∨ rb < firstIdx entry := by
  have whole := m.below_append_lowerBound lb
  simp only [OrderedMap.eraseRun] at member
  -- Entries below the run stay in front; without any, the first one past it does.
  cases early : m.below lb with
  | cons first rest =>
    -- An entry below the run is in front.
    rw [early, List.cons_append, List.head?_cons] at member
    rw [← whole, early, List.cons_append, List.head?_cons]
    exact .inl member
  | nil =>
    -- There is none, so what is in front has ended the run.
    rw [early, List.nil_append] at member
    have fails := List.head?_dropWhile_not (fun entry => decide (firstIdx entry ≤ rb))
      (m.lowerBound lb)
    rw [Option.mem_def.mp member] at fails
    exact .inr (by simpa using fails)

/-- An entry that does not reach back past zero has an exact first index. -/
theorem firstIdx_of_lt {entry : Nat × Bytes} (inside : 0 < runFirst entry)
    (word : entry.1 + 1 < 2 ^ 64) : firstIdx entry = runFirst entry := by
  simp only [firstIdx, runFirst, add64, sub64] at inside ⊢
  omega

/-- Data stored clear of the next byte leaves a reassembler at rest. -/
theorem AtRest.store {d : Bytes} {lb rb : Nat} (rest : r.AtRest)
    (size : lb + d.length = rb + 1) (word : rb + 1 < 2 ^ 64)
    (past : r.output.bytesWritten < lb)
    (clear : r.Clear lb rb)
    (stores : r.store d lb rb = .ok r') : r'.output = r.output ∧ r'.AtRest := by
  refine ⟨store_output stores, fun entry member => ?_⟩
  rw [store_output stores]
  rw [store_def] at stores
  -- A stored entry that starts past the output is not the next one.
  have later : ∀ {key : Nat} {ins : Bytes}, key + 1 < 2 ^ 64 →
      r.output.bytesWritten < runFirst (key, ins) →
      r.output.bytesWritten ≠ firstIdx (key, ins) := by
    intro key ins small starts
    rw [firstIdx_of_lt (by omega) small]
    omega
  split at stores
  · -- Nothing is overlapped, so the data is an entry of its own.
    rw [Except.ok.injEq] at stores
    rw [← stores] at member
    rcases head_setEntry member with new | old
    · rw [new]
      refine later word ?_
      simp only [runFirst]
      omega
    · exact rest entry old
  · -- The data is joined with the first and the last of the entries that it overlaps.
    rename_i fit more found
    rw [Clear, found] at clear
    have touches : ∀ other ∈ fit :: more, lb ≤ other.1 ∧ firstIdx other ≤ rb := by
      rw [← found]
      exact fun other inside => (mem_overlapped inside).2
    have ordered : ∀ other ∈ fit :: more, fit.1 ≤ other.1 := by
      have ascending : (fit :: more).Pairwise (fun a b => a.1 < b.1) := by
        rw [← found, overlapped]
        exact r.m.ascending.sublist
          ((List.takeWhile_sublist _).trans (List.dropWhile_sublist _))
      intro other inside
      rcases List.mem_cons.mp inside with same | after
      · rw [same]
      · exact Nat.le_of_lt ((List.pairwise_cons.mp ascending).1 other after)
    have last : (fit :: more).getLast (List.cons_ne_nil fit more) ∈ fit :: more :=
      List.getLast_mem _
    simp only [bind_eq_ok, pure_eq_ok, Except.ok.injEq] at stores
    generalize (fit :: more).getLast (List.cons_ne_nil fit more) = eit at last stores
    obtain ⟨joined, left, ins, right, rfl⟩ := stores
    obtain ⟨fitPast, fitWord⟩ := clear fit List.mem_cons_self
    obtain ⟨lastPast, lastWord⟩ := clear eit last
    obtain ⟨fitReaches, fitStarts⟩ := touches fit List.mem_cons_self
    obtain ⟨lastReaches, lastStarts⟩ := touches eit last
    rw [firstIdx_of_lt (by omega) fitWord] at left right fitStarts
    rw [firstIdx_of_lt (by omega) lastWord] at right lastStarts
    have fitSpan : runFirst fit + fit.2.length = fit.1 + 1 := by
      -- The entries are as long as their keys say.
      simp only [runFirst] at fitPast ⊢
      omega
    have lastSpan : runFirst eit + eit.2.length = eit.1 + 1 := by
      simp only [runFirst] at lastPast ⊢
      omega
    -- Joining pieces that touch gives their span, which starts where the first of them does.
    obtain ⟨joined', left', leftSpan, _⟩ := combine_spec
      (show lb ≤ runFirst fit + fit.2.length by omega)
      (show runFirst fit ≤ lb + d.length by omega) (by omega) (by omega)
    rw [left, Except.ok.injEq] at left'
    rw [← left'] at leftSpan
    obtain ⟨ins', right', span, _⟩ := combine_spec
      (show min lb (runFirst fit) ≤ runFirst eit + eit.2.length by omega)
      (show runFirst eit ≤ min lb (runFirst fit) + joined.length by omega) (by omega) (by omega)
    rw [right, Except.ok.injEq] at right'
    rw [← right'] at span
    rcases head_setEntry member with new | old
    · -- The joined entry is in front.
      rw [new]
      refine later (by omega) ?_
      have furthest := ordered eit last
      show r.output.bytesWritten < max rb eit.1 + 1 - ins.length
      omega
    · -- The old front is still there, or an entry behind the data is.
      rcases head_eraseRun old with old | far
      · exact rest entry old
      · omega

/-- Data that goes past the output of a reassembler at rest leaves it as it is. -/
theorem PassesBy.addTempCash_output (passes : r.PassesBy data index) (rest : r.AtRest)
    (added : r.addTempCash data index = .ok r') : r'.output = r.output := by
  rcases addTempCash_ok added with ⟨_, same⟩ | ⟨takes, d, stored, clips, stores, same⟩
  · -- Nothing is stored.
    rw [same]
  · -- The data starts behind the output, so nothing is cut off on the left.
    obtain ⟨past, word, inside, within, clear⟩ := passes.resolve_left takes
    have bound : r.leftBound index = index := by rw [leftBound, if_neg (by omega)]
    have whole : d = data := by
      rw [clipLeft, if_neg (by omega), Except.ok.injEq] at clips
      exact clips.symm
    have some : data.length ≠ 0 := fun none => takes (.inl none)
    have last : lastIdx data index = index + data.length - 1 := by
      rw [lastIdx, add64_of_lt word, sub64_of_le (by omega) (by omega)]
    -- What is stored reaches from the index to the right bound.
    have size : index + (r.clipRight data data index).length = r.rightBound data index + 1 := by
      rw [clipRight, bound]
      split
      · rw [List.length_take, sub64_of_le inside (by omega), add64_of_lt (by omega)]
        omega
      · rename_i fits
        rw [rightBound, if_neg fits, last]
        omega
    rw [whole, bound] at stores
    obtain ⟨output, quiet⟩ := rest.store size (by omega) past clear stores
    rw [same, quiet.flush_output, output]

/-- Once the output has ended, a push that goes past it leaves it as it is. -/
theorem PassesBy.push_output (passes : r.PassesBy data index) (rest : r.AtRest)
    (ended : r.output.ended = true) (pushed : r.pushSubstring data index eof = .ok r') :
    r'.output = r.output := by
  obtain ⟨noted, added, announces, adds, result⟩ := pushSubstring_ok pushed
  -- Noting the end does not matter for what is stored.
  have same : noted.output = r.output ∧ noted.PassesBy data index ∧ noted.AtRest := by
    rw [announces]
    cases eof with
    | false => exact ⟨rfl, passes, rest⟩
    | true => exact ⟨rfl, passes, rest.congr rfl rfl⟩
  obtain ⟨output, passes, rest⟩ := same
  have kept : added.output = r.output := (passes.addTempCash_output rest adds).trans output
  -- Ending the input once more changes nothing.
  have again : r.output.endInput = r.output := by rw [ByteStream.endInput, ← ended]
  rw [result]
  split
  · rw [← again, ← kept]
  · exact kept

end StreamReassembler

end Sponge
