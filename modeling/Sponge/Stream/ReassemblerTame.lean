import Sponge.Stream.ReassemblerRest

/-! Within the range of the counters no push fails, even where the overflow test misjudges it. -/

namespace Sponge

namespace StreamReassembler

/-- The entries have small keys and sizes, wherever their keys place them. -/
structure Tame (r : StreamReassembler) (capacity : Nat) : Prop where
  /-- The capacity is the one that it was made with. -/
  room : r.capacity = capacity
  /-- Neither a key nor a size is far outside the sequence numbers. -/
  small : ∀ entry ∈ r.m.entries, entry.1 < 2 ^ 33 ∧ entry.2.length ≤ 2 ^ 33

variable {r : StreamReassembler} {capacity : Nat} {data d : Bytes} {index lb rb : Nat}

/-- A new reassembler has no entries. -/
theorem tame_new (capacity : Nat) : (new capacity).Tame capacity := by
  refine ⟨rfl, fun entry member => ?_⟩
  simp [new, OrderedMap.empty] at member

/-- An entry that starts at a small index ends at its key. -/
theorem first_add_length {entry : Nat × Bytes} (key : entry.1 < 2 ^ 33)
    (size : entry.2.length ≤ 2 ^ 33) (start : firstIdx entry < 2 ^ 33) :
    firstIdx entry + entry.2.length = entry.1 + 1 := by
  -- An entry that is longer than its key allows would start near the top of the range.
  simp only [firstIdx, add64, sub64] at start ⊢
  omega

/-- What an entry must satisfy to be overlapped. -/
theorem Tame.of_overlapped (tame : r.Tame capacity) (last : rb < 2 ^ 33) {entry : Nat × Bytes}
    (member : entry ∈ r.overlapped lb rb) :
    lb ≤ entry.1 ∧ entry.1 < 2 ^ 33 ∧ firstIdx entry ≤ rb ∧
      firstIdx entry + entry.2.length = entry.1 + 1 := by
  obtain ⟨late, reaches, early⟩ := mem_overlapped member
  obtain ⟨key, size⟩ := tame.small entry (OrderedMap.mem_of_mem_lowerBound late)
  exact ⟨reaches, key, early, first_add_length key size (by omega)⟩

/-- Storing data that touches what it overlaps succeeds, however the entries lie. -/
theorem Tame.store (tame : r.Tame capacity) (inside : lb + d.length ≤ 2 ^ 33) (last : rb < 2 ^ 33)
    (placed : lb + d.length = rb + 1 ∨ rb < lb) :
    ∃ stored, r.store d lb rb = .ok stored ∧ stored.Tame capacity := by
  cases found : r.overlapped lb rb with
  | nil =>
    -- Nothing is overlapped, so the data becomes an entry of its own.
    rw [StreamReassembler.store_def, found]
    refine ⟨_, rfl, tame.room, fun entry member => ?_⟩
    rcases OrderedMap.mem_set member with rfl | old
    · -- The new entry.
      exact ⟨last, by dsimp only; omega⟩
    · exact tame.small entry old
  | cons fit more =>
    -- The data is joined with the first and the last of the entries that it overlaps.
    have overlaps : ∀ entry ∈ fit :: more, lb ≤ entry.1 ∧ entry.1 < 2 ^ 33 ∧
        firstIdx entry ≤ rb ∧ firstIdx entry + entry.2.length = entry.1 + 1 := by
      rw [← found]
      exact fun entry member => tame.of_overlapped last member
    have latest : (fit :: more).getLast (List.cons_ne_nil fit more) ∈ fit :: more :=
      List.getLast_mem _
    rw [StreamReassembler.store_def, found]
    dsimp only
    generalize (fit :: more).getLast (List.cons_ne_nil fit more) = eit at latest ⊢
    obtain ⟨fitReaches, fitKey, fitStarts, fitEnds⟩ := overlaps fit List.mem_cons_self
    obtain ⟨eitReaches, eitKey, eitStarts, eitEnds⟩ := overlaps eit latest
    generalize firstIdx fit = fitFirst at fitStarts fitEnds ⊢
    generalize firstIdx eit = eitFirst at eitStarts eitEnds ⊢
    -- Neither join meets a gap: what is overlapped starts before the data ends.
    obtain ⟨joined, left, leftSpan, _⟩ := combine_spec
      (show lb ≤ fitFirst + fit.2.length by omega)
      (show fitFirst ≤ lb + d.length by omega) (by omega) (by omega)
    obtain ⟨ins, right, span, _⟩ := combine_spec
      (show min lb fitFirst ≤ eitFirst + eit.2.length by omega)
      (show eitFirst ≤ min lb fitFirst + joined.length by omega) (by omega) (by omega)
    rw [left, ok_bind, right, ok_bind, pure_eq_ok]
    refine ⟨_, rfl, tame.room, fun entry member => ?_⟩
    rcases OrderedMap.mem_set member with rfl | old
    · -- The joined entry.
      constructor <;> dsimp only <;> omega
    · -- What was not erased is as before.
      exact tame.small entry (OrderedMap.mem_of_mem_eraseRun old)

/-- Flushing leaves no new entries. -/
theorem Tame.flush (tame : r.Tame capacity) : r.flush.Tame capacity :=
  ⟨tame.room, fun entry member => tame.small entry ((flushEntries_suffix _ _ _).subset member)⟩

/-- What a reassembler needs so that no push fails. -/
structure Ready (r : StreamReassembler) (capacity : Nat) : Prop where
  /-- The entries are small. -/
  tame : r.Tame capacity
  /-- The write counter is an `int`. -/
  written : r.output.bytesWritten < 2 ^ 31
  /-- No byte is read before it is written. -/
  read : r.output.bytesRead ≤ r.output.bytesWritten
  /-- There is some capacity. -/
  some : 0 < capacity
  /-- The capacity is not larger than the range of sequence numbers. -/
  narrow : capacity ≤ 2 ^ 32

namespace Ready

/-- The right edge of the window is exact. -/
theorem rightEdge (ready : r.Ready capacity) :
    sub64 (add64 r.output.bytesRead r.capacity) 1 = r.output.bytesRead + r.capacity - 1 := by
  -- Nothing that is added here comes near 64 bits.
  have written := ready.written
  have read := ready.read
  have some := ready.some
  have narrow := ready.narrow
  have room := ready.tame.room
  rw [add64_of_lt (by omega), sub64_of_le (by omega) (by omega)]

/-- Data that reaches past the written part can be clipped on the left. -/
theorem clipLeft_eq (ready : r.Ready capacity) (nonempty : 0 < data.length)
    (reaches : r.output.bytesWritten < index + data.length) :
    ∃ d, r.clipLeft data index = .ok d ∧ 0 < d.length ∧
      r.leftBound index + d.length = index + data.length := by
  have written := ready.written
  rw [clipLeft, leftBound]
  -- The part already written is cut off, which leaves at least one byte.
  split
  · rw [sub64_of_le (by omega) (by omega), substr_of_le (by omega)]
    refine ⟨_, rfl, ?_, ?_⟩
    · rw [List.length_take, List.length_drop]
      omega
    · rw [List.length_take, List.length_drop]
      omega
  · exact ⟨data, rfl, nonempty, rfl⟩

/-- Where the overflow test cuts data off, it is cut at the edge or kept as a whole. -/
theorem clipped (ready : r.Ready capacity) (word : lb + d.length < 2 ^ 33) (nonempty : 0 < d.length)
    (starts : r.output.bytesRead ≤ lb)
    (beyond : r.overflow (lb + d.length - 1) < 0) (within : ¬ r.overflow lb < 0) :
    lb + (d.take (add64 (sub64 (r.output.bytesRead + r.capacity - 1) lb) 1)).length =
        r.output.bytesRead + r.capacity - 1 + 1 ∨
      (d.take (add64 (sub64 (r.output.bytesRead + r.capacity - 1) lb) 1)).length = d.length ∧
        r.output.bytesRead + r.capacity - 1 < lb := by
  have written := ready.written
  have read := ready.read
  have some := ready.some
  have narrow := ready.narrow
  have room := ready.tame.room
  rw [overflow, ready.rightEdge] at beyond within
  rw [List.length_take]
  generalize edgeEq : r.output.bytesRead + r.capacity - 1 = edge at beyond within ⊢
  -- An edge past the end would be judged the same from both ends, as the capacity is narrow.
  have inside : edge ≤ lb + d.length - 1 := by
    simp only [toInt32, sub64] at beyond within
    omega
  have apart : edge + 1 ≠ lb := by
    -- The overflow test from the left bound would have dropped the data.
    rintro rfl
    simp only [toInt32, sub64] at within
    omega
  rcases Nat.lt_or_ge edge lb with before | after
  · -- The number of bytes to keep has wrapped, so all are kept.
    have many : d.length ≤ add64 (sub64 edge lb) 1 := by
      simp only [add64, sub64]
      omega
    exact .inr ⟨Nat.min_eq_right many, before⟩
  · -- The data is cut at the edge.
    rw [sub64_of_le after (by omega), add64_of_lt (by omega)]
    omega

/-- Adding data succeeds, and leaves small entries. -/
theorem addTempCash (ready : r.Ready capacity) (near : index < 2 ^ 32)
    (short : data.length < 2 ^ 31) :
    ∃ added, r.addTempCash data index = .ok added ∧ added.Tame capacity := by
  have tame := ready.tame
  have written := ready.written
  have read := ready.read
  have narrow := ready.narrow
  have room := ready.tame.room
  rw [addTempCash_def]
  by_cases empty : data.length = 0
  · -- There is no data.
    exact ⟨r, if_pos empty, tame⟩
  · rw [if_neg empty]
    -- None of the 64-bit sums wraps around.
    have last : sub64 (add64 index data.length) 1 = index + data.length - 1 := by
      rw [add64_of_lt (by omega), sub64_of_le (by omega) (by omega)]
    have lower : (if index < r.output.bytesWritten then r.output.bytesWritten else index) =
        r.leftBound index := rfl
    dsimp only
    rw [last, lower]
    by_cases old : index < r.output.bytesWritten ∧ index + data.length - 1 < r.output.bytesWritten
    · -- All of it was written before.
      exact ⟨r, if_pos old, tame⟩
    · obtain ⟨d, clips, nonempty, size⟩ :=
        ready.clipLeft_eq (Nat.pos_of_ne_zero empty) (show _ < index + _ by omega)
      -- The left bound is never before what was read.
      have starts : r.output.bytesRead ≤ r.leftBound index := by
        rw [leftBound]
        split <;> omega
      rw [if_neg old, clips, ok_bind, ready.rightEdge, ← size]
      generalize r.leftBound index = lb at size starts ⊢
      split
      · rename_i beyond
        split
        · -- All of it is beyond the window.
          exact ⟨r, rfl, tame⟩
        · -- The data passes the right edge and is cut there.
          rename_i within
          have cut := ready.clipped (by omega) nonempty starts beyond within
          generalize d.take (add64 (sub64 (r.output.bytesRead + r.capacity - 1) lb) 1) = part
            at cut ⊢
          obtain ⟨stored, stores, kept⟩ := tame.store (show lb + part.length ≤ 2 ^ 33 by omega)
            (show r.output.bytesRead + r.capacity - 1 < 2 ^ 33 by omega) (by omega)
          rw [stores]
          exact ⟨stored.flush, rfl, kept.flush⟩
      · -- The data ends inside the window.
        obtain ⟨stored, stores, kept⟩ := tame.store (show lb + d.length ≤ 2 ^ 33 by omega)
          (show lb + d.length - 1 < 2 ^ 33 by omega) (by omega)
        rw [stores]
        exact ⟨stored.flush, rfl, kept.flush⟩

/-- A push succeeds, and leaves small entries. -/
theorem push (ready : r.Ready capacity) (near : index < 2 ^ 32) (short : data.length < 2 ^ 31)
    (eof : Bool) : ∃ pushed, r.pushSubstring data index eof = .ok pushed ∧ pushed.Tame capacity := by
  -- Announcing the end leaves the map and the output alone.
  have noted : (if eof then { r with endIdx := add64 index data.length } else r).Ready capacity := by
    cases eof with
    | false => exact ready
    | true => exact ⟨⟨ready.tame.room, ready.tame.small⟩, ready.written, ready.read, ready.some,
        ready.narrow⟩
  obtain ⟨added, adds, kept⟩ := noted.addTempCash near short
  rw [pushSubstring_def, adds, ok_bind]
  split
  · exact ⟨_, rfl, kept.room, kept.small⟩
  · exact ⟨_, rfl, kept⟩

end Ready

end StreamReassembler

end Sponge
