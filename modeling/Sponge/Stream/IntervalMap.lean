import Sponge.Stream.ExactReassembly

/-! The map of waiting substrings stays well formed, whatever the pushed substrings contradict. -/

namespace Sponge

/-- Substrings that are joined have an index in common, and what is written is accepted in full. -/
def PushCall.Proper : PushCall → Prop
  | .combine s1 s2 index1 index2 =>
    ∃ i, (index1 ≤ i ∧ i < index1 + s1.length) ∧ (index2 ≤ i ∧ i < index2 + s2.length)
  | .write output data => (output.write data).2 = data.length

namespace StreamReassembler

open Observable

section Calls

variable {r : StreamReassembler} {popped d data : Bytes} {index lb rb lo hi : Nat}

/-- Joining is one call. -/
theorem combineWith_reports (s1 s2 : Bytes) (index1 index2 : Nat) :
    Reports (fun _ _ trace => (combineWith trace s1 s2 index1 index2).run)
      [.combine s1 s2 index1 index2] (combine s1 s2 index1 index2) := by
  intro m _ _ trace
  simp [combineWith]

/-- Data is joined only with entries that it overlaps, and then with what it was joined to. -/
theorem storeWith_reports (placed : Placed lo r.m.entries hi) (word : hi < 2 ^ 64)
    (size : lb + d.length = rb + 1) (nonempty : 0 < d.length) (stop : rb < hi)
    {stored : StreamReassembler} (stores : r.store d lb rb = .ok stored) :
    ∃ calls : List PushCall, (∀ call ∈ calls, call.Proper) ∧
      Reports (fun _ _ trace => (r.storeWith trace d lb rb).run) calls (.ok stored) := by
  -- The overlapped entries are a group of their own.
  obtain ⟨before, after, whole, _, _, _, overlapping⟩ := overlapped_split r lb rb placed word
  rw [store_def] at stores
  cases found : r.overlapped lb rb with
  | nil =>
    -- Nothing overlaps, and nothing is joined.
    rw [found, Except.ok.injEq] at stores
    refine ⟨[], by simp, fun m _ _ trace => ?_⟩
    simp only [storeWith, found, ← stores]
    simp
  | cons fit more =>
    -- The data is joined with the first entry, and the result with the last one.
    rw [found] at stores overlapping whole
    have group : Placed lo (fit :: more) hi := (whole ▸ placed).right.left
    have last := List.getLast_mem (List.cons_ne_nil fit more)
    dsimp only at stores
    obtain ⟨joined, joins, stores⟩ := bind_eq_ok.mp stores
    obtain ⟨ins, inserts, stores⟩ := bind_eq_ok.mp stores
    rw [pure_eq_ok] at stores
    refine ⟨[.combine fit.2 d (firstIdx fit) lb,
      .combine ((fit :: more).getLast (List.cons_ne_nil _ _)).2 joined
        (firstIdx ((fit :: more).getLast (List.cons_ne_nil _ _))) (min lb (firstIdx fit))], ?_, ?_⟩
    · generalize (fit :: more).getLast (List.cons_ne_nil _ _) = eit at last
      -- Both entries share an index with the data, the first on its left and the last on its right.
      obtain ⟨fitReaches, fitStarts⟩ := overlapping fit List.mem_cons_self
      obtain ⟨lastReaches, lastStarts⟩ := overlapping eit last
      have fitEnd := group.first_add_length (List.mem_cons_self : fit ∈ fit :: more)
      have lastEnd := group.first_add_length last
      have fitPlace := group.of_mem (List.mem_cons_self : fit ∈ fit :: more)
      have lastPlace := group.of_mem last
      rw [group.firstIdx_eq word last, group.firstIdx_eq word List.mem_cons_self]
      rw [group.firstIdx_eq word List.mem_cons_self] at joins
      obtain ⟨result, same, span, _⟩ := combine_spec
        (show lb ≤ runFirst fit + fit.2.length by omega)
        (show runFirst fit ≤ lb + d.length by omega) (by omega) (by omega)
      rw [joins, Except.ok.injEq] at same
      rw [← same] at span
      refine List.forall_mem_cons.mpr ⟨?_, List.forall_mem_singleton.mpr ?_⟩
      · -- The larger of the two first indices is in both.
        exact ⟨max lb (runFirst fit), by omega, by omega⟩
      · exact ⟨max lb (runFirst eit), by omega, by omega⟩
    · -- The first join leads to the second, and that one to what is stored.
      have first := combineWith_reports fit.2 d (firstIdx fit) lb
      have second := combineWith_reports ((fit :: more).getLast (List.cons_ne_nil _ _)).2 joined
        (firstIdx ((fit :: more).getLast (List.cons_ne_nil _ _))) (min lb (firstIdx fit))
      rw [joins] at first
      rw [inserts] at second
      intro m _ _ trace
      dsimp only
      rw [storeWith, found]
      refine (first.ok_bind trace _).trans ?_
      rw [List.forM_cons, List.forM_nil, List.forM_cons]
      simp only [bind_assoc, pure_bind]
      refine congrArg _ (funext fun _ => (second.ok_bind trace _).trans ?_)
      rw [← stores]
      rfl

/-- With room for the whole window, every flushed entry is accepted in full. -/
theorem flushEntriesWith_reports (small : hi < 2 ^ 31) (entries : List (Nat × Bytes)) :
    ∀ (output : ByteStream) (unassembled : Nat), output.Counts popped →
      Placed (popped ++ output.buffer).length entries hi →
      hi ≤ (popped ++ output.buffer).length + output.remainingCapacity →
      ∃ (calls : List PushCall) (flushed : ByteStream × Nat × { rest // rest <:+ entries }),
        (∀ call ∈ calls, call.Proper) ∧
        Reports (fun _ _ trace => flushEntriesWith trace output unassembled entries) calls
          flushed := by
  -- The induction follows the loop, which stops at the first gap.
  induction entries with
  | nil => exact fun _ _ _ _ _ => ⟨[], _, by simp, Reports.pure _⟩
  | cons entry rest ih =>
    intro output unassembled counts placed room
    have first := placed.firstIdx_eq (by omega) (List.mem_cons_self : entry ∈ entry :: rest)
    have extent := placed.first_add_length (List.mem_cons_self : entry ∈ entry :: rest)
    have stop := (placed.of_mem (List.mem_cons_self : entry ∈ entry :: rest)).2.2
    have within := placed.le
    by_cases continues : output.bytesWritten = firstIdx entry
    · -- The entry continues the output and fits, so the loop goes on behind it.
      have contiguous := continues
      rw [counts.bytesWritten (by omega), first] at contiguous
      have fits : entry.2.length ≤ output.remainingCapacity := by omega
      have accepted := output.write_of_fits entry.2 fits
      have next : (popped ++ (output.appended entry.2).buffer).length = entry.1 + 1 := by
        simp only [ByteStream.appended, List.length_append] at contiguous ⊢
        omega
      obtain ⟨calls, flushed, proper, reports⟩ := ih (output.appended entry.2)
        (sub64 unassembled entry.2.length) (counts.appended entry.2)
        (by rw [next]; exact placed.2.2)
        (by rw [next, ByteStream.remainingCapacity_appended fits]; omega)
      refine ⟨.write output entry.2 :: calls, (flushed.1, flushed.2.1,
        ⟨flushed.2.2.1, flushed.2.2.2.trans (List.suffix_cons entry rest)⟩),
        List.forall_mem_cons.mpr ⟨by rw [PushCall.Proper, accepted], proper⟩, fun m _ _ trace => ?_⟩
      dsimp only
      rw [flushEntriesWith, if_pos continues, writeWith, List.forM_cons, bind_assoc, bind_assoc]
      simp only [pure_bind, accepted]
      exact congrArg _ (funext fun _ => reports.bind trace _)
    · -- The loop stops here.
      refine ⟨[], (output, unassembled, ⟨entry :: rest, List.suffix_refl _⟩), by simp,
        fun m _ _ trace => ?_⟩
      dsimp only
      rw [flushEntriesWith, if_neg continues]
      exact Reports.pure _ m trace

/-- So does the whole flush. -/
theorem flushWith_reports (small : hi < 2 ^ 31) (counts : r.output.Counts popped)
    (placed : Placed (popped ++ r.output.buffer).length r.m.entries hi)
    (room : hi ≤ (popped ++ r.output.buffer).length + r.output.remainingCapacity) :
    ∃ (calls : List PushCall) (flushed : StreamReassembler), (∀ call ∈ calls, call.Proper) ∧
      Reports (fun _ _ trace => r.flushWith trace) calls flushed := by
  obtain ⟨calls, flushed, proper, reports⟩ :=
    flushEntriesWith_reports small r.m.entries r.output r.unassembled counts placed room
  exact ⟨calls, _, proper, fun m _ _ trace => reports.bind trace _⟩

/-- A push into a window with room for it joins and flushes as it should. -/
theorem addTempCashWith_reports (sound : r.Sound popped)
    (word : index + data.length < 2 ^ 64 - 1) (signs : r.SignsKept popped data index)
    (small : r.edge popped < 2 ^ 31)
    (room : r.edge popped ≤ r.assembled popped + r.output.remainingCapacity) :
    ∃ (calls : List PushCall) (next : StreamReassembler), (∀ call ∈ calls, call.Proper) ∧
      Reports (fun _ _ trace => (r.addTempCashWith trace data index).run) calls (.ok next) := by
  by_cases outside : ∀ i, index ≤ i → i < index + data.length → i < r.edge popped →
      i < r.assembled popped
  · -- Nothing new is inside the window, and nothing is called.
    refine ⟨[], r, by simp, fun m _ _ trace => ?_⟩
    dsimp only
    rw [addTempCashWith, clipThen_outside sound word signs outside]
    exact Reports.pure _ m trace
  · -- Some index is new and inside the window.
    simp only [not_forall, Nat.not_lt] at outside
    obtain ⟨new, low, high, admitted, unwritten⟩ := outside
    obtain ⟨d, lb, rb, clipped, clips⟩ :=
      clipThen_inside sound word signs low high admitted unwritten
    obtain ⟨m, stores, merged⟩ := store_spec sound.placed (by omega) sound.counted clipped.size
      clipped.nonempty clipped.start clipped.stop
    -- What is left of the data is joined with the entries, and then the entries are flushed.
    obtain ⟨joins, joined, storing⟩ := storeWith_reports sound.placed (by omega) clipped.size
      clipped.nonempty clipped.stop stores
    obtain ⟨writes, flushed, written, flushing⟩ := flushWith_reports
      (r := { r with unassembled := totalSize m.entries, m }) (by omega) sound.counts
      merged.placed (Nat.le_trans (Nat.min_le_left _ _) room)
    refine ⟨joins ++ writes, flushed, ?_, fun m _ _ trace => ?_⟩
    · -- The calls are those of the two parts.
      exact fun call member => (List.mem_append.mp member).elim (joined call) (written call)
    · -- The parts report in this order.
      dsimp only
      rw [addTempCashWith, clips, List.forM_append, bind_assoc]
      refine (storing.ok_bind trace _).trans (congrArg _ (funext fun _ => ?_))
      refine (ExceptT.run_lift _).trans ((congrArg _ (flushing m trace)).trans ?_)
      simp

/-- A push into a window with room for it returns, and joins and flushes as it should. -/
theorem pushing_reports (sound : r.Sound popped) (word : index + data.length < 2 ^ 64 - 1)
    (signs : r.SignsKept popped data index) (small : r.edge popped < 2 ^ 31)
    (room : r.edge popped ≤ r.assembled popped + r.output.remainingCapacity) (eof : Bool) :
    ∃ (calls : List PushCall) (next : StreamReassembler), (∀ call ∈ calls, call.Proper) ∧
      (r.pushing data index eof).Reports calls (.ok next) := by
  have known : (if eof then { r with endIdx := add64 index data.length } else r) =
      { r with endIdx := if eof then add64 index data.length else r.endIdx } := by
    cases eof <;> rfl
  obtain ⟨calls, added, proper, adding⟩ := addTempCashWith_reports
    (sound.withEnd (if eof then add64 index data.length else r.endIdx)) word signs small room
  -- The end of the stream, if it is reached, calls nothing more.
  refine ⟨calls, if added.output.bytesWritten = added.endIdx then
    { added with output := added.output.endInput } else added, proper, fun m _ _ trace => ?_⟩
  rw [pushing, pushSubstringWith, known]
  refine (adding.ok_bind trace _).trans (congrArg _ (funext fun _ => ?_))
  split
  · rfl
  · rfl

end Calls

/-- The waiting entries are well formed. -/
structure WellFormed (r : StreamReassembler) : Prop where
  /-- No entry is empty. -/
  nonempty : ∀ entry ∈ r.m.entries, entry.2 ≠ []
  /-- An entry holds as many bytes as there are indices from its first to its key. -/
  sized : ∀ entry ∈ r.m.entries, firstIdx entry + entry.2.length = entry.1 + 1
  /-- Every entry ends before the next one starts. -/
  disjoint : r.m.entries.Pairwise fun entry later => entry.1 < firstIdx later
  /-- Every entry starts strictly after the next byte to be written. -/
  above : ∀ entry ∈ r.m.entries, r.output.bytesWritten < firstIdx entry
  /-- Every entry ends inside the window. -/
  below : ∀ entry ∈ r.m.entries, entry.1 < r.output.bytesRead + r.capacity
  /-- The number of waiting bytes is the sum of the sizes. -/
  counted : r.unassembledBytes = (r.m.entries.map fun entry => entry.2.length).sum

/-- The invariant of a reassembler makes its entries well formed. -/
theorem Sound.wellFormed {r : StreamReassembler} {popped : Bytes} (sound : r.Sound popped) :
    r.WellFormed := by
  -- Below the edge, the subtraction that finds the first index does not wrap around.
  have first : ∀ entry ∈ r.m.entries, firstIdx entry = runFirst entry :=
    fun entry member => sound.placed.firstIdx_eq (by omega) member
  refine ⟨?_, ?_, ?_, ?_, ?_, sound.counted⟩
  · -- No entry is empty.
    intro entry member
    exact List.length_pos_iff.mp (sound.placed.of_mem member).1
  · -- An entry ends at its key.
    intro entry member
    rw [first entry member]
    exact sound.placed.first_add_length member
  · -- Entries do not touch.
    refine sound.placed.pairwise.imp_of_mem fun {entry later} _ member before => ?_
    rw [first later member]
    exact before
  · -- Entries lie behind what was written.
    intro entry member
    rw [first entry member, sound.bytesWritten]
    exact sound.waiting entry member
  · -- Entries lie inside the window.
    intro entry member
    have stop := (sound.placed.of_mem member).2.2
    rw [sound.bytesRead]
    rw [edge] at stop
    omega

end StreamReassembler

namespace ReassemblerRun

/-- A push whose last index and whose window stay below the sign bit. -/
def Bounded (capacity : Nat) : ReassemblerCall → Prop
  | .push data index _ => index + data.length + capacity < 2 ^ 31
  | .reader _ => True

/-- Some of the calls pushed a byte at an index. -/
def PushedAt (calls : List ReassemblerCall) (i : Nat) (value : UInt8) : Prop :=
  ∃ data index eof, .push data index eof ∈ calls ∧ PlacedAt index data i value

/-- The invariant of a run of bounded calls, whatever bytes they push. -/
structure Kept (capacity : Nat) (calls : List ReassemblerCall) (t : ReassemblerRun) : Prop where
  /-- The reassembler keeps its own invariant. -/
  sound : t.reassembler.Sound t.popped
  /-- The capacity is the one it was built with. -/
  fixed : t.reassembler.capacity = capacity
  /-- So is the capacity of the output. -/
  room : t.reassembler.output.capacity = toInt32 capacity
  /-- Nothing was written past the pushed indices. -/
  near : 0 < t.reassembler.assembled t.popped →
    t.reassembler.assembled t.popped + capacity < 2 ^ 31
  /-- Every waiting byte stands where it was pushed. -/
  stored : ∀ i value, Stored t.reassembler.m.entries i value → PushedAt calls i value

section Runs

variable {capacity : Nat} {calls : List ReassemblerCall} {t : ReassemblerRun}

/-- A fresh reassembler satisfies the invariant. -/
theorem kept_start (capacity : Nat) (calls : List ReassemblerCall) :
    Kept capacity calls (start capacity) := by
  refine ⟨StreamReassembler.sound_new capacity, rfl, rfl, ?_, ?_⟩
  · -- Nothing was written.
    exact fun written => absurd written (Nat.lt_irrefl 0)
  · -- Nothing is stored.
    rintro i value ⟨run, member, _⟩
    exact absurd member List.not_mem_nil

/-- Bytes pushed by bounded calls lie well below the sign bit. -/
theorem PushedAt.lt (bounded : ∀ call ∈ calls, Bounded capacity call) {i : Nat} {value : UInt8}
    (pushed : PushedAt calls i value) : i + 1 + capacity < 2 ^ 31 := by
  obtain ⟨data, index, eof, member, offset, found, place⟩ := pushed
  -- The call of the byte was bounded.
  have low : index + data.length + capacity < 2 ^ 31 := bounded _ member
  have inside := (List.getElem?_eq_some_iff.mp found).1
  omega

/-- What a bounded push needs to know of the state it starts from. -/
theorem Kept.ready (kept : Kept capacity calls t) {data : Bytes} {index : Nat}
    (low : index + data.length + capacity < 2 ^ 31) :
    t.reassembler.edge t.popped < 2 ^ 31 ∧ t.reassembler.SignsKept t.popped data index ∧
      t.reassembler.edge t.popped ≤
        t.reassembler.assembled t.popped + t.reassembler.output.remainingCapacity := by
  have near := kept.near
  have within := kept.sound.assembled_le_edge
  have written : t.reassembler.assembled t.popped =
      t.popped.length + t.reassembler.output.buffer.length := List.length_append
  have edge : t.reassembler.edge t.popped = t.popped.length + capacity := by
    rw [StreamReassembler.edge, kept.fixed]
  refine ⟨by omega, ?_, ?_⟩
  · -- Every index in play is below the sign bit, so the narrowing is exact.
    intro _ _
    exact ⟨signKept_of_near (by omega) (by omega), fun _ => signKept_of_near (by omega) (by omega)⟩
  · rw [ByteStream.remainingCapacity_new (by omega) kept.room (by omega)]
    omega

/-- A bounded push returns and keeps the invariant. -/
theorem Kept.push (kept : Kept capacity calls t) (bounded : ∀ call ∈ calls, Bounded capacity call)
    {data : Bytes} {index : Nat} {eof : Bool} (member : .push data index eof ∈ calls) :
    ∃ next, t.step (.push data index eof) = .ok next ∧ Kept capacity calls next := by
  -- The bound on the call keeps every sign that the code narrows.
  have low : index + data.length + capacity < 2 ^ 31 := bounded _ member
  obtain ⟨small, signs, _⟩ := kept.ready low
  obtain ⟨r, pushes, limit, absorbs⟩ :=
    StreamReassembler.pushSubstring_spec kept.sound (by omega) signs eof
  have pushed := absorbs (by omega)
  -- What is stored or moved now was pushed by this call, or by one before.
  have origin : ∀ i value, Stored t.reassembler.m.entries i value ∨ PlacedAt index data i value →
      PushedAt calls i value := by
    rintro i value (stored | new)
    · exact kept.stored i value stored
    · exact ⟨data, index, eof, member, new⟩
  refine ⟨_, by rw [step, pushes, ok_bind, pure_eq_ok], pushed.sound,
    pushed.capacity.trans kept.fixed, pushed.room.trans kept.room, ?_, ?_⟩
  · -- The last byte written was written before, or it was pushed where it stands.
    obtain ⟨bytes, buffer, source⟩ := pushed.moved
    have grown : r.assembled t.popped = t.reassembler.assembled t.popped + bytes.length := by
      simp only [StreamReassembler.assembled, buffer, List.length_append]
      omega
    intro written
    rw [grown] at written ⊢
    cases last : bytes.getLast? with
    | none =>
      -- The push wrote nothing, so the last byte is the old one.
      rw [List.getLast?_eq_none_iff] at last
      rw [last, List.length_nil, Nat.add_zero] at written ⊢
      exact kept.near written
    | some value =>
      -- The last byte was pushed at its place, which is bounded.
      rw [List.getLast?_eq_getElem?] at last
      have size := (List.getElem?_eq_some_iff.mp last).1
      have := (origin _ value (source _ value ⟨bytes.length - 1, last, rfl⟩)).lt bounded
      omega
  · -- The stored bytes have the same origin.
    exact fun i value held => origin i value (pushed.stored i value held)

/-- Taking bytes from the output changes nothing but who holds them. -/
theorem Kept.taken (kept : Kept capacity calls t) {len : Nat}
    (inside : len ≤ t.reassembler.output.buffer.length) :
    Kept capacity calls { t with
      reassembler := { t.reassembler with output := t.reassembler.output.taken len }
      popped := t.popped ++ t.reassembler.output.buffer.take len } := by
  refine ⟨kept.sound.taken inside, kept.fixed, kept.room, ?_, kept.stored⟩
  -- What is popped leaves the buffer from its front.
  simp only [StreamReassembler.assembled, ByteStream.taken, List.append_assoc,
    List.take_append_drop]
  exact kept.near

/-- A bounded call returns and keeps the invariant. -/
theorem Kept.step (kept : Kept capacity calls t) (bounded : ∀ call ∈ calls, Bounded capacity call)
    {call : ReassemblerCall} (member : call ∈ calls) :
    ∃ next, t.step call = .ok next ∧ Kept capacity calls next := by
  cases call with
  | push data index eof => exact kept.push bounded member
  | reader call =>
    -- A read of a buffer below the sign bit returns.
    have small := kept.sound.small
    simp only [StreamReassembler.assembled, List.length_append] at small
    obtain ⟨len, inside, served⟩ := kept.sound.counts.serve (by omega) call
    exact ⟨_, by rw [ReassemblerRun.step, served, ok_bind, pure_eq_ok], kept.taken inside⟩

end Runs

/-- Whatever bytes are pushed, the waiting entries stay well formed and no push throws. -/
theorem entries_wellFormed (capacity : Nat) (calls : List ReassemblerCall)
    (bounded : ∀ call ∈ calls, Bounded capacity call) :
    ∃ t, runCalls step (start capacity) calls = .ok t ∧
      t.reassembler.WellFormed ∧
      -- The byte at each index of an entry was pushed there.
      (∀ entry ∈ t.reassembler.m.entries, ∀ offset value, entry.2[offset]? = some value →
        PushedAt calls (firstIdx entry + offset) value) ∧
      -- A push that follows makes only proper calls, and returns.
      ∀ data index eof, Bounded capacity (.push data index eof) →
        ∃ next made, (t.reassembler.pushing data index eof).noted = (.ok next, made) ∧
          t.reassembler.pushSubstring data index eof = .ok next ∧ ∀ call ∈ made, call.Proper := by
  have along : Throughout step (fun _ call => call ∈ calls) (start capacity) calls :=
    .of_forall calls _ fun call member => member
  -- The pushed bytes are those of any call of the run, the later ones included.
  obtain ⟨t, returned, kept⟩ := along.returns (Kept capacity calls)
    (fun _ _ held member => held.step bounded member) (kept_start capacity calls)
  refine ⟨t, returned, kept.sound.wellFormed, ?_, ?_⟩
  · -- Inside the window the first index is what the subtraction says.
    intro entry member offset value found
    rw [kept.sound.placed.firstIdx_eq (by omega) member]
    exact kept.stored _ value ⟨entry, member, offset, found, rfl⟩
  · -- The further push is one of a sound reassembler.
    intro data index eof low
    have low : index + data.length + capacity < 2 ^ 31 := low
    obtain ⟨small, signs, room⟩ := kept.ready low
    obtain ⟨made, next, proper, reports⟩ :=
      StreamReassembler.pushing_reports kept.sound (by omega) signs small room eof
    exact ⟨next, made, reports.noted_eq, reports.result_eq, proper⟩

/-- Overlapping pushes that disagree, with a read between them. -/
theorem entries_wellFormed_contradictory :
    ∃ t, runCalls step (start 8)
        [.push [1, 2] 3 false, .push [9, 9, 9] 4 true, .push [7] 0 false, .reader (.read 1)] =
          .ok t ∧
      t.reassembler.WellFormed ∧
      (∀ entry ∈ t.reassembler.m.entries, ∀ offset value, entry.2[offset]? = some value →
        PushedAt [.push [1, 2] 3 false, .push [9, 9, 9] 4 true, .push [7] 0 false,
          .reader (.read 1)] (firstIdx entry + offset) value) ∧
      ∀ data index eof, Bounded 8 (.push data index eof) →
        ∃ next made, (t.reassembler.pushing data index eof).noted = (.ok next, made) ∧
          t.reassembler.pushSubstring data index eof = .ok next ∧ ∀ call ∈ made, call.Proper :=
  entries_wellFormed 8 _ (by simp [Bounded])

end ReassemblerRun

end Sponge
