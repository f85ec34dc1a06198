import Sponge.Lib.Intervals
import Sponge.Stream.ByteStreamLaws
import Sponge.Stream.StreamReassembler

/-! Merging one substring into the waiting entries keeps them disjoint and loses no byte. -/

namespace Sponge

/-- The 64-bit first index of an entry is its exact one. -/
theorem firstIdx_eq {entry : Nat × Bytes} (nonempty : 0 < entry.2.length)
    (fits : entry.2.length ≤ entry.1 + 1) (word : entry.1 < 2 ^ 64) :
    firstIdx entry = runFirst entry := by
  simp only [firstIdx, runFirst, add64, sub64]
  omega

/-- An entry placed below the top of the range has an exact first index. -/
theorem Placed.firstIdx_eq {lo hi : Nat} {entries : List (Nat × Bytes)}
    (placed : Placed lo entries hi) (word : hi < 2 ^ 64) {entry : Nat × Bytes}
    (member : entry ∈ entries) : firstIdx entry = runFirst entry := by
  obtain ⟨nonempty, within, bounded⟩ := placed.of_mem member
  exact Sponge.firstIdx_eq nonempty (by omega) (by omega)

/-- Elements placed in a trailing part stand where they stood in the whole. -/
theorem PlacedAt.of_drop {α : Type} {first skipped index : Nat} {data : List α} {value : α}
    (placed : PlacedAt (first + skipped) (data.drop skipped) index value) :
    PlacedAt first data index value := by
  obtain ⟨offset, found, position⟩ := placed
  rw [List.getElem?_drop] at found
  exact ⟨skipped + offset, found, by omega⟩

/-- Elements placed in a leading part stand where they stood in the whole. -/
theorem PlacedAt.of_take {α : Type} {first kept index : Nat} {data : List α} {value : α}
    (placed : PlacedAt first (data.take kept) index value) : PlacedAt first data index value := by
  -- The offset is one of the leading part, so it is the same in the whole.
  obtain ⟨offset, found, position⟩ := placed
  have inside := (List.getElem?_eq_some_iff.mp found).1
  rw [List.length_take] at inside
  rw [List.getElem?_take_of_lt (by omega)] at found
  exact ⟨offset, found, position⟩

/-- Two parts put side by side hold nothing else. -/
theorem PlacedAt.of_append {α : Type} {first index : Nat} {left right : List α} {value : α}
    (placed : PlacedAt first (left ++ right) index value) :
    PlacedAt first left index value ∨ PlacedAt (first + left.length) right index value := by
  obtain ⟨offset, found, position⟩ := placed
  rw [List.getElem?_append] at found
  split at found
  · -- The offset is in the left part.
    exact .inl ⟨offset, found, position⟩
  · -- The offset is in the right part, counted from where that one starts.
    exact .inr ⟨offset - left.length, found, by omega⟩

/-- Joining substrings that touch gives their span, and each byte comes from one of them. -/
theorem combine_spec {s1 s2 : Bytes} {i1 i2 : Nat} (reach1 : i2 ≤ i1 + s1.length)
    (reach2 : i1 ≤ i2 + s2.length) (word1 : i1 + s1.length < 2 ^ 64)
    (word2 : i2 + s2.length < 2 ^ 64) :
    ∃ res, combine s1 s2 i1 i2 = .ok res ∧
      min i1 i2 + res.length = max (i1 + s1.length) (i2 + s2.length) ∧
      ∀ index value, PlacedAt (min i1 i2) res index value →
        PlacedAt i1 s1 index value ∨ PlacedAt i2 s2 index value := by
  -- The substring that starts first is the left part, whichever argument it is.
  have ordered : ∀ (left right : Bytes) (in1 in2 : Nat), in1 ≤ in2 → in2 ≤ in1 + left.length →
      in1 + left.length < 2 ^ 64 → in2 + right.length < 2 ^ 64 →
      ∃ res, (do
          if add64 in2 right.length ≤ add64 in1 left.length then return left
          let rest ← substr right (sub64 (add64 in1 left.length) in2) right.length
          return left ++ rest : Except Fault Bytes) = .ok res ∧
        in1 + res.length = max (in1 + left.length) (in2 + right.length) ∧
        ∀ index value, PlacedAt in1 res index value →
          PlacedAt in1 left index value ∨ PlacedAt in2 right index value := by
    intro left right in1 in2 before touch wordLeft wordRight
    rw [add64_of_lt wordLeft, add64_of_lt wordRight]
    by_cases inside : in2 + right.length ≤ in1 + left.length
    · -- The right part lies inside the left one.
      exact ⟨left, by simp [inside], by omega, fun index value placed => .inl placed⟩
    · rw [sub64_of_le (by omega) (by omega), substr_of_le (by omega)]
      refine ⟨left ++ right.drop (in1 + left.length - in2), by simp [inside], ?_, ?_⟩
      · -- The joined part ends where the right one does.
        simp only [List.length_append, List.length_drop]
        omega
      · intro index value placed
        rcases placed.of_append with placed | placed
        · -- A byte of the left part.
          exact .inl placed
        · -- A byte of the right part, behind those that overlap.
          have position : in1 + left.length = in2 + (in1 + left.length - in2) := by omega
          generalize in1 + left.length - in2 = skipped at placed position
          exact .inr (PlacedAt.of_drop (position ▸ placed))
  by_cases first : i1 < i2
  · -- The first argument starts first.
    obtain ⟨res, joined, span, origin⟩ := ordered s1 s2 i1 i2 (by omega) reach1 word1 word2
    refine ⟨res, by simpa [combine, first] using joined, by omega, ?_⟩
    intro index value placed
    exact origin index value (by rwa [Nat.min_eq_left (by omega)] at placed)
  · -- The second argument starts first, or they start together.
    obtain ⟨res, joined, span, origin⟩ := ordered s2 s1 i2 i1 (by omega) reach2 word2 word1
    refine ⟨res, by simpa [combine, first] using joined, by omega, ?_⟩
    intro index value placed
    exact (origin index value (by rwa [Nat.min_eq_right (by omega)] at placed)).symm

/-- Adding sizes one after another gives their total when it is a word. -/
theorem foldl_add64 (sizes : List Nat) :
    ∀ start, start + sizes.sum < 2 ^ 64 → sizes.foldl add64 start = start + sizes.sum := by
  -- No partial sum exceeds the total.
  induction sizes with
  | nil => intro start _; simp
  | cons size rest ih =>
    intro start fits
    simp only [List.sum_cons] at fits
    rw [List.foldl_cons, add64_of_lt (by omega), ih _ (by omega), List.sum_cons]
    omega

/-- What storing a substring does to the waiting entries. -/
structure Merged (before after : List (Nat × Bytes)) (d : Bytes) (lb rb lo hi : Nat) : Prop where
  /-- The entries stay disjoint and within the window. -/
  placed : Placed lo after hi
  /-- Exactly the indices of the substring are added. -/
  covered : ∀ index, Covered after index ↔ Covered before index ∨ (lb ≤ index ∧ index ≤ rb)
  /-- Every byte was there before or comes from the substring. -/
  stored : ∀ index value, Stored after index value →
    Stored before index value ∨ PlacedAt lb d index value

section Store

variable {r : StreamReassembler} {d : Bytes} {lb rb lo hi : Nat}

/-- Data that overlaps no entry is stored between its neighbours. -/
theorem merged_apart {before after : List (Nat × Bytes)} (placed : Placed lo (before ++ after) hi)
    (size : lb + d.length = rb + 1) (nonempty : 0 < d.length) (start : lo ≤ lb) (stop : rb < hi)
    (smaller : ∀ entry ∈ before, entry.1 < lb) (larger : ∀ entry ∈ after, rb < runFirst entry) :
    Merged (before ++ after) (before ++ (rb, d) :: after) d lb rb lo hi := by
  -- The new entry starts at the left bound of the data.
  have first : runFirst (rb, d) = lb := by simp only [runFirst]; omega
  refine ⟨placed.left.splice placed.right nonempty (by simp only; omega) stop ?_ larger, ?_, ?_⟩
  · -- The entries before it end to its left.
    rw [first]; exact smaller
  · -- The indices of the data are added to the coverage.
    intro index
    rw [covered_append, covered_cons, covered_append, first]
    simp only [or_comm, or_left_comm]
  · -- Each byte is one of the old ones or of the data.
    intro index value holds
    rw [stored_append, stored_cons, first] at holds
    rw [stored_append]
    rcases holds with early | new | late
    · exact .inl (.inl early)
    · exact .inr new
    · exact .inl (.inr late)

/-- Data that overlaps entries is stored in one entry that spans them all. -/
theorem merged_overlapping {before after more : List (Nat × Bytes)} {fit : Nat × Bytes}
    {ins : Bytes} (placed : Placed lo (before ++ ((fit :: more) ++ after)) hi)
    (size : lb + d.length = rb + 1) (start : lo ≤ lb) (stop : rb < hi)
    (smaller : ∀ entry ∈ before, entry.1 < lb) (larger : ∀ entry ∈ after, rb < runFirst entry)
    (overlapping : ∀ entry ∈ fit :: more, lb ≤ entry.1 ∧ runFirst entry ≤ rb)
    (span : min lb (runFirst fit) + ins.length =
      max rb ((fit :: more).getLast (List.cons_ne_nil fit more)).1 + 1)
    (origin : ∀ index value, PlacedAt (min lb (runFirst fit)) ins index value →
      Stored (fit :: more) index value ∨ PlacedAt lb d index value) :
    Merged (before ++ ((fit :: more) ++ after))
      (before ++ (max rb ((fit :: more).getLast (List.cons_ne_nil fit more)).1, ins) :: after)
      d lb rb lo hi := by
  have group : Placed lo (fit :: more) hi := placed.right.left
  -- The last of the overlapped entries bounds the merged one on the right.
  have last : (fit :: more).getLast (List.cons_ne_nil fit more) ∈ fit :: more :=
    List.getLast_mem _
  have widest := fun {run} (member : run ∈ fit :: more) => group.span member
  generalize (fit :: more).getLast (List.cons_ne_nil fit more) = eit at last span widest ⊢
  obtain ⟨lastReaches, lastStarts⟩ := overlapping eit last
  obtain ⟨fitReaches, fitStarts⟩ := overlapping fit (by simp)
  have fitPlace := group.le_first (List.mem_cons_self : fit ∈ fit :: more)
  have lastPlace := group.of_mem last
  have first : runFirst (max rb eit.1, ins) = min lb (runFirst fit) := by
    simp only [runFirst] at span ⊢
    omega
  refine ⟨placed.left.splice placed.right.right ?_ ?_ ?_ ?_ ?_, ?_, ?_⟩
  · simp only; omega
  · simp only; omega
  · simp only; omega
  · -- The entries before end to the left of the data and of those that it overlaps.
    intro entry member
    have := smaller entry member
    have := placed.before member (List.mem_cons_self : fit ∈ fit :: (more ++ after))
    rw [first]
    omega
  · -- The entries after start to the right of both.
    intro entry member
    have := larger entry member
    have := placed.right.before last member
    simp only
    omega
  · intro index
    -- Inside the span, every index left of the data is in the first entry, right of it in the last.
    have inner : (min lb (runFirst fit) ≤ index ∧ index ≤ max rb eit.1) ↔
        Covered (fit :: more) index ∨ (lb ≤ index ∧ index ≤ rb) := by
      constructor
      · rintro ⟨fromLeft, toRight⟩
        by_cases left : index < lb
        · -- The index is in the first entry.
          exact .inl ⟨fit, by simp, by omega, by omega⟩
        · by_cases right : rb < index
          · -- The index is in the last entry.
            exact .inl ⟨eit, last, by omega, by omega⟩
          · exact .inr ⟨by omega, by omega⟩
      · rintro (⟨run, member, fromLeft, toRight⟩ | ⟨fromLeft, toRight⟩)
        · -- An entry that is overlapped lies between the first and the last.
          have := widest member
          omega
        · omega
    rw [covered_append, covered_cons, covered_append, covered_append, first, inner]
    simp only [or_comm, or_left_comm]
  · -- The bytes of the merged entry come from the overlapped ones or from the data.
    intro index value holds
    rw [stored_append, stored_cons, first] at holds
    rw [stored_append, stored_append]
    rcases holds with early | joined | late
    · exact .inl (.inl early)
    · rcases origin index value joined with old | new
      · exact .inl (.inr (.inl old))
      · exact .inr new
    · exact .inl (.inr (.inr late))

/-- What data overlaps ends at or after its first index, and starts at or before its last. -/
theorem mem_overlapped {entry : Nat × Bytes} (member : entry ∈ r.overlapped lb rb) :
    entry ∈ r.m.lowerBound lb ∧ lb ≤ entry.1 ∧ firstIdx entry ≤ rb := by
  rw [StreamReassembler.overlapped] at member
  have inside : entry ∈ r.m.lowerBound lb := (List.takeWhile_prefix _).subset member
  exact ⟨inside, r.m.le_of_mem_lowerBound inside, by simpa using List.mem_takeWhile_imp member⟩

/-- The entries split into those before the data, those it overlaps and those after it. -/
theorem overlapped_split (r : StreamReassembler) (lb rb : Nat)
    (placed : Placed lo r.m.entries hi) (word : hi < 2 ^ 64) :
    ∃ before after, r.m.entries = before ++ (r.overlapped lb rb ++ after) ∧
      (r.m.eraseRun lb (fun entry => firstIdx entry ≤ rb)).entries = before ++ after ∧
      (∀ entry ∈ before, entry.1 < lb) ∧ (∀ entry ∈ after, rb < runFirst entry) ∧
      ∀ entry ∈ r.overlapped lb rb, lb ≤ entry.1 ∧ runFirst entry ≤ rb := by
  have whole := r.m.below_append_lowerBound lb
  have cut : Placed lo (r.m.below lb ++ r.m.lowerBound lb) hi := whole ▸ placed
  -- The code finds the first index by a subtraction that does not wrap around here.
  have starts : ∀ entry ∈ r.m.lowerBound lb,
      decide (firstIdx entry ≤ rb) = true ↔ runFirst entry ≤ rb := by
    intro entry member
    rw [decide_eq_true_iff, cut.right.firstIdx_eq word member]
  refine ⟨r.m.below lb, (r.m.lowerBound lb).dropWhile (fun entry => firstIdx entry ≤ rb),
    ?_, rfl, fun entry => r.m.lt_of_mem_below, fun entry => ?_, fun entry member => ?_⟩
  · rw [StreamReassembler.overlapped, List.takeWhile_append_dropWhile, whole]
  · exact cut.right.lt_first_of_mem_dropWhile starts
  · obtain ⟨inside, reaches, early⟩ := mem_overlapped member
    exact ⟨reaches, (starts entry inside).mp (decide_eq_true early)⟩

/-- Overlapping data is joined with the first and the last entry it overlaps. -/
theorem combine_overlapped {fit : Nat × Bytes} {more : List (Nat × Bytes)}
    (group : Placed lo (fit :: more) hi) (word : hi < 2 ^ 64) (size : lb + d.length = rb + 1)
    (stop : rb < hi)
    (overlapping : ∀ entry ∈ fit :: more, lb ≤ entry.1 ∧ runFirst entry ≤ rb) :
    ∃ ins, (do
        let ins ← combine fit.2 d (firstIdx fit) lb
        combine ((fit :: more).getLast (List.cons_ne_nil fit more)).2 ins
          (firstIdx ((fit :: more).getLast (List.cons_ne_nil fit more)))
          (min lb (firstIdx fit))) = .ok ins ∧
      min lb (runFirst fit) + ins.length =
        max rb ((fit :: more).getLast (List.cons_ne_nil fit more)).1 + 1 ∧
      ∀ index value, PlacedAt (min lb (runFirst fit)) ins index value →
        Stored (fit :: more) index value ∨ PlacedAt lb d index value := by
  have last : (fit :: more).getLast (List.cons_ne_nil fit more) ∈ fit :: more :=
    -- The group ends with its last entry, and begins with its first.
    List.getLast_mem _
  have widest := group.span (List.mem_cons_self : fit ∈ fit :: more)
  have latest := (group.span last).1
  generalize (fit :: more).getLast (List.cons_ne_nil fit more) = eit at last widest latest ⊢
  obtain ⟨lastReaches, lastStarts⟩ := overlapping eit last
  obtain ⟨fitReaches, fitStarts⟩ := overlapping fit List.mem_cons_self
  have fitEnd := group.first_add_length (List.mem_cons_self : fit ∈ fit :: more)
  have lastEnd := group.first_add_length last
  have lastBound := (group.of_mem last).2.2
  rw [group.firstIdx_eq word last, group.firstIdx_eq word List.mem_cons_self]
  -- The data is first joined with the entry that may reach out on the left.
  obtain ⟨joined, left, leftSpan, leftOrigin⟩ := combine_spec
    (show lb ≤ runFirst fit + fit.2.length by omega)
    (show runFirst fit ≤ lb + d.length by omega) (by omega) (by omega)
  -- The result is then joined with the entry that may reach out on the right.
  rw [Nat.min_comm lb]
  obtain ⟨ins, right, span, origin⟩ := combine_spec
    (show min (runFirst fit) lb ≤ runFirst eit + eit.2.length by omega)
    (show runFirst eit ≤ min (runFirst fit) lb + joined.length by omega) (by omega) (by omega)
  have least : min (runFirst eit) (min (runFirst fit) lb) = min (runFirst fit) lb := by omega
  rw [least] at span origin
  refine ⟨ins, by rw [left, ok_bind, right], by omega, fun index value held => ?_⟩
  rcases origin index value held with fromLast | fromJoined
  · -- The byte is one of the last entry.
    exact .inl ⟨eit, last, fromLast⟩
  · -- The byte is one of the first entry, or of the data.
    rcases leftOrigin index value fromJoined with fromFit | fromData
    · exact .inl ⟨fit, List.mem_cons_self, fromFit⟩
    · exact .inr fromData

/-- Storing clipped data succeeds, keeps the count exact and merges it into the entries. -/
theorem store_spec (placed : Placed lo r.m.entries hi) (word : hi < 2 ^ 64)
    (counted : r.unassembled = totalSize r.m.entries) (size : lb + d.length = rb + 1)
    (nonempty : 0 < d.length) (start : lo ≤ lb) (stop : rb < hi) :
    ∃ m, r.store d lb rb = .ok { r with m := m, unassembled := totalSize m.entries } ∧
      Merged r.m.entries m.entries d lb rb lo hi := by
  obtain ⟨before, after, whole, erased, smaller, larger, overlapping⟩ :=
    -- The entries are those before, those overlapped and those after.
    overlapped_split r lb rb placed word
  have bounded := placed.totalSize_le
  cases found : r.overlapped lb rb with
  | nil =>
    -- Nothing is overlapped, so the data becomes an entry of its own.
    rw [found, List.nil_append] at whole
    rw [whole] at placed bounded counted
    have merged := merged_apart placed size nonempty start stop smaller larger
    have entries : (r.m.set rb d).entries = before ++ (rb, d) :: after := by
      refine OrderedMap.set_entries_between whole (fun entry member => ?_) (fun entry member => ?_)
      · have := smaller entry member; omega
      · have := larger entry member
        have := (placed.right.le_first member).2
        omega
    refine ⟨r.m.set rb d, ?_, by rw [whole, entries]; exact merged⟩
    have total := merged.placed.totalSize_le
    have added : add64 (sub64 rb lb) 1 = d.length := by
      -- The code counts the bytes by their indices.
      rw [sub64_of_le (by omega) (by omega), add64_of_lt (by omega)]
      omega
    rw [StreamReassembler.store_def, found]
    simp only [entries, totalSize_append, totalSize_cons, added] at total ⊢
    simp only [totalSize_append] at counted bounded
    rw [add64_of_lt (by omega)]
    congr 2
    omega
  | cons fit more =>
    -- The overlapped entries are erased, and one takes their place.
    rw [found] at whole overlapping
    rw [whole] at placed bounded counted
    have group : Placed lo (fit :: more) hi := placed.right.left
    obtain ⟨ins, joined, span, origin⟩ := combine_overlapped group word size stop overlapping
    have merged := merged_overlapping placed size start stop smaller larger overlapping span origin
    have last : (fit :: more).getLast (List.cons_ne_nil fit more) ∈ fit :: more :=
      List.getLast_mem _
    rw [StreamReassembler.store_def, found]
    dsimp only
    have fitFirst := group.firstIdx_eq word (List.mem_cons_self : fit ∈ fit :: more)
    -- What is erased is counted by the sizes of the entries.
    have counts : ((fit :: more).map (fun entry => entry.2.length)).foldl add64 0 =
        fit.2.length + totalSize more := by
      have sum : ((fit :: more).map (fun entry => entry.2.length)).sum =
          fit.2.length + totalSize more := rfl
      have fits := group.totalSize_le
      rw [totalSize_cons] at fits
      rw [foldl_add64 _ 0 (by omega), sum, Nat.zero_add]
    generalize (fit :: more).getLast (List.cons_ne_nil fit more) = eit at last span joined merged ⊢
    have lastBound := (group.of_mem last).2.2
    -- The key of the new entry lies between those of its neighbours.
    have entries : ((r.m.eraseRun lb (fun entry => firstIdx entry ≤ rb)).set
        (max rb eit.1) ins).entries = before ++ (max rb eit.1, ins) :: after := by
      refine OrderedMap.set_entries_between erased (fun entry member => ?_) (fun entry member => ?_)
      · have := smaller entry member
        omega
      · have := larger entry member
        have := placed.right.before last member
        have := (placed.right.right.le_first member).2
        omega
    refine ⟨(r.m.eraseRun lb (fun entry => firstIdx entry ≤ rb)).set (max rb eit.1) ins, ?_,
      by rw [whole, entries]; exact merged⟩
    obtain ⟨first, begun, finished⟩ := bind_eq_ok.mp joined
    have added : add64 (sub64 (max rb eit.1) (min lb (runFirst fit))) 1 = ins.length := by
      -- The code counts the new entry by its indices.
      rw [sub64_of_le (by omega) (by omega), add64_of_lt (by omega)]
      omega
    have total := merged.placed.totalSize_le
    simp only [fitFirst] at begun finished
    simp only [fitFirst, begun, ok_bind, finished, pure_eq_ok, counts, entries, added]
    simp only [totalSize_append, totalSize_cons] at counted bounded total ⊢
    congr 2
    simp only [add64, sub64]
    omega

end Store

end Sponge
