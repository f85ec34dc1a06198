import Mathlib

/-! Runs of consecutive elements, each stored under the index of its last one. -/

namespace Sponge

variable {α : Type}

/-- The index of the first element of a stored run. -/
def runFirst (run : Nat × List α) : Nat := run.1 + 1 - run.2.length

/-- Elements placed from a first index on hold a value at an index. -/
def PlacedAt (first : Nat) (data : List α) (index : Nat) (value : α) : Prop :=
  ∃ offset, data[offset]? = some value ∧ index = first + offset

/-- Nonempty runs in ascending order, disjoint, and all within `[lo, hi)`. -/
def Placed : Nat → List (Nat × List α) → Nat → Prop
  | lo, [], hi => lo ≤ hi
  | lo, run :: rest, hi =>
    -- The next run may only start after this one's last element.
    0 < run.2.length ∧ lo + run.2.length ≤ run.1 + 1 ∧ Placed (run.1 + 1) rest hi

/-- Some run stores a value at an index. -/
def Stored (runs : List (Nat × List α)) (index : Nat) (value : α) : Prop :=
  ∃ run ∈ runs, PlacedAt (runFirst run) run.2 index value

/-- Some run reaches over an index. -/
def Covered (runs : List (Nat × List α)) (index : Nat) : Prop :=
  ∃ run ∈ runs, runFirst run ≤ index ∧ index ≤ run.1

instance (runs : List (Nat × List α)) (index : Nat) : Decidable (Covered runs index) :=
  inferInstanceAs (Decidable (∃ run ∈ runs, _ ∧ _))

/-- The number of elements in all runs together. -/
def totalSize (runs : List (Nat × List α)) : Nat := (runs.map (fun run => run.2.length)).sum

@[simp] theorem totalSize_nil : totalSize ([] : List (Nat × List α)) = 0 := rfl

@[simp] theorem totalSize_cons (run : Nat × List α) (rest : List (Nat × List α)) :
    totalSize (run :: rest) = run.2.length + totalSize rest := rfl

@[simp] theorem totalSize_append (left right : List (Nat × List α)) :
    totalSize (left ++ right) = totalSize left + totalSize right := by
  simp [totalSize]

namespace Placed

variable {lo hi : Nat} {runs : List (Nat × List α)}

/-- The range of any placement is not inverted. -/
theorem le (placed : Placed lo runs hi) : lo ≤ hi := by
  -- Induction on the runs: each one begins behind the one before and is not empty.
  induction runs generalizing lo with
  | nil => exact placed
  | cons run rest ih =>
    obtain ⟨nonempty, fits, tail⟩ := placed
    have := ih tail
    omega

/-- The lower end of the range may be moved down. -/
theorem lower {lo' : Nat} (less : lo' ≤ lo) (placed : Placed lo runs hi) :
    Placed lo' runs hi := by
  -- Only the first run looks at the lower end.
  cases runs with
  | nil => exact Nat.le_trans less placed
  | cons run rest =>
    obtain ⟨nonempty, fits, tail⟩ := placed
    exact ⟨nonempty, by omega, tail⟩

/-- The upper end of the range may be moved up. -/
theorem raise {hi' : Nat} (more : hi ≤ hi') (placed : Placed lo runs hi) :
    Placed lo runs hi' := by
  -- The upper end matters only behind the last run.
  induction runs generalizing lo with
  | nil => exact Nat.le_trans placed more
  | cons run rest ih =>
    obtain ⟨nonempty, fits, tail⟩ := placed
    exact ⟨nonempty, fits, ih tail⟩

/-- Every run is nonempty and lies within the range. -/
theorem of_mem (placed : Placed lo runs hi) {run : Nat × List α} (member : run ∈ runs) :
    0 < run.2.length ∧ lo + run.2.length ≤ run.1 + 1 ∧ run.1 < hi := by
  -- The lower end moves past each run, so what is known of the rest holds from the start.
  induction runs generalizing lo with
  | nil => simp at member
  | cons head rest ih =>
    obtain ⟨nonempty, fits, tail⟩ := placed
    rcases List.mem_cons.mp member with same | later
    · subst same
      exact ⟨nonempty, fits, tail.le⟩
    · obtain ⟨positive, within, bounded⟩ := ih tail later
      exact ⟨positive, by omega, bounded⟩

/-- The first index of a placed run is inside the range. -/
theorem le_first (placed : Placed lo runs hi) {run : Nat × List α} (member : run ∈ runs) :
    lo ≤ runFirst run ∧ runFirst run ≤ run.1 := by
  obtain ⟨positive, within, _⟩ := placed.of_mem member
  simp only [runFirst]
  omega

/-- A first index and a size determine the last index of a placed run. -/
theorem first_add_length (placed : Placed lo runs hi) {run : Nat × List α} (member : run ∈ runs) :
    runFirst run + run.2.length = run.1 + 1 := by
  obtain ⟨_, within, _⟩ := placed.of_mem member
  simp only [runFirst]
  omega

/-- A placement can be cut between any two of its runs. -/
theorem append_iff {left right : List (Nat × List α)} :
    Placed lo (left ++ right) hi ↔ ∃ mid, Placed lo left mid ∧ Placed mid right hi := by
  -- Induction on the left part; the cut is where its last run ends.
  induction left generalizing lo with
  | nil =>
    constructor
    · intro placed; exact ⟨lo, Nat.le_refl lo, placed⟩
    · rintro ⟨mid, start, placed⟩; exact placed.lower start
  | cons run rest ih =>
    constructor
    · rintro ⟨nonempty, fits, tail⟩
      obtain ⟨mid, left, right⟩ := ih.mp tail
      exact ⟨mid, ⟨nonempty, fits, left⟩, right⟩
    · rintro ⟨mid, ⟨nonempty, fits, left⟩, right⟩
      exact ⟨nonempty, fits, ih.mpr ⟨mid, left, right⟩⟩

/-- The upper end may come down to any bound that all runs respect. -/
theorem tighten {bound : Nat} (placed : Placed lo runs hi) (start : lo ≤ bound)
    (before : ∀ run ∈ runs, run.1 < bound) : Placed lo runs bound := by
  -- The bound takes the place of the upper end, behind the last run.
  induction runs generalizing lo with
  | nil => exact start
  | cons run rest ih =>
    obtain ⟨nonempty, fits, tail⟩ := placed
    exact ⟨nonempty, fits, ih tail (before run (by simp))
      (fun other member => before other (by simp [member]))⟩

/-- The lower end may come up to any bound that all runs respect. -/
theorem advance {bound : Nat} (placed : Placed lo runs hi) (stop : bound ≤ hi)
    (after : ∀ run ∈ runs, bound ≤ runFirst run) : Placed bound runs hi := by
  -- Only the first run is bounded from below.
  cases runs with
  | nil => exact stop
  | cons run rest =>
    obtain ⟨nonempty, fits, tail⟩ := placed
    have := after run (by simp)
    simp only [runFirst] at this
    exact ⟨nonempty, by omega, tail⟩

/-- All runs together hold no more elements than the range has room for. -/
theorem totalSize_le (placed : Placed lo runs hi) : lo + totalSize runs ≤ hi := by
  -- Each run takes at least its size from the range.
  induction runs generalizing lo with
  | nil => exact placed
  | cons run rest ih =>
    obtain ⟨nonempty, fits, tail⟩ := placed
    have := ih tail
    simp only [totalSize_cons]
    omega

/-- Of two groups placed one after the other, each run of the first ends before the second. -/
theorem before {left right : List (Nat × List α)} (placed : Placed lo (left ++ right) hi)
    {run other : Nat × List α} (inLeft : run ∈ left) (inRight : other ∈ right) :
    run.1 < runFirst other := by
  -- The place where the first group ends lies between the two runs.
  obtain ⟨mid, first, second⟩ := append_iff.mp placed
  have := (first.of_mem inLeft).2.2
  have := (second.le_first inRight).1
  omega

/-- Every run ends before any later one starts. -/
theorem pairwise (placed : Placed lo runs hi) :
    runs.Pairwise fun run later => run.1 < runFirst later := by
  -- Behind each run the others are placed in what is left of the range.
  induction runs generalizing lo with
  | nil => exact .nil
  | cons run rest ih =>
    obtain ⟨_, _, tail⟩ := placed
    exact .cons (fun later member => (tail.le_first member).1) (ih tail)

/-- A leading group keeps its place. -/
theorem left {left right : List (Nat × List α)} (placed : Placed lo (left ++ right) hi) :
    Placed lo left hi := by
  obtain ⟨mid, first, second⟩ := append_iff.mp placed
  exact first.raise second.le

/-- A trailing group keeps its place. -/
theorem right {left right : List (Nat × List α)} (placed : Placed lo (left ++ right) hi) :
    Placed lo right hi := by
  obtain ⟨mid, first, second⟩ := append_iff.mp placed
  exact second.lower first.le

/-- Runs skipped while they start early enough are followed only by later ones. -/
theorem lt_first_of_mem_dropWhile {bound : Nat} {test : Nat × List α → Bool}
    (placed : Placed lo runs hi) (tests : ∀ run ∈ runs, test run = true ↔ runFirst run ≤ bound)
    {run : Nat × List α} (member : run ∈ runs.dropWhile test) : bound < runFirst run := by
  -- The test skips a prefix of the runs.
  induction runs generalizing lo with
  | nil => simp at member
  | cons head rest ih =>
    have whole := placed
    obtain ⟨nonempty, fits, tail⟩ := placed
    rw [List.dropWhile_cons] at member
    split at member
    · -- The head is skipped.
      exact ih tail (fun other inRest => tests other (by simp [inRest])) member
    · -- Runs are in order, so those behind the first late one are late too.
      rename_i late
      have start : bound < runFirst head := by
        rw [tests head (by simp)] at late
        omega
      rcases List.mem_cons.mp member with same | later
      · -- The first run that was not skipped.
        subst same; exact start
      · -- A run behind it.
        have := (tail.le_first later).1
        have := (whole.le_first (List.mem_cons_self : head ∈ head :: rest)).2
        omega

/-- The first run of a group starts before, and its last run ends after, every other one. -/
theorem span {fit : Nat × List α} {more : List (Nat × List α)}
    (placed : Placed lo (fit :: more) hi) {run : Nat × List α} (member : run ∈ fit :: more) :
    runFirst fit ≤ runFirst run ∧
      run.1 ≤ ((fit :: more).getLast (List.cons_ne_nil fit more)).1 := by
  constructor
  · -- The first run is before all that follow it.
    rcases List.mem_cons.mp member with same | later
    · subst same; exact Nat.le_refl _
    · have cut : Placed lo ([fit] ++ more) hi := placed
      have := cut.before (List.mem_singleton.mpr rfl) later
      have := (placed.le_first (List.mem_cons_self : fit ∈ fit :: more)).2
      omega
  · -- All but the last run lie before it.
    have split := List.dropLast_append_getLast (List.cons_ne_nil fit more)
    have cut := split ▸ placed
    rw [← split] at member
    rcases List.mem_append.mp member with early | final
    · -- A run before the last.
      have := before cut early (List.mem_singleton.mpr rfl)
      have := (cut.le_first (List.mem_append_right _ (List.mem_singleton.mpr rfl))).2
      omega
    · -- The last run itself.
      rw [List.mem_singleton.mp final]

/-- A run filling the gap between two groups may be put there. -/
theorem splice {before after : List (Nat × List α)} {run : Nat × List α}
    (left : Placed lo before hi) (right : Placed lo after hi)
    (nonempty : 0 < run.2.length) (start : lo + run.2.length ≤ run.1 + 1) (stop : run.1 < hi)
    (smaller : ∀ other ∈ before, other.1 < runFirst run)
    (larger : ∀ other ∈ after, run.1 < runFirst other) :
    Placed lo (before ++ run :: after) hi := by
  -- The gap begins behind the first group and ends before the second.
  refine append_iff.mpr ⟨runFirst run, left.tighten ?_ smaller, nonempty, ?_, ?_⟩
  · simp only [runFirst]; omega
  · simp only [runFirst]; omega
  · exact right.advance stop (fun other member => larger other member)

/-- Coverage stays within the range. -/
theorem covered_range (placed : Placed lo runs hi) {index : Nat} (covered : Covered runs index) :
    lo ≤ index ∧ index < hi := by
  -- An index of a run is between the ends of the run, which are in the range.
  obtain ⟨run, member, first, last⟩ := covered
  have := placed.le_first member
  have := placed.of_mem member
  omega

/-- The covered indices are as many as the stored elements. -/
theorem ncard_covered (placed : Placed lo runs hi) :
    {index | Covered runs index}.ncard = totalSize runs := by
  induction runs generalizing lo with
  | nil => simp [Covered]
  | cons run rest ih =>
    have whole := placed
    obtain ⟨nonempty, fits, tail⟩ := placed
    -- The first run's indices come before those of every other run.
    have split : {index | Covered (run :: rest) index} =
        Set.Icc (runFirst run) run.1 ∪ {index | Covered rest index} := by
      ext index
      simp [Covered]
    have apart : Disjoint (Set.Icc (runFirst run) run.1) {index | Covered rest index} := by
      refine Set.disjoint_left.mpr fun index inside covered => ?_
      have := tail.covered_range covered
      have := inside.2
      omega
    have finite : {index | Covered rest index}.Finite :=
      (Set.finite_Iio hi).subset fun index covered => (tail.covered_range covered).2
    rw [split, Set.ncard_union_eq apart (Set.finite_Icc _ _) finite, ih tail, totalSize_cons]
    have extent := whole.first_add_length (List.mem_cons_self : run ∈ run :: rest)
    simp only [Set.ncard_eq_toFinset_card', Set.toFinset_Icc, Nat.card_Icc]
    omega

end Placed

/-- A value placed in a trailing part of a list is the one the list has there. -/
theorem PlacedAt.getElem?_of_drop {index position : Nat} {data : List α} {value : α}
    (placed : PlacedAt index (data.drop index) position value) : data[position]? = some value := by
  obtain ⟨offset, found, same⟩ := placed
  rwa [List.getElem?_drop, ← same] at found

/-- A list that continues as another one does stays a leading part of it. -/
theorem prefix_extend {whole known more : List α} (start : known <+: whole)
    (agrees : ∀ index value, PlacedAt known.length more index value →
      whole[index]? = some value) : known ++ more <+: whole := by
  rw [List.prefix_iff_getElem?] at start ⊢
  intro index inside
  -- An index is in the known part, or at an offset behind it.
  by_cases early : index < known.length
  · rw [start index early, List.getElem_append_left early]
  · rw [List.length_append] at inside
    refine agrees index _ ⟨index - known.length, ?_, by omega⟩
    rw [List.getElem_append_right (by omega), List.getElem?_eq_getElem]

/-- Coverage of two groups together is coverage by either. -/
theorem covered_append {left right : List (Nat × List α)} {index : Nat} :
    Covered (left ++ right) index ↔ Covered left index ∨ Covered right index := by
  simp [Covered, List.mem_append, or_and_right, exists_or]

/-- Coverage by a group is coverage by its first run or by the others. -/
theorem covered_cons {run : Nat × List α} {rest : List (Nat × List α)} {index : Nat} :
    Covered (run :: rest) index ↔
      (runFirst run ≤ index ∧ index ≤ run.1) ∨ Covered rest index := by
  simp [Covered]

/-- A value stored by two groups together is stored by one of them. -/
theorem stored_append {left right : List (Nat × List α)} {index : Nat} {value : α} :
    Stored (left ++ right) index value ↔ Stored left index value ∨ Stored right index value := by
  simp [Stored, List.mem_append, or_and_right, exists_or]

/-- A value stored by a group is stored by its first run or by the others. -/
theorem stored_cons {run : Nat × List α} {rest : List (Nat × List α)} {index : Nat} {value : α} :
    Stored (run :: rest) index value ↔
      PlacedAt (runFirst run) run.2 index value ∨ Stored rest index value := by
  simp [Stored]

end Sponge
