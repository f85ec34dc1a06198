import Mathlib

/-! Maps with natural-number keys, kept in ascending key order. -/

namespace Sponge

/-- A finite map whose entries stand in strictly ascending key order. -/
structure OrderedMap (α : Type) where
  /-- The entries, smallest key first. -/
  entries : List (Nat × α)
  /-- No key is repeated or out of place. -/
  ascending : entries.Pairwise (fun a b => a.1 < b.1)
deriving DecidableEq, Repr

namespace OrderedMap

variable {α : Type}

/-- The map without entries. -/
def empty : OrderedMap α := ⟨[], .nil⟩

/-- The entries whose keys lie before a key. -/
def below (m : OrderedMap α) (key : Nat) : List (Nat × α) :=
  m.entries.takeWhile (fun e => e.1 < key)

/-- The entries from the first key that is not less than the given one. -/
def lowerBound (m : OrderedMap α) (key : Nat) : List (Nat × α) :=
  m.entries.dropWhile (fun e => e.1 < key)

/-- The two sides of a lower bound are the whole map. -/
theorem below_append_lowerBound (m : OrderedMap α) (key : Nat) :
    m.below key ++ m.lowerBound key = m.entries :=
  List.takeWhile_append_dropWhile

/-- Everything below a key is smaller than it. -/
theorem lt_of_mem_below {m : OrderedMap α} {key : Nat} {e : Nat × α}
    (member : e ∈ m.below key) : e.1 < key := by
  simpa using List.mem_takeWhile_imp member

/-- Everything from the lower bound on is at least the key. -/
theorem le_of_mem_lowerBound {m : OrderedMap α} {key : Nat} {e : Nat × α}
    (member : e ∈ m.lowerBound key) : key ≤ e.1 := by
  -- The first such entry fails the test, and every later key is larger still.
  have ordered : (m.lowerBound key).Pairwise (fun a b => a.1 < b.1) :=
    m.ascending.sublist (List.dropWhile_sublist _)
  cases found : m.lowerBound key with
  | nil => simp [found] at member
  | cons head rest =>
    have start : ¬ head.1 < key := by
      have := List.head_dropWhile_not (fun e : Nat × α => decide (e.1 < key)) (l := m.entries)
        (by simp [lowerBound] at found; simp [found])
      simp only [lowerBound] at found
      simpa [found] using this
    rw [found] at member ordered
    rcases List.mem_cons.mp member with same | later
    · subst same; omega
    · have := (List.pairwise_cons.mp ordered).1 e later
      omega

/-- Places an entry among ascending entries, replacing one of the same key. -/
def setEntry (key : Nat) (value : α) : List (Nat × α) → List (Nat × α)
  | [] => [(key, value)]
  | head :: rest =>
    -- An equal key keeps its place and takes the new value.
    if key < head.1 then (key, value) :: head :: rest
    else if key = head.1 then (key, value) :: rest
    else head :: setEntry key value rest

/-- The keys after an assignment are the old ones and the assigned one. -/
theorem mem_setEntry {key : Nat} {value : α} {entries : List (Nat × α)} {e : Nat × α}
    (member : e ∈ setEntry key value entries) : e = (key, value) ∨ e ∈ entries := by
  -- The assignment walks past smaller keys.
  induction entries with
  | nil => simpa [setEntry] using member
  | cons head rest ih =>
    simp only [setEntry] at member
    split at member
    · -- The entry is placed in front.
      simpa using member
    · split at member
      · -- The entry takes the place of the head.
        simp only [List.mem_cons] at member ⊢
        tauto
      · -- The entry is placed behind the head.
        simp only [List.mem_cons] at member ⊢
        rcases member with same | later
        · exact .inr (.inl same)
        · exact (ih later).imp id .inr

/-- Assigning an entry keeps the keys in order. -/
theorem setEntry_ascending (key : Nat) (value : α) {entries : List (Nat × α)}
    (ascending : entries.Pairwise (fun a b => a.1 < b.1)) :
    (setEntry key value entries).Pairwise (fun a b => a.1 < b.1) := by
  -- Induction on the entries, with a case for each test of the assignment.
  induction entries with
  | nil => simp [setEntry]
  | cons head rest ih =>
    obtain ⟨least, tail⟩ := List.pairwise_cons.mp ascending
    simp only [setEntry]
    split
    · -- The new key is the smallest.
      rename_i before
      refine List.pairwise_cons.mpr ⟨fun e member => ?_, ascending⟩
      rcases List.mem_cons.mp member with same | later
      · subst same; exact before
      · exact Nat.lt_trans before (least e later)
    · split
      · -- The key is that of the head.
        rename_i same
        exact List.pairwise_cons.mpr ⟨fun e member => same ▸ least e member, tail⟩
      · -- A larger key is placed further on, still after the head.
        refine List.pairwise_cons.mpr ⟨fun e member => ?_, ih tail⟩
        rcases mem_setEntry member with same | old
        · subst same; dsimp only; omega
        · exact least e old

/-- Assigns a value to a key. -/
def set (m : OrderedMap α) (key : Nat) (value : α) : OrderedMap α :=
  ⟨setEntry key value m.entries, setEntry_ascending key value m.ascending⟩

/-- A new key is placed exactly between the smaller and the larger ones. -/
theorem set_entries_between {m : OrderedMap α} {key : Nat} {value : α}
    {before after : List (Nat × α)} (split : m.entries = before ++ after)
    (smaller : ∀ e ∈ before, e.1 < key) (larger : ∀ e ∈ after, key < e.1) :
    (m.set key value).entries = before ++ (key, value) :: after := by
  -- Induction on the smaller keys, which the assignment walks past.
  have placed : ∀ before : List (Nat × α), (∀ e ∈ before, e.1 < key) →
      setEntry key value (before ++ after) = before ++ (key, value) :: after := by
    intro before smaller
    induction before with
    | nil =>
      -- The new entry is in front of all larger keys.
      cases after with
      | nil => rfl
      | cons head rest => simp [setEntry, larger head (by simp)]
    | cons head rest ih =>
      have less := smaller head (by simp)
      simp only [List.cons_append, setEntry, if_neg (by omega : ¬ key < head.1),
        if_neg (by omega : ¬ key = head.1)]
      rw [ih (fun e member => smaller e (by simp [member]))]
  simp only [set, split]
  exact placed before smaller

/-- Erases the entries from a lower bound on for as long as a test holds. -/
def eraseRun (m : OrderedMap α) (key : Nat) (test : Nat × α → Bool) : OrderedMap α :=
  ⟨m.below key ++ (m.lowerBound key).dropWhile test, by
    -- What is left is a subsequence of ascending entries.
    refine m.ascending.sublist ?_
    conv_rhs => rw [← m.below_append_lowerBound key]
    exact (List.Sublist.refl _).append (List.dropWhile_sublist _)⟩

/-- Assigning a value adds at most the assigned entry. -/
theorem mem_set {m : OrderedMap α} {key : Nat} {value : α} {e : Nat × α}
    (member : e ∈ (m.set key value).entries) : e = (key, value) ∨ e ∈ m.entries :=
  mem_setEntry member

/-- Everything from a lower bound on is in the map. -/
theorem mem_of_mem_lowerBound {m : OrderedMap α} {key : Nat} {e : Nat × α}
    (member : e ∈ m.lowerBound key) : e ∈ m.entries :=
  (List.dropWhile_suffix _).subset member

/-- Erasing a run leaves only old entries. -/
theorem mem_of_mem_eraseRun {m : OrderedMap α} {key : Nat} {test : Nat × α → Bool} {e : Nat × α}
    (member : e ∈ (m.eraseRun key test).entries) : e ∈ m.entries := by
  rcases List.mem_append.mp member with early | late
  · exact (List.takeWhile_prefix _).subset early
  · exact mem_of_mem_lowerBound ((List.dropWhile_suffix _).subset late)

/-- The map left after erasing a leading part. -/
def ofSuffix (m : OrderedMap α) (rest : List (Nat × α)) (trailing : rest <:+ m.entries) :
    OrderedMap α :=
  ⟨rest, m.ascending.sublist trailing.sublist⟩

end OrderedMap

end Sponge
