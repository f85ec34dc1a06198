import Mathlib

/-! Hash maps: association lists with distinct keys, in an order of no significance. -/

namespace Sponge

/-- A hash map. -/
abbrev HashMap (κ ν : Type) := AList fun _ : κ => ν

namespace HashMap

variable {κ ν : Type} [DecidableEq κ]

/-- The value of a key after an insertion. -/
theorem lookup_insert (key other : κ) (value : ν) (map : HashMap κ ν) :
    (AList.insert key value map).lookup other
      = if other = key then some value else map.lookup other := by
  by_cases same : other = key
  · subst same
    rw [if_pos rfl, AList.lookup_insert]
  · rw [if_neg same, AList.lookup_insert_ne same]

/-- The value of a key after an erasure. -/
theorem lookup_erase (key other : κ) (map : HashMap κ ν) :
    (map.erase key).lookup other = if other = key then none else map.lookup other := by
  by_cases same : other = key
  · subst same
    rw [if_pos rfl, AList.lookup_erase]
  · rw [if_neg same, AList.lookup_erase_ne same]

/-- Erasing a key without a value changes nothing. -/
theorem erase_of_lookup_none {key : κ} {map : HashMap κ ν} (absent : map.lookup key = none) :
    map.erase key = map :=
  AList.ext (List.kerase_of_notMem_keys (AList.lookup_eq_none.mp absent))

/-- An entry with its value replaced, or nothing. -/
def updateEntry (update : ν → Option ν) (entry : Sigma fun _ : κ => ν) :
    Option (Sigma fun _ : κ => ν) :=
  (update entry.2).map fun value => ⟨entry.1, value⟩

omit [DecidableEq κ] in
/-- The keys that remain are among the old ones, in their order. -/
theorem keys_updateEntry (update : ν → Option ν) (entries : List (Sigma fun _ : κ => ν)) :
    (entries.filterMap (updateEntry update)).keys.Sublist entries.keys := by
  -- Each entry keeps its key or goes.
  induction entries with
  | nil => exact List.Sublist.slnil
  | cons entry entries ih =>
    rw [List.filterMap_cons, updateEntry]
    cases update entry.2 with
    | none => exact ih.cons entry.1
    | some value => exact ih.cons_cons entry.1

/-- One pass over a map that replaces each value or drops its entry. -/
def updateAll (update : ν → Option ν) (map : HashMap κ ν) : HashMap κ ν where
  entries := map.entries.filterMap (updateEntry update)
  nodupKeys := (keys_updateEntry update map.entries).nodup map.nodupKeys

/-- The value of a key after a pass over the map. -/
theorem lookup_updateAll (update : ν → Option ν) (key : κ) (map : HashMap κ ν) :
    (map.updateAll update).lookup key = (map.lookup key).bind update := by
  apply Option.ext
  intro value
  -- Both sides say which entry of the old map the value comes from.
  rw [← Option.mem_def, AList.mem_lookup_iff, updateAll]
  simp only [List.mem_filterMap, updateEntry, Option.map_eq_some_iff, Option.bind_eq_some_iff]
  constructor
  · rintro ⟨⟨found, old⟩, member, new, updated, same⟩
    obtain ⟨rfl, rfl⟩ := same
    exact ⟨old, AList.mem_lookup_iff.mpr member, updated⟩
  · rintro ⟨old, found, updated⟩
    exact ⟨⟨key, old⟩, AList.mem_lookup_iff.mp found, value, updated, rfl⟩

end HashMap

end Sponge
