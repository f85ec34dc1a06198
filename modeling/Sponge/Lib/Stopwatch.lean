import Sponge.Lib.HashMap

/-! Tables of ages: how long ago the last event of each key was, unless that is too long ago. -/

namespace Sponge

/-- What a table with a limit shows of an event: its age, or nothing once that reaches the limit. -/
def shownAge (limit now time : Nat) : Option Nat :=
  if now < time + limit then some (now - time) else none

variable {κ : Type} [DecidableEq κ] {limit now ms : Nat} {last : κ → Option Nat}
  {ages : HashMap κ Nat}

/-- The table shows the age of the last event of every key. -/
def Tracks (limit now : Nat) (last : κ → Option Nat) (ages : HashMap κ Nat) : Prop :=
  ∀ key, ages.lookup key = (last key).bind (shownAge limit now)

namespace Tracks

/-- Before any event, the table is empty. -/
theorem empty (limit now : Nat) :
    Tracks limit now (fun _ : κ => none) (∅ : HashMap κ Nat) :=
  fun _ => rfl

/-- A key is in the table exactly if its last event is recent. -/
theorem isSome_iff (tracks : Tracks limit now last ages) (key : κ) :
    (ages.lookup key).isSome = true ↔ ∃ time, last key = some time ∧ now < time + limit := by
  -- The table shows the age of the last event until it reaches the limit.
  rw [tracks key]
  cases last key with
  | none => simp
  | some time =>
    rw [Option.bind_some, shownAge]
    by_cases recent : now < time + limit
    · simp [recent]
    · simp [recent]

/-- No age in the table has reached the limit. -/
theorem lt_limit (tracks : Tracks limit now last ages)
    (past : ∀ key time, last key = some time → time ≤ now) {key : κ} {elapsed : Nat}
    (found : ages.lookup key = some elapsed) : elapsed < limit := by
  rw [tracks key] at found
  obtain ⟨time, event, shown⟩ := Option.bind_eq_some_iff.mp found
  have := past key time event
  rw [shownAge] at shown
  -- Only ages below the limit are shown.
  split at shown
  · rw [Option.some.injEq] at shown
    omega
  · cases shown

/-- The table after an event of one key. -/
theorem stamp (tracks : Tracks limit now last ages) (positive : 0 < limit) (key : κ) :
    Tracks limit now (fun other => if other = key then some now else last other)
      (AList.insert key 0 ages) := by
  intro other
  rw [HashMap.lookup_insert]
  dsimp only
  by_cases same : other = key
  · -- The event is happening now, so its age is zero.
    rw [if_pos same, if_pos same, Option.bind_some, shownAge, if_pos (by omega), Nat.sub_self]
  · rw [if_neg same, if_neg same, tracks other]

/-- The table after some time: every age grows, and those that reach the limit are dropped. -/
theorem pass (tracks : Tracks limit now last ages)
    (past : ∀ key time, last key = some time → time ≤ now) {update : Nat → Option Nat}
    (updates : ∀ key elapsed, ages.lookup key = some elapsed →
      update elapsed = if limit ≤ elapsed + ms then none else some (elapsed + ms)) :
    Tracks limit (now + ms) last (ages.updateAll update) := by
  intro key
  rw [HashMap.lookup_updateAll]
  have shown := tracks key
  cases event : last key with
  | none =>
    -- Without an event there is no age.
    rw [event, Option.bind_none] at shown
    rw [shown, Option.bind_none, Option.bind_none]
  | some time =>
    have before := past key time event
    rw [event, Option.bind_some, shownAge] at shown
    rw [Option.bind_some, shownAge]
    by_cases recent : now < time + limit
    · rw [if_pos recent] at shown
      rw [shown, Option.bind_some, updates key _ shown]
      by_cases expires : limit ≤ now - time + ms
      · -- The age reaches the limit now.
        rw [if_pos expires, if_neg (by omega)]
      · -- The age grows.
        rw [if_neg expires, if_pos (by omega)]
        congr 1
        omega
    · -- What had expired stays expired.
      rw [if_neg recent] at shown
      rw [shown, Option.bind_none, if_neg (by omega)]

end Tracks

end Sponge
