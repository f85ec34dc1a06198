import Mathlib

/-! Strings held in chunks, of which bytes are removed at the front. -/

namespace Sponge.Chunks

variable {χ α ε : Type} (content : χ → List α) (trim : χ → Nat → Except ε χ) (missing : ε)

/-- The whole string. -/
def whole (chunks : List χ) : List α := (chunks.map content).flatten

/-- Removes items at the front: whole chunks first, then a part of one. With the chunks that are
left when it ends or fails. -/
def dropFront : List χ → Nat → List χ × Except ε Unit
  | chunks, 0 => (chunks, .ok ())
  | [], _ + 1 => ([], .error missing)
  | front :: rest, n + 1 =>
    if n + 1 < (content front).length then
      match trim front (n + 1) with
      | .ok trimmed => (trimmed :: rest, .ok ())
      | .error fault => (front :: rest, .error fault)
    else dropFront rest (n + 1 - (content front).length)

/-- A chunk that is trimmed by less than its length keeps the rest of its content. -/
def Trims : Prop :=
  ∀ chunk n, n < (content chunk).length →
    ∃ trimmed, trim chunk n = .ok trimmed ∧ content trimmed = (content chunk).drop n

variable {content trim}

/-- Items are removed exactly if they are there, and what is left is the rest of the string. -/
theorem dropFront_spec (trims : Trims content trim) (chunks : List χ) (n : Nat) :
    (dropFront content trim missing chunks n).2 =
        (if n ≤ (whole content chunks).length then .ok () else .error missing) ∧
      whole content (dropFront content trim missing chunks n).1 =
        (whole content chunks).drop n := by
  -- The induction is on the chunks: the front one is trimmed or popped.
  induction chunks generalizing n with
  | nil =>
    cases n with
    | zero => simp [dropFront]
    | succ n => simp [dropFront, whole]
  | cons front rest ih =>
    have split : whole content (front :: rest) = content front ++ whole content rest := rfl
    cases n with
    | zero => simp [dropFront]
    | succ n =>
      rw [dropFront, split, List.length_append]
      by_cases inside : n + 1 < (content front).length
      · -- The front chunk is trimmed, and the rest is not touched.
        obtain ⟨trimmed, cut, kept⟩ := trims front (n + 1) inside
        rw [if_pos inside, cut, if_pos (by omega)]
        refine ⟨rfl, ?_⟩
        rw [List.drop_append_of_le_length (Nat.le_of_lt inside), ← kept]
        rfl
      · -- The front chunk is popped, and the rest goes on with what is left to remove.
        obtain ⟨result, left⟩ := ih (n + 1 - (content front).length)
        rw [if_neg inside, result, left]
        refine ⟨if_congr (by omega) rfl rfl, ?_⟩
        -- The popped chunk is covered by the items to remove.
        rw [List.drop_append, List.drop_of_length_le (Nat.le_of_not_lt inside), List.nil_append]

end Sponge.Chunks
