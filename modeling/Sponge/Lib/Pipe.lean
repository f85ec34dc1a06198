import Mathlib

/-! A reliable stream between a writer and a reader, as it would be without a network. -/

namespace Sponge

/-- What was put into a stream, what came out of it, and which of its ends are closed. -/
@[ext] structure Pipe (α : Type) where
  /-- Everything the writer has put in. -/
  put : List α
  /-- Everything that has come out. -/
  got : List α
  /-- The writer has finished. -/
  closed : Bool
  /-- The reader has been told the end. -/
  ended : Bool
  /-- Only what was put in comes out, in order. -/
  leads : got <+: put
  /-- The end comes behind everything that was put in. -/
  complete : ended = true → closed = true ∧ got = put

namespace Pipe

variable {α : Type} {p q r : Pipe α}

/-- A stream that nothing was put into. -/
def empty : Pipe α := ⟨[], [], false, false, List.prefix_refl _, by simp⟩

/-- What can happen to a stream. -/
inductive Step (p q : Pipe α) : Prop where
  /-- The writer puts something in, before it has finished. -/
  | write (isOpen : p.closed = false) (put : p.put <+: q.put) (got : q.got = p.got)
      (closed : q.closed = p.closed) (ended : q.ended = p.ended) : Step p q
  /-- The writer finishes. -/
  | close (put : q.put = p.put) (got : q.got = p.got) (closed : q.closed = true)
      (ended : q.ended = p.ended) : Step p q
  /-- Something comes out, perhaps nothing, and perhaps the end. -/
  | deliver (put : q.put = p.put) (got : p.got <+: q.got) (closed : q.closed = p.closed)
      (ended : p.ended = true → q.ended = true) : Step p q

/-- A stream at a later time. -/
structure Later (p q : Pipe α) : Prop where
  /-- Nothing that was put in is taken back. -/
  put : p.put <+: q.put
  /-- Nothing that came out is taken back. -/
  got : p.got <+: q.got
  /-- A writer that has finished puts nothing more in. -/
  closed : p.closed = true → q.closed = true ∧ q.put = p.put
  /-- The end is not taken back either. -/
  ended : p.ended = true → q.ended = true

/-- A stream is at its own time. -/
theorem Later.refl (p : Pipe α) : Later p p :=
  ⟨List.prefix_refl _, List.prefix_refl _, fun closed => ⟨closed, rfl⟩, id⟩

/-- Later than later is later. -/
theorem Later.trans (first : Later p q) (second : Later q r) : Later p r := by
  refine ⟨first.put.trans second.put, first.got.trans second.got, ?_,
    fun ended => second.ended (first.ended ended)⟩
  intro closed
  -- Once the writer has finished, both parts keep what was put in.
  obtain ⟨still, same⟩ := first.closed closed
  obtain ⟨last, same'⟩ := second.closed still
  exact ⟨last, same'.trans same⟩

/-- Whatever happens to a stream leads to a later one. -/
theorem Step.later (step : Step p q) : Later p q := by
  cases step with
  | write isOpen put got closed ended =>
    refine ⟨put, by rw [got], ?_, by rw [ended]; exact id⟩
    -- A finished writer cannot have written.
    intro finished
    simp [isOpen] at finished
  | close put got closed ended =>
    exact ⟨by rw [put], by rw [got], fun _ => ⟨closed, put⟩, by rw [ended]; exact id⟩
  | deliver put got closed ended =>
    exact ⟨by rw [put], got, fun finished => ⟨closed.trans finished, put⟩, ended⟩

/-- Once the end has come out, nothing changes any more. -/
theorem Later.eq_of_ended (later : Later p q) (ended : p.ended = true) : q = p := by
  -- The writer has finished and everything has come out, so there is nothing left to move.
  obtain ⟨closed, whole⟩ := p.complete ended
  obtain ⟨closed', put⟩ := later.closed closed
  have ended' := later.ended ended
  have whole' := (q.complete ended').2
  apply Pipe.ext
  · exact put
  · rw [whole', put, whole]
  · rw [closed', closed]
  · rw [ended', ended]

end Pipe

end Sponge
