import Mathlib.Control.Monad.Basic

/-! Computations that tell an observer what they do, and what can be said of all observers. -/

namespace Sponge

/-- A computation that tells an observer of its events, whatever monad the observer acts in. -/
abbrev Observable (ε α : Type) : Type 1 := ∀ m : Type → Type, [Monad m] → (ε → m PUnit) → m α

namespace Observable

variable {ε α β : Type}

/-- The result when nobody is watching. -/
def result (run : Observable ε α) : α := Id.run (run Id fun _ => pure ())

/-- The result and the events, which are noted in their order. -/
def noted (run : Observable ε α) : α × List ε :=
  (run (StateM (List ε)) fun event => modify (· ++ [event])).run []

/-- Every observer hears of these events, in this order, and this is the result. -/
def Reports (run : Observable ε α) (events : List ε) (value : α) : Prop :=
  ∀ (m : Type → Type) [Monad m] [LawfulMonad m] (trace : ε → m PUnit),
    run m trace = do
      forM events trace
      return value

/-- Noting events one after the other notes them all. -/
theorem forM_note (events log : List ε) :
    (forM events fun event => (modify (· ++ [event]) : StateM (List ε) PUnit)).run log =
      (PUnit.unit, log ++ events) := by
  -- Each event is noted behind those that came before it.
  induction events generalizing log with
  | nil =>
    rw [List.append_nil]
    rfl
  | cons event events ih =>
    rw [List.forM_cons]
    refine (ih (log ++ [event])).trans ?_
    rw [List.append_assoc]
    rfl

namespace Reports

variable {run : Observable ε α} {events : List ε} {value : α}

/-- The result is there whether or not somebody watches. -/
theorem result_eq (reports : run.Reports events value) : run.result = value :=
  congrArg Id.run (reports Id fun _ => pure ())

/-- Whoever notes the events has noted these. -/
theorem noted_eq (reports : run.Reports events value) : run.noted = (value, events) := by
  rw [noted, reports (StateM (List ε)), StateT.run_bind, forM_note]
  rfl

/-- A value reports nothing. -/
theorem pure (value : α) : Reports (fun _ _ _ => Pure.pure value) ([] : List ε) value := by
  intro m _ _ trace
  simp

section Sequence

variable {m : Type → Type} [Monad m] [LawfulMonad m] (trace : ε → m PUnit)

/-- What comes after starts from the result, once the events have been reported. -/
theorem bind (reports : run.Reports events value) (next : α → m β) :
    run m trace >>= next = forM events trace >>= fun _ => next value := by
  rw [reports m trace, bind_assoc]
  simp only [pure_bind]

/-- So it does if both parts may fail and the first one does not. -/
theorem ok_bind {φ : Type} {run : Observable ε (Except φ α)}
    (reports : run.Reports events (.ok value)) (next : α → ExceptT φ m β) :
    (ExceptT.mk (run m trace) >>= next).run = forM events trace >>= fun _ => (next value).run := by
  rw [ExceptT.run_bind, ExceptT.run_mk, reports m trace, bind_assoc]
  simp only [pure_bind]

end Sequence

end Reports

end Observable

end Sponge
