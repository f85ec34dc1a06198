import Mathlib

/-! Runs of a fallible step function, and the invariant rules over them. -/

namespace Sponge

variable {σ ι ε : Type}

/-- Performs calls one after another, stopping at the first that fails. -/
def runCalls (step : σ → ι → Except ε σ) (start : σ) (calls : List ι) : Except ε σ :=
  calls.foldlM step start

/-- A run without calls stays where it is. -/
@[simp] theorem runCalls_nil (step : σ → ι → Except ε σ) (start : σ) :
    runCalls step start [] = .ok start := by
  simp [runCalls, Pure.pure, Except.pure]

/-- A run in two parts continues where the first part ended. -/
theorem runCalls_append_ok {step : σ → ι → Except ε σ} {start last : σ} {calls more : List ι} :
    runCalls step start (calls ++ more) = .ok last ↔
      ∃ state, runCalls step start calls = .ok state ∧ runCalls step state more = .ok last := by
  simp only [runCalls, List.foldlM_append]
  -- An error of the first part is one of the whole run.
  cases List.foldlM step start calls with
  | error fault => simp [Bind.bind, Except.bind]
  | ok state => simp [Bind.bind, Except.bind]

/-- The first call of a run leads to the state in which the others start. -/
theorem runCalls_cons_ok {step : σ → ι → Except ε σ} {start last : σ} {call : ι} {rest : List ι} :
    runCalls step start (call :: rest) = .ok last ↔
      ∃ state, step start call = .ok state ∧ runCalls step state rest = .ok last := by
  simp only [runCalls, List.foldlM_cons]
  -- An error of the first call is one of the whole run.
  cases step start call with
  | error fault => simp [Bind.bind, Except.bind]
  | ok state => simp [Bind.bind, Except.bind]

/-- A run on fixed calls that evaluates to a state with a decidable property. -/
theorem exists_runCalls {step : σ → ι → Except ε σ} {start : σ} {calls : List ι} {p : σ → Prop}
    [DecidablePred p]
    (holds : (match runCalls step start calls with
      | .ok last => decide (p last)
      | .error _ => false) = true) :
    ∃ last, runCalls step start calls = .ok last ∧ p last := by
  cases found : runCalls step start calls with
  | error fault => simp [found] at holds
  | ok last => rw [found] at holds; exact ⟨last, rfl, of_decide_eq_true holds⟩

/-- A computation that is known not to fail returns something. -/
theorem exists_ok_of_isOk {α : Type} {outcome : Except ε α} (fine : outcome.isOk = true) :
    ∃ value, outcome = .ok value := by
  cases outcome with
  | error fault => simp [Except.isOk, Except.toBool] at fine
  | ok value => exact ⟨value, rfl⟩

/-- Every call of a run, as far as it gets, meets a condition in the state it starts from. -/
def Throughout (step : σ → ι → Except ε σ) (cond : σ → ι → Prop) : σ → List ι → Prop
  | _, [] => True
  | state, call :: rest =>
    cond state call ∧
      match step state call with
      | .ok next => Throughout step cond next rest
      | .error _ => True

/-- A decidable condition can be checked along a run. -/
instance Throughout.decide (step : σ → ι → Except ε σ) (cond : σ → ι → Prop)
    [checks : ∀ state call, Decidable (cond state call)] :
    ∀ state calls, Decidable (Throughout step cond state calls)
  | _, [] => .isTrue trivial
  | state, call :: rest =>
    match found : step state call, checks state call with
    | _, .isFalse fails => .isFalse fun holds => fails holds.1
    | .error _, .isTrue holds => .isTrue ⟨holds, by rw [found]; trivial⟩
    | .ok next, .isTrue holds =>
      match Throughout.decide step cond next rest with
      | .isTrue later => .isTrue ⟨holds, by rw [found]; exact later⟩
      | .isFalse fails => .isFalse fun both => fails (by
          have := both.2
          rw [found] at this
          exact this)

namespace Throughout

variable {step : σ → ι → Except ε σ} {cond : σ → ι → Prop}

/-- A condition on the calls alone holds throughout every run of such calls. -/
theorem of_forall {admissible : ι → Prop} :
    ∀ (calls : List ι) (start : σ), (∀ call ∈ calls, admissible call) →
      Throughout step (fun _ call => admissible call) start calls := by
  -- The condition does not look at the states that the induction passes through.
  intro calls
  induction calls with
  | nil => exact fun _ _ => trivial
  | cons call rest ih =>
    intro start allowed
    refine ⟨allowed call (by simp), ?_⟩
    cases step start call with
    | error fault => trivial
    | ok next => exact ih next (fun other member => allowed other (by simp [member]))

/-- Two conditions that hold throughout a run hold there together. -/
theorem and {other : σ → ι → Prop} :
    ∀ {calls : List ι} {start : σ}, Throughout step cond start calls →
      Throughout step other start calls →
      Throughout step (fun state call => cond state call ∧ other state call) start calls := by
  -- Both conditions follow the same states, so one induction serves.
  intro calls
  induction calls with
  | nil => exact fun _ _ => trivial
  | cons call rest ih =>
    rintro start ⟨first, later⟩ ⟨second, later'⟩
    refine ⟨⟨first, second⟩, ?_⟩
    cases found : step start call with
    | error fault => trivial
    | ok next =>
      rw [found] at later later'
      exact ih later later'

/-- When every call from an invariant state returns to one, the whole run returns. -/
theorem returns (inv : σ → Prop)
    (preserved : ∀ state call, inv state → cond state call →
      ∃ next, step state call = .ok next ∧ inv next) :
    ∀ {calls : List ι} {start : σ}, Throughout step cond start calls → inv start →
      ∃ last, runCalls step start calls = .ok last ∧ inv last := by
  -- The induction follows the run from its first call.
  intro calls
  induction calls with
  | nil => exact fun _ initial => ⟨_, runCalls_nil step _, initial⟩
  | cons call rest ih =>
    rintro start ⟨first, later⟩ initial
    obtain ⟨next, found, kept⟩ := preserved start call initial first
    rw [found] at later
    obtain ⟨last, returned, holds⟩ := ih later kept
    exact ⟨last, runCalls_cons_ok.mpr ⟨next, found, returned⟩, holds⟩

/-- What every returning call preserves holds at the end of a run that returns. -/
theorem invariant (inv : σ → Prop)
    (preserved : ∀ state call next, inv state → cond state call → step state call = .ok next →
      inv next) :
    ∀ {calls : List ι} {start last : σ}, Throughout step cond start calls → inv start →
      runCalls step start calls = .ok last → inv last := by
  -- Induction on the calls: the first one leads to where the rest starts.
  intro calls
  induction calls with
  | nil =>
    intro start last _ initial returned
    rw [runCalls_nil, Except.ok.injEq] at returned
    exact returned ▸ initial
  | cons call rest ih =>
    rintro start last ⟨first, later⟩ initial returned
    obtain ⟨next, found, rest⟩ := runCalls_cons_ok.mp returned
    rw [found] at later
    exact ih later (preserved start call next initial first found) rest

end Throughout

/-- What every returning call preserves holds at the end of every run that returns. -/
theorem runCalls_invariant {step : σ → ι → Except ε σ} (inv : σ → Prop)
    (preserved : ∀ state call next, inv state → step state call = .ok next → inv next)
    {calls : List ι} {start last : σ} (initial : inv start)
    (returned : runCalls step start calls = .ok last) : inv last := by
  have along : Throughout step (fun _ _ => True) start calls :=
    -- A rule without a condition is one whose condition always holds.
    .of_forall calls start (fun _ _ => trivial)
  exact along.invariant inv (fun state call next held _ => preserved state call next held) initial
    returned

end Sponge
