import Sponge.Lib.Runs

/-! Calls that either fail in an expected way or return something with a property. -/

namespace Sponge

/-- What may come out of a call: an expected failure, or a result with a property. -/
def Settles {ε α : Type} (expected : ε → Prop) (holds : α → Prop) : Except ε α → Prop
  | .ok value => holds value
  | .error why => expected why

namespace Settles

variable {ε α β : Type} {expected : ε → Prop} {holds : α → Prop} {ends : β → Prop}

/-- A weaker property is settled as well. -/
theorem mono {weaker : α → Prop} {outcome : Except ε α}
    (settles : Settles expected holds outcome) (weaken : ∀ value, holds value → weaker value) :
    Settles expected weaker outcome := by
  cases outcome with
  | error why => exact settles
  | ok value => exact weaken value settles

/-- What holds of every result holds besides. -/
theorem also {further : α → Prop} {outcome : Except ε α} (settles : Settles expected holds outcome)
    (results : ∀ value, outcome = .ok value → holds value → further value) :
    Settles expected (fun value => holds value ∧ further value) outcome := by
  cases outcome with
  | error why => exact settles
  | ok value => exact ⟨settles, results value rfl settles⟩

/-- A call that goes on after another settles what it settles from every result of the first. -/
theorem bind {first : Except ε α} {next : α → Except ε β}
    (settles : Settles expected holds first)
    (continues : ∀ value, first = .ok value → holds value → Settles expected ends (next value)) :
    Settles expected ends (first >>= next) := by
  cases first with
  | error why => exact settles
  | ok value => exact continues value rfl settles

/-- A call that returned has the property. -/
theorem of_ok {outcome : Except ε α} {value : α} (settles : Settles expected holds outcome)
    (returned : outcome = .ok value) : holds value := by
  rw [returned] at settles
  exact settles

end Settles

/-- When every call from an invariant state leads to one or fails as expected, so does a run. -/
theorem Throughout.settles {σ ι ε : Type} {step : σ → ι → Except ε σ} {cond : σ → ι → Prop}
    {expected : ε → Prop} (inv : σ → Prop)
    (preserved : ∀ state call, inv state → cond state call →
      Settles expected inv (step state call)) :
    ∀ {calls : List ι} {start : σ}, Throughout step cond start calls → inv start →
      Settles expected inv (runCalls step start calls) := by
  -- Induction on the calls: a run that fails has failed at one of them.
  intro calls
  induction calls with
  | nil =>
    intro start _ initial
    rw [runCalls_nil]
    exact initial
  | cons call rest ih =>
    intro start along initial
    obtain ⟨first, later⟩ := along
    unfold runCalls
    rw [List.foldlM_cons]
    apply (preserved start call initial first).bind
    intro next found kept
    rw [found] at later
    exact ih later kept

/-- A condition holds along a run in two parts if it holds along each, where the other ended. -/
theorem Throughout.append_iff {σ ι ε : Type} {step : σ → ι → Except ε σ} {cond : σ → ι → Prop}
    {more : List ι} :
    ∀ {calls : List ι} {start : σ}, Throughout step cond start (calls ++ more) ↔
      Throughout step cond start calls ∧
        ∀ mid, runCalls step start calls = .ok mid → Throughout step cond mid more := by
  -- Induction on the first part: its first call leads to where the rest of it starts.
  intro calls
  induction calls with
  | nil =>
    intro start
    simp only [List.nil_append, runCalls_nil, Except.ok.injEq, forall_eq']
    exact ⟨fun along => ⟨trivial, along⟩, fun both => both.2⟩
  | cons call rest ih =>
    intro start
    rw [List.cons_append]
    cases found : step start call with
    | error fault => simp [Throughout, runCalls_cons_ok, found]
    | ok next => simp [Throughout, runCalls_cons_ok, found, ih, and_assoc]

end Sponge
