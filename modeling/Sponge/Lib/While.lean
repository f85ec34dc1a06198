import Mathlib

/-! Loops that may run forever: a bounded executor, its invariant rule and its exit rules. -/

namespace Sponge

variable {σ : Type}

/-- Runs a loop whose body answers `none` once its guard fails. -/
def whileLoop (body : σ → Option σ) : Nat → σ → Option σ
  -- Exhausted fuel is the only way to have no result.
  | 0, _ => none
  | fuel + 1, s =>
    match body s with
    | none => some s
    | some next => whileLoop body fuel next

/-- A loop whose guard holds again after every turn never returns. -/
theorem whileLoop_diverges {body : σ → Option σ} (inv : σ → Prop)
    (again : ∀ s, inv s → ∃ next, body s = some next ∧ inv next) :
    ∀ fuel s, inv s → whileLoop body fuel s = none := by
  -- Induction on the turns allowed: none of them is the last one.
  intro fuel
  induction fuel with
  | zero => intros; rfl
  | succ fuel ih =>
    intro s holds
    obtain ⟨next, turned, kept⟩ := again s holds
    simp only [whileLoop, turned]
    exact ih next kept

/-- One turn of the loop is one unit of fuel. -/
theorem whileLoop_turn {body : σ → Option σ} {s next : σ} (turned : body s = some next)
    (fuel : Nat) : whileLoop body (fuel + 1) s = whileLoop body fuel next := by
  simp [whileLoop, turned]

/-- A loop whose guard already fails returns its state. -/
theorem whileLoop_exit {body : σ → Option σ} {s : σ} (stopped : body s = none) (fuel : Nat) :
    whileLoop body (fuel + 1) s = some s := by
  simp [whileLoop, stopped]

/-- What a loop returns does not depend on how much fuel was left over. -/
theorem whileLoop_unique {body : σ → Option σ} {fuel fuel' : Nat} {s last last' : σ}
    (ended : whileLoop body fuel s = some last) (ended' : whileLoop body fuel' s = some last') :
    last = last' := by
  -- Induction on the fuel of one of the two.
  induction fuel generalizing fuel' s with
  | zero => simp [whileLoop] at ended
  | succ fuel ih =>
    cases fuel' with
    | zero => simp [whileLoop] at ended'
    | succ fuel' =>
      -- Both executions take the same turn, or stop at the same state.
      cases turned : body s with
      | none =>
        rw [whileLoop_exit turned, Option.some.injEq] at ended ended'
        exact ended.symm.trans ended'
      | some next =>
        rw [whileLoop_turn turned] at ended ended'
        exact ih ended ended'

end Sponge
