import Mathlib

/-! Results of calls that may throw or never return. -/

namespace Sponge

/-- The contents of a `std::string`. -/
abbrev Bytes := List UInt8

/-- Ways a call can fail to return. -/
inductive Fault where
  /-- A loop of the call never ends. -/
  | diverges
  /-- `std::string::substr` was asked for a position past the end. -/
  | outOfRange
deriving DecidableEq, Repr

/-- The result of a bounded loop, read as divergence when the bound is exhausted. -/
def ofLoop {α : Type} : Option α → Except Fault α
  | none => .error .diverges
  | some result => .ok result

/-- A loop that ended yields its result. -/
@[simp] theorem ofLoop_some {α : Type} (result : α) : ofLoop (some result) = .ok result := by
  simp only [ofLoop]

/-- A loop that never ends yields nothing. -/
@[simp] theorem ofLoop_none {α : Type} : ofLoop (none : Option α) = .error .diverges := by
  simp only [ofLoop]

/-- `std::string::substr` with a position and a length. -/
def substr (data : Bytes) (position length : Nat) : Except Fault Bytes :=
  -- The length is clipped at the end, but a position past the end throws.
  if data.length < position then .error .outOfRange else .ok ((data.drop position).take length)

/-- Taking a substring inside the data gives the rest of it, clipped. -/
theorem substr_of_le {data : Bytes} {position : Nat} (inside : position ≤ data.length)
    (length : Nat) : substr data position length = .ok ((data.drop position).take length) := by
  simp [substr, Nat.not_lt.mpr inside]

/-- A computation in two parts returns exactly when both parts do. -/
theorem bind_eq_ok {ε α β : Type} {first : Except ε α} {next : α → Except ε β} {result : β} :
    (first >>= next) = .ok result ↔ ∃ mid, first = .ok mid ∧ next mid = .ok result := by
  cases first with
  | error fault => simp [Bind.bind, Except.bind]
  | ok mid => simp [Bind.bind, Except.bind]

/-- A computation continues with the result of its first part. -/
@[simp] theorem ok_bind {ε α β : Type} (mid : α) (next : α → Except ε β) :
    ((.ok mid : Except ε α) >>= next) = next mid := by
  simp only [Bind.bind, Except.bind]

/-- A failed first part fails the whole computation. -/
@[simp] theorem error_bind {ε α β : Type} (fault : ε) (next : α → Except ε β) :
    ((.error fault : Except ε α) >>= next) = .error fault := by
  simp only [Bind.bind, Except.bind]

/-- Returning a value succeeds with it. -/
@[simp] theorem pure_eq_ok {ε α : Type} (value : α) :
    (pure value : Except ε α) = .ok value := by
  simp only [Pure.pure, Except.pure]

/-- A computation over any monad continues with the result of its first part. -/
theorem mk_ok_bind {m : Type → Type} [Monad m] [LawfulMonad m] {ε α β : Type} (mid : α)
    (next : α → ExceptT ε m β) : (ExceptT.mk (pure (.ok mid)) >>= next) = next mid := by
  change ExceptT.mk (pure (.ok mid) >>= ExceptT.bindCont next) = _
  rw [pure_bind]
  rfl

section Unobserved

-- Over the identity monad, the transformer adds nothing to a computation that may fail.
variable {ε α β : Type}

theorem run_bind (first : ExceptT ε Id α) (next : α → ExceptT ε Id β) :
    Id.run (first >>= next).run = Id.run first.run >>= fun mid => Id.run (next mid).run := by
  change ExceptT.bindCont next first.run = _
  cases first.run with
  | error fault => rfl
  | ok mid => rfl

theorem run_pure (value : α) : Id.run (pure value : ExceptT ε Id α).run = .ok value := rfl

theorem run_mk (result : Except ε α) :
    Id.run (ExceptT.mk (pure result) : ExceptT ε Id α).run = result := rfl

theorem run_lift (value : Id α) :
    Id.run (ExceptT.lift value : ExceptT ε Id α).run = .ok (Id.run value) := rfl

theorem run_ite {condition : Prop} [Decidable condition] (first second : ExceptT ε Id α) :
    Id.run (if condition then first else second).run =
      if condition then Id.run first.run else Id.run second.run := by
  split <;> rfl

end Unobserved

end Sponge
