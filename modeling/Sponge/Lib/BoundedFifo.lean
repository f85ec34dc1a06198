import Mathlib

/-! First-in first-out queues with a bound, and the record of what went through them. -/

namespace Sponge

/-- A queue of at most so many items, with everything that ever went in and came out. -/
structure BoundedFifo (α : Type) (capacity : Nat) where
  /-- The items inside, first to last. -/
  items : List α
  /-- Everything that was put in. -/
  put : List α
  /-- Everything that was taken out. -/
  got : List α
  /-- The queue never outgrows its bound. -/
  bound : items.length ≤ capacity
  /-- Nothing is lost, made up or reordered. -/
  conserved : got ++ items = put

namespace BoundedFifo

variable {α : Type} {capacity : Nat}

/-- A queue that nothing was put into. -/
def empty : BoundedFifo α capacity := ⟨[], [], [], Nat.zero_le _, rfl⟩

/-- How many more items can be put in. -/
def room (q : BoundedFifo α capacity) : Nat := capacity - q.items.length

/-- Puts in as many of the items as there is room for. -/
def write (q : BoundedFifo α capacity) (data : List α) : BoundedFifo α capacity where
  items := q.items ++ data.take q.room
  put := q.put ++ data.take q.room
  got := q.got
  bound := by
    have bound := q.bound
    rw [List.length_append, List.length_take, room]
    omega
  conserved := by rw [← List.append_assoc, q.conserved]

/-- Takes out so many items, or all there are. -/
def read (q : BoundedFifo α capacity) (len : Nat) : BoundedFifo α capacity where
  items := q.items.drop len
  put := q.put
  got := q.got ++ q.items.take len
  bound := by
    have bound := q.bound
    rw [List.length_drop]
    omega
  conserved := by rw [List.append_assoc, List.take_append_drop, q.conserved]

/-- What can be asked of a queue. -/
inductive Call (α : Type) where
  /-- To put in what fits. -/
  | write (data : List α)
  /-- To show the first items. -/
  | peek (len : Nat)
  /-- To take out exactly so many items. -/
  | pop (len : Nat)
  /-- To take out at most so many items. -/
  | read (len : Nat)

/-- The queue after a call. -/
def step (q : BoundedFifo α capacity) : Call α → BoundedFifo α capacity
  | .write data => q.write data
  | .peek _ => q
  -- Asking for more items than there are is refused.
  | .pop len => if len ≤ q.items.length then q.read len else q
  | .read len => q.read len

end BoundedFifo

end Sponge
