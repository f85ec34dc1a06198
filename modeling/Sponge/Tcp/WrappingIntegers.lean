import Sponge.Lib.While
import Sponge.Lib.Word
import Sponge.Outcome

/-! 32-bit sequence numbers relative to an initial sequence number, and their 64-bit readings. -/

namespace Sponge

/-- A 32-bit integer, expressed relative to an arbitrary initial sequence number. -/
@[ext] structure WrappingInt32 where
  /-- The raw 32-bit stored integer. -/
  rawValue : UInt32
deriving DecidableEq, Repr

/-- The constant `BIG`, one full turn of the 32-bit sequence space. -/
@[irreducible] def big : Nat := 2 ^ 32

/-- Transforms a 64-bit absolute sequence number into a 32-bit relative one. -/
def wrap (n : Nat) (isn : WrappingInt32) : WrappingInt32 :=
  ⟨UInt32.ofNat (add64 n isn.rawValue.toNat % big)⟩

/-- The first loop of the unwrapping lifts the number to the initial one or above. -/
def liftAboveIsn (isn n : Nat) : Option Nat :=
  if n < isn then some (add64 n big) else none

/-- The second loop of the unwrapping moves past the checkpoint one turn at a time. -/
def passCheckpoint (checkpoint abs : Nat) : Option Nat :=
  if abs ≤ checkpoint then some (add64 abs big) else none

/-- Turns after which either loop has come back to a value it already had. -/
@[irreducible] def unwrapTurns : Nat := 2 ^ 32 + 1

/-- Of a value past the checkpoint and the one a turn before it, the closer one. -/
def settle (checkpoint abs : Nat) : Nat :=
  if abs < big then abs
  -- The value one turn back is taken when it is at least as close.
  else if sub64 checkpoint (sub64 abs big) ≤ sub64 abs checkpoint then sub64 abs big
  else abs

/-- The absolute number near the checkpoint that agrees with one below the first turn. -/
def nearest (checkpoint abs : Nat) : Except Fault Nat :=
  if checkpoint ≤ abs then .ok abs
  else do
    -- A multiple close to the checkpoint saves most of the turns.
    let m := sub64 checkpoint abs / big
    let near := add64 abs (big * m % 2 ^ 64)
    let abs ← ofLoop (whileLoop (passCheckpoint checkpoint) unwrapTurns near)
    return settle checkpoint abs

/-- Transforms a 32-bit relative sequence number into the absolute one near a checkpoint. -/
def unwrap (n isn : WrappingInt32) (checkpoint : Nat) : Except Fault Nat := do
  let start := isn.rawValue.toNat
  let lifted ← ofLoop (whileLoop (liftAboveIsn start) unwrapTurns n.rawValue.toNat)
  nearest checkpoint (sub64 lifted start)

/-- Adds an unsigned offset to a sequence number. -/
def WrappingInt32.add (a : WrappingInt32) (b : UInt32) : WrappingInt32 := ⟨a.rawValue + b⟩

/-- The point a number of steps before a sequence number. -/
def WrappingInt32.back (a : WrappingInt32) (b : UInt32) : WrappingInt32 := a.add (-b)

/-- The steps from the initial sequence number up to a sequence number. -/
def offsetFrom (n isn : WrappingInt32) : Nat :=
  (n.rawValue.toNat + 2 ^ 32 - isn.rawValue.toNat) % 2 ^ 32

/-- An offset is less than one turn. -/
theorem offsetFrom_lt (n isn : WrappingInt32) : offsetFrom n isn < 2 ^ 32 :=
  Nat.mod_lt _ (by decide)

/-- Only the initial sequence number itself has offset zero. -/
theorem offsetFrom_eq_zero {n isn : WrappingInt32} (zero : offsetFrom n isn = 0) : n = isn := by
  -- The two numbers are words, and congruent modulo the size of a word.
  have small := isn.rawValue.toNat_lt
  have word := n.rawValue.toNat_lt
  have same : n.rawValue.toNat = isn.rawValue.toNat := by
    simp only [offsetFrom] at zero
    omega
  exact WrappingInt32.ext (UInt32.toNat_inj.mp same)

/-- Wrapping keeps exactly the residue of the absolute number. -/
theorem offsetFrom_wrap (n : Nat) (isn : WrappingInt32) :
    offsetFrom (wrap n isn) isn = n % 2 ^ 32 := by
  have small := isn.rawValue.toNat_lt
  simp only [offsetFrom, wrap, big, add64, UInt32.toNat_ofNat']
  omega

/-- Wrapping adds the initial number modulo one turn. -/
theorem wrap_toNat (n : Nat) (isn : WrappingInt32) :
    (wrap n isn).rawValue.toNat = (isn.rawValue.toNat + n) % 2 ^ 32 := by
  have small := isn.rawValue.toNat_lt
  simp only [wrap, big, add64, UInt32.toNat_ofNat']
  omega

/-- The initial sequence number is that of position zero. -/
theorem wrap_zero (isn : WrappingInt32) : wrap 0 isn = isn := by
  have small := isn.rawValue.toNat_lt
  have same : (wrap 0 isn).rawValue.toNat = isn.rawValue.toNat := by
    -- A word is its own remainder.
    rw [wrap_toNat, Nat.add_zero, Nat.mod_eq_of_lt small]
  exact WrappingInt32.ext (UInt32.toNat_inj.mp same)

/-- Two absolute numbers wrap alike exactly when they agree modulo one turn. -/
theorem wrap_eq_iff {a b : Nat} {isn : WrappingInt32} :
    wrap a isn = wrap b isn ↔ a % 2 ^ 32 = b % 2 ^ 32 := by
  constructor
  · -- The distance from the initial number tells the residue.
    intro same
    have := congrArg (offsetFrom · isn) same
    simpa only [offsetFrom_wrap] using this
  · intro same
    have small := isn.rawValue.toNat_lt
    have raw : (wrap a isn).rawValue.toNat = (wrap b isn).rawValue.toNat := by
      simp only [wrap, big, add64, UInt32.toNat_ofNat']
      omega
    exact WrappingInt32.ext (UInt32.toNat_inj.mp raw)

/-- One step before a later position is the position before it. -/
theorem wrap_back_one {n : Nat} (later : 0 < n) (isn : WrappingInt32) :
    (wrap n isn).back 1 = wrap (n - 1) isn := by
  have raw : ((wrap n isn).back 1).rawValue.toNat = (wrap (n - 1) isn).rawValue.toNat := by
    -- Going back one is adding the largest word.
    rw [WrappingInt32.back, WrappingInt32.add, UInt32.toNat_add, wrap_toNat, wrap_toNat,
      show (-1 : UInt32).toNat = 2 ^ 32 - 1 from rfl]
    omega
  exact WrappingInt32.ext (UInt32.toNat_inj.mp raw)

/-- The first loop takes at most one turn. -/
theorem liftAboveIsn_loop {isn n turns : Nat} (isnWord : isn < 2 ^ 32) (nWord : n < 2 ^ 32)
    (enough : 2 ≤ turns) :
    whileLoop (liftAboveIsn isn) turns n = some (if n < isn then n + 2 ^ 32 else n) := by
  obtain ⟨spare, rfl⟩ := Nat.exists_eq_add_of_le' enough
  split
  · rename_i less
    -- One turn already exceeds every 32-bit number.
    have turn : liftAboveIsn isn n = some (n + 2 ^ 32) := by
      rw [liftAboveIsn, if_pos less, big, add64_of_lt (by omega)]
    have stop : liftAboveIsn isn (n + 2 ^ 32) = none := by
      rw [liftAboveIsn, if_neg (by omega)]
    rw [whileLoop_turn turn, whileLoop_exit stop]
  · rename_i notLess
    exact whileLoop_exit (by simp [liftAboveIsn, notLess]) _

/-- Both loops are allowed the one turn that every small number needs. -/
theorem two_le_unwrapTurns : 2 ≤ unwrapTurns := by
  simp only [unwrapTurns]
  omega

/-- One turn is enough to pass a checkpoint less than one turn away. -/
theorem passCheckpoint_loop {checkpoint abs turns : Nat} (behind : abs ≤ checkpoint)
    (close : checkpoint < abs + 2 ^ 32) (fits : abs + 2 ^ 32 < 2 ^ 64) (enough : 2 ≤ turns) :
    whileLoop (passCheckpoint checkpoint) turns abs = some (abs + 2 ^ 32) := by
  have turn : passCheckpoint checkpoint abs = some (abs + 2 ^ 32) := by
    -- After one turn the number is beyond the checkpoint.
    rw [passCheckpoint, if_pos behind, big, add64_of_lt fits]
  have stop : passCheckpoint checkpoint (abs + 2 ^ 32) = none := by
    rw [passCheckpoint, if_neg (by omega)]
  obtain ⟨spare, rfl⟩ := Nat.exists_eq_add_of_le' enough
  rw [whileLoop_turn turn, whileLoop_exit stop]

/-- What the first loop leaves is the offset above the initial number. -/
theorem sub64_lifted (n isn : WrappingInt32) :
    sub64 (if n.rawValue.toNat < isn.rawValue.toNat then n.rawValue.toNat + 2 ^ 32
      else n.rawValue.toNat) isn.rawValue.toNat = offsetFrom n isn := by
  -- Below the initial number a whole turn is added, and above it nothing.
  have isnWord := isn.rawValue.toNat_lt
  have nWord := n.rawValue.toNat_lt
  simp only [offsetFrom, sub64]
  split <;> omega

/-- Before the checkpoint is looked at, a number is read as its offset. -/
theorem unwrap_eq (n isn : WrappingInt32) (checkpoint : Nat) :
    unwrap n isn checkpoint = nearest checkpoint (offsetFrom n isn) := by
  have isnWord := isn.rawValue.toNat_lt
  have nWord := n.rawValue.toNat_lt
  -- The loop takes at most one turn, so its two are enough.
  rw [unwrap, liftAboveIsn_loop isnWord nWord two_le_unwrapTurns, ofLoop_some, ok_bind,
    sub64_lifted]

/-- A number that is not behind the checkpoint is kept. -/
theorem nearest_ahead {checkpoint abs : Nat} (ahead : checkpoint ≤ abs) :
    nearest checkpoint abs = .ok abs := by
  rw [nearest, if_pos ahead]

/-- The multiple that the division finds leads to the last candidate not past the checkpoint. -/
theorem add64_multiple {checkpoint abs low : Nat} (residue : low % 2 ^ 32 = abs)
    (word : checkpoint < 2 ^ 64) (behind : low ≤ checkpoint) (ahead : checkpoint < low + 2 ^ 32) :
    add64 abs (big * (sub64 checkpoint abs / big) % 2 ^ 64) = low := by
  have multiple : big * (sub64 checkpoint abs / big) = low - abs := by
    -- The division rounds down to the multiples of a whole turn.
    rw [sub64_of_le (by omega) word, big]
    omega
  rw [multiple, Nat.mod_eq_of_lt (by omega), add64_of_lt (by omega)]
  omega

/-- Between two candidates, the closer one is taken, and the lower one on a tie. -/
theorem nearest_between {checkpoint abs low : Nat} (residue : low % 2 ^ 32 = abs)
    (behind : low ≤ checkpoint) (ahead : checkpoint < low + 2 ^ 32)
    (fits : low + 2 ^ 32 < 2 ^ 64) :
    nearest checkpoint abs =
      .ok (if 2 * checkpoint ≤ 2 * low + 2 ^ 32 then low else low + 2 ^ 32) := by
  by_cases reached : checkpoint ≤ abs
  · -- Only the checkpoint itself is neither behind nor ahead of it.
    have same : abs = low := by omega
    rw [nearest_ahead reached, if_pos (by omega), same]
  have back : sub64 (low + 2 ^ 32) big = low := by
    -- Otherwise the loop leaves the first candidate beyond the checkpoint.
    rw [big, sub64_of_le (by omega) (by omega), Nat.add_sub_cancel]
  have below : sub64 checkpoint low = checkpoint - low := sub64_of_le behind (by omega)
  have above : sub64 (low + 2 ^ 32) checkpoint = low + 2 ^ 32 - checkpoint :=
    sub64_of_le (by omega) (by omega)
  -- The choice compares the two distances.
  have settled : settle checkpoint (low + 2 ^ 32) =
      if 2 * checkpoint ≤ 2 * low + 2 ^ 32 then low else low + 2 ^ 32 := by
    rw [settle, if_neg (by rw [big]; omega), back, below, above]
    split <;> split <;> omega
  rw [nearest, if_neg reached]
  dsimp only
  rw [add64_multiple residue (by omega) behind ahead,
    passCheckpoint_loop behind ahead fits two_le_unwrapTurns, ofLoop_some, ok_bind, settled,
    pure_eq_ok]

/-- From the last candidate below the top of the range, no turn passes the checkpoint. -/
theorem passCheckpoint_endless {checkpoint abs : Nat} (word : checkpoint < 2 ^ 64)
    (residue : abs < 2 ^ 32) (behind : 2 ^ 64 - 2 ^ 32 + abs ≤ checkpoint) (turns : Nat) :
    whileLoop (passCheckpoint checkpoint) turns (2 ^ 64 - 2 ^ 32 + abs) = none := by
  -- A turn wraps around to a value behind the checkpoint, and so does every later one.
  refine whileLoop_diverges (fun a => a % 2 ^ 32 = abs ∧ a ≤ checkpoint) ?_ turns _
    ⟨by omega, behind⟩
  rintro a ⟨congruent, below⟩
  refine ⟨add64 a big, by rw [passCheckpoint, if_pos below], ?_, ?_⟩
  · simp only [add64, big]
    omega
  · simp only [add64, big]
    omega

/-- With no candidate left between the checkpoint and the top, the reading never ends. -/
theorem nearest_endless {checkpoint abs : Nat} (word : checkpoint < 2 ^ 64)
    (residue : abs < 2 ^ 32) (behind : 2 ^ 64 - 2 ^ 32 + abs ≤ checkpoint) :
    nearest checkpoint abs = .error .diverges := by
  -- The candidate below the top is not past the checkpoint, and the one above has wrapped.
  have congruent : (2 ^ 64 - 2 ^ 32 + abs) % 2 ^ 32 = abs := by omega
  rw [nearest, if_neg (by omega)]
  dsimp only
  rw [add64_multiple congruent word behind (by omega),
    passCheckpoint_endless word residue behind, ofLoop_none, error_bind]

/-- Below half a turn, every sequence number is read as its offset. -/
theorem unwrap_low (n isn : WrappingInt32) {checkpoint : Nat} (low : checkpoint < 2 ^ 31) :
    unwrap n isn checkpoint = .ok (offsetFrom n isn) := by
  have small := offsetFrom_lt n isn
  rw [unwrap_eq]
  rcases Nat.le_total checkpoint (offsetFrom n isn) with ahead | behind
  · exact nearest_ahead ahead
  · -- The checkpoint is in the lower half of the first turn past the offset.
    rw [nearest_between (Nat.mod_eq_of_lt small) behind (by omega) (by omega), if_pos (by omega)]

/-- Within half a turn of the top of the range, a number is either read there or never. -/
theorem unwrap_high (n isn : WrappingInt32) {checkpoint : Nat} (high : 2 ^ 64 - 2 ^ 31 ≤ checkpoint)
    (word : checkpoint < 2 ^ 64) :
    unwrap n isn checkpoint =
      if 2 ^ 64 - 2 ^ 32 + offsetFrom n isn ≤ checkpoint then .error .diverges
      else .ok (2 ^ 64 - 2 ^ 32 + offsetFrom n isn) := by
  have small := offsetFrom_lt n isn
  rw [unwrap_eq]
  by_cases reached : 2 ^ 64 - 2 ^ 32 + offsetFrom n isn ≤ checkpoint
  · rw [if_pos reached, nearest_endless word small reached]
  · -- The checkpoint is in the upper half of the last but one turn.
    have congruent : (2 ^ 64 - 2 ^ 33 + offsetFrom n isn) % 2 ^ 32 = offsetFrom n isn := by omega
    rw [if_neg reached, nearest_between congruent (by omega) (by omega) (by omega),
      if_neg (by omega), Except.ok.injEq]
    omega

/-- With an `int` counter as checkpoint, a number is read near the bottom or near the top. -/
theorem unwrap_int {n isn : WrappingInt32} {counter : Int} {abs : Nat}
    (read : unwrap n isn (ofInt (toInt32 counter)) = .ok abs) :
    abs = offsetFrom n isn ∨ 2 ^ 64 - 2 ^ 32 ≤ abs := by
  -- The counter shows its value, or a number in the last half turn of the range.
  rcases ofInt_toInt32_cases counter with low | ⟨high, word⟩
  · rw [unwrap_low _ _ low, Except.ok.injEq] at read
    exact .inl read.symm
  · rw [unwrap_high _ _ high word] at read
    split at read
    · simp at read
    · rw [Except.ok.injEq] at read
      exact .inr (by omega)

end Sponge
