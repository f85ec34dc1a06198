import Mathlib

/-! Fixed-width machine arithmetic, carried by natural and integer numbers. -/

namespace Sponge

/-- The sum of two unsigned 64-bit words. -/
@[irreducible] def add64 (a b : Nat) : Nat :=
  -- A carry out of the top bit is lost.
  (a + b) % 2 ^ 64

/-- The difference of two unsigned 64-bit words. -/
@[irreducible] def sub64 (a b : Nat) : Nat :=
  -- Borrowing past zero continues from the top of the range.
  (a + 2 ^ 64 - b) % 2 ^ 64

/-- The signed 32-bit value an integer narrows to. -/
@[irreducible] def toInt32 (n : Int) : Int :=
  -- Narrowing keeps the residue and reads the upper half of the range as negative.
  (n + 2 ^ 31) % 2 ^ 32 - 2 ^ 31

/-- The unsigned 64-bit value a signed integer widens to. -/
@[irreducible] def ofInt (n : Int) : Nat :=
  -- Negative values are sign-extended, so they land just below the top of the range.
  (n % 2 ^ 64).toNat

/-- A sum that stays inside the range is the exact sum. -/
theorem add64_of_lt {a b : Nat} (fits : a + b < 2 ^ 64) : add64 a b = a + b := by
  simp only [add64]
  omega

/-- A difference that stays nonnegative is the exact difference. -/
theorem sub64_of_le {a b : Nat} (ordered : b ≤ a) (fits : a < 2 ^ 64) : sub64 a b = a - b := by
  simp only [sub64]
  omega

/-- Every difference is a word. -/
theorem sub64_lt (a b : Nat) : sub64 a b < 2 ^ 64 := by
  simp only [sub64]
  omega

/-- Narrowing keeps a value that already fits. -/
theorem toInt32_of_fits {n : Int} (above : -2 ^ 31 ≤ n) (below : n < 2 ^ 31) : toInt32 n = n := by
  simp only [toInt32]
  omega

/-- Narrowing a natural number below the sign bit keeps it. -/
theorem toInt32_natCast {n : Nat} (below : n < 2 ^ 31) : toInt32 n = n :=
  toInt32_of_fits (by omega) (by exact_mod_cast below)

/-- A narrowed value lies in the signed range. -/
theorem toInt32_range (n : Int) : -2 ^ 31 ≤ toInt32 n ∧ toInt32 n < 2 ^ 31 := by
  simp only [toInt32]
  omega

/-- Narrowing an intermediate sum changes nothing once the result is narrowed again. -/
theorem toInt32_add (a b : Int) : toInt32 (toInt32 a + b) = toInt32 (a + b) := by
  simp only [toInt32]
  omega

/-- A narrowed value is not changed by narrowing it again. -/
theorem toInt32_idem (n : Int) : toInt32 (toInt32 n) = toInt32 n := by
  simp only [toInt32]
  omega

/-- Widening a nonnegative signed value keeps it. -/
theorem ofInt_natCast {n : Nat} (fits : n < 2 ^ 64) : ofInt n = n := by
  simp only [ofInt]
  omega

/-- Widening a negative signed value adds one whole turn of the range. -/
theorem ofInt_of_neg {n : Int} (negative : n < 0) (above : -2 ^ 64 ≤ n) :
    (ofInt n : Int) = n + 2 ^ 64 := by
  simp only [ofInt]
  omega

/-- A counter kept in a signed 32-bit integer is exact below the sign bit. -/
theorem ofInt_toInt32 {n : Nat} (below : n < 2 ^ 31) : ofInt (toInt32 n) = n := by
  rw [toInt32_natCast below]
  exact ofInt_natCast (by omega)

/-- Past the sign bit, a signed 32-bit counter reads as a value near the top of the range. -/
theorem ofInt_toInt32_high {n : Nat} (above : 2 ^ 31 ≤ n) (below : n < 2 ^ 32) :
    ofInt (toInt32 n) = 2 ^ 64 - 2 ^ 32 + n := by
  simp only [ofInt, toInt32]
  omega

/-- Widening and narrowing preserve the residue modulo `2 ^ 32`. -/
theorem ofInt_toInt32_mod (n : Nat) : ofInt (toInt32 n) % 2 ^ 32 = n % 2 ^ 32 := by
  simp only [ofInt, toInt32]
  omega

/-- A signed 32-bit counter widens either to a small value or to one near the top. -/
theorem ofInt_toInt32_cases (n : Int) :
    ofInt (toInt32 n) < 2 ^ 31 ∨
      2 ^ 64 - 2 ^ 31 ≤ ofInt (toInt32 n) ∧ ofInt (toInt32 n) < 2 ^ 64 := by
  simp only [ofInt, toInt32]
  omega

end Sponge
