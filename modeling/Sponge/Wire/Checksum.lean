import Sponge.Lib.OnesComplement
import Sponge.Lib.While
import Sponge.Wire.Parser

/-! The Internet checksum, as it is accumulated byte by byte and folded. -/

namespace Sponge

open OnesComplement

/-- A checksum under computation. -/
structure InternetChecksum where
  /-- The sum of the bytes added so far, in 32 bits. -/
  sum : UInt32 := 0
  /-- Whether the next byte is the low byte of its word. -/
  parity : Bool := false
deriving DecidableEq, Repr

namespace InternetChecksum

/-- Adds one byte, in the upper half of its word unless the parity is odd. -/
def addByte (check : InternetChecksum) (byte : UInt8) : InternetChecksum :=
  let val : UInt16 := if check.parity then byte.toUInt16 else byte.toUInt16 <<< 8
  ⟨check.sum + val.toUInt32, !check.parity⟩

/-- Adds all bytes of a string. -/
def add (check : InternetChecksum) (data : Bytes) : InternetChecksum := data.foldl addByte check

/-- One turn of the folding loop, which stops once the sum fits 16 bits. -/
def foldTurn (ret : UInt32) : Option UInt32 :=
  if ret > 0xffff then some ((ret >>> 16) + (ret &&& 0xffff)) else none

/-- Adding the two halves of a sum is one end-around carry. -/
theorem halves_toNat (sum : UInt32) :
    ((sum >>> 16) + (sum &&& 0xffff)).toNat = carry sum.toNat := by
  have word := sum.toNat_lt
  -- The mask keeps the low half, and the two halves together stay inside 32 bits.
  have low : sum.toNat &&& 65535 = sum.toNat % 65536 :=
    Nat.and_two_pow_sub_one_eq_mod sum.toNat 16
  have high : sum.toNat >>> 16 = sum.toNat / 65536 := Nat.shiftRight_eq_div_pow sum.toNat 16
  rw [UInt32.toNat_add, UInt32.toNat_shiftRight, UInt32.toNat_and, carry,
    show (0xffff : UInt32).toNat = 65535 from rfl, show (16 : UInt32).toNat % 32 = 16 from rfl,
    low, high]
  exact Nat.mod_eq_of_lt (by omega)

/-- A turn of the folding loop is one end-around carry. -/
theorem foldTurn_some {ret next : UInt32} (turned : foldTurn ret = some next) :
    65535 < ret.toNat ∧ next.toNat = carry ret.toNat := by
  rw [foldTurn] at turned
  split at turned
  · rename_i above
    obtain rfl := Option.some.inj turned
    exact ⟨by simpa [UInt32.lt_iff_toNat_lt] using above, halves_toNat ret⟩
  · cases turned

/-- The folding loop stops only at a sum of 16 bits. -/
theorem foldTurn_none {ret : UInt32} (stopped : foldTurn ret = none) : ret.toNat ≤ 65535 := by
  rw [foldTurn] at stopped
  split at stopped
  · cases stopped
  · rename_i below
    simpa [UInt32.lt_iff_toNat_lt] using below

/-- A fold that ends is a word with the residue of the sum, and is zero only for the zero sum. -/
theorem whileLoop_foldTurn {fuel : Nat} {sum ret : UInt32}
    (folded : whileLoop foldTurn fuel sum = some ret) :
    ret.toNat ≤ 65535 ∧ ret.toNat % 65535 = sum.toNat % 65535
      ∧ (ret.toNat = 0 ↔ sum.toNat = 0) := by
  -- Each turn keeps the residue, so the induction is on the turns.
  induction fuel generalizing sum with
  | zero => cases folded
  | succ fuel ih =>
    cases turn : foldTurn sum with
    | none =>
      rw [whileLoop_exit turn, Option.some.injEq] at folded
      subst folded
      exact ⟨foldTurn_none turn, rfl, Iff.rfl⟩
    | some next =>
      rw [whileLoop_turn turn] at folded
      obtain ⟨small, residue, zero⟩ := ih folded
      obtain ⟨-, carried⟩ := foldTurn_some turn
      rw [carried] at residue zero
      exact ⟨small, residue.trans (carry_mod _), zero.trans carry_eq_zero_iff⟩

/-- Two turns fold every 32-bit sum. -/
theorem whileLoop_foldTurn_isSome (sum : UInt32) : (whileLoop foldTurn 3 sum).isSome := by
  -- After two carries the sum fits a word, so three rounds of the loop are enough.
  have word := sum.toNat_lt
  cases first : foldTurn sum with
  | none => rw [whileLoop_exit first, Option.isSome_some]
  | some once =>
    rw [whileLoop_turn first]
    cases second : foldTurn once with
    | none => rw [whileLoop_exit second, Option.isSome_some]
    | some twice =>
      rw [whileLoop_turn second]
      cases third : foldTurn twice with
      | none => rw [whileLoop_exit third, Option.isSome_some]
      | some thrice =>
        -- A third carry would need a second one that leaves more than a word.
        have one := (foldTurn_some first).2
        have two := (foldTurn_some second).2
        have above := (foldTurn_some third).1
        simp only [carry] at one two
        omega

/-- The checksum: the complement of the folded sum. -/
def value (check : InternetChecksum) : UInt16 :=
  ~~~((whileLoop foldTurn 3 check.sum).get (whileLoop_foldTurn_isSome check.sum)).toUInt16

/-- The checksum complements the sum: together they fold to the all-ones word. -/
theorem value_complements (check : InternetChecksum) :
    (check.sum.toNat + check.value.toNat) % 65535 = 0
      ∧ (check.sum.toNat = 0 ↔ check.value.toNat = 65535) := by
  obtain ⟨ret, folded⟩ := Option.isSome_iff_exists.mp (whileLoop_foldTurn_isSome check.sum)
  obtain ⟨small, residue, zero⟩ := whileLoop_foldTurn folded
  -- Folding keeps the residue modulo 65535, and keeps zero apart from it.
  have complement : check.value.toNat = 65535 - ret.toNat := by
    simp only [value, folded, Option.get_some]
    rw [UInt16.toNat_not, UInt32.toNat_toUInt16, Nat.mod_eq_of_lt (by omega)]
    rfl
  constructor <;> omega

/-- The checksum is zero exactly when the sum verifies. -/
theorem value_eq_zero_iff (check : InternetChecksum) :
    check.value = 0 ↔ Verifies check.sum.toNat := by
  -- The checksum is the complement of the folded sum.
  obtain ⟨residue, zero⟩ := value_complements check
  have word := check.value.toNat_lt
  rw [← UInt16.toNat_inj, UInt16.toNat_zero, Verifies]
  omega

/-- Two strings added in turn are added as one. -/
theorem add_add (check : InternetChecksum) (front back : Bytes) :
    (check.add front).add back = check.add (front ++ back) := by
  rw [add, add, add, List.foldl_append]

/-- What a byte counts for: the upper half of a word at even parity, the lower half at odd. -/
theorem addByte_sum (check : InternetChecksum) (byte : UInt8) :
    (check.addByte byte).sum.toNat
      = (check.sum.toNat + if check.parity then byte.toNat else 256 * byte.toNat) % 2 ^ 32 := by
  have small := byte.toNat_lt
  cases odd : check.parity with
  | true => simp [addByte, odd]
  | false =>
    -- A byte shifted into the upper half still fits 16 bits.
    have shifted : (byte.toUInt16 <<< 8).toNat = 256 * byte.toNat := by
      rw [UInt16.toNat_shiftLeft, UInt8.toNat_toUInt16, Nat.shiftLeft_eq]
      change byte.toNat * 2 ^ 8 % 2 ^ 16 = 256 * byte.toNat
      omega
    simp only [addByte, odd, Bool.false_eq_true, if_false]
    rw [UInt32.toNat_add, UInt16.toNat_toUInt32, shifted]

/-- From even parity, adding a string adds its words. -/
theorem add_sum {check : InternetChecksum} (even : check.parity = false) (data : Bytes) :
    (check.add data).sum.toNat = (check.sum.toNat + wordSum data) % 2 ^ 32 := by
  -- Two bytes make a word and bring the parity back to even.
  induction data using wordSum.induct generalizing check with
  | case1 => simp [add, wordSum, Nat.mod_eq_of_lt check.sum.toNat_lt]
  | case2 high =>
    -- A last single byte is the high half of a word.
    rw [add, List.foldl_cons, List.foldl_nil, addByte_sum, even, wordSum]
    rfl
  | case3 high low rest ih =>
    have odd : (check.addByte high).parity = true := by simp [addByte, even]
    have again : ((check.addByte high).addByte low).parity = false := by simp [addByte, even]
    have whole := ih again
    rw [add] at whole ⊢
    rw [List.foldl_cons, List.foldl_cons, whole, addByte_sum, addByte_sum, odd, even, wordSum]
    simp only [if_true, Bool.false_eq_true, if_false]
    omega

/-- A checksum that cannot overflow is zero exactly when the words of the string verify. -/
theorem value_add_eq_zero_iff {initial : UInt32} {data : Bytes}
    (room : initial.toNat + 65535 * ((data.length + 1) / 2) < 2 ^ 32) :
    (add ⟨initial, false⟩ data).value = 0 ↔ Verifies (initial.toNat + wordSum data) := by
  have words := wordSum_le data
  rw [value_eq_zero_iff, add_sum rfl, Nat.mod_eq_of_lt (by simp only; omega)]

/-- Writing the checksum over its own zeroed field makes the string verify. -/
theorem verifies_of_value {initial : UInt32} {front back : Bytes} (even : front.length % 2 = 0)
    (room : initial.toNat + 65535 * ((front.length + 2 + back.length + 1) / 2) < 2 ^ 32) :
    Verifies (initial.toNat + wordSum (front ++ (NetUnparser.u16
      (add ⟨initial, false⟩ (front ++ (NetUnparser.u16 0 ++ back))).value ++ back))) := by
  -- The field stands at a word boundary, so only its own word changes in the sum.
  have field (word : UInt16) : wordSum (front ++ (NetUnparser.u16 word ++ back))
      = wordSum front + (word.toNat + wordSum back) := by
    rw [wordSum_append even, NetUnparser.u16, wordSum_word word.toNat_lt]
  have words := wordSum_le (front ++ (NetUnparser.u16 0 ++ back))
  have size : (front ++ (NetUnparser.u16 0 ++ back)).length = front.length + 2 + back.length := by
    simp only [List.length_append, NetUnparser.length_u16]
    omega
  -- The sum over the zeroed field is exact, and the checksum complements it.
  have exact : (add ⟨initial, false⟩ (front ++ (NetUnparser.u16 0 ++ back))).sum.toNat
      = initial.toNat + (wordSum front + wordSum back) := by
    rw [size] at words
    rw [add_sum rfl, Nat.mod_eq_of_lt (by simp only; omega), field, UInt16.toNat_zero,
      Nat.zero_add]
  obtain ⟨residue, zero⟩ :=
    value_complements (add ⟨initial, false⟩ (front ++ (NetUnparser.u16 0 ++ back)))
  rw [field]
  rw [exact] at residue zero
  constructor <;> omega

end InternetChecksum

end Sponge
