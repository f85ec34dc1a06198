import Mathlib

/-! Unsigned integers in network byte order. -/

namespace Sponge.BigEndian

/-- The number that a list of bytes spells, most significant byte first. -/
def ofBytes (bytes : List UInt8) : Nat :=
  bytes.foldl (fun read byte => read * 256 + byte.toNat) 0

/-- The bytes of a number in a field of the given width, most significant byte first. -/
def toBytes : Nat → Nat → List UInt8
  | 0, _ => []
  | width + 1, value => UInt8.ofNat (value >>> (8 * width)) :: toBytes width value

/-- A number fills the width of its field. -/
@[simp] theorem length_toBytes (width value : Nat) : (toBytes width value).length = width := by
  induction width with
  | zero => rfl
  | succ width ih => rw [toBytes, List.length_cons, ih]

/-- Reading on moves the digits read so far above the remaining ones. -/
theorem foldl_eq (bytes : List UInt8) (read : Nat) :
    bytes.foldl (fun read byte => read * 256 + byte.toNat) read
      = read * 256 ^ bytes.length + ofBytes bytes := by
  -- The digits already read are arbitrary, since every byte shifts them once more.
  induction bytes generalizing read with
  | nil => simp [ofBytes]
  | cons byte bytes ih =>
    rw [ofBytes, List.foldl_cons, List.foldl_cons, ih, ih (0 * 256 + byte.toNat),
      List.length_cons, Nat.pow_succ]
    ring

/-- The first byte carries the highest power. -/
theorem ofBytes_cons (byte : UInt8) (bytes : List UInt8) :
    ofBytes (byte :: bytes) = byte.toNat * 256 ^ bytes.length + ofBytes bytes := by
  rw [ofBytes, List.foldl_cons, foldl_eq, Nat.zero_mul, Nat.zero_add]

/-- A field is read back as the number that was written, up to what the field holds. -/
theorem ofBytes_toBytes (width value : Nat) :
    ofBytes (toBytes width value) = value % 256 ^ width := by
  induction width with
  | zero => simp [toBytes, ofBytes, Nat.mod_one]
  | succ width ih =>
    -- The leading byte is the next digit in base 256.
    have shift : 2 ^ (8 * width) = 256 ^ width := by rw [Nat.pow_mul]
    have digit : (UInt8.ofNat (value >>> (8 * width))).toNat = value / 256 ^ width % 256 := by
      rw [UInt8.toNat_ofNat', Nat.shiftRight_eq_div_pow, shift]
    rw [toBytes, ofBytes_cons, length_toBytes, digit, ih, Nat.pow_succ,
      Nat.mod_mul, Nat.mul_comm (256 ^ width), Nat.add_comm]

/-- A number that fits its field is read back unchanged. -/
theorem ofBytes_toBytes_of_lt {width value : Nat} (fits : value < 256 ^ width) :
    ofBytes (toBytes width value) = value := by
  rw [ofBytes_toBytes, Nat.mod_eq_of_lt fits]

/-- A list of bytes spells a number of its width. -/
theorem ofBytes_lt (bytes : List UInt8) : ofBytes bytes < 256 ^ bytes.length := by
  induction bytes with
  | nil => simp [ofBytes]
  | cons byte bytes ih =>
    have small := byte.toNat_lt
    rw [ofBytes_cons, List.length_cons, Nat.pow_succ]
    -- The leading digit is at most 255, and the rest stays below one unit of it.
    have digit : byte.toNat * 256 ^ bytes.length ≤ 255 * 256 ^ bytes.length :=
      Nat.mul_le_mul_right _ (by omega)
    omega

/-- Bytes are those of the number they spell, whatever is added above their width. -/
theorem toBytes_ofBytes (bytes : List UInt8) (above : Nat) :
    toBytes bytes.length (above * 256 ^ bytes.length + ofBytes bytes) = bytes := by
  -- Induction on the bytes, with any number above them.
  induction bytes generalizing above with
  | nil => rfl
  | cons byte bytes ih =>
    have rest := ofBytes_lt bytes
    have small := byte.toNat_lt
    -- The leading byte joins the digits above, as the remaining bytes see it.
    have regroup : above * 256 ^ (byte :: bytes).length + ofBytes (byte :: bytes)
        = (above * 256 + byte.toNat) * 256 ^ bytes.length + ofBytes bytes := by
      rw [ofBytes_cons, List.length_cons, Nat.pow_succ]
      ring
    have shift : 2 ^ (8 * bytes.length) = 256 ^ bytes.length := by rw [Nat.pow_mul]
    rw [regroup, List.length_cons, toBytes, ih, Nat.shiftRight_eq_div_pow, shift,
      Nat.mul_comm, Nat.mul_add_div (Nat.pow_pos (by decide)), Nat.div_eq_of_lt rest]
    -- What is left is the leading byte.
    congr 1
    apply UInt8.toNat_inj.mp
    rw [UInt8.toNat_ofNat']
    omega

/-- Every list of bytes is the field of a number that fits it. -/
theorem exists_toBytes (bytes : List UInt8) :
    ∃ value < 256 ^ bytes.length, bytes = toBytes bytes.length value := by
  refine ⟨ofBytes bytes, ofBytes_lt bytes, ?_⟩
  simpa using (toBytes_ofBytes bytes 0).symm

end Sponge.BigEndian
