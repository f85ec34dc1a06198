import Sponge.Wire.Checksum

/-! The Internet checksum of data in chunks, against its definition by one's complement sums. -/

namespace Sponge

open OnesComplement

namespace InternetChecksum

/-- Chunks added in turn are added as one string. -/
theorem foldl_add (check : InternetChecksum) (chunks : List Bytes) :
    chunks.foldl add check = check.add chunks.flatten := by
  -- The parity is carried from one chunk to the next with the sum.
  induction chunks generalizing check with
  | nil => rfl
  | cons chunk chunks ih => rw [List.foldl_cons, ih, add_add, List.flatten_cons]

/-- A checksum is the complement of the number that stands for its sum. -/
theorem value_of_represents {check : InternetChecksum} {word : Nat}
    (represents : Represents word check.sum.toNat) : check.value.toNat = 65535 - word := by
  -- The checksum complements the sum as well, and there is only one such number.
  obtain ⟨residue, zero⟩ := value_complements check
  have small := check.value.toNat_lt
  unfold Represents at represents
  omega

/-- The halves of an initial sum together stand for it. -/
theorem represents_halves {initial sum word : Nat}
    (represents : Represents word (initial / 65536 + (initial % 65536 + sum))) :
    Represents word (initial + sum) := by
  unfold Represents at *
  omega

section Chunks

variable {initial : UInt32} (small : initial.toNat < 2 ^ 20)
include small

/-- The accumulator holds the exact sum of the words of a short string. -/
theorem sum_add_short {data : Bytes} (short : data.length ≤ 65535) :
    (add ⟨initial, false⟩ data).sum.toNat = initial.toNat + wordSum data := by
  -- At most 32768 words fit the string, which leaves room for the initial sum.
  have words := wordSum_le data
  rw [add_sum rfl]
  exact Nat.mod_eq_of_lt (by simp only; omega)

/-- The checksum of a short string is the complement of the one's complement sum. -/
theorem value_add_short {data : Bytes} (short : data.length ≤ 65535) :
    (add ⟨initial, false⟩ data).value.toNat =
      65535 - total (initial.toNat / 65536 :: initial.toNat % 65536 :: words data) := by
  have word := initial.toNat_lt
  apply value_of_represents
  rw [sum_add_short small short]
  apply represents_halves
  -- The initial sum of 32 bits counts as its two halves.
  have halves : ∀ half ∈ initial.toNat / 65536 :: initial.toNat % 65536 :: words data,
      half ≤ 65535 :=
    List.forall_mem_cons.mpr ⟨by omega, List.forall_mem_cons.mpr ⟨by omega, words_le data⟩⟩
  have represents := represents_total halves
  rwa [List.sum_cons, List.sum_cons, sum_words] at represents

/-- The checksum of a short string verifies it once it is written over its zeroed field. -/
theorem value_filled {front back : Bytes} (even : front.length % 2 = 0)
    (short : front.length + 2 + back.length ≤ 65535) :
    (add ⟨initial, false⟩ (front ++ (NetUnparser.u16
      (add ⟨initial, false⟩ (front ++ (NetUnparser.u16 0 ++ back))).value ++ back))).value = 0 := by
  -- The sum of so few words does not wrap, so a checksum of zero means that it verifies.
  rw [value_add_eq_zero_iff]
  · exact verifies_of_value even (by omega)
  · simp only [List.length_append, NetUnparser.length_u16]
    omega

/-- Changing one byte of a string that verifies makes it fail. -/
theorem value_changed {front back : Bytes} {byte changed : UInt8}
    (short : (front ++ byte :: back).length ≤ 65535)
    (verifies : (add ⟨initial, false⟩ (front ++ byte :: back)).value = 0)
    (differs : changed ≠ byte) : (add ⟨initial, false⟩ (front ++ changed :: back)).value ≠ 0 := by
  -- The string is as short as before.
  have length : (front ++ changed :: back).length = (front ++ byte :: back).length := by simp
  rw [value_add_eq_zero_iff (by omega)] at verifies
  rw [Ne, value_add_eq_zero_iff (by omega)]
  exact not_verifies_of_changed verifies differs

/-- However a string is cut into chunks, the accumulator stays exact after every byte, the folding
ends, the checksum is the complement of the one's complement sum of the halves of the initial sum
and of the words, and the string verifies once a zeroed field of it is replaced by the checksum. -/
theorem value_chunks {chunks : List Bytes} (short : chunks.flatten.length ≤ 65535) :
    (∀ front, front <+: chunks.flatten →
      (add ⟨initial, false⟩ front).sum.toNat = initial.toNat + wordSum front) ∧
    (∃ turns folded, whileLoop foldTurn turns (chunks.foldl add ⟨initial, false⟩).sum =
      some folded) ∧
    (chunks.foldl add ⟨initial, false⟩).value.toNat =
      65535 - total (initial.toNat / 65536 :: initial.toNat % 65536 :: words chunks.flatten) ∧
    ∀ front back filled, front.length % 2 = 0 → chunks.flatten = front ++ ([0, 0] ++ back) →
      List.flatten filled =
        front ++ (NetUnparser.u16 (chunks.foldl add ⟨initial, false⟩).value ++ back) →
      (filled.foldl add ⟨initial, false⟩).value = 0 := by
  refine ⟨fun front leads => ?_, ?_, ?_, fun front back filled even split refilled => ?_⟩
  · exact sum_add_short small (leads.length_le.trans short)
  · exact ⟨3, Option.isSome_iff_exists.mp (whileLoop_foldTurn_isSome _)⟩
  · -- Only the concatenation of the chunks matters.
    rw [foldl_add]
    exact value_add_short small short
  · have size : front.length + 2 + back.length ≤ 65535 := by
      rw [split] at short
      simp only [List.length_append, List.length_cons, List.length_nil] at short
      omega
    rw [foldl_add, refilled, foldl_add, split]
    exact value_filled small even size

end Chunks

/-- Three chunks with an odd boundary inside the field. -/
theorem value_chunks_odd :
    (7 : UInt32).toNat < 2 ^ 20 ∧ ([[1, 2, 0], [0], [3]] : List Bytes).flatten.length ≤ 65535 ∧
    (([[1, 2, 0], [0], [3]] : List Bytes).foldl add ⟨7, false⟩).value.toNat =
      65535 - total [0, 7, 0x0102, 0, 0x0300] := by
  have small : (7 : UInt32).toNat < 2 ^ 20 := by decide
  have short : ([[1, 2, 0], [0], [3]] : List Bytes).flatten.length ≤ 65535 := by decide
  exact ⟨small, short, (value_chunks small short).2.2.1⟩

end InternetChecksum

end Sponge
