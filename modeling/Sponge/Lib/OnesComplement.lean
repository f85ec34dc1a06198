import Sponge.Lib.BigEndian

/-! One's complement sums of 16-bit words. -/

namespace Sponge.OnesComplement

/-- The sum of the 16-bit words of a list of bytes, with a last odd byte padded by zero. -/
def wordSum : List UInt8 → Nat
  | [] => 0
  | [high] => 256 * high.toNat
  | high :: low :: rest => 256 * high.toNat + low.toNat + wordSum rest

/-- A sum verifies when its end-around folding is the all-ones word. -/
def Verifies (sum : Nat) : Prop := 0 < sum ∧ sum % 65535 = 0

instance (sum : Nat) : Decidable (Verifies sum) :=
  inferInstanceAs (Decidable (_ ∧ _))

/-- One end-around carry: what exceeds a word is added to the word again. -/
def carry (sum : Nat) : Nat := sum / 65536 + sum % 65536

/-- A carry of a 32-bit sum is at most two words. -/
theorem carry_le {sum : Nat} (word : sum < 2 ^ 32) : carry sum ≤ 2 * 65535 := by
  simp only [carry]
  omega

/-- A carry keeps the residue. -/
theorem carry_mod (sum : Nat) : carry sum % 65535 = sum % 65535 := by
  simp only [carry]
  omega

/-- A carry leaves nothing only of nothing. -/
theorem carry_eq_zero_iff {sum : Nat} : carry sum = 0 ↔ sum = 0 := by
  simp only [carry]
  omega

/-- The words of an even number of bytes are summed separately from what follows them. -/
theorem wordSum_append {front : List UInt8} (even : front.length % 2 = 0) (back : List UInt8) :
    wordSum (front ++ back) = wordSum front + wordSum back := by
  -- The induction takes two bytes at a time, as the sum does.
  induction front using wordSum.induct with
  | case1 => simp [wordSum]
  | case2 high => simp at even
  | case3 high low rest ih =>
    have evenRest : rest.length % 2 = 0 := by
      simp only [List.length_cons] at even
      omega
    rw [List.cons_append, List.cons_append, wordSum, wordSum, ih evenRest]
    omega

/-- Every word is below `2 ^ 16`. -/
theorem wordSum_le (bytes : List UInt8) : wordSum bytes ≤ 65535 * ((bytes.length + 1) / 2) := by
  -- Induction on pairs of bytes; a last odd byte is the upper half of a word.
  induction bytes using wordSum.induct with
  | case1 => simp [wordSum]
  | case2 high =>
    have small := high.toNat_lt
    simp only [wordSum, List.length_singleton]
    omega
  | case3 high low rest ih =>
    have small := high.toNat_lt
    have smallLow := low.toNat_lt
    simp only [wordSum, List.length_cons]
    omega

/-- A field of one word is summed as its value. -/
theorem wordSum_word {value : Nat} (word : value < 65536) (back : List UInt8) :
    wordSum (BigEndian.toBytes 2 value ++ back) = value + wordSum back := by
  -- The two bytes spell the value.
  have read := BigEndian.ofBytes_toBytes_of_lt (show value < 256 ^ 2 from word)
  rw [wordSum_append (by rw [BigEndian.length_toBytes])]
  simp only [BigEndian.toBytes, BigEndian.ofBytes, List.foldl_cons, List.foldl_nil] at read
  simp only [BigEndian.toBytes, wordSum]
  omega

/-- The 16-bit words of a list of bytes, with a last odd byte padded by zero. -/
def words : List UInt8 → List Nat
  | [] => []
  | [high] => [256 * high.toNat]
  | high :: low :: rest => (256 * high.toNat + low.toNat) :: words rest

/-- The one's complement sum of words: the carry out of each addition is added back. -/
def total (words : List Nat) : Nat := words.foldl (fun sum word => carry (sum + word)) 0

/-- The sum over the bytes is the sum of their words. -/
theorem sum_words (bytes : List UInt8) : (words bytes).sum = wordSum bytes := by
  -- Induction on pairs of bytes, as in both definitions.
  induction bytes using words.induct with
  | case1 => rfl
  | case2 high => rfl
  | case3 high low rest ih => rw [words, wordSum, List.sum_cons, ih]

/-- Every word fits 16 bits. -/
theorem words_le (bytes : List UInt8) : ∀ word ∈ words bytes, word ≤ 65535 := by
  -- Induction on pairs of bytes, as the words are formed.
  induction bytes using words.induct with
  | case1 => simp [words]
  | case2 high =>
    have small := high.toNat_lt
    intro word member
    rw [words, List.mem_singleton] at member
    omega
  | case3 high low rest ih =>
    have small := high.toNat_lt
    have smallLow := low.toNat_lt
    rw [words, List.forall_mem_cons]
    exact ⟨by omega, ih⟩

/-- A number of 16 bits stands for a sum: it has its residue, and is zero only if the sum is. -/
def Represents (word sum : Nat) : Prop :=
  word ≤ 65535 ∧ word % 65535 = sum % 65535 ∧ (word = 0 ↔ sum = 0)

/-- The one's complement sum of words stands for their sum. -/
theorem represents_total {words : List Nat} (small : ∀ word ∈ words, word ≤ 65535) :
    Represents (total words) words.sum := by
  -- The sum so far is any number of 16 bits, so the induction starts from all of them.
  have along : ∀ start sum, Represents start sum →
      Represents (words.foldl (fun sum word => carry (sum + word)) start) (sum + words.sum) := by
    induction words with
    | nil => exact fun start sum held => held
    | cons word words ih =>
      intro start sum held
      obtain ⟨first, rest⟩ := List.forall_mem_cons.mp small
      rw [List.foldl_cons, List.sum_cons, ← Nat.add_assoc]
      apply ih rest
      -- One addition with its carry keeps the residue, and two words carry at most once.
      unfold Represents carry at *
      omega
  have whole := along 0 0 (by simp [Represents])
  rwa [Nat.zero_add] at whole

/-- One byte counts for its value, or for 256 times its value, whatever the others are. -/
theorem exists_wordSum_byte (front back : List UInt8) :
    ∃ rest weight, (weight = 1 ∨ weight = 256) ∧
      ∀ byte : UInt8, wordSum (front ++ byte :: back) = rest + weight * byte.toNat := by
  -- The bytes in front are taken in pairs, so the byte is the high or the low one of its word.
  induction front using wordSum.induct with
  | case1 =>
    -- The byte is the high one of its word.
    cases back with
    | nil => exact ⟨0, 256, .inr rfl, fun byte => by simp [wordSum]⟩
    | cons low back =>
      refine ⟨low.toNat + wordSum back, 256, .inr rfl, fun byte => ?_⟩
      rw [List.nil_append, wordSum]
      omega
  | case2 high =>
    -- The byte is the low one of its word.
    refine ⟨256 * high.toNat + wordSum back, 1, .inl rfl, fun byte => ?_⟩
    rw [List.singleton_append, wordSum]
    omega
  | case3 high low front ih =>
    -- A whole word is in front.
    obtain ⟨rest, weight, known, counted⟩ := ih
    refine ⟨256 * high.toNat + low.toNat + rest, weight, known, fun byte => ?_⟩
    rw [List.cons_append, List.cons_append, wordSum, counted byte]
    omega

/-- Two sums that differ in one byte cannot both verify. -/
theorem not_verifies_of_changed {front back : List UInt8} {byte changed : UInt8} {initial : Nat}
    (verifies : Verifies (initial + wordSum (front ++ byte :: back))) (differs : changed ≠ byte) :
    ¬ Verifies (initial + wordSum (front ++ changed :: back)) := by
  -- The sums differ by less than 65535, so only one of them can be a multiple of it.
  obtain ⟨rest, weight, known, counted⟩ := exists_wordSum_byte front back
  have other : changed.toNat ≠ byte.toNat := fun same => differs (UInt8.toNat_inj.mp same)
  have small := byte.toNat_lt
  have smallChanged := changed.toNat_lt
  rw [counted] at verifies ⊢
  unfold Verifies at *
  rcases known with rfl | rfl
  · omega
  · omega

end Sponge.OnesComplement
