import Sponge.Tcp.WrappingIntegers

/-! What the unwrapping computes near any checkpoint, and the checkpoints that its loop never
passes. -/

namespace Sponge

/-- An absolute number that wraps to a given one, as close to the checkpoint as any other. -/
structure Closest (n isn : WrappingInt32) (checkpoint r : Nat) : Prop where
  /-- It is a 64-bit number. -/
  word : r < 2 ^ 64
  /-- It wraps to the given number. -/
  wraps : wrap r isn = n
  /-- No other number that does so is closer. -/
  least : ∀ other < 2 ^ 64, wrap other isn = n →
    Nat.dist r checkpoint ≤ Nat.dist other checkpoint
  /-- Of two that are equally close, it is the smaller one. -/
  tie : ∀ other < 2 ^ 64, wrap other isn = n →
    Nat.dist other checkpoint = Nat.dist r checkpoint → r ≤ other

/-- The numbers that wrap to a given one are those with its offset as residue. -/
theorem wrap_eq_iff_offsetFrom {n isn : WrappingInt32} {r : Nat} :
    wrap r isn = n ↔ r % 2 ^ 32 = offsetFrom n isn := by
  constructor
  · rintro rfl
    rw [offsetFrom_wrap]
  · intro residue
    -- Two sequence numbers with the same offset are the same number.
    have raw : (wrap r isn).rawValue.toNat = n.rawValue.toNat := by
      have isnWord := isn.rawValue.toNat_lt
      have nWord := n.rawValue.toNat_lt
      rw [wrap_toNat]
      simp only [offsetFrom] at residue
      omega
    exact WrappingInt32.ext (UInt32.toNat_inj.mp raw)

/-- A candidate less than half a turn away, or half a turn below, is the closest one. -/
theorem Closest.of_near {n isn : WrappingInt32} {checkpoint r : Nat} (word : r < 2 ^ 64)
    (residue : r % 2 ^ 32 = offsetFrom n isn) (below : checkpoint ≤ r + 2 ^ 31)
    (above : r < checkpoint + 2 ^ 31) : Closest n isn checkpoint r where
  word := word
  wraps := wrap_eq_iff_offsetFrom.mpr residue
  least := by
    intro other _ wraps
    -- Another candidate is at least one turn away from this one.
    have congruent := wrap_eq_iff_offsetFrom.mp wraps
    simp only [Nat.dist]
    omega
  tie := by
    intro other _ wraps
    have congruent := wrap_eq_iff_offsetFrom.mp wraps
    simp only [Nat.dist]
    omega

/-- A candidate of the first turn that is already past the checkpoint may be far, but is closest. -/
theorem Closest.of_first {n isn : WrappingInt32} {checkpoint : Nat}
    (ahead : checkpoint ≤ offsetFrom n isn) :
    Closest n isn checkpoint (offsetFrom n isn) where
  word := Nat.lt_trans (offsetFrom_lt n isn) (by decide)
  wraps := wrap_eq_iff_offsetFrom.mpr (Nat.mod_eq_of_lt (offsetFrom_lt n isn))
  least := by
    intro other _ wraps
    -- Every other candidate is still further up.
    have congruent := wrap_eq_iff_offsetFrom.mp wraps
    have small := offsetFrom_lt n isn
    simp only [Nat.dist]
    omega
  tie := by
    -- For the same reason no other one is as close.
    intro other _ wraps
    have congruent := wrap_eq_iff_offsetFrom.mp wraps
    have small := offsetFrom_lt n isn
    simp only [Nat.dist]
    omega

/-- There is a last candidate that is not past the checkpoint. -/
theorem exists_last_candidate {checkpoint abs : Nat} (behind : abs ≤ checkpoint)
    (small : abs < 2 ^ 32) :
    ∃ low, low % 2 ^ 32 = abs ∧ low ≤ checkpoint ∧ checkpoint < low + 2 ^ 32 :=
  ⟨checkpoint - (checkpoint - abs) % 2 ^ 32, by omega, by omega, by omega⟩

/-- Away from the top of the range, the unwrapping finds the closest number. -/
theorem unwrap_finds (n isn : WrappingInt32) {checkpoint : Nat}
    (room : checkpoint + 2 ^ 32 < 2 ^ 64) :
    ∃ r, unwrap n isn checkpoint = .ok r ∧ Closest n isn checkpoint r := by
  have small := offsetFrom_lt n isn
  rw [unwrap_eq]
  rcases Nat.le_total checkpoint (offsetFrom n isn) with ahead | behind
  · exact ⟨_, nearest_ahead ahead, .of_first ahead⟩
  · -- The candidates around the checkpoint are compared, and a tie goes to the smaller one.
    obtain ⟨low, residue, reached, passed⟩ := exists_last_candidate behind small
    refine ⟨_, nearest_between residue reached passed (by omega), ?_⟩
    split
    · exact .of_near (by omega) residue (by omega) (by omega)
    · exact .of_near (by omega) (by omega) (by omega) (by omega)

/-- The closest number is the only candidate within half a turn. -/
theorem Closest.eq_of_near {n isn : WrappingInt32} {checkpoint r x : Nat}
    (closest : Closest n isn checkpoint r) (word : x < 2 ^ 64) (wraps : wrap x isn = n)
    (near : Nat.dist x checkpoint < 2 ^ 31) : r = x := by
  -- Two candidates differ by whole turns, and both are less than half a turn away.
  have close := closest.least x word wraps
  have same := wrap_eq_iff.mp (closest.wraps.trans wraps.symm)
  simp only [Nat.dist] at close near
  omega

/-- Away from the top of the range, the unwrapping returns the closest number, and so it returns
every number within half a turn of the checkpoint from its wrapped form. -/
theorem unwrap_closest (isn : WrappingInt32) {checkpoint : Nat}
    (room : checkpoint + 2 ^ 32 < 2 ^ 64) :
    (∀ n, ∃ r, unwrap n isn checkpoint = .ok r ∧ Closest n isn checkpoint r) ∧
    ∀ x, Nat.dist x checkpoint < 2 ^ 31 → unwrap (wrap x isn) isn checkpoint = .ok x := by
  refine ⟨fun n => unwrap_finds n isn room, ?_⟩
  intro x near
  -- Within half a turn there is only one candidate.
  obtain ⟨r, found, closest⟩ := unwrap_finds (wrap x isn) isn room
  have word : x < 2 ^ 64 := by
    simp only [Nat.dist] at near
    omega
  rw [found, closest.eq_of_near word rfl near]

/-- Just into the second turn, the number that starts the turn is found again. -/
theorem unwrap_closest_second_turn :
    2 ^ 32 + 7 + 2 ^ 32 < 2 ^ 64 ∧
    (∃ r, unwrap ⟨5⟩ ⟨5⟩ (2 ^ 32 + 7) = .ok r ∧ Closest ⟨5⟩ ⟨5⟩ (2 ^ 32 + 7) r) ∧
    unwrap (wrap (2 ^ 32) ⟨5⟩) ⟨5⟩ (2 ^ 32 + 7) = .ok (2 ^ 32) :=
  ⟨by decide, (unwrap_closest ⟨5⟩ (by decide)).1 ⟨5⟩,
    (unwrap_closest ⟨5⟩ (by decide)).2 (2 ^ 32) (by decide)⟩

/-- Both loops of the unwrapping end, the second one where it is reached at all. -/
def LoopsEnd (n isn : WrappingInt32) (checkpoint : Nat) : Prop :=
  ∃ turns lifted, whileLoop (liftAboveIsn isn.rawValue.toNat) turns n.rawValue.toNat = some lifted ∧
    let abs := sub64 lifted isn.rawValue.toNat
    checkpoint ≤ abs ∨
      ∃ turns past, whileLoop (passCheckpoint checkpoint) turns
        (add64 abs (big * (sub64 checkpoint abs / big) % 2 ^ 64)) = some past

/-- The first loop always ends, and leaves the offset to the second one. -/
theorem loopsEnd_iff_second {n isn : WrappingInt32} {checkpoint : Nat} :
    LoopsEnd n isn checkpoint ↔ checkpoint ≤ offsetFrom n isn ∨
      ∃ turns past, whileLoop (passCheckpoint checkpoint) turns
        (add64 (offsetFrom n isn) (big * (sub64 checkpoint (offsetFrom n isn) / big) % 2 ^ 64)) =
          some past := by
  have isnWord := isn.rawValue.toNat_lt
  have nWord := n.rawValue.toNat_lt
  constructor
  · rintro ⟨turns, lifted, first, second⟩
    -- More fuel than it needs does not change what the first loop returns.
    have same := whileLoop_unique first
      (liftAboveIsn_loop isnWord nWord (Nat.le_refl 2))
    rw [same, sub64_lifted] at second
    exact second
  · intro second
    refine ⟨2, _, liftAboveIsn_loop isnWord nWord (Nat.le_refl 2), ?_⟩
    rw [sub64_lifted]
    exact second

/-- The loops of the unwrapping end exactly when a candidate is left above the checkpoint. -/
theorem loopsEnd_iff {n isn : WrappingInt32} {checkpoint : Nat} (word : checkpoint < 2 ^ 64) :
    LoopsEnd n isn checkpoint ↔ checkpoint < 2 ^ 64 - 2 ^ 32 + offsetFrom n isn := by
  have small := offsetFrom_lt n isn
  rw [loopsEnd_iff_second]
  constructor
  · rintro (ahead | ⟨turns, past, ended⟩)
    · omega
    · -- From the last candidate of the range the second loop would not have ended.
      by_contra none
      have behind := Nat.le_of_not_lt none
      rw [add64_multiple (show (2 ^ 64 - 2 ^ 32 + offsetFrom n isn) % 2 ^ 32 = _ by omega) word
        behind (by omega), passCheckpoint_endless word small behind] at ended
      simp at ended
  · intro left
    rcases Nat.le_total checkpoint (offsetFrom n isn) with ahead | behind
    · exact .inl ahead
    · -- One turn from the last candidate behind the checkpoint stays below the top.
      obtain ⟨low, residue, reached, passed⟩ := exists_last_candidate behind small
      refine .inr ⟨2, low + 2 ^ 32, ?_⟩
      rw [add64_multiple residue word reached passed]
      exact passCheckpoint_loop reached passed (by omega) (Nat.le_refl 2)

/-- The bound on the loops of the model is never what stops them. -/
theorem unwrap_returns_iff {n isn : WrappingInt32} {checkpoint : Nat} (word : checkpoint < 2 ^ 64) :
    (∃ r, unwrap n isn checkpoint = .ok r) ↔
      checkpoint < 2 ^ 64 - 2 ^ 32 + offsetFrom n isn := by
  have small := offsetFrom_lt n isn
  rw [unwrap_eq]
  constructor
  · -- Past the last candidate of 64 bits, the second loop has no end.
    rintro ⟨r, returned⟩
    by_contra none
    rw [nearest_endless word small (Nat.le_of_not_lt none)] at returned
    simp at returned
  · intro left
    -- Otherwise the loops stop around the checkpoint.
    rcases Nat.le_total checkpoint (offsetFrom n isn) with ahead | behind
    · exact ⟨_, nearest_ahead ahead⟩
    · obtain ⟨low, residue, reached, passed⟩ := exists_last_candidate behind small
      exact ⟨_, nearest_between residue reached passed (by omega)⟩

/-- The loops of the unwrapping end, and it returns, exactly when a candidate is left above the
checkpoint and below the top of the 64-bit range. -/
theorem unwrap_ends_iff (n isn : WrappingInt32) {checkpoint : Nat} (word : checkpoint < 2 ^ 64) :
    (LoopsEnd n isn checkpoint ↔ checkpoint < 2 ^ 64 - 2 ^ 32 + offsetFrom n isn) ∧
    ((∃ r, unwrap n isn checkpoint = .ok r) ↔
      checkpoint < 2 ^ 64 - 2 ^ 32 + offsetFrom n isn) :=
  ⟨loopsEnd_iff word, unwrap_returns_iff word⟩

/-- The number before the initial one is read with every checkpoint but the last. -/
theorem unwrap_ends_iff_highest :
    2 ^ 64 - 2 < 2 ^ 64 ∧ LoopsEnd ⟨0⟩ ⟨1⟩ (2 ^ 64 - 2) :=
  ⟨by decide, (unwrap_ends_iff ⟨0⟩ ⟨1⟩ (by decide)).1.mpr (by decide)⟩

/-- With a counter that has just turned negative as checkpoint, the initial number is never read. -/
theorem initial_never_read : ¬ LoopsEnd ⟨0⟩ ⟨0⟩ (2 ^ 64 - 2 ^ 31) := by
  rw [loopsEnd_iff (by decide)]
  decide

end Sponge
