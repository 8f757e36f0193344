/-!
# Words and their bytes

A word is the disjunction of its bytes, each shifted back to its place. The
two widths are those of the little-endian fields of a byte protocol.
-/

namespace Daft.Logic

/-- A 16-bit word from its two bytes. -/
theorem word16_of_bytes (v : BitVec 16) :
    (v.setWidth 8).setWidth 16 ||| ((v >>> 8).setWidth 8).setWidth 16 <<< 8 = v := by
  apply BitVec.eq_of_getLsbD_eq
  intro i bound
  simp only [BitVec.getLsbD_or, BitVec.getLsbD_setWidth, BitVec.getLsbD_shiftLeft,
    BitVec.getLsbD_ushiftRight]
  by_cases low : i < 8
  · simp [low, bound]
  · simp [low, bound, show i - 8 < 8 by omega, show 8 + (i - 8) = i by omega,
      show i - 8 < 16 by omega]

/-- The two bytes of a 16-bit word made of them. -/
theorem bytes_of_word16 (low high : BitVec 8) :
    (low.setWidth 16 ||| high.setWidth 16 <<< 8).setWidth 8 = low ∧
      ((low.setWidth 16 ||| high.setWidth 16 <<< 8) >>> 8).setWidth 8 = high := by
  constructor
  · apply BitVec.eq_of_getLsbD_eq
    intro i bound
    simp [bound]
  · apply BitVec.eq_of_getLsbD_eq
    intro i bound
    simp [bound, show 8 + i < 16 by omega, show ¬ 8 + i < 8 by omega, show i < 16 by omega]

/-- A 32-bit word from its four bytes. -/
theorem word32_of_bytes (v : BitVec 32) :
    (v.setWidth 8).setWidth 32 ||| ((v >>> 8).setWidth 8).setWidth 32 <<< 8 |||
      ((v >>> 16).setWidth 8).setWidth 32 <<< 16 |||
      ((v >>> 24).setWidth 8).setWidth 32 <<< 24 = v := by
  apply BitVec.eq_of_getLsbD_eq
  intro i bound
  simp only [BitVec.getLsbD_or, BitVec.getLsbD_setWidth, BitVec.getLsbD_shiftLeft,
    BitVec.getLsbD_ushiftRight]
  have byte : i < 8 ∨ (8 ≤ i ∧ i < 16) ∨ (16 ≤ i ∧ i < 24) ∨ 24 ≤ i := by omega
  rcases byte with _ | ⟨_, _⟩ | ⟨_, _⟩ | _ <;> grind

end Daft.Logic
