import Mathlib.Algebra.Group.Nat.Defs

/-!
# Masks and bit fields

A mask that covers one run of bits picks a field out of a word. As a number the picked field is a
quotient and a remainder, so that statements about fields become arithmetic; and two fields that do
not overlap may be compared with their values in one go.

Main statements: `toNat_and_field` (a field as a number), `and_or_eq_iff` (two fields at once).
-/

namespace PowerBridge.Word

/-! ## A field as a number -/

theorem nat_and_field (n shift width : Nat) :
    n &&& ((2 ^ width - 1) <<< shift) = n / 2 ^ shift % 2 ^ width * 2 ^ shift := by
  apply Nat.eq_of_testBit_eq
  intro i
  simp only [Nat.testBit_and, Nat.testBit_shiftLeft, Nat.testBit_two_pow_sub_one,
    Nat.testBit_mul_two_pow, Nat.testBit_mod_two_pow, Nat.testBit_div_two_pow]
  -- below the field the mask has no bits, and above it the remainder has none
  by_cases inside : shift ≤ i
  · have back : i - shift + shift = i := by omega
    simp only [inside, back, decide_true, Bool.true_and, Bool.and_comm]
  · simp only [inside, decide_false, Bool.false_and, Bool.and_false]

/-- The field of `width` bits from bit `shift` on, left where it is. -/
theorem toNat_and_field (word mask : UInt32) (shift width : Nat)
    (covers : mask.toNat = (2 ^ width - 1) <<< shift) :
    (word &&& mask).toNat = word.toNat / 2 ^ shift % 2 ^ width * 2 ^ shift := by
  rw [UInt32.toNat_and, covers, nat_and_field]

/-- A field is zero if it is as a number. -/
theorem and_eq_zero_iff_field (word mask : UInt32) (shift width : Nat)
    (covers : mask.toNat = (2 ^ width - 1) <<< shift) :
    word &&& mask = 0 ↔ word.toNat / 2 ^ shift % 2 ^ width = 0 := by
  rw [← UInt32.toNat_inj, toNat_and_field word mask shift width covers, UInt32.toNat_zero,
    Nat.mul_eq_zero, or_iff_left (Nat.ne_of_gt (Nat.two_pow_pos shift))]

/-- The low byte of a word. -/
theorem and_low_byte (word : UInt32) : word &&& 0xff = word % 256 := by
  apply UInt32.toNat_inj.1
  have field := toNat_and_field word 0xff 0 8 rfl
  rw [field, UInt32.toNat_mod]
  simp

/-! ## Fields together -/

theorem and_or_distrib (word a b : UInt32) : word &&& (a ||| b) = (word &&& a) ||| (word &&& b) :=
  UInt32.toBitVec_inj.1 BitVec.and_or_distrib_left

theorem or_and_distrib (a b mask : UInt32) : (a ||| b) &&& mask = (a &&& mask) ||| (b &&& mask) :=
  UInt32.toBitVec_inj.1 BitVec.and_or_distrib_right

/-- Two fields have given values if their union has the union of these values. -/
theorem and_or_eq_iff (word mask₁ mask₂ value₁ value₂ : UInt32)
    (within₁ : value₁ &&& mask₁ = value₁) (within₂ : value₂ &&& mask₂ = value₂)
    (apart : mask₁ &&& mask₂ = 0) :
    word &&& (mask₁ ||| mask₂) = value₁ ||| value₂ ↔
      word &&& mask₁ = value₁ ∧ word &&& mask₂ = value₂ := by
  constructor
  · intro both
    -- cutting the equation down to one mask leaves nothing of the other field
    have cut₁ : (value₁ ||| value₂) &&& mask₁ = value₁ := by
      rw [or_and_distrib, within₁, ← within₂, UInt32.and_assoc, UInt32.and_comm mask₂, apart,
        UInt32.and_zero, UInt32.or_zero]
    have cut₂ : (value₁ ||| value₂) &&& mask₂ = value₂ := by
      rw [or_and_distrib, within₂, ← within₁, UInt32.and_assoc, apart, UInt32.and_zero,
        UInt32.zero_or]
    -- neither mask takes anything from itself
    have keep₁ : (mask₁ ||| mask₂) &&& mask₁ = mask₁ := by
      rw [or_and_distrib, UInt32.and_self, UInt32.and_comm mask₂, apart, UInt32.or_zero]
    have keep₂ : (mask₁ ||| mask₂) &&& mask₂ = mask₂ := by
      rw [or_and_distrib, UInt32.and_self, apart, UInt32.zero_or]
    constructor
    · rw [← cut₁, ← both, UInt32.and_assoc, keep₁]
    · rw [← cut₂, ← both, UInt32.and_assoc, keep₂]
  · rintro ⟨h₁, h₂⟩
    rw [and_or_distrib, h₁, h₂]

/-! ## Bits that are set -/

theorem or_and_absorb (mask word : UInt32) : mask ||| (word &&& mask) = mask := by
  apply UInt32.toBitVec_inj.1
  ext i
  simp

/-- To set bits that are set changes nothing. -/
theorem or_eq_of_and_eq {bits word : UInt32} (set : word &&& bits = bits) : bits ||| word = word :=
  calc bits ||| word
      = (word &&& bits) ||| word := by rw [set]
    _ = word ||| (bits &&& word) := by rw [UInt32.or_comm, UInt32.and_comm]
    _ = word := or_and_absorb word bits

/-- Setting the one or the other of two fields comes to the same if both are set already. -/
theorem or_eq_or_iff {a b : UInt32} (apart : a &&& b = 0) (word : UInt32) :
    a ||| word = b ||| word ↔ word &&& a = a ∧ word &&& b = b := by
  constructor
  · intro same
    constructor
    · -- the one field is not set by setting the other
      have cut : (b ||| word) &&& a = a := by
        rw [← same, or_and_distrib, UInt32.and_self, or_and_absorb]
      rwa [or_and_distrib, UInt32.and_comm b, apart, UInt32.zero_or] at cut
    · have cut : (a ||| word) &&& b = b := by
        rw [same, or_and_distrib, UInt32.and_self, or_and_absorb]
      rwa [or_and_distrib, apart, UInt32.zero_or] at cut
  · rintro ⟨hasA, hasB⟩
    rw [or_eq_of_and_eq hasA, or_eq_of_and_eq hasB]

end PowerBridge.Word
