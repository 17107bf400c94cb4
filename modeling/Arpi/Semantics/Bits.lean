import Mathlib.Data.BitVec

/-!
# Masked words

Flags live in fields of a word: a mask selects a field, and two words agree on a
field when masking them gives the same. The lemmas are about words of any width.
-/

namespace Arpi.Semantics.Bits

variable {width : Nat} {word other mask field : BitVec width}

/-- A bit of a mask that fits into `bound` bits is below `bound`. -/
theorem getLsbD_of_lt_two_pow {bound : Nat} (fits : mask.toNat < 2 ^ bound) {index : Nat}
    (above : bound ≤ index) : mask.getLsbD index = false := by
  rw [← BitVec.testBit_toNat]
  exact Nat.testBit_lt_two_pow (fits.trans_le (Nat.pow_le_pow_right (by decide) above))

/-- Cutting a word to `bound` bits and sign-extending it again keeps every field
that lies below the cut. -/
theorem signExtend_setWidth_and (bound : Nat) (fits : mask.toNat < 2 ^ bound)
    (word : BitVec width) :
    (word.setWidth bound).signExtend width &&& mask = word &&& mask := by
  apply BitVec.eq_of_getLsbD_eq
  intro index inside
  rw [BitVec.getLsbD_and, BitVec.getLsbD_and]
  by_cases below : index < bound
  · have same : ((word.setWidth bound).signExtend width).getLsbD index =
        word.getLsbD index := by
      simp only [BitVec.getLsbD_signExtend, BitVec.getLsbD_setWidth, inside, below, decide_true,
        Bool.true_and, if_true]
    rw [same]
  · rw [getLsbD_of_lt_two_pow fits (by omega), Bool.and_false, Bool.and_false]

/-- Sign-extending a word and cutting it again gives the word back. -/
theorem setWidth_signExtend {bound : Nat} (wider : width ≤ bound) (word : BitVec width) :
    (word.signExtend bound).setWidth width = word := by
  apply BitVec.eq_of_getLsbD_eq
  intro index inside
  have below : index < bound := by omega
  simp only [BitVec.getLsbD_setWidth, BitVec.getLsbD_signExtend, inside, below, decide_true,
    Bool.true_and, if_true]

/-- A field that lies below the cut is zero exactly when its cut is. -/
theorem setWidth_and_eq_zero {bound : Nat} (fits : mask.toNat < 2 ^ bound) :
    (word &&& mask).setWidth bound = 0 ↔ word &&& mask = 0 := by
  have small : (word &&& mask).toNat < 2 ^ bound := by
    rw [BitVec.toNat_and]
    exact Nat.and_lt_two_pow _ fits
  constructor
  · intro cut
    have value := congrArg BitVec.toNat cut
    rw [BitVec.toNat_setWidth, Nat.mod_eq_of_lt small] at value
    apply BitVec.eq_of_toNat_eq
    simpa using value
  · intro zero
    rw [zero]
    simp

/-- A field of a union is the union of the fields. -/
theorem or_and (word other mask : BitVec width) :
    (word ||| other) &&& mask = word &&& mask ||| other &&& mask := by
  simp only [BitVec.and_comm _ mask, BitVec.and_or_distrib_left]

/-- A field is zero in a union exactly when it is zero in both parts. -/
theorem or_and_eq_zero :
    (word ||| other) &&& mask = 0 ↔ word &&& mask = 0 ∧ other &&& mask = 0 := by
  rw [or_and]
  exact BitVec.or_eq_zero_iff

/-- A field of a part is a field of the whole. -/
theorem and_eq_zero_of_subset (subset : word &&& other = other) (zero : word &&& mask = 0) :
    other &&& mask = 0 := by
  rw [← subset, BitVec.and_assoc, BitVec.and_comm other mask, ← BitVec.and_assoc, zero]
  simp

/-- Clearing bits outside a field keeps the field. -/
theorem and_not_and_of_disjoint (disjoint : field &&& mask = 0) (word : BitVec width) :
    (word &&& ~~~mask) &&& field = word &&& field := by
  have kept : ~~~mask &&& field = field := by
    apply BitVec.eq_of_getLsbD_eq
    intro index inside
    have bit := congrArg (fun value => BitVec.getLsbD value index) disjoint
    simp only [BitVec.getLsbD_and, BitVec.getLsbD_not, inside, decide_true, Bool.true_and,
      BitVec.ofNat_eq_ofNat, BitVec.getLsbD_zero] at bit ⊢
    revert bit
    cases mask.getLsbD index <;> cases field.getLsbD index <;> decide
  rw [BitVec.and_assoc, kept]

/-- Clearing the bits of a field makes it zero. -/
theorem and_not_and_of_subset (subset : mask &&& field = field) (word : BitVec width) :
    (word &&& ~~~mask) &&& field = 0 := by
  rw [← subset, BitVec.and_assoc, ← BitVec.and_assoc (~~~mask), BitVec.and_comm (~~~mask),
    BitVec.and_not_self]
  simp

/-- A part of a field can be read off the field. -/
theorem and_of_subset (mask : BitVec width) (subset : mask &&& field = field)
    (word : BitVec width) : word &&& field = (word &&& mask) &&& field := by
  rw [BitVec.and_assoc, subset]

/-! ## Single bits -/

section SingleBits

variable {index : Nat}

/-- A test of one bit. -/
theorem and_twoPow_ne_zero (inside : index < width) :
    word &&& BitVec.twoPow width index ≠ 0 ↔ word.getLsbD index = true := by
  have single : (BitVec.twoPow width index).getLsbD index = true := by
    simp [inside]
  rw [BitVec.and_twoPow]
  cases word.getLsbD index with
  | false => simp
  | true =>
      refine iff_of_true (fun zero => ?_) rfl
      rw [if_pos rfl] at zero
      simp [zero] at single

/-- A test whether one bit is clear. -/
theorem and_twoPow_ne_twoPow (inside : index < width) :
    word &&& BitVec.twoPow width index ≠ BitVec.twoPow width index ↔
      word.getLsbD index = false := by
  have single : (BitVec.twoPow width index).getLsbD index = true := by
    simp [inside]
  rw [BitVec.and_twoPow]
  cases word.getLsbD index with
  | true => simp
  | false =>
      refine iff_of_true (fun zero => ?_) rfl
      rw [if_neg Bool.false_ne_true] at zero
      simp [← zero] at single

/-- Setting one bit sets this bit and no other. -/
theorem getLsbD_or_twoPow (inside : index < width) (other : Nat) :
    (word ||| BitVec.twoPow width index).getLsbD other =
      (word.getLsbD other || decide (index = other)) := by
  simp [inside]

end SingleBits

/-- Differences of numbers are differences of words. -/
theorem ofInt_sub (left right : Int) :
    BitVec.ofInt width (left - right) = .ofInt width left - .ofInt width right := by
  rw [Int.sub_eq_add_neg, BitVec.ofInt_add, BitVec.ofInt_neg, BitVec.sub_eq_add_neg]

/-- A number that has a sign of its own in the word is zero exactly when the word is. -/
theorem ofInt_eq_zero_iff (positive : 0 < width) {value : Int} (lower : -2 ^ (width - 1) ≤ value)
    (upper : value < 2 ^ (width - 1)) : BitVec.ofInt width value = 0 ↔ value = 0 := by
  rw [← BitVec.toInt_inj, BitVec.toInt_ofInt_eq_self positive lower upper]
  exact Eq.congr_right BitVec.toInt_zero

/-- It is positive exactly when the word is. -/
theorem zero_slt_ofInt_iff (positive : 0 < width) {value : Int} (lower : -2 ^ (width - 1) ≤ value)
    (upper : value < 2 ^ (width - 1)) :
    (0 : BitVec width).slt (.ofInt width value) = true ↔ 0 < value := by
  rw [BitVec.slt_iff_toInt_lt, BitVec.toInt_ofInt_eq_self positive lower upper]
  exact iff_of_eq (congrArg (· < value) BitVec.toInt_zero)

/-- Cutting the word of a number gives the shorter word of it. -/
theorem setWidth_ofInt {bound : Nat} (shorter : bound ≤ width) (value : Int) :
    (BitVec.ofInt width value).setWidth bound = .ofInt bound value := by
  have power : ((2 ^ bound : Nat) : Int) ∣ ((2 ^ width : Nat) : Int) :=
    Int.natCast_dvd_natCast.mpr (Nat.pow_dvd_pow 2 shorter)
  have nonneg : 0 ≤ value % ((2 ^ width : Nat) : Int) :=
    Int.emod_nonneg _ (Int.natCast_ne_zero.mpr (Nat.two_pow_pos width).ne')
  rw [← BitVec.toNat_inj, BitVec.toNat_setWidth, BitVec.toNat_ofInt, BitVec.toNat_ofInt,
    ← Int.emod_emod_of_dvd value power, Int.toNat_emod nonneg (Int.natCast_nonneg _),
    Int.toNat_natCast]

end Arpi.Semantics.Bits
