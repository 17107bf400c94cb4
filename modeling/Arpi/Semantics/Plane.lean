import Mathlib.Algebra.Order.Ring.Int
import Mathlib.Data.Int.ConditionallyCompleteOrder
import Mathlib.Order.Monotone.Basic
import Mathlib.Tactic.Linarith

/-!
# Sample grids inside a region

A plane of an image is a grid of samples, each at an address. `withinRegion_iff`
reduces "every sample lies in the region" to the two extreme corners whenever the
address grows with the row and with the column. A `Plane` is the grid of a start, a
row stride and a sample step; with a negative stride its second row already lies
before the first. Samples of one plane are apart when its rows are no longer than its
stride, those of two planes when one ends before the other or a divisor separates them.
-/

namespace Arpi.Semantics

universe u

section Grid

variable {α : Type u} [Preorder α]

/-- Every sample of a `rows` by `columns` grid lies in `[lower, upper)`. -/
def WithinRegion (sample : Nat → Nat → α) (rows columns : Nat) (lower upper : α) : Prop :=
  ∀ row, row < rows → ∀ column, column < columns →
    lower ≤ sample row column ∧ sample row column < upper

variable {sample : Nat → Nat → α} {rows columns : Nat} {lower upper : α}

/-- A grid without rows or without columns is within every region. -/
theorem withinRegion_of_empty (empty : rows = 0 ∨ columns = 0) :
    WithinRegion sample rows columns lower upper := by
  intro row rowBound column columnBound
  omega

/-- A grid that grows both ways is within a region exactly when its corners are. -/
theorem withinRegion_iff (growsDown : ∀ column, Monotone fun row => sample row column)
    (growsRight : ∀ row, Monotone (sample row)) :
    WithinRegion sample rows columns lower upper ↔
      rows = 0 ∨ columns = 0 ∨
        lower ≤ sample 0 0 ∧ sample (rows - 1) (columns - 1) < upper := by
  constructor
  · intro within
    by_cases empty : rows = 0 ∨ columns = 0
    · rcases empty with noRow | noColumn
      · exact .inl noRow
      · exact .inr (.inl noColumn)
    · have first := within 0 (by omega) 0 (by omega)
      have last := within (rows - 1) (by omega) (columns - 1) (by omega)
      exact .inr (.inr ⟨first.1, last.2⟩)
  · rintro (noRow | noColumn | ⟨first, last⟩)
    · exact withinRegion_of_empty (.inl noRow)
    · exact withinRegion_of_empty (.inr noColumn)
    · intro row rowBound column columnBound
      have fromFirst : sample 0 0 ≤ sample row column :=
        (growsRight 0 (Nat.zero_le column)).trans (growsDown column (Nat.zero_le row))
      have toLast : sample row column ≤ sample (rows - 1) (columns - 1) :=
        (growsRight row (show column ≤ columns - 1 by omega)).trans
          (growsDown (columns - 1) (show row ≤ rows - 1 by omega))
      exact ⟨first.trans fromFirst, toLast.trans_lt last⟩

/-- Samples before the region rule out that the grid is within it. -/
theorem not_withinRegion_of_before {row column : Nat} (rowBound : row < rows)
    (columnBound : column < columns) (before : ¬ lower ≤ sample row column) :
    ¬ WithinRegion sample rows columns lower upper :=
  fun within => before (within row rowBound column columnBound).1

/-- The samples of a grid are at different places. -/
def DistinctSamples {α : Type u} (sample : Nat → Nat → α) (rows columns : Nat) : Prop :=
  ∀ row column row' column', row < rows → column < columns → row' < rows → column' < columns →
    sample row column = sample row' column' → row = row' ∧ column = column'

/-- No sample of one grid is where a sample of the other is. -/
def ApartSamples {α : Type u} (sample : Nat → Nat → α) (rows columns : Nat)
    (sample' : Nat → Nat → α) (rows' columns' : Nat) : Prop :=
  ∀ row column row' column', row < rows → column < columns → row' < rows' → column' < columns' →
    sample row column ≠ sample' row' column'

/-- A grid that ends before another one starts is apart from it. -/
theorem WithinRegion.apart {sample' : Nat → Nat → α} {rows' columns' : Nat}
    (within : WithinRegion sample rows columns lower upper)
    (after : ∀ row column, upper ≤ sample' row column) :
    ApartSamples sample rows columns sample' rows' columns' := by
  intro row column row' column' rowBound columnBound _ _ same
  have before := (within row rowBound column columnBound).2
  rw [same] at before
  exact before.not_ge (after row' column')

end Grid

/-- A grid of samples `step` apart in rows `stride` apart. -/
structure Plane where
  start : Int
  stride : Int
  step : Int

namespace Plane

/-- The address of a sample. -/
def sample (plane : Plane) (row column : Nat) : Int :=
  plane.start + row * plane.stride + column * plane.step

variable {plane : Plane} {rows columns : Nat} {lower upper : Int}

theorem sample_growsDown (forward : 0 ≤ plane.stride) (column : Nat) :
    Monotone fun row => plane.sample row column := by
  intro row later order
  have scaled : (row : Int) * plane.stride ≤ later * plane.stride :=
    mul_le_mul_of_nonneg_right (by exact_mod_cast order) forward
  simp only [sample]
  omega

theorem sample_growsRight (forward : 0 ≤ plane.step) (row : Nat) :
    Monotone (plane.sample row) := by
  intro column later order
  have scaled : (column : Int) * plane.step ≤ later * plane.step :=
    mul_le_mul_of_nonneg_right (by exact_mod_cast order) forward
  simp only [sample]
  omega

/-- A plane laid out forwards from the start of the region or later is within the
region exactly when its last sample is before the end. -/
theorem within_iff (plane : Plane) (columns : Nat) (upper : Int)
    (rowsForward : rows ≤ 1 ∨ 0 ≤ plane.stride) (samplesForward : 0 ≤ plane.step)
    (after : lower ≤ plane.start) :
    WithinRegion plane.sample rows columns lower upper ↔
      rows = 0 ∨ columns = 0 ∨ plane.sample (rows - 1) (columns - 1) < upper := by
  have first : lower ≤ plane.sample 0 0 := by simpa [sample] using after
  rcases rowsForward with single | forward
  · let flat : Plane := { plane with stride := 0 }
    have same : ∀ column, plane.sample 0 column = flat.sample 0 column := by
      intro column
      simp [sample, flat]
    have level : WithinRegion flat.sample rows columns lower upper ↔
        WithinRegion plane.sample rows columns lower upper := by
      refine forall₂_congr fun row rowBound => ?_
      obtain rfl : row = 0 := by omega
      simp only [same]
    have forward : 0 ≤ flat.stride := Int.le_refl 0
    rw [← level, withinRegion_iff (sample_growsDown forward) (sample_growsRight samplesForward),
      show rows - 1 = 0 by omega, ← same, ← same]
    simp only [first, true_and]
  · rw [withinRegion_iff (sample_growsDown forward) (sample_growsRight samplesForward)]
    simp only [first, true_and]

/-- A plane laid out forwards starts with its first sample. -/
theorem start_le_sample (rowsForward : 0 ≤ plane.stride) (samplesForward : 0 ≤ plane.step)
    (row column : Nat) : plane.start ≤ plane.sample row column := by
  have down : 0 ≤ (row : Int) * plane.stride := Int.mul_nonneg (Int.natCast_nonneg row) rowsForward
  have right : 0 ≤ (column : Int) * plane.step :=
    Int.mul_nonneg (Int.natCast_nonneg column) samplesForward
  simp only [sample]
  omega

/-- A sample lies before the rows below it when a row is no longer than the stride. -/
theorem sample_lt_of_row_lt (samplesForward : 0 < plane.step)
    (fits : columns * plane.step < plane.stride + plane.step) {row column row' column' : Nat}
    (below : row < row') (columnBound : column < columns) :
    plane.sample row column < plane.sample row' column' := by
  have width : ((column : Int) + 1) * plane.step ≤ columns * plane.step :=
    mul_le_mul_of_nonneg_right (by exact_mod_cast columnBound) samplesForward.le
  have offset : 0 ≤ (column : Int) * plane.step :=
    Int.mul_nonneg (Int.natCast_nonneg column) samplesForward.le
  have offset' : 0 ≤ (column' : Int) * plane.step :=
    Int.mul_nonneg (Int.natCast_nonneg column') samplesForward.le
  rw [Int.add_mul, Int.one_mul] at width
  have down : ((row : Int) + 1) * plane.stride ≤ row' * plane.stride :=
    mul_le_mul_of_nonneg_right (by exact_mod_cast below) (by omega)
  rw [Int.add_mul, Int.one_mul] at down
  simp only [sample]
  omega

/-- Rows that are no longer than the stride keep the samples apart. -/
theorem distinctSamples (samplesForward : 0 < plane.step)
    (fits : columns * plane.step < plane.stride + plane.step) :
    DistinctSamples plane.sample rows columns := by
  intro row column row' column' _ columnBound _ columnBound' same
  rcases Nat.lt_trichotomy row row' with below | level | above
  · exact absurd same (sample_lt_of_row_lt samplesForward fits below columnBound).ne
  · subst level
    simp only [sample, add_right_inj] at same
    exact ⟨rfl, by exact_mod_cast Int.eq_of_mul_eq_mul_right samplesForward.ne' same⟩
  · exact absurd same.symm (sample_lt_of_row_lt samplesForward fits above columnBound').ne

/-- Planes whose strides and steps have a common divisor are apart when their starts differ
modulo it. -/
theorem apart_of_dvd {other : Plane} {modulus : Int} (stride : modulus ∣ plane.stride)
    (step : modulus ∣ plane.step) (stride' : modulus ∣ other.stride)
    (step' : modulus ∣ other.step) (different : ¬ modulus ∣ other.start - plane.start)
    (rows columns rows' columns' : Nat) :
    ApartSamples plane.sample rows columns other.sample rows' columns' := by
  intro row column row' column' _ _ _ _ same
  apply different
  have shift : other.start - plane.start = row * plane.stride + column * plane.step -
      (row' * other.stride + column' * other.step) := by
    simp only [sample] at same
    omega
  rw [shift]
  exact Int.dvd_sub
    (Int.dvd_add (Dvd.dvd.mul_left stride _) (Dvd.dvd.mul_left step _))
    (Int.dvd_add (Dvd.dvd.mul_left stride' _) (Dvd.dvd.mul_left step' _))

/-- With a negative stride the second row lies before the start. -/
theorem not_within_of_backwards (backwards : plane.stride < 0) (second : 1 < rows)
    (column : 0 < columns) : ¬ WithinRegion plane.sample rows columns plane.start upper := by
  refine not_withinRegion_of_before second column ?_
  simp only [sample]
  push_cast
  omega

end Plane

end Arpi.Semantics
