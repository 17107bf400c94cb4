import Mathlib.Data.Nat.Basic
import Mathlib.Algebra.Order.Ring.Nat

/-!
# A window of a storage with rows

A storage is laid out in rows of `stride` bytes. A window is the first bytes of its first
rows. What is laid out in rows of another length meets the rows of the storage at changing
places; a run of bytes is in a window of less than full width only if it stays in one row.
-/

namespace Arpi.Semantics

/-- The offset is among the first `columns` bytes of one of the first `rows` rows. -/
def InWindow (stride rows columns offset : Nat) : Prop :=
  ∃ row column, row < rows ∧ column < columns ∧ offset = row * stride + column

/-- All bytes from one offset to another are in the window. -/
def RunInWindow (stride rows columns first last : Nat) : Prop :=
  ∀ offset, first ≤ offset → offset ≤ last → InWindow stride rows columns offset

/-- A run ends in the rows of the window, and within its columns unless these are the whole
row. -/
def RunFits (stride rows columns first last : Nat) : Prop :=
  last / stride < rows ∧ (columns = stride ∨ first % stride + (last - first) < columns)

variable {stride rows columns offset first last row : Nat}

theorem not_inWindow_of_empty (empty : columns = 0) : ¬ InWindow stride rows columns offset := by
  rintro ⟨row, column, -, inside, -⟩
  omega

/-- Row and column of an offset are its quotient and remainder. -/
theorem inWindow_iff (positive : 0 < stride) (narrow : columns ≤ stride) :
    InWindow stride rows columns offset ↔ offset / stride < rows ∧ offset % stride < columns := by
  constructor
  · rintro ⟨row, column, rowBound, columnBound, rfl⟩
    have remainder : column < stride := columnBound.trans_le narrow
    rw [Nat.add_comm, Nat.add_mul_div_right _ _ positive, Nat.div_eq_of_lt remainder, Nat.zero_add,
      Nat.add_mul_mod_self_right, Nat.mod_eq_of_lt remainder]
    exact ⟨rowBound, columnBound⟩
  · rintro ⟨rowBound, columnBound⟩
    refine ⟨offset / stride, offset % stride, rowBound, columnBound, ?_⟩
    rw [Nat.mul_comm, Nat.div_add_mod]

/-- An offset in a window is before the end of the window's last row. -/
theorem InWindow.lt (inside : InWindow stride (row + 1) columns offset) :
    offset < row * stride + columns := by
  obtain ⟨line, column, rowBound, columnBound, rfl⟩ := inside
  have above : line * stride ≤ row * stride := Nat.mul_le_mul_right stride (by omega)
  omega

/-- A run that fits is in the window, and no other. -/
theorem runInWindow_iff (positive : 0 < stride) (narrow : columns ≤ stride)
    (order : first ≤ last) :
    RunInWindow stride rows columns first last ↔ RunFits stride rows columns first last := by
  constructor
  · intro inside
    have lastInside := (inWindow_iff positive narrow).mp (inside last order (Nat.le_refl last))
    have firstInside := (inWindow_iff positive narrow).mp (inside first (Nat.le_refl first) order)
    refine ⟨lastInside.1, or_iff_not_imp_left.mpr fun partly => ?_⟩
    by_contra beyond
    -- the first byte of the row behind the window is part of the run
    have behind := (inWindow_iff positive narrow).mp
      (inside (first + (columns - first % stride)) (by omega) (by omega))
    have place : first + (columns - first % stride) = columns + first / stride * stride := by
      have split := Nat.div_add_mod' first stride
      omega
    rw [place, Nat.add_mul_mod_self_right, Nat.mod_eq_of_lt (by omega)] at behind
    exact Nat.lt_irrefl columns behind.2
  · rintro ⟨rowBound, wide | short⟩ offset after before
    · rw [inWindow_iff positive narrow, wide]
      exact ⟨(Nat.div_le_div_right before).trans_lt rowBound, Nat.mod_lt _ positive⟩
    · refine ⟨first / stride, first % stride + (offset - first), ?_, by omega, ?_⟩
      · exact (Nat.div_le_div_right order).trans_lt rowBound
      · have split := Nat.div_add_mod' first stride
        omega

/-- A run in the last row of the window is in the window exactly if it ends there. -/
theorem runInWindow_lastRow_iff {column : Nat} (start : first = row * stride + column)
    (order : first ≤ last) :
    RunInWindow stride (row + 1) columns first last ↔ last < row * stride + columns := by
  constructor
  · intro inside
    exact (inside last order (Nat.le_refl last)).lt
  · intro ends offset after before
    exact ⟨row, offset - row * stride, Nat.lt_succ_self row, by omega, by omega⟩

end Arpi.Semantics
