import Mathlib.Order.BoundedOrder.Lattice

/-!
# Things that are joined

Something is given, or it is the join of two others. A join that is refused comes to nothing.
What comes about is never more than all that was given, and it is all of that where no join was
refused.
-/

namespace Arpi.Semantics

universe u

/-- How something came about. -/
inductive Joins (Value : Type u) where
  | given (value : Value)
  | joined (first second : Joins Value)
  | refused (first second : Joins Value)

namespace Joins

variable {Value : Type u}

/-- No join was refused. -/
def Granted : Joins Value → Prop
  | given _ => True
  | joined first second => first.Granted ∧ second.Granted
  | refused _ _ => False

variable [SemilatticeSup Value] [OrderBot Value]

/-- What came about. -/
def value : Joins Value → Value
  | given value => value
  | joined first second => first.value ⊔ second.value
  | refused _ _ => ⊥

/-- All that was given. -/
def total : Joins Value → Value
  | given value => value
  | joined first second => first.total ⊔ second.total
  | refused first second => first.total ⊔ second.total

theorem value_le_total (joins : Joins Value) : joins.value ≤ joins.total := by
  induction joins with
  | given value => exact le_rfl
  | joined first second firstBelow secondBelow => exact sup_le_sup firstBelow secondBelow
  | refused => exact bot_le

theorem value_eq_total {joins : Joins Value} (granted : joins.Granted) :
    joins.value = joins.total := by
  induction joins with
  | given value => rfl
  | joined first second firstSame secondSame =>
      rw [value, firstSame granted.1, secondSame granted.2, total]
  | refused => exact granted.elim

end Joins

end Arpi.Semantics
