import Mathlib.Algebra.BigOperators.Group.List.Basic

/-!
# Custody

The elements of a list are worked on one after the other: a step changes a state and leaves
something in the place of the element. Elements own things, which are counted in a commutative
monoid. A step that accounts for what its element owns, whatever else is outstanding, makes the
work on the whole list account for what all elements own.
-/

namespace Arpi.Semantics

universe u v w

variable {Element : Type u} {State : Type v} {Owned : Type w}

/-- Work on all elements in turn: what is left of them, and the last state. -/
def workThrough (step : Element → State → Element × State) :
    List Element → State → List Element × State
  | [], state => ([], state)
  | element :: rest, state =>
      let worked := step element state
      let others := workThrough step rest worked.2
      (worked.1 :: others.1, others.2)

/-- Work on an element if there is one. -/
def workOn (step : Element → State → Element × State) (element : Option Element)
    (state : State) : Option Element × State :=
  match element with
  | some element => (some (step element state).1, (step element state).2)
  | none => (none, state)

section Accounts

variable [AddCommMonoid Owned] {owned : Element → Owned} {accounted : Owned → State → Prop}
  {step : Element → State → Element × State}

/-- Work on a list accounts for what its elements own if every step does. -/
theorem workThrough_accounted
    (steps : ∀ element outstanding state, accounted (owned element + outstanding) state →
      accounted (owned (step element state).1 + outstanding) (step element state).2)
    (list : List Element) (outstanding : Owned) (state : State)
    (before : accounted ((list.map owned).sum + outstanding) state) :
    accounted (((workThrough step list state).1.map owned).sum + outstanding)
      (workThrough step list state).2 := by
  induction list generalizing outstanding state with
  | nil => exact before
  | cons element rest ih =>
      rw [List.map_cons, List.sum_cons, add_assoc] at before
      have worked := steps element _ state before
      rw [add_left_comm] at worked
      have others := ih _ _ worked
      rw [add_left_comm] at others
      simp only [workThrough, List.map_cons, List.sum_cons, add_assoc]
      exact others

theorem workOn_accounted
    (steps : ∀ element outstanding state, accounted (owned element + outstanding) state →
      accounted (owned (step element state).1 + outstanding) (step element state).2)
    (element : Option Element) (outstanding : Owned) (state : State)
    (before : accounted (element.elim 0 owned + outstanding) state) :
    accounted ((workOn step element state).1.elim 0 owned + outstanding)
      (workOn step element state).2 := by
  cases element with
  | none => exact before
  | some element => exact steps element outstanding state before

end Accounts

section Views

variable {Plain : Type u} {View : Type v} {plain : Element → Plain} {view : State → View}
  {step : Element → State → Element × State} {next : View → Plain → View}

/-- What is seen of the state changes as if the elements were worked on in a loop. -/
theorem workThrough_view
    (steps : ∀ element state, view (step element state).2 = next (view state) (plain element))
    (list : List Element) (state : State) :
    view (workThrough step list state).2 = (list.map plain).foldl next (view state) := by
  induction list generalizing state with
  | nil => rfl
  | cons element rest ih => rw [workThrough, ih, steps, List.map_cons, List.foldl_cons]

end Views

end Arpi.Semantics
