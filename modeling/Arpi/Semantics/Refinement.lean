import Arpi.Semantics.Machine

/-!
# Machines seen through an abstraction

A machine refines another one through a view of its states when the view commutes with every
step and the answers are the same. Only the states that keep an invariant have to be looked
at. Runs, traces and the properties of runs then are those of the abstract machine. An
observer who sees less of the answers sees the same of both machines.
-/

namespace Arpi.Semantics.Machine

universe u v w x y

variable {Lower : Type u} {Upper : Type v} {Input : Type w} {Output : Type x}

section Observing

variable {Seen : Type y} (machine : Machine Lower Input Output) (observe : Output → Seen)

/-- The machine of whose answers only a part is seen. -/
def observing : Machine Lower Input Seen where
  step state input := (observe (machine.answer state input), machine.next state input)

@[simp] theorem observing_answer (state : Lower) (input : Input) :
    (machine.observing observe).answer state input = observe (machine.answer state input) := rfl

@[simp] theorem observing_next (state : Lower) (input : Input) :
    (machine.observing observe).next state input = machine.next state input := rfl

end Observing

/-- The view of the lower machine's states is a state of the upper machine that answers the
same and moves along. -/
structure Refines (lower : Machine Lower Input Output) (upper : Machine Upper Input Output)
    (view : Lower → Upper) (invariant : Lower → Prop) : Prop where
  preserved : ∀ state input, invariant state → invariant (lower.next state input)
  step : ∀ state input, invariant state →
    upper.step (view state) input = (lower.answer state input, view (lower.next state input))

namespace Refines

variable {lower : Machine Lower Input Output} {upper : Machine Upper Input Output}
  {view : Lower → Upper} {invariant : Lower → Prop} {state : Lower} {input : Input}

theorem answer (refines : lower.Refines upper view invariant) (holds : invariant state) :
    upper.answer (view state) input = lower.answer state input := by
  rw [Machine.answer, refines.step state input holds]

theorem next (refines : lower.Refines upper view invariant) (holds : invariant state) :
    upper.next (view state) input = view (lower.next state input) := by
  rw [Machine.next, refines.step state input holds]

/-- A run ends in the view of the state in which the lower run ends. -/
theorem run (refines : lower.Refines upper view invariant) (holds : invariant state)
    (inputs : List Input) : upper.run (view state) inputs = view (lower.run state inputs) := by
  induction inputs generalizing state with
  | nil => rfl
  | cons input rest ih =>
      rw [run_cons, run_cons, refines.next holds]
      exact ih (refines.preserved state input holds)

/-- The two machines give the same answers. -/
theorem trace (refines : lower.Refines upper view invariant) (holds : invariant state)
    (inputs : List Input) : upper.trace (view state) inputs = lower.trace state inputs := by
  induction inputs generalizing state with
  | nil => rfl
  | cons input rest ih =>
      rw [trace_cons, trace_cons, refines.answer holds, refines.next holds]
      rw [ih (refines.preserved state input holds)]

/-- What is seen of the answers does not tell the machines apart either. -/
theorem observing {Seen : Type y} (refines : lower.Refines upper view invariant)
    (observe : Output → Seen) :
    (lower.observing observe).Refines (upper.observing observe) view invariant where
  preserved := refines.preserved
  step _ _ holds :=
    Prod.ext (congrArg observe (refines.answer holds)) (refines.next holds)

end Refines

end Arpi.Semantics.Machine
