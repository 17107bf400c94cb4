import Arpi.Semantics.Machine

/-!
# Machines over machines

A machine that works through another one leaves its part in a state that a run of the lower
machine reaches. So the invariants of the lower machine hold in every run of the upper one,
whatever it does besides.
-/

namespace Arpi.Semantics.Machine

variable {State Input Output : Type*} {Middle MiddleInput MiddleOutput : Type*}
  {Lower LowerInput LowerOutput : Type*}

/-- Some inputs lead from one state to the other. -/
def Reaches (machine : Machine State Input Output) (state after : State) : Prop :=
  ∃ inputs, machine.run state inputs = after

theorem reaches_next (machine : Machine State Input Output) (state : State) (input : Input) :
    machine.Reaches state (machine.next state input) := ⟨[input], rfl⟩

namespace Reaches

variable {machine : Machine State Input Output} {first second third : State}

theorem refl (state : State) : machine.Reaches state state := ⟨[], rfl⟩

theorem of_eq (same : second = first) : machine.Reaches first second := same ▸ refl second

theorem trans (left : machine.Reaches first second) (right : machine.Reaches second third) :
    machine.Reaches first third := by
  obtain ⟨front, rfl⟩ := left
  obtain ⟨back, rfl⟩ := right
  exact ⟨front ++ back, machine.run_append first front back⟩

/-- A loop whose turns all reach. -/
theorem foldl {Upper Element : Type*} (view : Upper → State) {turn : Upper → Element → Upper}
    (each : ∀ upper element, machine.Reaches (view upper) (view (turn upper element)))
    (upper : Upper) (elements : List Element) :
    machine.Reaches (view upper) (view (elements.foldl turn upper)) := by
  induction elements generalizing upper with
  | nil => exact refl _
  | cons element rest ih => exact (each upper element).trans (ih _)

/-- What every step keeps holds in every state that is reached. -/
theorem keeps (reaches : machine.Reaches first second) {invariant : State → Prop}
    (preserved : ∀ state input, invariant state → invariant (machine.next state input))
    (start : invariant first) : invariant second := by
  obtain ⟨inputs, rfl⟩ := reaches
  exact (machine.always_of_invariant preserved start inputs).last

end Reaches

/-- The upper machine works through the lower one, which is its part `view`. -/
def Drives (upper : Machine State Input Output) (lower : Machine Lower LowerInput LowerOutput)
    (view : State → Lower) : Prop :=
  ∀ state input, lower.Reaches (view state) (view (upper.next state input))

namespace Drives

variable {upper : Machine State Input Output} {middle : Machine Middle MiddleInput MiddleOutput}
  {lower : Machine Lower LowerInput LowerOutput} {view : State → Lower}

/-- A run of the upper machine is one of the lower machine. -/
theorem run (drives : upper.Drives lower view) (state : State) (inputs : List Input) :
    lower.Reaches (view state) (view (upper.run state inputs)) := by
  induction inputs generalizing state with
  | nil => exact .refl _
  | cons input rest ih => exact (drives state input).trans (ih _)

/-- Three machines over one another. -/
theorem trans {top : State → Middle} {bottom : Middle → Lower}
    (first : upper.Drives middle top) (second : middle.Drives lower bottom) :
    upper.Drives lower fun state => bottom (top state) := by
  intro state input
  obtain ⟨inputs, reached⟩ := first state input
  have lowered := second.run (top state) inputs
  rwa [reached] at lowered

/-- The run rule across machines: what every step of the lower machine keeps holds in every
state of a run of the upper one. -/
theorem always (drives : upper.Drives lower view) {invariant : Lower → Prop}
    (preserved : ∀ state input, invariant state → invariant (lower.next state input))
    {state : State} (start : invariant (view state)) (inputs : List Input) :
    upper.Always (fun state => invariant (view state)) state inputs :=
  upper.always_of_invariant (fun state input holds =>
    (drives state input).keeps preserved holds) start inputs

end Drives

end Arpi.Semantics.Machine
