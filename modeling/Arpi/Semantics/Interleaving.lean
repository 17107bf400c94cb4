import Arpi.Semantics.Machine

/-!
# Interleaved parties

Several parties drive one machine; every input names its party. What one party receives
in an interleaving is compared with a run in which it is alone. `monitored` runs a
memory along with a machine, so that a condition on a step may speak about the steps
before it.
-/

namespace Arpi.Semantics.Machine

universe u v w

variable {State : Type u} {Input : Type v} {Output : Type w}

section Monitored

variable {Memory : Type*} (machine : Machine State Input Output)
  (update : State → Memory → Input → Memory)

/-- The machine together with a memory that is updated before each step. -/
def monitored : Machine (State × Memory) Input Output where
  step state input :=
    (machine.answer state.1 input, (machine.next state.1 input, update state.1 state.2 input))

@[simp] theorem monitored_answer (state : State × Memory) (input : Input) :
    (machine.monitored update).answer state input = machine.answer state.1 input := rfl

@[simp] theorem monitored_next (state : State × Memory) (input : Input) :
    (machine.monitored update).next state input =
      (machine.next state.1 input, update state.1 state.2 input) := rfl

/-- The memory does not disturb the machine. -/
@[simp] theorem monitored_run (state : State × Memory) (inputs : List Input) :
    ((machine.monitored update).run state inputs).1 = machine.run state.1 inputs := by
  induction inputs generalizing state with
  | nil => rfl
  | cons input rest ih => rw [run_cons, run_cons, ih, monitored_next]

@[simp] theorem monitored_trace (state : State × Memory) (inputs : List Input) :
    (machine.monitored update).trace state inputs = machine.trace state.1 inputs := by
  induction inputs generalizing state with
  | nil => rfl
  | cons input rest ih => rw [trace_cons, trace_cons, ih, monitored_answer, monitored_next]

/-- A condition that does not read the memory. -/
theorem monitored_eachStep (condition : State → Input → Prop) (state : State × Memory)
    (inputs : List Input) :
    (machine.monitored update).EachStep (fun pair input => condition pair.1 input) state inputs ↔
      machine.EachStep condition state.1 inputs := by
  induction inputs generalizing state with
  | nil => exact Iff.rfl
  | cons input rest ih => rw [eachStep_cons, eachStep_cons, ih, monitored_next]

end Monitored

section Parties

variable {Party Command : Type*} [DecidableEq Party]

/-- The inputs of one party. -/
def inputsOf (party : Party) (events : List (Party × Command)) : List (Party × Command) :=
  events.filter fun event => event.1 = party

/-- What one party received in a history. -/
def outputsOf (party : Party) (history : List ((Party × Command) × Output)) : List Output :=
  (history.filter fun step => step.1.1 = party).map Prod.snd

variable {Alone : Type*} (shared : Machine State (Party × Command) Output)
  (alone : Machine Alone (Party × Command) Output)
  {relation : State → Alone → Prop} {condition : State → Party × Command → Prop}
  {party : Party}

/-- The unwinding rule for states: a relation that the party's own steps keep on both
sides, and that the steps of the others keep by themselves, relates an interleaving to the
run of the party alone. -/
theorem run_inputsOf
    (own : ∀ left right command, relation left right → condition left (party, command) →
      relation (shared.next left (party, command)) (alone.next right (party, command)))
    (others : ∀ left right event, event.1 ≠ party → relation left right →
      condition left event → relation (shared.next left event) right)
    {left : State} {right : Alone} {events : List (Party × Command)}
    (start : relation left right) (steps : shared.EachStep condition left events) :
    relation (shared.run left events) (alone.run right (inputsOf party events)) := by
  induction events generalizing left right with
  | nil => exact start
  | cons event rest ih =>
      obtain ⟨here, later⟩ := steps
      by_cases mine : event.1 = party
      · obtain ⟨_, command⟩ := event
        obtain rfl : _ = party := mine
        simpa [inputsOf] using ih (own left right command start here) later
      · simpa [inputsOf, mine] using ih (others left right event mine start here) later

/-- The unwinding rule for outputs: where the related states also answer the party alike,
it receives the same in the interleaving and alone. -/
theorem outputsOf_inputsOf
    (agrees : ∀ left right command, relation left right → condition left (party, command) →
      shared.answer left (party, command) = alone.answer right (party, command))
    (own : ∀ left right command, relation left right → condition left (party, command) →
      relation (shared.next left (party, command)) (alone.next right (party, command)))
    (others : ∀ left right event, event.1 ≠ party → relation left right →
      condition left event → relation (shared.next left event) right)
    {left : State} {right : Alone} {events : List (Party × Command)}
    (start : relation left right) (steps : shared.EachStep condition left events) :
    outputsOf party (shared.trace left events) =
      outputsOf party (alone.trace right (inputsOf party events)) := by
  induction events generalizing left right with
  | nil => rfl
  | cons event rest ih =>
      obtain ⟨here, later⟩ := steps
      by_cases mine : event.1 = party
      · obtain ⟨_, command⟩ := event
        obtain rfl : _ = party := mine
        have same := agrees left right command start here
        simpa [inputsOf, outputsOf, same] using ih (own left right command start here) later
      · simpa [inputsOf, outputsOf, mine] using ih (others left right event mine start here) later

end Parties

end Arpi.Semantics.Machine
