import Mathlib.Data.List.Basic
import Mathlib.Tactic.Tauto

/-!
# Deterministic machines driven by inputs

A service is a machine that answers each call and moves to a successor state.
Whatever the environment decides (the result of a driver call, the address an
allocator picks) is part of the input, so a run is determined by its inputs and
a statement about every input list is a statement about every environment.

`Always` speaks about the states of a run and `EachStep` about its steps.
`always_iff_eachStep` is the induction that connects the two.
-/

namespace Arpi.Semantics

universe u v w

/-- A machine answers every input with an output and a successor state. -/
structure Machine (State : Type u) (Input : Type v) (Output : Type w) where
  step : State → Input → Output × State

namespace Machine

variable {State : Type u} {Input : Type v} {Output : Type w}
  (machine : Machine State Input Output)

/-- The output of one step. -/
def answer (state : State) (input : Input) : Output := (machine.step state input).1

/-- The successor state of one step. -/
def next (state : State) (input : Input) : State := (machine.step state input).2

/-- The state in which a finite run ends. -/
def run (state : State) : List Input → State
  | [] => state
  | input :: rest => run (machine.next state input) rest

/-- Every input of a run paired with the output it received, oldest first. -/
def trace (state : State) : List Input → List (Input × Output)
  | [] => []
  | input :: rest =>
      (input, machine.answer state input) :: trace (machine.next state input) rest

/-- A property of every state of a run, its first state included. -/
def Always (property : State → Prop) (state : State) : List Input → Prop
  | [] => property state
  | input :: rest => property state ∧ Always property (machine.next state input) rest

/-- A condition on every step of a run, read at the state in which the step is taken. -/
def EachStep (condition : State → Input → Prop) (state : State) : List Input → Prop
  | [] => True
  | input :: rest =>
      condition state input ∧ EachStep condition (machine.next state input) rest

@[simp] theorem run_nil (state : State) : machine.run state [] = state := rfl

@[simp] theorem run_cons (state : State) (input : Input) (rest : List Input) :
    machine.run state (input :: rest) = machine.run (machine.next state input) rest := rfl

@[simp] theorem trace_nil (state : State) : machine.trace state [] = [] := rfl

@[simp] theorem trace_cons (state : State) (input : Input) (rest : List Input) :
    machine.trace state (input :: rest) =
      (input, machine.answer state input) :: machine.trace (machine.next state input) rest := rfl

@[simp] theorem always_nil (property : State → Prop) (state : State) :
    machine.Always property state [] ↔ property state := Iff.rfl

@[simp] theorem always_cons (property : State → Prop) (state : State) (input : Input)
    (rest : List Input) :
    machine.Always property state (input :: rest) ↔
      property state ∧ machine.Always property (machine.next state input) rest := Iff.rfl

@[simp] theorem eachStep_nil (condition : State → Input → Prop) (state : State) :
    machine.EachStep condition state [] := trivial

@[simp] theorem eachStep_cons (condition : State → Input → Prop) (state : State)
    (input : Input) (rest : List Input) :
    machine.EachStep condition state (input :: rest) ↔
      condition state input ∧
        machine.EachStep condition (machine.next state input) rest := Iff.rfl

/-- A run splits at every point of its input list. -/
theorem run_append (state : State) (front back : List Input) :
    machine.run state (front ++ back) = machine.run (machine.run state front) back := by
  induction front generalizing state with
  | nil => rfl
  | cons input rest ih => simp only [List.cons_append, run_cons, ih]

/-- The trace of a split run is the concatenation of the two traces. -/
theorem trace_append (state : State) (front back : List Input) :
    machine.trace state (front ++ back) =
      machine.trace state front ++ machine.trace (machine.run state front) back := by
  induction front generalizing state with
  | nil => rfl
  | cons input rest ih => simp only [List.cons_append, trace_cons, run_cons, ih]

/-- A step condition on a split run is the condition on both parts. -/
theorem eachStep_append (condition : State → Input → Prop) (state : State)
    (front back : List Input) :
    machine.EachStep condition state (front ++ back) ↔
      machine.EachStep condition state front ∧
        machine.EachStep condition (machine.run state front) back := by
  induction front generalizing state with
  | nil => simp
  | cons input rest ih => simp only [List.cons_append, eachStep_cons, run_cons, ih]; tauto

/-- A step condition that holds everywhere holds along every run. -/
theorem eachStep_of_forall {condition : State → Input → Prop}
    (everywhere : ∀ state input, condition state input) (state : State) (inputs : List Input) :
    machine.EachStep condition state inputs := by
  induction inputs generalizing state with
  | nil => trivial
  | cons input rest ih => exact ⟨everywhere state input, ih _⟩

/-- A condition on the inputs of a run alone. -/
theorem eachStep_of_mem {condition : Input → Prop} {inputs : List Input}
    (meets : ∀ input ∈ inputs, condition input) (state : State) :
    machine.EachStep (fun _ input => condition input) state inputs := by
  induction inputs generalizing state with
  | nil => trivial
  | cons input rest ih =>
      rw [List.forall_mem_cons] at meets
      exact ⟨meets.1, ih meets.2 _⟩

/-- `Always` holds exactly when the property holds after every initial part of the run. -/
theorem always_iff_forall_split (property : State → Prop) (state : State)
    (inputs : List Input) :
    machine.Always property state inputs ↔
      ∀ front back, inputs = front ++ back → property (machine.run state front) := by
  induction inputs generalizing state with
  | nil =>
      constructor
      · intro holds front back split
        obtain ⟨rfl, rfl⟩ := List.append_eq_nil_iff.mp split.symm
        exact holds
      · intro every
        exact every [] [] rfl
  | cons input rest ih =>
      rw [always_cons, ih]
      constructor
      · rintro ⟨here, later⟩ front back split
        cases front with
        | nil => exact here
        | cons head tail =>
            obtain ⟨rfl, rfl⟩ := List.cons.inj split
            exact later tail back rfl
      · intro every
        refine ⟨every [] _ rfl, fun front back split => ?_⟩
        exact every (input :: front) back (by rw [split]; rfl)

/-- A property of every state of a run holds in its last state. -/
theorem Always.last {machine : Machine State Input Output} {property : State → Prop}
    {state : State} {inputs : List Input} (always : machine.Always property state inputs) :
    property (machine.run state inputs) :=
  (machine.always_iff_forall_split property state inputs).mp always inputs [] (by simp)

/-- A weaker property holds along the same run. -/
theorem Always.mono {machine : Machine State Input Output} {stronger weaker : State → Prop}
    (weaken : ∀ state, stronger state → weaker state) {state : State} {inputs : List Input}
    (always : machine.Always stronger state inputs) : machine.Always weaker state inputs := by
  rw [always_iff_forall_split] at always ⊢
  exact fun front back split => weaken _ (always front back split)

/-- What a property makes true of every step. -/
theorem Always.eachStep {machine : Machine State Input Output} {property : State → Prop}
    {sound : State → Input → Prop} (implies : ∀ state input, property state → sound state input)
    {state : State} {inputs : List Input} (always : machine.Always property state inputs) :
    machine.EachStep sound state inputs := by
  induction inputs generalizing state with
  | nil => trivial
  | cons input rest ih => exact ⟨implies state input always.1, ih always.2⟩

/-- Two step conditions hold together exactly when each of them does. -/
theorem eachStep_and (left right : State → Input → Prop) (state : State) (inputs : List Input) :
    machine.EachStep (fun state input => left state input ∧ right state input) state inputs ↔
      machine.EachStep left state inputs ∧ machine.EachStep right state inputs := by
  induction inputs generalizing state with
  | nil => simp
  | cons input rest ih => simp only [eachStep_cons, ih]; tauto

/-- Step conditions that say the same of every step. -/
theorem eachStep_congr {left right : State → Input → Prop}
    (same : ∀ state input, left state input ↔ right state input) (state : State)
    (inputs : List Input) :
    machine.EachStep left state inputs ↔ machine.EachStep right state inputs := by
  induction inputs generalizing state with
  | nil => exact Iff.rfl
  | cons input rest ih => rw [eachStep_cons, eachStep_cons, same, ih]

/-- The run rule: an invariant that every step meeting the condition preserves
holds in every state of a run whose steps all meet it. -/
theorem always_of_eachStep {invariant : State → Prop} {condition : State → Input → Prop}
    (preserved : ∀ state input, invariant state → condition state input →
      invariant (machine.next state input))
    {state : State} {inputs : List Input} (start : invariant state)
    (steps : machine.EachStep condition state inputs) :
    machine.Always invariant state inputs := by
  induction inputs generalizing state with
  | nil => exact start
  | cons input rest ih =>
      obtain ⟨here, later⟩ := steps
      exact ⟨start, ih (preserved state input start here) later⟩

/-- The run rule for an invariant that every step preserves. -/
theorem always_of_invariant {invariant : State → Prop}
    (preserved : ∀ state input, invariant state → invariant (machine.next state input))
    {state : State} (start : invariant state) (inputs : List Input) :
    machine.Always invariant state inputs := by
  induction inputs generalizing state with
  | nil => exact start
  | cons input rest ih => exact ⟨start, ih (preserved state input start)⟩

/-- What an invariant makes true of every step is true along every run from it. -/
theorem eachStep_of_invariant {invariant : State → Prop} {sound : State → Input → Prop}
    (preserved : ∀ state input, invariant state → invariant (machine.next state input))
    (implies : ∀ state input, invariant state → sound state input)
    {state : State} (start : invariant state) (inputs : List Input) :
    machine.EachStep sound state inputs := by
  induction inputs generalizing state with
  | nil => trivial
  | cons input rest ih =>
      exact ⟨implies state input start, ih (preserved state input start)⟩

/-- Exactness of a step condition. In environments that keep their `contract`, let
an invariant be kept by every step meeting the condition, and let a step from an
invariant state be sound exactly when it meets the condition. Then all steps of a
run are sound exactly when all of them meet the condition. -/
theorem eachStep_iff_eachStep {invariant : State → Prop}
    {contract condition sound : State → Input → Prop}
    (preserved : ∀ state input, invariant state → contract state input →
      condition state input → invariant (machine.next state input))
    (exactly : ∀ state input, invariant state → contract state input →
      (sound state input ↔ condition state input))
    {state : State} {inputs : List Input} (start : invariant state)
    (environment : machine.EachStep contract state inputs) :
    machine.EachStep sound state inputs ↔ machine.EachStep condition state inputs := by
  induction inputs generalizing state with
  | nil => exact Iff.rfl
  | cons input rest ih =>
      obtain ⟨here, later⟩ := environment
      simp only [eachStep_cons, exactly state input start here]
      constructor
      · rintro ⟨met, steps⟩
        exact ⟨met, (ih (preserved state input start here met) later).mp steps⟩
      · rintro ⟨met, steps⟩
        exact ⟨met, (ih (preserved state input start here met) later).mpr steps⟩

/-- A property holds along a run exactly when it holds at the start and after every step. -/
theorem always_iff_eachStep_next (property : State → Prop) (state : State)
    (inputs : List Input) :
    machine.Always property state inputs ↔
      property state ∧
        machine.EachStep (fun state input => property (machine.next state input)) state inputs := by
  induction inputs generalizing state with
  | nil => simp
  | cons input rest ih => rw [always_cons, ih, eachStep_cons]

/-- The exactness rule for states: as `eachStep_iff_eachStep`, for a property that
the invariant implies and that every step violating the condition breaks. -/
theorem always_iff_eachStep {invariant property : State → Prop}
    {contract condition : State → Input → Prop}
    (implies : ∀ state, invariant state → property state)
    (preserved : ∀ state input, invariant state → contract state input →
      condition state input → invariant (machine.next state input))
    (breaks : ∀ state input, invariant state → contract state input →
      property (machine.next state input) → condition state input)
    {state : State} {inputs : List Input} (start : invariant state)
    (environment : machine.EachStep contract state inputs) :
    machine.Always property state inputs ↔ machine.EachStep condition state inputs := by
  rw [always_iff_eachStep_next, machine.eachStep_iff_eachStep preserved _ start environment]
  · exact and_iff_right (implies state start)
  · intro state input holds here
    exact ⟨breaks state input holds here,
      fun met => implies _ (preserved state input holds here met)⟩

/-- The run rule with a memory: an invariant of the state and of the trace so far that
every step meeting the condition preserves holds at the end of a run of such steps. -/
theorem history_of_eachStep {invariant : State → List (Input × Output) → Prop}
    {condition : State → Input → Prop}
    (preserved : ∀ state history input, invariant state history → condition state input →
      invariant (machine.next state input) (history ++ [(input, machine.answer state input)]))
    {state : State} {history : List (Input × Output)} {inputs : List Input}
    (start : invariant state history) (steps : machine.EachStep condition state inputs) :
    invariant (machine.run state inputs) (history ++ machine.trace state inputs) := by
  induction inputs generalizing state history with
  | nil => simpa using start
  | cons input rest ih =>
      obtain ⟨here, later⟩ := steps
      simpa using ih (preserved state history input start here) later

/-- The run rule with a memory, for an invariant that every step preserves. -/
theorem history_of_invariant (invariant : State → List (Input × Output) → Prop)
    (preserved : ∀ state history input, invariant state history →
      invariant (machine.next state input) (history ++ [(input, machine.answer state input)]))
    {state : State} (start : invariant state []) (inputs : List Input) :
    invariant (machine.run state inputs) (machine.trace state inputs) := by
  have everyStep : machine.EachStep (fun _ _ => True) state inputs :=
    machine.eachStep_of_forall (fun _ _ => trivial) state inputs
  simpa using machine.history_of_eachStep
    (fun state history input holds _ => preserved state history input holds) start everyStep

end Machine

end Arpi.Semantics
