import Arpi.Composer.DeviceEffects
import Arpi.Semantics.History

/-!
# The gate before a presentation

A presentation may succeed only when the layers were validated, and the changes of that
validation accepted, after the last registration of a callback and after the last change
of a layer. The HAL keeps half of this in its flag, the device the other half in its
validation state. A validation that fails clears the flag as well; this is the only way
around the gate.
-/

namespace Arpi.Composer

open Arpi.Semantics

variable {context : HwcContext}

/-- A registration, or a layer modification that succeeded. -/
def Resets : HalCall × HalAnswer → Prop
  | (.registerEventCallback, _) => True
  | (.createLayer _, answer) | (.destroyLayer _ _, answer)
  | (.setLayerCompositionType _ _ _, answer) => answer.error = hwc2ErrorNone
  | _ => False

/-- A validation that succeeded. -/
def Validates : HalCall × HalAnswer → Prop
  | (.validateDisplay _, answer) => answer.error = hwc2ErrorNone
  | _ => False

/-- An acceptance of changes that succeeded. -/
def Accepts : HalCall × HalAnswer → Prop
  | (.acceptDisplayChanges _, answer) => answer.error = hwc2ErrorNone
  | _ => False

/-- The layers were validated since the last reset. -/
def Pending (history : List (HalCall × HalAnswer)) : Prop :=
  Since Resets (fun validation _ => Validates validation) history

/-- The layers were validated since the last reset, and changes that this validation
reported were accepted after it. -/
def Gated (history : List (HalCall × HalAnswer)) : Prop :=
  Since Resets (fun validation after => Validates validation ∧
    (validation.2.changed ≠ [] → ∃ step ∈ after, Accepts step)) history

/-- The HAL and the device together remember what the gate asks for. -/
structure Remembers (hal : ComposerHal context) (history : List (HalCall × HalAnswer)) :
    Prop where
  dirtyLive : DirtyLive hal.device
  pending : hal.mustValidateDisplay = false → hal.device.state ≠ .modified → Pending history
  gated : hal.mustValidateDisplay = false → hal.device.state = .validated → Gated history
  closed : hal.mustValidateDisplay = true → ¬ Pending history

/-- A validation does not fail while the flag alone keeps a validated device shut. -/
def KeepsGate (hal : ComposerHal context) : HalCall → Prop
  | .validateDisplay display =>
      KnownDisplay display ∨ hal.mustValidateDisplay = false ∨ hal.device.state = .modified
  | _ => True

theorem Gated.pending {history : List (HalCall × HalAnswer)} (gated : Gated history) :
    Pending history :=
  Since.mono (fun _ _ met => met.1) gated

theorem Pending.append {history : List (HalCall × HalAnswer)} {step : HalCall × HalAnswer}
    (pending : Pending history) (noReset : ¬ Resets step) : Pending (history ++ [step]) :=
  Since.append noReset (fun _ _ met => met) pending

theorem Gated.append {history : List (HalCall × HalAnswer)} {step : HalCall × HalAnswer}
    (gated : Gated history) (noReset : ¬ Resets step) : Gated (history ++ [step]) := by
  refine Since.append noReset (fun validation after met => ⟨met.1, fun changed => ?_⟩) gated
  obtain ⟨accept, member, accepts⟩ := met.2 changed
  exact ⟨accept, List.mem_append_left _ member, accepts⟩

/-- Accepting settles whatever is pending. -/
theorem Pending.accept {history : List (HalCall × HalAnswer)} {step : HalCall × HalAnswer}
    (pending : Pending history) (noReset : ¬ Resets step) (accepts : Accepts step) :
    Gated (history ++ [step]) := by
  refine Since.append noReset (fun validation after met => ⟨met, fun _ => ?_⟩) pending
  exact ⟨step, by simp, accepts⟩

/-- What is pending after a step that validates nothing was pending before it. -/
theorem Pending.of_append {history : List (HalCall × HalAnswer)} {step : HalCall × HalAnswer}
    (pending : Pending (history ++ [step])) (noValidation : ¬ Validates step) :
    Pending history ∧ ¬ Resets step := by
  rcases Since.append_iff.mp pending with validates | ⟨noReset, earlier⟩
  · exact absurd validates noValidation
  · exact ⟨earlier, noReset⟩

/-- A step that changes neither the flag nor the validation state, and that neither resets
nor validates, is remembered. -/
theorem Remembers.quiet {hal after : ComposerHal context} {history : List (HalCall × HalAnswer)}
    {step : HalCall × HalAnswer} (remembers : Remembers hal history)
    (dirtyLive : DirtyLive after.device)
    (flag : after.mustValidateDisplay = hal.mustValidateDisplay)
    (state : after.device.state = hal.device.state) (noReset : ¬ Resets step)
    (noValidation : ¬ Validates step) : Remembers after (history ++ [step]) where
  dirtyLive := dirtyLive
  pending may validated := by
    rw [flag] at may
    rw [state] at validated
    exact (remembers.pending may validated).append noReset
  gated may validated := by
    rw [flag] at may
    rw [state] at validated
    exact (remembers.gated may validated).append noReset
  closed must pending := by
    rw [flag] at must
    exact remembers.closed must (pending.of_append noValidation).1

/-- A step after which the device is modified, and which validates nothing, is remembered. -/
theorem Remembers.modified {hal after : ComposerHal context}
    {history : List (HalCall × HalAnswer)} {step : HalCall × HalAnswer}
    (remembers : Remembers hal history) (dirtyLive : DirtyLive after.device)
    (flag : after.mustValidateDisplay = hal.mustValidateDisplay)
    (modified : after.device.state = .modified)
    (noValidation : ¬ Validates step) : Remembers after (history ++ [step]) where
  dirtyLive := dirtyLive
  pending _ validated := absurd modified validated
  gated _ validated := by
    rw [modified] at validated
    cases validated
  closed must pending := by
    rw [flag] at must
    exact remembers.closed must (pending.of_append noValidation).1

/-- A call that failed in the device resets nothing. -/
theorem not_resets_of_passedOn {call : HalCall} {deviceCall : DeviceCall} {answer : HalAnswer}
    (passedOn : call.passedOn = some deviceCall) (failed : answer.error ≠ hwc2ErrorNone) :
    ¬ Resets (call, answer) := by
  cases call <;> simp_all [Resets, HalCall.passedOn]

theorem not_validates_of_passedOn {call : HalCall} {deviceCall : DeviceCall} {answer : HalAnswer}
    (passedOn : call.passedOn = some deviceCall) : ¬ Validates (call, answer) := by
  cases call <;> simp_all [Validates, HalCall.passedOn]

/-- What the device does to a call that was passed on is remembered. -/
theorem Remembers.passed {hal : ComposerHal context} {history : List (HalCall × HalAnswer)}
    (remembers : Remembers hal history) {call : HalCall} {deviceCall : DeviceCall}
    {answer : DeviceAnswer} {after : Hwc2Device context}
    (passedOn : call.passedOn = some deviceCall)
    (outcome : DeviceOutcome hal.device deviceCall answer after) :
    Remembers { hal with device := after } (history ++ [(call,
      { error := answer.error, layer := answer.layer, presentFence := answer.retireFence })]) := by
  have dirtyLive := outcome.dirtyLive remembers.dirtyLive
  have noValidation : ∀ answer, ¬ Validates (call, answer) := fun answer =>
    not_validates_of_passedOn passedOn
  cases outcome with
  | refused failed =>
      exact remembers.quiet dirtyLive rfl rfl (not_resets_of_passedOn passedOn failed.1)
        (noValidation _)
  | created | destroyed | typed =>
      exact remembers.modified dirtyLive rfl rfl (noValidation _)
  | vsync | targeted | presented =>
      refine remembers.quiet dirtyLive rfl rfl ?_ (noValidation _)
      cases call <;> cases passedOn
      exact id
  | validated | changed | listed =>
      cases call <;> cases passedOn
  | @accepted display known validated =>
      obtain rfl : call = .acceptDisplayChanges display := by
        cases call <;> cases passedOn
        rfl
      constructor
      · exact dirtyLive
      · intro may _
        exact (remembers.pending may validated).append id
      · intro may _
        exact (remembers.pending may validated).accept id rfl
      · intro must pending
        exact remembers.closed must (pending.of_append id).1

/-- A HAL call that keeps the gate is remembered. -/
theorem Remembers.next {hal : ComposerHal context} {history : List (HalCall × HalAnswer)}
    (remembers : Remembers hal history) {call : HalCall} (keeps : KeepsGate hal call) :
    Remembers ((halMachine context).next hal call)
      (history ++ [(call, (halMachine context).answer hal call)]) := by
  have outcome := hal_outcome remembers.dirtyLive call
  have dirtyLive := outcome.dirtyLive remembers.dirtyLive
  generalize (halMachine context).answer hal call = answer at outcome ⊢
  generalize (halMachine context).next hal call = after at outcome dirtyLive ⊢
  cases outcome with
  | passed passedOn outcome => exact remembers.passed passedOn outcome
  | unregistered => exact remembers.quiet dirtyLive rfl rfl id id
  | held must => exact remembers.quiet dirtyLive rfl rfl id id
  | registered =>
      refine ⟨dirtyLive, fun may => absurd may Bool.false_ne_true.symm,
        fun may => absurd may Bool.false_ne_true.symm, fun _ pending => ?_⟩
      exact (pending.of_append id).2 trivial
  | validated known =>
      refine ⟨dirtyLive, fun _ _ => ?_, fun _ validated => ?_,
        fun must => absurd must Bool.false_ne_true⟩
      · exact Since.append_iff.mpr (.inl rfl)
      · refine Since.append_iff.mpr (.inl ⟨rfl, fun changed => absurd ?_ changed⟩)
        have clean : hal.device.dirtyCount = 0 := by
          by_contra dirty
          rw [if_neg dirty] at validated
          cases validated
        simp [ComposerHal.reportedChanges, clean]
  | @invalid display unknown =>
      have noReset : ¬ Resets (.validateDisplay display, { error := hwc2ErrorBadDisplay }) := id
      refine ⟨dirtyLive, fun _ validated => ?_, fun _ validated => ?_,
        fun must => absurd must Bool.false_ne_true⟩
      · rcases keeps with known | may | modified
        · exact absurd known unknown
        · exact (remembers.pending may validated).append noReset
        · exact absurd modified validated
      · rcases keeps with known | may | modified
        · exact absurd known unknown
        · exact (remembers.gated may validated).append noReset
        · exact absurd (validated.symm.trans modified) (by decide)

/-- Nothing has happened to a HAL that was just created, and its flag is set. -/
theorem remembers_new (kms : context.State) : Remembers (.new kms : ComposerHal context) [] where
  dirtyLive _ dirty := absurd dirty UnorderedSet.not_mem_empty
  pending may := absurd may Bool.false_ne_true.symm
  gated may := absurd may Bool.false_ne_true.symm
  closed _ := Since.not_nil

/-- A run whose steps keep the gate is remembered. -/
theorem remembers_run (kms : context.State) {calls : List HalCall}
    (keeps : (halMachine context).EachStep KeepsGate (.new kms) calls) :
    Remembers ((halMachine context).run (.new kms) calls)
      ((halMachine context).trace (.new kms) calls) := by
  have preserved : ∀ (hal : ComposerHal context) history call, Remembers hal history →
      KeepsGate hal call → Remembers ((halMachine context).next hal call)
        (history ++ [(call, (halMachine context).answer hal call)]) :=
    fun _ _ _ remembers keeps => remembers.next keeps
  simpa using (halMachine context).history_of_eachStep preserved (remembers_new kms) keeps

/-- Every presentation of the run that succeeds does so behind the gate. -/
def PresentsGated (kms : context.State) (calls : List HalCall) : Prop :=
  ∀ front display back, calls = front ++ .presentDisplay display :: back →
    (((halMachine context).run (.new kms) front).presentDisplay display).1 = hwc2ErrorNone →
      Gated ((halMachine context).trace (.new kms) front)

/-- Acceptances and presentations only. -/
def Settlement (calls : List HalCall) : Prop :=
  ∀ call ∈ calls, ∃ display,
    call = .acceptDisplayChanges display ∨ call = .presentDisplay display

/-- Calls of a settlement keep the gate. -/
theorem Settlement.keepsGate {calls : List HalCall} (settlement : Settlement calls)
    (hal : ComposerHal context) : (halMachine context).EachStep KeepsGate hal calls := by
  induction calls generalizing hal with
  | nil => trivial
  | cons call rest ih =>
      refine ⟨?_, ih (fun later member => settlement later (List.mem_cons_of_mem _ member)) _⟩
      obtain ⟨display, rfl | rfl⟩ := settlement call List.mem_cons_self <;> trivial

/-- A presentation that succeeds does so with the flag down and the device validated. -/
theorem ComposerHal.mayPresent_of_succeeded {hal : ComposerHal context} {display : DisplayId}
    (succeeded : (hal.presentDisplay display).1 = hwc2ErrorNone) :
    hal.mustValidateDisplay = false ∧ hal.device.state = .validated := by
  cases must : hal.mustValidateDisplay with
  | true =>
      rw [presentDisplay_of_mustValidate must] at succeeded
      exact absurd succeeded (show hwc2ErrorNotValidated ≠ hwc2ErrorNone by decide)
  | false =>
      rw [presentDisplay_of_mayPresent must] at succeeded
      refine ⟨rfl, ?_⟩
      by_contra notValidated
      by_cases known : KnownDisplay display
      · rw [Hwc2Device.presentDisplay_of_not_validated known notValidated] at succeeded
        exact absurd succeeded (show hwc2ErrorNotValidated ≠ hwc2ErrorNone by decide)
      · rw [Hwc2Device.presentDisplay, if_pos known] at succeeded
        exact absurd succeeded (show hwc2ErrorBadDisplay ≠ hwc2ErrorNone by decide)

/-- A run whose steps keep the gate presents behind it. -/
theorem presentsGated_of_keepsGate (kms : context.State) {calls : List HalCall}
    (keeps : (halMachine context).EachStep KeepsGate (.new kms) calls) :
    PresentsGated kms calls := by
  rintro front display back rfl succeeded
  have remembers := remembers_run kms (((halMachine context).eachStep_append _ _ _ _).mp keeps).1
  obtain ⟨may, validated⟩ := ComposerHal.mayPresent_of_succeeded succeeded
  exact remembers.gated may validated

/-- Where the gate is not kept, accepting and presenting next succeeds without a validation. -/
theorem ungated_of_not_keepsGate (kms : context.State) {calls : List HalCall} {call : HalCall}
    (remembers : Remembers ((halMachine context).run (.new kms) calls)
      ((halMachine context).trace (.new kms) calls))
    (broken : ¬ KeepsGate ((halMachine context).run (.new kms) calls) call) :
    ¬ PresentsGated kms
      ((calls ++ [call]) ++ [.acceptDisplayChanges 0, .presentDisplay 0]) := by
  intro gated
  cases call with
  | validateDisplay display =>
      simp only [KeepsGate, not_or, Bool.not_eq_false] at broken
      obtain ⟨unknown, must, validated⟩ := broken
      have known : KnownDisplay 0 := .inl rfl
      have closed := remembers.closed must
      specialize gated (calls ++ [.validateDisplay display, .acceptDisplayChanges 0]) 0 []
        (by simp)
      rw [Machine.run_append, Machine.trace_append] at gated
      generalize (halMachine context).run (.new kms) calls = hal at *
      simp only [Machine.run_cons, Machine.run_nil, Machine.trace_cons, Machine.trace_nil,
        Machine.next, Machine.answer, halMachine,
        ComposerHal.validateDisplay_of_unknown unknown] at gated
      have accepted : (ComposerHal.acceptDisplayChanges 0
          { hal with mustValidateDisplay := false }) = (hwc2ErrorNone, { hal with
            mustValidateDisplay := false
            device := { hal.device with dirtyLayers := .empty, state := .validated } }) := by
        simp only [ComposerHal.acceptDisplayChanges,
          Hwc2Device.acceptDisplayChanges_of_validated known validated]
      rw [accepted] at gated
      have pending := (gated (by
        rw [ComposerHal.presentDisplay_of_mayPresent rfl,
          Hwc2Device.presentDisplay_of_validated known rfl])).pending
      rw [← List.singleton_append, ← List.append_assoc] at pending
      have earlier := (pending.of_append id).1
      have failed : hwc2ErrorBadDisplay ≠ hwc2ErrorNone := by decide
      exact closed (earlier.of_append failed).1
  | _ => exact broken trivial

/-- The gate holds in every state that a run and a settlement after any part of it reach,
exactly when every step of the run keeps the gate. -/
theorem present_gated_iff (kms : context.State) (calls : List HalCall) :
    (∀ front back rest, calls = front ++ back → Settlement rest →
      PresentsGated kms (front ++ rest)) ↔
        (halMachine context).EachStep KeepsGate (.new kms) calls := by
  constructor
  · intro gated
    induction calls using List.reverseRecOn with
    | nil => trivial
    | append_singleton calls call ih =>
        have keeps := ih fun front back rest split =>
          gated front (back ++ [call]) rest (by rw [split, List.append_assoc])
        rw [Machine.eachStep_append]
        refine ⟨keeps, ?_, trivial⟩
        by_contra broken
        apply ungated_of_not_keepsGate kms (remembers_run kms keeps) broken
        refine gated _ [] _ (by simp) fun call member => ⟨0, ?_⟩
        simpa using member
  · rintro keeps front back rest rfl settlement
    apply presentsGated_of_keepsGate
    rw [Machine.eachStep_append]
    exact ⟨(((halMachine context).eachStep_append _ _ _ _).mp keeps).1,
      settlement.keepsGate _⟩

/-- A validation of display 7 fails after a registration; what was validated before the
registration is then presented. -/
theorem present_not_always_gated :
    ¬ ∀ calls, @PresentsGated workingContext () calls := by
  intro claim
  have keeps : (halMachine workingContext).EachStep KeepsGate (.new ())
      [.validateDisplay 0, .registerEventCallback] := ⟨.inl (.inl rfl), trivial, trivial⟩
  have broken : ¬ KeepsGate ((halMachine workingContext).run (.new ())
      [.validateDisplay 0, .registerEventCallback]) (.validateDisplay 7) := by
    rintro (known | may | modified)
    · exact absurd known (by decide)
    · cases may
    · exact absurd modified (by decide)
  exact ungated_of_not_keepsGate _ (remembers_run _ keeps) broken (claim _)

end Arpi.Composer
