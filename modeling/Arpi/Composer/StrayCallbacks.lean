import Arpi.Composer.VsyncThread
import Arpi.Semantics.History
import Arpi.Semantics.Interleaving

/-!
# Callbacks after a disable

The loop of `VsyncThread` looks at its flags before it sleeps and invokes the callback after
it has slept. Other threads set the flags in between. A run here is any order of the sections
that hold the mutex; whether a section may find the flags cleared is read off what was called
since the loop fell asleep.
-/

namespace Arpi.Composer

open Arpi.Semantics

/-- `stop`, before it joins the thread. -/
def VsyncThread.stop (thread : VsyncThread) : VsyncThread := { thread with started := false }

/-- The sections that hold the mutex: three of other threads, two of the loop. -/
inductive VsyncStep where
  | stop
  | setCallback (callback : Bool)
  | enableCallback (enable : Bool)
  | endWait
  | endSleep (fire : Bool)
deriving DecidableEq

/-- What a section does to the thread, and whether it invokes the callback. -/
def vsyncStep (thread : VsyncThread) : VsyncStep → Bool × VsyncThread
  | .stop => (false, thread.stop)
  | .setCallback callback => (false, thread.setCallback callback)
  | .enableCallback enable => (false, thread.enableCallback enable)
  | .endWait => (false, thread.endWait)
  | .endSleep fire => thread.endSleep fire

/-- The vsync thread among the others. -/
def vsyncMachine : Machine VsyncThread VsyncStep Bool := ⟨vsyncStep⟩

/-- A section that invokes the callback finds it enabled and the thread started. -/
def InvokesEnabled (thread : VsyncThread) (step : VsyncStep) : Prop :=
  vsyncMachine.answer thread step = true →
    thread.callbackEnabled = true ∧ thread.started = true

/-- The sections of a run so far, and those since the loop fell asleep. -/
structure VsyncCalls where
  all : List VsyncStep
  asleep : List VsyncStep

/-- The loop goes to sleep, after a wait or for another time. -/
def FallsAsleep (thread : VsyncThread) (step : VsyncStep) : Prop :=
  (vsyncMachine.next thread step).phase = .sleeping ∧
    (thread.phase = .waiting ∨ step = .endSleep true ∨ step = .endSleep false)

instance (thread : VsyncThread) (step : VsyncStep) : Decidable (FallsAsleep thread step) :=
  inferInstanceAs (Decidable (_ ∧ _))

/-- Keeps the record of the sections. -/
def trackCalls (thread : VsyncThread) (calls : VsyncCalls) (step : VsyncStep) : VsyncCalls where
  all := calls.all ++ [step]
  asleep := if FallsAsleep thread step then [] else calls.asleep ++ [step]

/-- The callback was disabled and not enabled again. -/
def DisabledIn (calls : List VsyncStep) : Prop :=
  Since (fun step => step = .enableCallback true) (fun step _ => step = .enableCallback false) calls

/-- When a sleep ends with a callback to invoke, nobody has stopped the thread, and nobody has
disabled the callback during the sleep without enabling it again. -/
def SleepUndisturbed (state : VsyncThread × VsyncCalls) (step : VsyncStep) : Prop :=
  step = .endSleep true → state.1.phase = .sleeping → state.1.callback = true →
    .stop ∉ state.2.all ∧ ¬ DisabledIn state.2.asleep

/-- The flags say what was called. -/
structure FlagsRecorded (thread : VsyncThread) (calls : VsyncCalls) : Prop where
  started : thread.started = true ↔ .stop ∉ calls.all
  enabled : thread.phase = .sleeping →
    (thread.callbackEnabled = true ↔ ¬ DisabledIn calls.asleep)

section Steps

variable {thread : VsyncThread} {calls : VsyncCalls}

theorem not_disabledIn_nil : ¬ DisabledIn [] := Since.not_nil

/-- One more section. -/
theorem disabledIn_append_iff {history : List VsyncStep} {step : VsyncStep} :
    DisabledIn (history ++ [step]) ↔
      step = .enableCallback false ∨ step ≠ .enableCallback true ∧ DisabledIn history :=
  Since.append_iff

/-- A loop that goes to sleep has found the callback enabled. -/
theorem callbackEnabled_of_fallsAsleep {step : VsyncStep} (falls : FallsAsleep thread step) :
    (vsyncMachine.next thread step).callbackEnabled = true := by
  obtain ⟨asleep, awake⟩ := falls
  cases step with
  | stop | setCallback _ | enableCallback _ =>
      rcases awake with waiting | ended | ended
      · exact absurd (waiting.symm.trans asleep) (by decide)
      · cases ended
      · cases ended
  | endWait =>
      have waiting : thread.phase = .waiting := by simpa using awake
      simp only [Machine.next, vsyncMachine, vsyncStep, VsyncThread.endWait] at asleep ⊢
      split
      next ready =>
        rw [if_pos ready] at asleep
        split at asleep
        next started =>
          rcases ready.2 with enabled | stopped
          · rw [if_pos started]
            exact enabled
          · exact absurd started stopped
        next => cases asleep
      next unready =>
        rw [if_neg unready, waiting] at asleep
        cases asleep
  | endSleep fire =>
      simp only [Machine.next, vsyncMachine, vsyncStep, VsyncThread.endSleep] at asleep ⊢
      split
      next sleeping =>
        rw [if_pos sleeping] at asleep
        by_contra disabled
        simp only [VsyncThread.loop] at asleep disabled
        rw [if_neg disabled] at asleep
        cases asleep
      next awake' =>
        rw [if_neg awake'] at asleep
        exact absurd asleep awake'

/-- A loop that does not go to sleep sleeps only if it did so before, and neither it nor its
flags change but by a call of another thread. -/
theorem sleeping_of_not_fallsAsleep {step : VsyncStep} (stays : ¬ FallsAsleep thread step)
    (asleep : (vsyncMachine.next thread step).phase = .sleeping) :
    thread.phase = .sleeping ∧ step ≠ .endSleep true ∧ step ≠ .endSleep false := by
  simp only [FallsAsleep, asleep, true_and, not_or] at stays
  refine ⟨?_, stays.2⟩
  cases phase : thread.phase with
  | sleeping => rfl
  | waiting => exact absurd phase stays.1
  | ended =>
      exfalso
      cases step with
      | stop | setCallback _ | enableCallback _ =>
          exact absurd (phase.symm.trans asleep) (by decide)
      | endWait =>
          simp [Machine.next, vsyncMachine, vsyncStep, VsyncThread.endWait, phase] at asleep
      | endSleep fire => cases fire <;> simp at stays

/-- Only `stop` clears `mStarted`. -/
theorem next_started (step : VsyncStep) :
    (vsyncMachine.next thread step).started = true ↔ thread.started = true ∧ step ≠ .stop := by
  cases step with
  | stop => simp [Machine.next, vsyncMachine, vsyncStep, VsyncThread.stop]
  | setCallback _ => simp [Machine.next, vsyncMachine, vsyncStep, VsyncThread.setCallback]
  | enableCallback _ => simp [Machine.next, vsyncMachine, vsyncStep, VsyncThread.enableCallback]
  | endWait =>
      simp only [Machine.next, vsyncMachine, vsyncStep, VsyncThread.endWait]
      split
      · split <;> simp
      · simp
  | endSleep fire =>
      simp only [Machine.next, vsyncMachine, vsyncStep, VsyncThread.endSleep]
      split <;> simp [VsyncThread.loop]

/-- Only `enableCallback` writes `mCallbackEnabled`. -/
theorem next_callbackEnabled (step : VsyncStep) :
    (vsyncMachine.next thread step).callbackEnabled = true ↔
      step = .enableCallback true ∨
        step ≠ .enableCallback false ∧ thread.callbackEnabled = true := by
  cases step with
  | stop => simp [Machine.next, vsyncMachine, vsyncStep, VsyncThread.stop]
  | setCallback _ => simp [Machine.next, vsyncMachine, vsyncStep, VsyncThread.setCallback]
  | enableCallback enable =>
      cases enable <;> simp [Machine.next, vsyncMachine, vsyncStep, VsyncThread.enableCallback]
  | endWait =>
      simp only [Machine.next, vsyncMachine, vsyncStep, VsyncThread.endWait]
      split
      · split <;> simp
      · simp
  | endSleep fire =>
      simp only [Machine.next, vsyncMachine, vsyncStep, VsyncThread.endSleep]
      split <;> simp [VsyncThread.loop]

/-- Every section keeps the record true. -/
theorem FlagsRecorded.next (recorded : FlagsRecorded thread calls) (step : VsyncStep) :
    FlagsRecorded (vsyncMachine.next thread step) (trackCalls thread calls step) where
  started := by
    rw [next_started, recorded.started]
    simp [trackCalls, eq_comm]
  enabled := by
    intro asleep
    by_cases falls : FallsAsleep thread step
    · simp only [trackCalls, if_pos falls, callbackEnabled_of_fallsAsleep falls, true_iff]
      exact not_disabledIn_nil
    · obtain ⟨before, -⟩ := sleeping_of_not_fallsAsleep falls asleep
      simp only [trackCalls, if_neg falls]
      rw [next_callbackEnabled, disabledIn_append_iff, recorded.enabled before]
      by_cases enabling : step = .enableCallback true
      · simp [enabling]
      · tauto

/-- A section that invokes the callback is the end of a sleep. -/
theorem answer_eq_true_iff {step : VsyncStep} :
    vsyncMachine.answer thread step = true ↔
      step = .endSleep true ∧ thread.phase = .sleeping ∧ thread.callback = true := by
  cases step with
  | stop | setCallback _ | enableCallback _ | endWait =>
      simp [Machine.answer, vsyncMachine, vsyncStep]
  | endSleep fire =>
      simp only [Machine.answer, vsyncMachine, vsyncStep, VsyncThread.endSleep]
      split
      next asleep => simp [asleep]
      next awake => simp [awake]

/-- With a true record, a section is right exactly when the sleep was undisturbed. -/
theorem FlagsRecorded.invokesIfEnabled_iff (recorded : FlagsRecorded thread calls)
    (step : VsyncStep) : InvokesEnabled thread step ↔ SleepUndisturbed (thread, calls) step := by
  rw [InvokesEnabled, answer_eq_true_iff]
  constructor
  · intro enabled ends asleep set
    obtain ⟨callbackEnabled, started⟩ := enabled ⟨ends, asleep, set⟩
    exact ⟨recorded.started.mp started, (recorded.enabled asleep).mp callbackEnabled⟩
  · rintro undisturbed ⟨ends, asleep, set⟩
    obtain ⟨unstopped, undisabled⟩ := undisturbed ends asleep set
    exact ⟨(recorded.enabled asleep).mpr undisabled, recorded.started.mpr unstopped⟩

end Steps

/-- The callback is invoked only while it is enabled and the thread is started, exactly in the
runs in which no sleep that ends with an invocation was disturbed. -/
theorem invokesEnabled_iff (steps : List VsyncStep) :
    vsyncMachine.EachStep InvokesEnabled .start steps ↔
      (vsyncMachine.monitored trackCalls).EachStep SleepUndisturbed (.start, ⟨[], []⟩) steps := by
  let invariant (state : VsyncThread × VsyncCalls) : Prop := FlagsRecorded state.1 state.2
  have begins : invariant (.start, ⟨[], []⟩) :=
    ⟨by simp [VsyncThread.start], fun asleep => by simp [VsyncThread.start] at asleep⟩
  rw [← vsyncMachine.monitored_eachStep trackCalls InvokesEnabled (.start, ⟨[], []⟩)]
  have preserved : ∀ state step, invariant state → True → SleepUndisturbed state step →
      invariant ((vsyncMachine.monitored trackCalls).next state step) :=
    fun state step recorded _ _ => FlagsRecorded.next recorded step
  exact Machine.eachStep_iff_eachStep _ preserved
    (fun state step recorded _ => FlagsRecorded.invokesIfEnabled_iff recorded step) begins
    (Machine.eachStep_of_forall _ (fun _ _ => trivial) _ _)

/-- A disable during the sleep, and a stop during the sleep. -/
theorem not_always_invokesEnabled :
    ¬ vsyncMachine.EachStep InvokesEnabled .start
        [.setCallback true, .enableCallback true, .endWait, .enableCallback false,
          .endSleep true] ∧
      ¬ vsyncMachine.EachStep InvokesEnabled .start
        [.setCallback true, .enableCallback true, .endWait, .stop, .endSleep true] := by
  constructor
  · rintro ⟨-, -, -, -, stray, -⟩
    exact absurd (stray rfl).1 (by decide)
  · rintro ⟨-, -, -, -, stray, -⟩
    exact absurd (stray rfl).2 (by decide)

/-! ## How many strays there are -/

/-- How often the callback is invoked in a run. -/
def invocations (thread : VsyncThread) (steps : List VsyncStep) : Nat :=
  (vsyncMachine.trace thread steps).countP fun step => step.2

/-- Once the callback is disabled, it is invoked at most once until it is enabled again: by the
sleep that has begun already. -/
theorem invocations_le_of_disabled {thread : VsyncThread} {steps : List VsyncStep}
    (disabled : thread.callbackEnabled = false) (stays : .enableCallback true ∉ steps) :
    invocations thread steps ≤ if thread.phase = .sleeping then 1 else 0 := by
  induction steps generalizing thread with
  | nil => simp [invocations]
  | cons step rest ih =>
      obtain ⟨notFirst, notLater⟩ := not_or.mp (mt List.mem_cons.mpr stays)
      have nextDisabled : (vsyncMachine.next thread step).callbackEnabled = false := by
        rw [← Bool.not_eq_true, next_callbackEnabled, disabled]
        simp [Ne.symm notFirst]
      have later := ih nextDisabled notLater
      have awake : ¬ FallsAsleep thread step := by
        intro falls
        rw [callbackEnabled_of_fallsAsleep falls] at nextDisabled
        cases nextDisabled
      rw [invocations, Machine.trace_cons, List.countP_cons]
      change invocations (vsyncMachine.next thread step) rest + _ ≤ _
      by_cases asleep : (vsyncMachine.next thread step).phase = .sleeping
      · obtain ⟨before, notEnd, -⟩ := sleeping_of_not_fallsAsleep awake asleep
        have silent : ¬ vsyncMachine.answer thread step = true :=
          fun invokes => notEnd (answer_eq_true_iff.mp invokes).1
        rw [if_neg silent, if_pos before]
        rwa [if_pos asleep] at later
      · rw [if_neg asleep] at later
        split
        next invokes =>
          rw [if_pos (answer_eq_true_iff.mp invokes).2.1]
          omega
        next => omega

/-- While the callback stays enabled, the loop goes on after a stop. -/
theorem sleeping_of_enabled {thread : VsyncThread} {steps : List VsyncStep}
    (asleep : thread.phase = .sleeping) (enabled : thread.callbackEnabled = true)
    (stays : .enableCallback false ∉ steps) :
    (vsyncMachine.run thread steps).phase = .sleeping := by
  induction steps generalizing thread with
  | nil => exact asleep
  | cons step rest ih =>
      obtain ⟨notFirst, notLater⟩ := not_or.mp (mt List.mem_cons.mpr stays)
      refine ih ?_ (next_callbackEnabled step |>.mpr (.inr ⟨Ne.symm notFirst, enabled⟩)) notLater
      cases step with
      | stop | setCallback _ | enableCallback _ => exact asleep
      | endWait =>
          simp [Machine.next, vsyncMachine, vsyncStep, VsyncThread.endWait, asleep]
      | endSleep fire =>
          simp [Machine.next, vsyncMachine, vsyncStep, VsyncThread.endSleep, asleep,
            VsyncThread.loop, enabled]

end Arpi.Composer
