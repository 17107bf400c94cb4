import Arpi.Composer.ComposerHal
import Arpi.Composer.VsyncThread
import Arpi.Semantics.Machine
import Mathlib.Data.Finset.Basic

/-!
# The lifetime of callbacks

Binder threads create clients, register callbacks and drop clients while the vsync thread
runs. A step is one statement of such a thread, or one section that it runs under a mutex.
A client is in some place of its life; `registerCallback` and the destructor take it from
one place to the next, and everybody else may run in between.
-/

namespace Arpi.Composer

open Arpi.Semantics

/-- A client, numbered in the order of creation. -/
abbrev ClientId := Nat

/-- A binder thread inside `createClient`. -/
abbrev ThreadId := Nat

/-- The places in the life of a client. -/
inductive ClientPhase where
  /-- `createClient` has not made the client yet. -/
  | unborn
  /-- It was handed out, and has no callback. -/
  | idle
  /-- `registerCallback` has made the `HalEventCallback`. -/
  | prepared
  /-- `registerEventCallback` has set `mEventCallback`. -/
  | announcing
  /-- The device has announced display 0. -/
  | announcingSecond
  /-- The device has announced its displays. -/
  | announced
  /-- The vsync callback is set, and `registerCallback` has returned. -/
  | registered
  /-- The destructor has begun. -/
  | dying
  /-- The vsync callback is cleared. -/
  | unhooked
  /-- `mEventCallback` is cleared. -/
  | detached
  /-- `destroyResources` has returned. -/
  | cleaned
  /-- `onClientDestroyed` has returned. -/
  | released
  /-- The members are destroyed. -/
  | destroyed
deriving DecidableEq

namespace ClientPhase

/-- The client was handed out and has not run `onClientDestroyed`. -/
def HandedOut : ClientPhase → Prop
  | unborn | released | destroyed => False
  | _ => True

instance : DecidablePred HandedOut
  | unborn | released | destroyed => inferInstanceAs (Decidable False)
  | idle | prepared | announcing | announcingSecond | announced | registered | dying | unhooked
  | detached | cleaned => inferInstanceAs (Decidable True)

/-- The client may have made its `HalEventCallback`, and its members are not destroyed. -/
def MembersAlive : ClientPhase → Prop
  | unborn | idle | destroyed => False
  | _ => True

/-- `registerEventCallback` is between its first and its last statement. -/
def Announcing : ClientPhase → Prop
  | announcing | announcingSecond | announced => True
  | _ => False

/-- The vsync callback may be the client's. -/
def Hooked : ClientPhase → Prop
  | registered | dying => True
  | _ => False

end ClientPhase

/-- The parts of `Composer`, `ComposerHal` and the device that clients and threads share.
`mEventCallback` is named by the client whose `HalEventCallback` it points to. -/
structure CallbackState where
  clientAlive : Bool
  waiting : Finset ThreadId
  phases : ClientId → ClientPhase
  nextClient : ClientId
  eventCallback : Option ClientId
  vsync : VsyncThread

namespace CallbackState

/-- The service as it starts. -/
def start : CallbackState := ⟨false, ∅, fun _ => .unborn, 0, none, .start⟩

/-- A client goes to another place of its life. -/
def move (client : ClientId) (phase : ClientPhase) (state : CallbackState) : CallbackState :=
  { state with phases := Function.update state.phases client phase }

section Move

variable (state : CallbackState) (client : ClientId) (phase : ClientPhase)

@[simp] theorem move_phases_self : (state.move client phase).phases client = phase :=
  Function.update_self _ _ _

@[simp] theorem move_phases_of_ne {other : ClientId} (different : other ≠ client) :
    (state.move client phase).phases other = state.phases other :=
  Function.update_of_ne different _ _

end Move

/-- The end of `createClient`, once no client is alive. A client whose `init` fails is
dropped, and its destructor returns at once. -/
def makeClient (initialized : Bool) (state : CallbackState) : CallbackState :=
  if initialized then
    { state.move state.nextClient .idle with
      clientAlive := true
      nextClient := state.nextClient + 1 }
  else state

end CallbackState

/-- The steps of the threads. -/
inductive CallbackStep where
  /-- A thread enters `createClient`, which waits if a client is alive. -/
  | createClient (thread : ThreadId) (initialized : Bool)
  /-- `wait_for` returns, because no client is alive or after its second. -/
  | endWait (thread : ThreadId) (initialized : Bool)
  /-- A client calls `registerCallback`. -/
  | registerCallback (client : ClientId)
  /-- The last reference to a client is dropped. -/
  | dropClient (client : ClientId)
  /-- The next statement of `registerCallback` or of the destructor. -/
  | proceed (client : ClientId) (display2Active : Bool)
  | setVsyncEnabled (enabled : Bool)
  | vsyncEndWait
  | vsyncEndSleep (fire : Bool)
deriving DecidableEq

/-- A hook that runs: what it is called for, and what `mEventCallback` is then. -/
inductive HookRun where
  | hotplug (display : DisplayId) (eventCallback : Option ClientId)
  | vsync (eventCallback : Option ClientId)
deriving DecidableEq

/-- The `mEventCallback` that a hook calls. -/
def HookRun.eventCallback : HookRun → Option ClientId
  | hotplug _ eventCallback => eventCallback
  | vsync eventCallback => eventCallback

namespace CallbackState

/-- The statement of `registerCallback` or of the destructor that a client has reached. -/
def proceed (client : ClientId) (display2Active : Bool) (state : CallbackState) :
    Option HookRun × CallbackState :=
  match state.phases client with
  | .prepared =>
      (none, { state.move client .announcing with eventCallback := some client })
  | .announcing => (some (.hotplug 0 state.eventCallback), state.move client .announcingSecond)
  | .announcingSecond =>
      (if display2Active then some (.hotplug 1 state.eventCallback) else none,
        state.move client .announced)
  | .announced =>
      (none, { state.move client .registered with vsync := state.vsync.setCallback true })
  | .dying =>
      (none, { state.move client .unhooked with vsync := state.vsync.setCallback false })
  | .unhooked => (none, { state.move client .detached with eventCallback := none })
  | .detached => (none, state.move client .cleaned)
  | .cleaned => (none, { state.move client .released with clientAlive := false })
  | .released => (none, state.move client .destroyed)
  | .unborn | .idle | .registered | .destroyed => (none, state)

end CallbackState

/-- The threads of the composer service. A step that its thread cannot take in a state, such
as a second `registerCallback`, does nothing. -/
def callbackMachine : Machine CallbackState CallbackStep (Option HookRun) where
  step state
    | .createClient thread initialized =>
        if state.clientAlive then (none, { state with waiting := insert thread state.waiting })
        else (none, state.makeClient initialized)
    | .endWait thread initialized =>
        if thread ∈ state.waiting then
          let state := { state with waiting := state.waiting.erase thread }
          if state.clientAlive then (none, state) else (none, state.makeClient initialized)
        else (none, state)
    | .registerCallback client =>
        if state.phases client = .idle then (none, state.move client .prepared) else (none, state)
    | .dropClient client =>
        if state.phases client = .idle ∨ state.phases client = .registered then
          (none, state.move client .dying)
        else (none, state)
    | .proceed client display2Active => state.proceed client display2Active
    | .setVsyncEnabled enabled =>
        (none, { state with vsync := state.vsync.enableCallback enabled })
    | .vsyncEndWait => (none, { state with vsync := state.vsync.endWait })
    | .vsyncEndSleep fire =>
        let ended := state.vsync.endSleep fire
        (if ended.1 then some (.vsync state.eventCallback) else none,
          { state with vsync := ended.2 })

/-- At most one client was handed out and has not run `onClientDestroyed`. -/
def OneClient (state : CallbackState) : Prop :=
  ∀ first second, (state.phases first).HandedOut → (state.phases second).HandedOut →
    first = second

/-- A hook that runs calls the `HalEventCallback` of a client whose members are alive. -/
def HooksReachClient (state : CallbackState) (step : CallbackStep) : Prop :=
  ∀ hook, callbackMachine.answer state step = some hook →
    ∃ client, hook.eventCallback = some client ∧ (state.phases client).MembersAlive

/-! ## The invariant -/

/-- What keeps the hooks and the clients together: a client that was handed out counts as
alive; while a client announces, `mEventCallback` is its own; and the vsync callback is
only set while `mEventCallback` is that of a client between the end of its registration and
the beginning of its destructor. -/
structure CallbackInvariant (state : CallbackState) : Prop where
  alive : ∀ client, (state.phases client).HandedOut → state.clientAlive = true
  one : OneClient state
  unborn : ∀ client, state.nextClient ≤ client → state.phases client = .unborn
  announcing : ∀ client, (state.phases client).Announcing → state.eventCallback = some client
  hooked : state.vsync.callback = true →
    ∃ client, state.eventCallback = some client ∧ (state.phases client).Hooked

namespace ClientPhase

variable {phase : ClientPhase}

theorem HandedOut.of_announcing (announcing : phase.Announcing) : phase.HandedOut := by
  cases phase <;> trivial

theorem HandedOut.of_hooked (hooked : phase.Hooked) : phase.HandedOut := by
  cases phase <;> trivial

theorem MembersAlive.of_hooked (hooked : phase.Hooked) : phase.MembersAlive := by
  cases phase <;> trivial

theorem MembersAlive.of_announcing (announcing : phase.Announcing) : phase.MembersAlive := by
  cases phase <;> trivial

end ClientPhase

/-- A hook calls `mEventCallback`; it runs for a client that announces, or because the vsync
callback is set. -/
theorem hook_cases {state : CallbackState} {step : CallbackStep} {hook : HookRun}
    (runs : callbackMachine.answer state step = some hook) :
    hook.eventCallback = state.eventCallback ∧
      ((∃ client, (state.phases client).Announcing) ∨ state.vsync.callback = true) := by
  cases step with
  | createClient thread initialized =>
      simp only [Machine.answer, callbackMachine] at runs
      split at runs <;> cases runs
  | endWait thread initialized =>
      simp only [Machine.answer, callbackMachine] at runs
      split at runs
      · split at runs <;> cases runs
      · cases runs
  | registerCallback client =>
      simp only [Machine.answer, callbackMachine] at runs
      split at runs <;> cases runs
  | dropClient client =>
      simp only [Machine.answer, callbackMachine] at runs
      split at runs <;> cases runs
  | setVsyncEnabled enabled => cases runs
  | vsyncEndWait => cases runs
  | vsyncEndSleep fire =>
      simp only [Machine.answer, callbackMachine] at runs
      split at runs
      · rename_i invoked
        cases runs
        exact ⟨rfl, .inr (VsyncThread.callback_of_invoked _ invoked)⟩
      · cases runs
  | proceed client display2Active =>
      simp only [Machine.answer, callbackMachine, CallbackState.proceed] at runs
      cases place : state.phases client with
      | announcing =>
          rw [place] at runs
          cases runs
          exact ⟨rfl, .inl ⟨client, by rw [place]; trivial⟩⟩
      | announcingSecond =>
          rw [place] at runs
          cases display2Active with
          | false => cases runs
          | true =>
              cases runs
              exact ⟨rfl, .inl ⟨client, by rw [place]; trivial⟩⟩
      | _ => rw [place] at runs; cases runs

namespace CallbackInvariant

variable {state after : CallbackState} {client : ClientId}
  {phase target : ClientPhase}

theorem start : CallbackInvariant .start where
  alive _ handedOut := handedOut.elim
  one _ _ handedOut := handedOut.elim
  unborn _ _ := rfl
  announcing _ announcing := announcing.elim
  hooked callback := by cases callback

/-- The vsync callback is not set while a client is elsewhere. -/
theorem unhooked (invariant : CallbackInvariant state) (place : state.phases client = phase)
    (handedOut : phase.HandedOut) (elsewhere : ¬ phase.Hooked) : state.vsync.callback = false := by
  subst place
  by_contra callback
  obtain ⟨other, -, hooked⟩ := invariant.hooked (Bool.not_eq_false _ ▸ callback)
  obtain rfl := invariant.one other client (.of_hooked hooked) handedOut
  exact elsewhere hooked

/-- The only client that was handed out goes on; `mEventCallback` and the vsync callback are
as the place it goes to asks for. -/
theorem moved (invariant : CallbackInvariant state) (place : state.phases client = phase)
    (handedOut : phase.HandedOut)
    (phases : after.phases = Function.update state.phases client target)
    (nextClient : after.nextClient = state.nextClient)
    (alive : target.HandedOut → after.clientAlive = state.clientAlive)
    (announcing : target.Announcing → after.eventCallback = some client)
    (hooked : after.vsync.callback = true → after.eventCallback = some client ∧ target.Hooked) :
    CallbackInvariant after := by
  subst place
  have here : after.phases client = target := by rw [phases, Function.update_self]
  have elsewhere : ∀ other, other ≠ client → after.phases other = state.phases other := by
    intro other different
    rw [phases, Function.update_of_ne different]
  have only : ∀ other, (after.phases other).HandedOut → other = client := by
    intro other out
    by_contra different
    rw [elsewhere other different] at out
    exact different (invariant.one other client out handedOut)
  refine ⟨?_, ?_, ?_, ?_, ?_⟩
  · intro other out
    obtain rfl := only other out
    exact (alive (here ▸ out)).trans (invariant.alive other handedOut)
  · exact fun first second left right => (only first left).trans (only second right).symm
  · intro other later
    rw [nextClient] at later
    have unborn := invariant.unborn other later
    have different : other ≠ client := by
      rintro rfl
      rw [unborn] at handedOut
      exact handedOut
    rw [elsewhere other different, unborn]
  · intro other announces
    obtain rfl := only other (.of_announcing announces)
    exact announcing (here ▸ announces)
  · intro callback
    obtain ⟨same, hooks⟩ := hooked callback
    exact ⟨client, same, here ▸ hooks⟩

/-- The same for a client that the vsync callback cannot belong to. -/
theorem movedUnhooked (invariant : CallbackInvariant state)
    (place : state.phases client = phase) (handedOut : phase.HandedOut)
    (elsewhere : ¬ phase.Hooked)
    (phases : after.phases = Function.update state.phases client target)
    (nextClient : after.nextClient = state.nextClient)
    (alive : target.HandedOut → after.clientAlive = state.clientAlive)
    (announcing : target.Announcing → after.eventCallback = some client)
    (callback : after.vsync.callback = state.vsync.callback) : CallbackInvariant after := by
  refine invariant.moved place handedOut phases nextClient alive announcing fun set => ?_
  rw [callback, invariant.unhooked place handedOut elsewhere] at set
  cases set

/-- A step that moves no client and leaves the callbacks as they are. -/
theorem still (invariant : CallbackInvariant state) (phases : after.phases = state.phases)
    (nextClient : after.nextClient = state.nextClient)
    (alive : after.clientAlive = state.clientAlive)
    (eventCallback : after.eventCallback = state.eventCallback)
    (callback : after.vsync.callback = state.vsync.callback) : CallbackInvariant after where
  alive := by rw [phases, alive]; exact invariant.alive
  one := by rw [OneClient, phases]; exact invariant.one
  unborn := by rw [phases, nextClient]; exact invariant.unborn
  announcing := by rw [phases, eventCallback]; exact invariant.announcing
  hooked := by rw [phases, eventCallback, callback]; exact invariant.hooked

/-- While no client is alive, a new one may be handed out. -/
theorem makeClient (invariant : CallbackInvariant state) (free : state.clientAlive = false)
    (initialized : Bool) : CallbackInvariant (state.makeClient initialized) := by
  cases initialized with
  | false => exact invariant
  | true =>
      have nobody : ∀ other, ¬ (state.phases other).HandedOut := by
        intro other out
        rw [invariant.alive other out] at free
        cases free
      have only : ∀ other, ((state.makeClient true).phases other).HandedOut →
          other = state.nextClient := by
        intro other out
        by_contra different
        apply nobody other
        simpa [CallbackState.makeClient, CallbackState.move, different] using out
      refine ⟨fun _ _ => rfl, ?_, ?_, ?_, ?_⟩
      · exact fun first second left right => (only first left).trans (only second right).symm
      · intro other later
        have bound : state.nextClient < other := later
        refine ((state.move_phases_of_ne _ _ (Nat.ne_of_gt bound)).trans ?_)
        exact invariant.unborn other (Nat.le_of_lt bound)
      · intro other announces
        obtain rfl := only other (.of_announcing announces)
        simp [CallbackState.makeClient, CallbackState.move, ClientPhase.Announcing] at announces
      · intro callback
        obtain ⟨client, -, hooked⟩ := invariant.hooked callback
        exact absurd (ClientPhase.HandedOut.of_hooked hooked) (nobody client)

/-- The members of a client that has run `onClientDestroyed` are destroyed. -/
theorem destroyed (invariant : CallbackInvariant state) (released : state.phases client = .released) :
    CallbackInvariant (state.move client .destroyed) := by
  have elsewhere : ∀ other, ((state.move client .destroyed).phases other).HandedOut →
      other ≠ client := by
    rintro other out rfl
    rw [CallbackState.move_phases_self] at out
    exact out
  have same : ∀ other, other ≠ client →
      (state.move client .destroyed).phases other = state.phases other :=
    fun other different => state.move_phases_of_ne client .destroyed different
  refine ⟨?_, ?_, ?_, ?_, ?_⟩
  · intro other out
    rw [same other (elsewhere other out)] at out
    exact invariant.alive other out
  · intro first second left right
    rw [same first (elsewhere first left)] at left
    rw [same second (elsewhere second right)] at right
    exact invariant.one first second left right
  · intro other later
    have unborn := invariant.unborn other later
    have different : other ≠ client := by
      rintro rfl
      rw [unborn] at released
      cases released
    rw [same other different]
    exact unborn
  · intro other announces
    rw [same other (elsewhere other (.of_announcing announces))] at announces
    exact invariant.announcing other announces
  · intro callback
    obtain ⟨holder, held, hooked⟩ := invariant.hooked callback
    have different : holder ≠ client := by
      rintro rfl
      rw [released] at hooked
      exact hooked
    refine ⟨holder, held, ?_⟩
    rw [same holder different]
    exact hooked

/-- Every statement of `registerCallback` and of the destructor keeps the invariant. -/
theorem proceed (invariant : CallbackInvariant state) (client : ClientId)
    (display2Active : Bool) : CallbackInvariant (state.proceed client display2Active).2 := by
  unfold CallbackState.proceed
  cases place : state.phases client with
  | unborn => exact invariant
  | idle => exact invariant
  | registered => exact invariant
  | destroyed => exact invariant
  | released => exact invariant.destroyed place
  | prepared =>
      exact invariant.movedUnhooked place trivial id rfl rfl (fun _ => rfl) (fun _ => rfl) rfl
  | announcing =>
      have own := invariant.announcing client (by rw [place]; trivial)
      exact invariant.movedUnhooked place trivial id rfl rfl (fun _ => rfl) (fun _ => own) rfl
  | announcingSecond =>
      have own := invariant.announcing client (by rw [place]; trivial)
      exact invariant.movedUnhooked place trivial id rfl rfl (fun _ => rfl) (fun _ => own) rfl
  | announced =>
      -- `mEventCallback` was set before the vsync callback
      have own := invariant.announcing client (by rw [place]; trivial)
      exact invariant.moved place trivial rfl rfl (fun _ => rfl) (fun _ => own)
        fun _ => ⟨own, trivial⟩
  | dying =>
      -- and is cleared after it
      refine invariant.moved place trivial rfl rfl (fun _ => rfl) (fun announces => announces.elim)
        fun set => ?_
      cases set
  | unhooked =>
      exact invariant.movedUnhooked place trivial id rfl rfl (fun _ => rfl)
        (fun announces => announces.elim) rfl
  | detached =>
      exact invariant.movedUnhooked place trivial id rfl rfl (fun _ => rfl)
        (fun announces => announces.elim) rfl
  | cleaned =>
      exact invariant.movedUnhooked place trivial id rfl rfl (fun gone => gone.elim)
        (fun announces => announces.elim) rfl

/-- Every step of every thread keeps the invariant. -/
theorem next (invariant : CallbackInvariant state) (step : CallbackStep) :
    CallbackInvariant (callbackMachine.next state step) := by
  cases step with
  | createClient thread initialized =>
      by_cases alive : state.clientAlive = true
      · simp only [Machine.next, callbackMachine, if_pos alive]
        exact invariant.still rfl rfl rfl rfl rfl
      · simp only [Machine.next, callbackMachine, if_neg alive]
        exact invariant.makeClient (Bool.not_eq_true _ ▸ alive) initialized
  | endWait thread initialized =>
      by_cases waits : thread ∈ state.waiting
      case neg =>
        simp only [Machine.next, callbackMachine, if_neg waits]
        exact invariant
      simp only [Machine.next, callbackMachine, if_pos waits]
      have woken : CallbackInvariant { state with waiting := state.waiting.erase thread } :=
        invariant.still rfl rfl rfl rfl rfl
      by_cases alive : state.clientAlive = true
      · rw [if_pos alive]
        exact woken
      · rw [if_neg alive]
        exact woken.makeClient (Bool.not_eq_true _ ▸ alive) initialized
  | registerCallback client =>
      by_cases idle : state.phases client = .idle
      case neg =>
        simp only [Machine.next, callbackMachine, if_neg idle]
        exact invariant
      simp only [Machine.next, callbackMachine, if_pos idle]
      exact invariant.movedUnhooked idle trivial id rfl rfl (fun _ => rfl)
        (fun announces => announces.elim) rfl
  | dropClient client =>
      by_cases unused : state.phases client = .idle ∨ state.phases client = .registered
      case neg =>
        simp only [Machine.next, callbackMachine, if_neg unused]
        exact invariant
      simp only [Machine.next, callbackMachine, if_pos unused]
      have out : (state.phases client).HandedOut := by
        rcases unused with idle | registered
        · rw [idle]; trivial
        · rw [registered]; trivial
      refine invariant.moved rfl out rfl rfl (fun _ => rfl) (fun announces => announces.elim)
        fun set => ?_
      obtain ⟨holder, held, hooked⟩ := invariant.hooked set
      obtain rfl := invariant.one holder client (.of_hooked hooked) out
      exact ⟨held, trivial⟩
  | proceed client display2Active => exact invariant.proceed client display2Active
  | setVsyncEnabled enabled => exact invariant.still rfl rfl rfl rfl rfl
  | vsyncEndWait => exact invariant.still rfl rfl rfl rfl state.vsync.endWait_callback
  | vsyncEndSleep fire => exact invariant.still rfl rfl rfl rfl (state.vsync.endSleep_callback fire)

/-- Whatever hook runs in a step, it finds the callback of a client that has its members. -/
theorem hooksReachClient (invariant : CallbackInvariant state) (step : CallbackStep) :
    HooksReachClient state step := by
  intro hook runs
  obtain ⟨same, ⟨client, announcing⟩ | callback⟩ := hook_cases runs
  · exact ⟨client, same.trans (invariant.announcing client announcing),
      .of_announcing announcing⟩
  · obtain ⟨client, held, hooked⟩ := invariant.hooked callback
    exact ⟨client, same.trans held, .of_hooked hooked⟩

end CallbackInvariant

/-- A registration that nothing interrupts is the call that the HAL answers in one step: it
announces the displays that the device names, and leaves the client hooked. -/
theorem registration_announces {context : HwcContext} (hal : ComposerHal context)
    (state : CallbackState) (client : ClientId) (prepared : state.phases client = .prepared) :
    let steps := List.replicate 4
      (CallbackStep.proceed client (context.isDisplay2Active hal.device.hwcContext))
    (callbackMachine.trace state steps).filterMap Prod.snd =
        hal.registerEventCallback.1.map (fun display => .hotplug display (some client)) ∧
      (callbackMachine.run state steps).phases client = .registered ∧
      (callbackMachine.run state steps).vsync.callback = true := by
  cases active : context.isDisplay2Active hal.device.hwcContext <;>
    simp [List.replicate, Machine.trace, Machine.run, Machine.answer, Machine.next,
      callbackMachine, CallbackState.proceed, CallbackState.move, prepared, active,
      ComposerHal.registerEventCallback, Hwc2Device.announcedDisplays]

/-- However the threads interleave, at most one client is handed out at a time, and no hook
finds `mEventCallback` null or a client without its members. -/
theorem callbacks_reach_live_clients (steps : List CallbackStep) :
    callbackMachine.Always OneClient .start steps ∧
      callbackMachine.EachStep HooksReachClient .start steps := by
  constructor
  · have always : callbackMachine.Always CallbackInvariant .start steps :=
      callbackMachine.always_of_invariant (fun state step invariant => invariant.next step)
        CallbackInvariant.start steps
    exact always.mono fun state invariant => invariant.one
  · exact callbackMachine.eachStep_of_invariant
      (fun state step invariant => invariant.next step)
      (fun state step invariant => invariant.hooksReachClient step) CallbackInvariant.start steps

end Arpi.Composer
