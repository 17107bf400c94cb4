/-!
# The vsync thread

`VsyncThread` invokes the registered callback once a period. Its loop holds the mutex
except while it waits to be enabled and while it sleeps, so between two critical sections
it is in one of two places. The only callback that is ever registered is `vsyncHook`.
-/

namespace Arpi.Composer

/-- Where the loop has given up the mutex; `ended` once it has returned. -/
inductive VsyncPhase where
  | waiting
  | sleeping
  | ended
deriving DecidableEq

/-- The members of `VsyncThread` that its critical sections use; `callback` says whether
`mCallback` is set. -/
structure VsyncThread where
  started : Bool
  callback : Bool
  callbackEnabled : Bool
  phase : VsyncPhase
deriving DecidableEq

namespace VsyncThread

/-- The thread after `start`, which enters the loop with callbacks disabled. -/
def start : VsyncThread := ⟨true, false, false, .waiting⟩

/-- `setCallback`. -/
def setCallback (callback : Bool) (thread : VsyncThread) : VsyncThread :=
  { thread with callback := callback }

/-- `enableCallback`. -/
def enableCallback (enable : Bool) (thread : VsyncThread) : VsyncThread :=
  { thread with callbackEnabled := enable }

/-- The top of the loop: wait if callbacks are disabled, else go to sleep. -/
def loop (thread : VsyncThread) : VsyncThread :=
  { thread with phase := if thread.callbackEnabled then .sleeping else .waiting }

/-- The end of the wait, whose predicate is looked at whenever the thread is notified. -/
def endWait (thread : VsyncThread) : VsyncThread :=
  if thread.phase = .waiting ∧ (thread.callbackEnabled ∨ ¬ thread.started) then
    if thread.started then { thread with phase := .sleeping } else { thread with phase := .ended }
  else thread

/-- The end of the sleep: whether the callback is invoked, and the thread after it. -/
def endSleep (fire : Bool) (thread : VsyncThread) : Bool × VsyncThread :=
  if thread.phase = .sleeping then (fire && thread.callback, thread.loop) else (false, thread)

section Callbacks

variable (thread : VsyncThread)

@[simp] theorem setCallback_callback (callback : Bool) :
    (thread.setCallback callback).callback = callback := rfl

@[simp] theorem enableCallback_callback (enable : Bool) :
    (thread.enableCallback enable).callback = thread.callback := rfl

@[simp] theorem endWait_callback : thread.endWait.callback = thread.callback := by
  unfold endWait
  split
  · split <;> rfl
  · rfl

@[simp] theorem endSleep_callback (fire : Bool) :
    (thread.endSleep fire).2.callback = thread.callback := by
  unfold endSleep
  split <;> rfl

/-- Only a callback that is set is invoked. -/
theorem callback_of_invoked {fire : Bool} (invoked : (thread.endSleep fire).1 = true) :
    thread.callback = true := by
  unfold endSleep at invoked
  split at invoked
  · exact (Bool.and_eq_true_iff.mp invoked).2
  · cases invoked

end Callbacks

end VsyncThread

end Arpi.Composer
