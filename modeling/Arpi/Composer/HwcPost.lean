import Arpi.Composer.Hwc2Device
import Arpi.Composer.KmsContext

/-!
# Posting a buffer

`hwc_post` shows a buffer on a display: it makes a framebuffer for the handle if it has
none yet, and then either sets the mode of the CRTC or commits a page flip. What the kernel
answers to the calls of a post is a parameter. `shown` lists the calls that put a
framebuffer on a CRTC, oldest first.
-/

namespace Arpi.Composer

open Arpi.Gralloc Arpi.Semantics

/-- `EBUSY`. -/
def ebusy : Int := 16

/-- A framebuffer object of the kernel, with the descriptor of the buffer behind it. -/
structure Framebuffer where
  descriptor : Int
  object : BitVec 32
  width : BitVec 32
  height : BitVec 32
  format : BitVec 32
  pitch : BitVec 32
  offset : BitVec 32
deriving DecidableEq

/-- What the kernel answers during a post: to `drmPrimeFDToHandle` a code and a handle, to
`drmModeAddFB2WithModifiers` a code and an id, to the calls that show a framebuffer a code,
with `errno` and what is stored through the fence pointer for a commit. -/
structure KernelAnswers where
  primeFdToHandle : Int × BitVec 32
  addFb : Int × ObjectId
  setCrtc : Int
  atomicCommit : Int
  errno : Int
  outFence : Option Int

/-- The calls that put a framebuffer on a CRTC. -/
inductive ShowCall where
  | setCrtc (output : OutputName) (crtcId fbId connectorId : ObjectId) (mode : ModeInfo)
      (code : Int)
  | atomicCommit (output : OutputName) (crtcId planeId fbId : ObjectId) (code errno : Int)

/-- The context, the handles, and the framebuffers in the kernel. -/
structure PostState where
  context : KmsContext
  memory : BufferHandle → PrivateHandle
  framebuffers : ObjectId → Option Framebuffer

/-- What `hwc_post` returns, leaves in its fence argument, shows and leaves behind. -/
structure PostResult where
  posted : Posted
  shown : List ShowCall
  state : PostState

namespace KmsContext

/-- `first_post` and `first_post2`. -/
def firstPostOf (context : KmsContext) : OutputName → Int
  | .primary => context.firstPost
  | .secondary => context.firstPost2

/-- Writes one of the two. -/
def setFirstPost (name : OutputName) (value : Int) (context : KmsContext) : KmsContext :=
  match name with
  | .primary => { context with firstPost := value }
  | .secondary => { context with firstPost2 := value }

@[simp] theorem setFirstPost_output (context : KmsContext) (name other : OutputName) (value : Int) :
    (context.setFirstPost name value).output other = context.output other := by
  cases name <;> rfl

@[simp] theorem setFirstPost_primaryOutput (context : KmsContext) (name : OutputName)
    (value : Int) : (context.setFirstPost name value).primaryOutput = context.primaryOutput := by
  cases name <;> rfl

@[simp] theorem setFirstPost_self (context : KmsContext) (name : OutputName) (value : Int) :
    (context.setFirstPost name value).firstPostOf name = value := by
  cases name <;> rfl

theorem setFirstPost_of_ne {name other : OutputName} (different : other ≠ name)
    (context : KmsContext) (value : Int) :
    (context.setFirstPost name value).firstPostOf other = context.firstPostOf other := by
  cases name <;> cases other <;> first | rfl | exact absurd rfl different

end KmsContext

/-- The output of a display. -/
def displayOutput (display : DisplayId) : Option OutputName :=
  if display = 0 then some .primary else if display = 1 then some .secondary else none

/-- `private_handle_t::validate`. -/
def validate (buffer : BufferHandle) (hnd : PrivateHandle) : Int :=
  if buffer = 0 ∨ hnd.version ≠ PrivateHandle.nativeHandleSize ∨
      hnd.numInts ≠ PrivateHandle.sNumInts ∨ hnd.numFds ≠ PrivateHandle.sNumFds ∨
      hnd.magic ≠ PrivateHandle.sMagic then -einval
  else 0

/-- The framebuffer that `add_fb` asks for. Its size, its format and with them its pitch are
those of the primary output. -/
def requestedFramebuffer (output : KmsOutput) (hnd : PrivateHandle) (object : BitVec 32) :
    Framebuffer where
  descriptor := hnd.fd
  object := object
  width := output.mode.hdisplay.setWidth 32
  height := output.mode.vdisplay.setWidth 32
  format := output.drmFormat
  pitch := output.mode.hdisplay.setWidth 32 * 4
  offset := 0

/-- `add_fb`. -/
def addFb (answers : KernelAnswers) (buffer : BufferHandle) (state : PostState) :
    Int × PostState :=
  let hnd := state.memory buffer
  if hnd.fbId ≠ 0 then (0, state)
  else if answers.primeFdToHandle.1 ≠ 0 then (answers.primeFdToHandle.1, state)
  else if answers.addFb.1 ≠ 0 then (answers.addFb.1, state)
  else
    (0, { state with
      memory := Function.update state.memory buffer { hnd with fbId := answers.addFb.2 }
      framebuffers := Function.update state.framebuffers answers.addFb.2
        (some (requestedFramebuffer state.context.primaryOutput hnd answers.primeFdToHandle.2)) })

/-- `atomic_commit`, for the display of an output. -/
def atomicCommit (answers : KernelAnswers) (name : OutputName) (buffer : BufferHandle)
    (outFence : Int) (state : PostState) : PostResult :=
  if buffer = 0 then ⟨⟨0, outFence⟩, [], state⟩
  else
    let output := state.context.output name
    let fence := answers.outFence.getD outFence
    let shown : List ShowCall := [.atomicCommit name output.crtcId output.planeId
      (state.memory buffer).fbId answers.atomicCommit answers.errno]
    if answers.atomicCommit < 0 then
      -- Any failure but a busy CRTC has the next post set the mode.
      let context := if answers.errno ≠ ebusy then state.context.setFirstPost name 1
        else state.context
      ⟨⟨answers.atomicCommit, fence⟩, shown, { state with context := context }⟩
    else ⟨⟨0, fence⟩, shown, state⟩

/-- The branch of `hwc_post` for the display of an output. -/
def postOutput (answers : KernelAnswers) (name : OutputName) (buffer : BufferHandle)
    (outFence : Int) (state : PostState) : PostResult :=
  let output := state.context.output name
  if state.context.firstPostOf name ≠ 0 then
    let context := if answers.setCrtc = 0 then state.context.setFirstPost name 0
      else state.context
    ⟨⟨answers.setCrtc, -1⟩,
      [.setCrtc name output.crtcId (state.memory buffer).fbId output.connectorId output.mode
        answers.setCrtc],
      { state with context := context }⟩
  else atomicCommit answers name buffer outFence state

/-- `hwc_post`. An unknown display is noticed only once the handle has a framebuffer. -/
def hwcPost (answers : KernelAnswers) (display : DisplayId) (buffer : BufferHandle)
    (outFence : Int) (state : PostState) : PostResult :=
  if validate buffer (state.memory buffer) < 0 then ⟨⟨-einval, outFence⟩, [], state⟩
  else
    let added := if (state.memory buffer).fbId = 0 then addFb answers buffer state else (0, state)
    if added.1 ≠ 0 then ⟨⟨added.1, outFence⟩, [], added.2⟩
    else
      match displayOutput display with
      | some name => postOutput answers name buffer outFence added.2
      | none => ⟨⟨-einval, outFence⟩, [], added.2⟩

/-- A post with what the caller left in the fence argument and what the kernel answers. -/
structure PostCall where
  display : DisplayId
  buffer : BufferHandle
  outFence : Int
  answers : KernelAnswers

/-- The context as a service that posts buffers. -/
def postMachine : Machine PostState PostCall (Posted × List ShowCall) where
  step state call :=
    let result := hwcPost call.answers call.display call.buffer call.outFence state
    ((result.posted, result.shown), result.state)

/-! ## What a post can do -/

/-- A valid handle that has a framebuffer or gets one, posted on a display: what makes a post
show the buffer. -/
structure Shows (state : PostState) (call : PostCall) (name : OutputName) : Prop where
  valid : validate call.buffer (state.memory call.buffer) = 0
  framed : (state.memory call.buffer).fbId ≠ 0 ∨
    call.answers.primeFdToHandle.1 = 0 ∧ call.answers.addFb.1 = 0
  display : displayOutput call.display = some name

/-- The state in which a post shows its buffer. -/
def framedState (state : PostState) (call : PostCall) : PostState :=
  (addFb call.answers call.buffer state).2

/-- A post either refuses, with an error and without a call that shows anything, or goes to
the output of its display. -/
inductive PostOutcome (state : PostState) (call : PostCall) : PostResult → Prop where
  | refused {code : Int} {after : PostState} (why : ∀ name, ¬ Shows state call name)
      (failed : code ≠ 0) (kept : after = state ∨ after = framedState state call) :
      PostOutcome state call ⟨⟨code, call.outFence⟩, [], after⟩
  | shown (name : OutputName) (shows : Shows state call name) :
      PostOutcome state call
        (postOutput call.answers name call.buffer call.outFence (framedState state call))

section Posts

variable {state : PostState} {call : PostCall}

theorem validate_cases (buffer : BufferHandle) (hnd : PrivateHandle) :
    validate buffer hnd = 0 ∧ buffer ≠ 0 ∨ validate buffer hnd = -einval := by
  unfold validate
  split
  · exact .inr rfl
  · rename_i valid
    exact .inl ⟨rfl, fun null => valid (.inl null)⟩

theorem Shows.nonnull {name : OutputName} (shows : Shows state call name) : call.buffer ≠ 0 := by
  rcases validate_cases call.buffer (state.memory call.buffer) with ⟨-, nonnull⟩ | invalid
  · exact nonnull
  · rw [shows.valid] at invalid
    exact absurd invalid (by decide)

/-- The specification of `add_fb`: it succeeds exactly when the handle has a framebuffer or
the kernel makes one. -/
theorem addFb_succeeds_iff (answers : KernelAnswers) (buffer : BufferHandle) :
    (addFb answers buffer state).1 = 0 ↔
      (state.memory buffer).fbId ≠ 0 ∨ answers.primeFdToHandle.1 = 0 ∧ answers.addFb.1 = 0 := by
  unfold addFb
  dsimp only
  by_cases cached : (state.memory buffer).fbId ≠ 0
  · rw [if_pos cached]
    exact iff_of_true rfl (.inl cached)
  rw [if_neg cached]
  by_cases unimported : answers.primeFdToHandle.1 ≠ 0
  · rw [if_pos unimported]
    exact iff_of_false unimported (by tauto)
  rw [if_neg unimported]
  by_cases unmade : answers.addFb.1 ≠ 0
  · rw [if_pos unmade]
    exact iff_of_false unmade (by tauto)
  · rw [if_neg unmade]
    exact iff_of_true rfl (.inr ⟨not_not.mp unimported, not_not.mp unmade⟩)

/-- Whether or not `hwc_post` calls `add_fb`, the result is that of calling it. -/
theorem addFb_of_needed (answers : KernelAnswers) (buffer : BufferHandle) :
    (if (state.memory buffer).fbId = 0 then addFb answers buffer state else (0, state)) =
      addFb answers buffer state := by
  by_cases needed : (state.memory buffer).fbId = 0
  · rw [if_pos needed]
  · rw [if_neg needed, addFb]
    exact (if_pos needed).symm

/-- The specification of `hwc_post`. -/
theorem hwcPost_outcome (state : PostState) (call : PostCall) :
    PostOutcome state call
      (hwcPost call.answers call.display call.buffer call.outFence state) := by
  unfold hwcPost
  dsimp only
  rw [addFb_of_needed]
  rcases validate_cases call.buffer (state.memory call.buffer) with ⟨valid, -⟩ | invalid
  case inr =>
    rw [if_pos (by rw [invalid]; decide)]
    refine .refused (fun name shows => ?_) (by decide) (.inl rfl)
    rw [shows.valid] at invalid
    exact absurd invalid (by decide)
  rw [if_neg (by rw [valid]; decide)]
  by_cases unframed : (addFb call.answers call.buffer state).1 ≠ 0
  · rw [if_pos unframed]
    exact .refused (fun name shows => unframed ((addFb_succeeds_iff _ _).mpr shows.framed))
      unframed (.inr rfl)
  rw [if_neg unframed]
  have framed := (addFb_succeeds_iff _ _).mp (not_not.mp unframed)
  cases display : displayOutput call.display with
  | none =>
      refine .refused (fun name shows => ?_) (by decide) (.inr rfl)
      rw [shows.display] at display
      cases display
  | some name => exact .shown name ⟨valid, framed, display⟩

/-- What a post does on its output, for a framebuffer: the mode is set, or a flip is
committed, or the commit fails. -/
inductive OutputOutcome (state : PostState) (answers : KernelAnswers) (name : OutputName)
    (fbId : ObjectId) (outFence : Int) : PostResult → Prop where
  | modeSet (armed : state.context.firstPostOf name ≠ 0) :
      OutputOutcome state answers name fbId outFence
        ⟨⟨answers.setCrtc, -1⟩,
          [.setCrtc name (state.context.output name).crtcId fbId
            (state.context.output name).connectorId (state.context.output name).mode
            answers.setCrtc],
          { state with context := if answers.setCrtc = 0 then state.context.setFirstPost name 0
            else state.context }⟩
  | committed (unarmed : state.context.firstPostOf name = 0) (succeeded : 0 ≤ answers.atomicCommit) :
      OutputOutcome state answers name fbId outFence
        ⟨⟨0, answers.outFence.getD outFence⟩,
          [.atomicCommit name (state.context.output name).crtcId
            (state.context.output name).planeId fbId answers.atomicCommit answers.errno],
          state⟩
  | failed (unarmed : state.context.firstPostOf name = 0) (failed : answers.atomicCommit < 0) :
      OutputOutcome state answers name fbId outFence
        ⟨⟨answers.atomicCommit, answers.outFence.getD outFence⟩,
          [.atomicCommit name (state.context.output name).crtcId
            (state.context.output name).planeId fbId answers.atomicCommit answers.errno],
          { state with context := if answers.errno ≠ ebusy then state.context.setFirstPost name 1
            else state.context }⟩

/-- The specification of the branch of `hwc_post` for an output. -/
theorem postOutput_outcome (state : PostState) (answers : KernelAnswers) (name : OutputName)
    {buffer : BufferHandle} (nonnull : buffer ≠ 0) (outFence : Int) :
    OutputOutcome state answers name (state.memory buffer).fbId outFence
      (postOutput answers name buffer outFence state) := by
  unfold postOutput
  by_cases armed : state.context.firstPostOf name ≠ 0
  · simp only [if_pos armed]
    exact .modeSet armed
  simp only [if_neg armed, atomicCommit, if_neg nonnull]
  by_cases failed : answers.atomicCommit < 0
  · simp only [if_pos failed]
    exact .failed (not_not.mp armed) failed
  · simp only [if_neg failed]
    exact .committed (not_not.mp armed) (Int.not_lt.mp failed)

/-- On its output a post changes neither handles nor framebuffers nor outputs. -/
theorem OutputOutcome.keeps {answers : KernelAnswers} {name : OutputName} {fbId : ObjectId}
    {outFence : Int} {result : PostResult}
    (outcome : OutputOutcome state answers name fbId outFence result) :
    result.state.memory = state.memory ∧ result.state.framebuffers = state.framebuffers ∧
      ∀ other, result.state.context.output other = state.context.output other := by
  cases outcome with
  | modeSet armed =>
      refine ⟨rfl, rfl, fun other => ?_⟩
      dsimp only
      split <;> simp
  | committed unarmed succeeded => exact ⟨rfl, rfl, fun other => rfl⟩
  | failed unarmed failed =>
      refine ⟨rfl, rfl, fun other => ?_⟩
      dsimp only
      split <;> simp

theorem framedState_context : (framedState state call).context = state.context := by
  unfold framedState addFb
  dsimp only
  split_ifs <;> rfl

end Posts

end Arpi.Composer
