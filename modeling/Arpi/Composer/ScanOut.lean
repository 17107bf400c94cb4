import Arpi.Composer.HwcPost

/-!
# What is scanned out

A framebuffer is made when a handle is posted first, and kept in the handle. It has the
size of the primary mode and a pitch computed from that size, whatever the handle's stride
is and whichever display the buffer is shown on. `scanOut_describes_iff` says for which
posts it nevertheless describes the buffer and fits the display.
-/

namespace Arpi.Composer

open Arpi.Gralloc Arpi.Semantics

/-- The output that a call shows a framebuffer on. -/
def ShowCall.output : ShowCall → OutputName
  | .setCrtc output .. => output
  | .atomicCommit output .. => output

/-- The framebuffer that a call shows. -/
def ShowCall.fbId : ShowCall → ObjectId
  | .setCrtc _ _ fbId .. => fbId
  | .atomicCommit _ _ _ fbId .. => fbId

/-- A framebuffer of four-byte pixels that describes the buffer of a handle and has the size
of a mode: it was made from the handle's descriptor, with its stride as pitch, its rows are
inside the buffer's bytes, and it is as wide and as high as the mode. -/
structure DescribesBuffer (framebuffer : Framebuffer) (hnd : PrivateHandle) (mode : ModeInfo) :
    Prop where
  descriptor : framebuffer.descriptor = hnd.fd
  pitch : framebuffer.pitch = hnd.stride
  inside : ∀ row < framebuffer.height.toNat,
    framebuffer.offset.toNat + row * framebuffer.pitch.toNat + 4 * framebuffer.width.toNat ≤
      hnd.stride.toNat * hnd.height.toNat
  width : framebuffer.width = mode.hdisplay.setWidth 32
  height : framebuffer.height = mode.vdisplay.setWidth 32

/-- Every framebuffer that a post shows describes the buffer that is posted, and has the size
of the mode of the output it is shown on. -/
def ShowsItsBuffer (state : PostState) (call : PostCall) : Prop :=
  let result := hwcPost call.answers call.display call.buffer call.outFence state
  ∀ shown ∈ result.shown, displayOutput call.display = some shown.output ∧
    ∃ framebuffer, result.state.framebuffers shown.fbId = some framebuffer ∧
      DescribesBuffer framebuffer (state.memory call.buffer)
        (state.context.output shown.output).mode

/-- The handle's stride is four times the width of the primary mode, the buffer is as high as
that mode, and the output has a mode of the same size. -/
structure GeometryFits (context : KmsContext) (name : OutputName) (hnd : PrivateHandle) : Prop where
  stride : hnd.stride.toNat = 4 * context.primaryOutput.mode.hdisplay.toNat
  rows : context.primaryOutput.mode.hdisplay = 0 ∨
    context.primaryOutput.mode.vdisplay.toNat ≤ hnd.height.toNat
  width : (context.output name).mode.hdisplay = context.primaryOutput.mode.hdisplay
  height : (context.output name).mode.vdisplay = context.primaryOutput.mode.vdisplay

/-- A post that shows its buffer has a geometry that fits. -/
def PostFits (state : PostState) (call : PostCall) : Prop :=
  ∀ name, Shows state call name →
    GeometryFits state.context name (state.memory call.buffer)

/-- The kernel makes framebuffers under ids that are not zero and not in use. -/
def AddFbContract (state : PostState) (call : PostCall) : Prop :=
  call.answers.addFb.1 = 0 →
    call.answers.addFb.2 ≠ 0 ∧ state.framebuffers call.answers.addFb.2 = none

/-- The framebuffer of every handle is what `add_fb` asks for. -/
def HandlesFramed (state : PostState) : Prop :=
  ∀ buffer, (state.memory buffer).fbId ≠ 0 → ∃ object,
    state.framebuffers (state.memory buffer).fbId =
      some (requestedFramebuffer state.context.primaryOutput (state.memory buffer) object)

section Framing

variable {state : PostState} {call : PostCall}

/-- Framing a handle changes nothing in it but the framebuffer. -/
theorem framedState_memory (state : PostState) (call : PostCall) (buffer : BufferHandle) :
    ∃ fbId, (framedState state call).memory buffer = { state.memory buffer with fbId := fbId } := by
  unfold framedState addFb
  dsimp only
  split_ifs
  · exact ⟨_, rfl⟩
  · exact ⟨_, rfl⟩
  · exact ⟨_, rfl⟩
  · by_cases here : buffer = call.buffer
    · subst here
      exact ⟨call.answers.addFb.2, Function.update_self ..⟩
    · exact ⟨_, Function.update_of_ne here ..⟩

/-- A handle that is shown has a framebuffer then. -/
theorem Shows.fbId {name : OutputName} (shows : Shows state call name)
    (kernel : AddFbContract state call) :
    ((framedState state call).memory call.buffer).fbId ≠ 0 := by
  unfold framedState addFb
  dsimp only
  by_cases cached : (state.memory call.buffer).fbId ≠ 0
  · rw [if_pos cached]
    exact cached
  · obtain ⟨imported, made⟩ := shows.framed.resolve_left cached
    rw [if_neg cached, if_neg (not_not.mpr imported), if_neg (not_not.mpr made)]
    dsimp only
    rw [Function.update_self]
    exact (kernel made).1

/-- Framing a handle keeps the framebuffers of the others. -/
theorem HandlesFramed.framedState (framed : HandlesFramed state)
    (kernel : AddFbContract state call) : HandlesFramed (framedState state call) := by
  unfold Composer.framedState addFb
  dsimp only
  split_ifs with cached unimported unmade
  · exact framed
  · exact framed
  · exact framed
  · obtain ⟨-, unused⟩ := kernel (not_not.mp unmade)
    intro buffer present
    dsimp only at present ⊢
    by_cases here : buffer = call.buffer
    · subst here
      rw [Function.update_self, Function.update_self]
      exact ⟨call.answers.primeFdToHandle.2, rfl⟩
    · rw [Function.update_of_ne here] at present ⊢
      obtain ⟨object, held⟩ := framed buffer present
      have different : (state.memory buffer).fbId ≠ call.answers.addFb.2 := by
        intro same
        rw [same, unused] at held
        cases held
      rw [Function.update_of_ne different]
      exact ⟨object, held⟩

/-- Only the handles, the framebuffers and the primary mode matter. -/
theorem HandlesFramed.congr {after : PostState} (framed : HandlesFramed state)
    (memory : after.memory = state.memory) (framebuffers : after.framebuffers = state.framebuffers)
    (output : after.context.primaryOutput = state.context.primaryOutput) :
    HandlesFramed after := by
  intro buffer present
  rw [memory] at present ⊢
  rw [framebuffers, output]
  exact framed buffer present

/-- Every post keeps the handles framed. -/
theorem HandlesFramed.next (framed : HandlesFramed state) (kernel : AddFbContract state call) :
    HandlesFramed (postMachine.next state call) := by
  have later := framed.framedState kernel
  have outcome : PostOutcome state call
      (hwcPost call.answers call.display call.buffer call.outFence state) :=
    hwcPost_outcome state call
  rw [Machine.next]
  simp only [postMachine]
  generalize hwcPost call.answers call.display call.buffer call.outFence state = result at outcome
  cases outcome with
  | refused why failed kept =>
      rcases kept with rfl | rfl
      · exact framed
      · exact later
  | shown name shows =>
      obtain ⟨memory, framebuffers, outputs⟩ :=
        (postOutput_outcome (Composer.framedState state call) call.answers name shows.nonnull
          call.outFence).keeps
      exact later.congr memory framebuffers (outputs .primary)

end Framing

/-! ## Which framebuffers describe their buffers -/

/-- The pixels of a mode's row, as `add_fb` computes with them. -/
theorem widened_toNat (size : BitVec 16) :
    (size.setWidth 32).toNat = size.toNat ∧ (size.setWidth 32 * 4).toNat = 4 * size.toNat := by
  have value : (size.setWidth 32).toNat = size.toNat := by
    rw [BitVec.toNat_setWidth]
    omega
  refine ⟨value, ?_⟩
  have four : (4 : BitVec 32).toNat = 4 := rfl
  rw [BitVec.toNat_mul, value, four]
  omega

theorem widened_inj {left right : BitVec 16} :
    left.setWidth 32 = right.setWidth 32 ↔ right = left := by
  rw [← BitVec.toNat_inj, (widened_toNat left).1, (widened_toNat right).1, ← BitVec.toNat_inj,
    eq_comm]

/-- Rows as long as the stride are inside the buffer exactly when the buffer has that many. -/
theorem rows_inside_iff (row rows available : Nat) :
    (∀ index < rows, 0 + index * row + row ≤ row * available) ↔ row = 0 ∨ rows ≤ available := by
  constructor
  · intro inside
    by_contra outside
    obtain ⟨wide, short⟩ := not_or.mp outside
    have last := inside available (Nat.not_le.mp short)
    rw [Nat.mul_comm available] at last
    omega
  · rintro (empty | enough) index bound
    · simp [empty]
    · have below := Nat.mul_le_mul_left row
        (Nat.succ_le_of_lt (Nat.lt_of_lt_of_le bound enough))
      rw [Nat.mul_succ] at below
      rw [Nat.mul_comm index]
      omega

/-- What `add_fb` asks for describes the buffer exactly when the geometry fits. -/
theorem requestedFramebuffer_describes_iff (context : KmsContext) (name : OutputName)
    (hnd : PrivateHandle) (fbId : ObjectId) (object : BitVec 32) :
    DescribesBuffer (requestedFramebuffer context.primaryOutput { hnd with fbId := fbId } object)
        hnd (context.output name).mode ↔ GeometryFits context name hnd := by
  have columns := widened_toNat context.primaryOutput.mode.hdisplay
  have lines := widened_toNat context.primaryOutput.mode.vdisplay
  have pitch : context.primaryOutput.mode.hdisplay.setWidth 32 * 4 = hnd.stride ↔
      hnd.stride.toNat = 4 * context.primaryOutput.mode.hdisplay.toNat := by
    rw [← BitVec.toNat_inj, columns.2, eq_comm]
  have empty : 4 * context.primaryOutput.mode.hdisplay.toNat = 0 ↔
      context.primaryOutput.mode.hdisplay = 0 := by
    rw [← BitVec.toNat_inj]
    simp
  have inside : hnd.stride.toNat = 4 * context.primaryOutput.mode.hdisplay.toNat →
      ((∀ row < context.primaryOutput.mode.vdisplay.toNat,
          0 + row * (4 * context.primaryOutput.mode.hdisplay.toNat) +
            4 * context.primaryOutput.mode.hdisplay.toNat ≤
              hnd.stride.toNat * hnd.height.toNat) ↔
        context.primaryOutput.mode.hdisplay = 0 ∨
          context.primaryOutput.mode.vdisplay.toNat ≤ hnd.height.toNat) := by
    intro stride
    rw [stride, rows_inside_iff, empty]
  constructor
  · intro describes
    have stride := pitch.mp describes.pitch
    have rows := describes.inside
    simp only [requestedFramebuffer, columns.1, columns.2, lines.1] at rows
    exact ⟨stride, (inside stride).mp rows, widened_inj.mp describes.width,
      widened_inj.mp describes.height⟩
  · intro fits
    refine ⟨rfl, pitch.mpr fits.stride, ?_, widened_inj.mpr fits.width,
      widened_inj.mpr fits.height⟩
    simp only [requestedFramebuffer, columns.1, columns.2, lines.1]
    exact (inside fits.stride).mpr fits.rows

/-- A post shows a framebuffer that describes its buffer exactly when the geometry fits. -/
theorem showsItsBuffer_iff {state : PostState} {call : PostCall} (framed : HandlesFramed state)
    (kernel : AddFbContract state call) :
    ShowsItsBuffer state call ↔ PostFits state call := by
  have outcome : PostOutcome state call
      (hwcPost call.answers call.display call.buffer call.outFence state) :=
    hwcPost_outcome state call
  unfold ShowsItsBuffer
  generalize hwcPost call.answers call.display call.buffer call.outFence state = result at outcome
  cases outcome with
  | refused why failed kept =>
      exact iff_of_true (by simp) fun name shows => absurd shows (why name)
  | shown name shows =>
      have only : PostFits state call ↔
          GeometryFits state.context name (state.memory call.buffer) := by
        refine ⟨fun fits => fits name shows, fun fits other showsOther => ?_⟩
        obtain rfl : name = other :=
          Option.some.inj (shows.display.symm.trans showsOther.display)
        exact fits
      obtain ⟨fbId, memory⟩ := framedState_memory state call call.buffer
      obtain ⟨object, made⟩ := framed.framedState kernel call.buffer (shows.fbId kernel)
      have describes := requestedFramebuffer_describes_iff state.context name
        (state.memory call.buffer) fbId object
      rw [framedState_context, memory] at made
      have branch := postOutput_outcome (framedState state call) call.answers name shows.nonnull
        call.outFence
      rw [memory] at branch
      generalize postOutput call.answers name call.buffer call.outFence (framedState state call) =
        result at branch
      have shown : (∃ call', result.shown = [call'] ∧ call'.output = name ∧ call'.fbId = fbId) ∧
          result.state.framebuffers = (framedState state call).framebuffers := by
        refine ⟨?_, branch.keeps.2.1⟩
        cases branch with
        | modeSet => exact ⟨_, rfl, rfl, rfl⟩
        | committed => exact ⟨_, rfl, rfl, rfl⟩
        | failed => exact ⟨_, rfl, rfl, rfl⟩
      obtain ⟨⟨call', one, output, shownId⟩, framebuffers⟩ := shown
      rw [only, ← describes]
      simp only [one, List.mem_singleton, forall_eq, output, shownId, framebuffers, made,
        shows.display, true_and, Option.some.injEq, exists_eq_left']

/-- From a state in which no handle has a framebuffer, every framebuffer that the posts of a
run show describes the buffer that is posted, and fits the mode it is shown in, exactly when
each post that shows its buffer has a geometry that fits. -/
theorem scanOut_describes_iff (context : KmsContext) (memory : BufferHandle → PrivateHandle)
    (framebuffers : ObjectId → Option Framebuffer)
    (unframed : ∀ buffer, (memory buffer).fbId = 0) (calls : List PostCall)
    (kernel : postMachine.EachStep AddFbContract ⟨context, memory, framebuffers⟩ calls) :
    postMachine.EachStep ShowsItsBuffer ⟨context, memory, framebuffers⟩ calls ↔
      postMachine.EachStep PostFits ⟨context, memory, framebuffers⟩ calls := by
  have start : HandlesFramed ⟨context, memory, framebuffers⟩ :=
    fun buffer present => absurd (unframed buffer) present
  have preserved : ∀ state call, HandlesFramed state → AddFbContract state call →
      PostFits state call → HandlesFramed (postMachine.next state call) :=
    fun state call framed kernel _ => framed.next kernel
  exact postMachine.eachStep_iff_eachStep preserved
    (fun state call framed kernel => showsItsBuffer_iff framed kernel) start kernel

/-- A mode of 1366 by 768 pixels. -/
def exampleWideMode : ModeInfo := ⟨85500, 1366, 768, 60, 0x48⟩

/-- An initialised output in a mode. -/
def exampleOutput (id : ObjectId) (mode : ModeInfo) : KmsOutput :=
  ⟨id, id, id, 0, mode, 75, 75, drmFormatAbgr8888, 1, 11, 12, 13⟩

/-- Two initialised outputs in these modes. -/
def exampleOutputs (primary secondary : ModeInfo) : KmsContext :=
  ⟨none, none, -1, exampleOutput 1 primary, exampleOutput 2 secondary, 1, 1⟩

/-- A kernel that makes this framebuffer and does everything else it is asked for. -/
def exampleAnswers (fbId : ObjectId) : KernelAnswers := ⟨(0, 3), (0, fbId), 0, 0, 0, some 20⟩

/-- A handle of a buffer as large as that mode. -/
def exampleScreen (stride : U32) : PrivateHandle :=
  PrivateHandle.new stride 1366 768 halPixelFormatRgba8888 0x1A00

/-- A handle with the stride of the mode is posted on both displays, which have the mode. -/
theorem scanOut_describes_example :
    postMachine.EachStep ShowsItsBuffer
      ⟨exampleOutputs exampleWideMode exampleWideMode, fun _ => exampleScreen 5464, fun _ => none⟩
      [⟨0, 1, -1, exampleAnswers 7⟩, ⟨1, 1, -1, exampleAnswers 8⟩] := by
  refine (scanOut_describes_iff (exampleOutputs exampleWideMode exampleWideMode)
    (fun _ => exampleScreen 5464) (fun _ => none) (fun _ => rfl)
    [⟨0, 1, -1, exampleAnswers 7⟩, ⟨1, 1, -1, exampleAnswers 8⟩] ?_).mpr ?_
  · exact ⟨fun _ => ⟨by decide, rfl⟩, fun _ => ⟨by decide, by decide⟩, trivial⟩
  · refine ⟨fun name _ => ?_, fun name _ => ?_, trivial⟩ <;> cases name <;>
      exact ⟨by decide, by decide, by decide, by decide⟩

/-- A handle whose stride was rounded up, posted on the primary display: the framebuffer has
the pitch 5464 and the buffer the stride 5504. -/
theorem scanOut_not_always_describes :
    ¬ ∀ (context : KmsContext) (memory : BufferHandle → PrivateHandle)
      (framebuffers : ObjectId → Option Framebuffer) (calls : List PostCall),
      (∀ buffer, (memory buffer).fbId = 0) →
      postMachine.EachStep AddFbContract ⟨context, memory, framebuffers⟩ calls →
      postMachine.EachStep ShowsItsBuffer ⟨context, memory, framebuffers⟩ calls := by
  intro claim
  have kernel : AddFbContract ⟨exampleOutputs exampleWideMode exampleWideMode,
      fun _ => exampleScreen 5504, fun _ => none⟩ ⟨0, 1, -1, exampleAnswers 7⟩ :=
    fun _ => ⟨by decide, rfl⟩
  have describes := (claim (exampleOutputs exampleWideMode exampleWideMode)
    (fun _ => exampleScreen 5504) (fun _ => none) [⟨0, 1, -1, exampleAnswers 7⟩] (fun _ => rfl)
    ⟨kernel, trivial⟩).1
  obtain ⟨-, framebuffer, made, describes⟩ :=
    describes (.setCrtc .primary 1 7 1 exampleWideMode 0) (List.mem_singleton.mpr rfl)
  have found : some (requestedFramebuffer (exampleOutput 1 exampleWideMode)
      (exampleScreen 5504) 3) = some framebuffer := made
  have pitch := describes.pitch
  rw [← Option.some.inj found] at pitch
  exact absurd pitch (by decide)

end Arpi.Composer
