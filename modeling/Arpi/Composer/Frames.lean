import Arpi.Composer.DeviceEffects
import Arpi.Composer.ErrorReporting

/-!
# Clients that show whole frames

A client that sends whole frames, each with its target, a validation, an acceptance and a
presentation, sees none of the states of the device. From any state that the device may be in,
its frames are those of `frameMachine`, which knows no validation: a frame takes its target, or
keeps the last one if the look-up or the dataspace fails, and posts it on its display.
-/

namespace Arpi.Composer

open Arpi.Gralloc Arpi.Semantics

variable {context : HwcContext} {resources : ComposerResources}

/-- A frame for a display. -/
structure Frame where
  display : DisplayId
  known : KnownDisplay display
  buffer : SlotBuffer
  dataspace : Int

/-- The command of a frame. -/
def Frame.command (frame : Frame) : DisplayCommand where
  display := frame.display
  clientTarget := some ⟨frame.buffer, frame.dataspace⟩
  validateDisplay := true
  acceptDisplayChanges := true
  presentDisplay := true

/-- The look-up of the target of a frame. -/
def Frame.lookUp (resources : ComposerResources) (frame : Frame) (state : resources.State) :
    CacheAnswer × resources.State :=
  resources.getDisplayClientTarget frame.display frame.buffer.slot frame.buffer.handle.isNone
    (frame.buffer.handle.getD 0) state

/-- Why a frame keeps the last target, or 0. -/
def Frame.targetError (frame : Frame) (found : CacheAnswer) : Int :=
  if found.error ≠ 0 then found.error
  else if frame.dataspace ≠ halDataspaceUnknown then hwc2ErrorBadParameter
  else 0

/-- What whole frames depend on and leave behind: the target, the layers, the changes that
nobody was told of yet, the posts, the context and the resources. -/
structure Screens (context : HwcContext) (resources : ComposerResources) where
  target : BufferHandle
  layers : UnorderedSet LayerId
  unreported : List (LayerId × Composition)
  posts : List Post
  kms : context.State
  resources : resources.State

/-- Showing one frame after the other, each with the index of its command. -/
def frameMachine (context : HwcContext) (resources : ComposerResources) :
    Machine (Screens context resources) (Frame × Nat) (List CommandResult) where
  step screens indexed :=
    let frame := indexed.1
    let found := frame.lookUp resources screens.resources
    let error := frame.targetError found.1
    let target := if error = 0 then found.1.handle else screens.target
    let posted := context.hwcPost frame.display target screens.kms
    ((if error = 0 then [] else [.error indexed.2 error]) ++
        [.changedCompositionTypes frame.display screens.unreported,
          .displayRequests frame.display, .clientTargetProperty frame.display,
          .presentFence frame.display (some posted.1.retireFence),
          .releaseFences frame.display],
      { target := target
        layers := screens.layers
        unreported := []
        posts := ⟨frame.display, target, posted.1.code⟩ :: screens.posts
        kms := posted.2
        resources := resources.setDisplayMustValidateState frame.display false found.2 })

/-- What whole frames see of a world. -/
def World.screens (world : World context resources) : Screens context resources where
  target := world.hal.device.buffer
  layers := world.hal.device.layers
  unreported := ComposerHal.reportedChanges world.hal.device
  posts := world.hal.device.posts
  kms := world.hal.device.hwcContext
  resources := world.resources

/-! ## The handlers of a frame -/

namespace ComposerHal

variable {hal : ComposerHal context} {display : DisplayId}

/-- A known display takes any target without a dataspace, and no other. -/
theorem setClientTarget_of_known (known : KnownDisplay display) (target : BufferHandle)
    (dataspace : Int) :
    hal.setClientTarget display target dataspace =
      if dataspace ≠ halDataspaceUnknown then (hwc2ErrorBadParameter, hal)
      else (hwc2ErrorNone, { hal with device := { hal.device with buffer := target } }) := by
  simp only [setClientTarget, Hwc2Device.setClientTarget, if_neg (not_not.mpr known)]
  split <;> rfl

/-- After a validation of a known display an acceptance succeeds, and then a presentation. -/
theorem acceptDisplayChanges_of_known (known : KnownDisplay display)
    (validated : hal.device.state ≠ .modified) :
    hal.acceptDisplayChanges display = (hwc2ErrorNone,
      { hal with device := { hal.device with dirtyLayers := .empty, state := .validated } }) := by
  simp only [acceptDisplayChanges, Hwc2Device.acceptDisplayChanges_of_validated known validated]

theorem presentDisplay_of_known (known : KnownDisplay display)
    (may : hal.mustValidateDisplay = false) (validated : hal.device.state = .validated) :
    hal.presentDisplay display = (hwc2ErrorNone,
      some (context.hwcPost display hal.device.buffer hal.device.hwcContext).1.retireFence,
      { hal with device := { hal.device with
          hwcContext := (context.hwcPost display hal.device.buffer hal.device.hwcContext).2
          posts := ⟨display, hal.device.buffer,
            (context.hwcPost display hal.device.buffer hal.device.hwcContext).1.code⟩ ::
              hal.device.posts } }) := by
  rw [presentDisplay_of_mayPresent may, Hwc2Device.presentDisplay_of_validated known validated]

/-- No layer is dirty, and no change is reported. -/
theorem reportedChanges_of_empty {device : Hwc2Device context}
    (clean : device.dirtyLayers = .empty) : reportedChanges device = [] := by
  simp [reportedChanges, clean, UnorderedSet.empty]

end ComposerHal

namespace CommandEngine

/-- What a frame is to an engine, whatever state its device is in. -/
structure ShowsFrame (engine after : CommandEngine context resources) (frame : Frame) : Prop where
  index : after.commandIndex = engine.commandIndex + 1
  screens : after.world.screens =
    (frameMachine context resources).next engine.world.screens (frame, engine.commandIndex)
  writer : after.writer = engine.writer ++
    (frameMachine context resources).answer engine.world.screens (frame, engine.commandIndex)

theorem executeSetClientTarget_frame (frame : Frame) (engine : CommandEngine context resources) :
    engine.executeSetClientTarget frame.display ⟨frame.buffer, frame.dataspace⟩ =
      let found := frame.lookUp resources engine.world.resources
      let error := frame.targetError found.1
      { engine with
        world := ⟨{ engine.world.hal with device := { engine.world.hal.device with
          buffer := if error = 0 then found.1.handle else engine.world.hal.device.buffer } },
            found.2⟩
        writer := engine.writer ++
          if error = 0 then [] else [.error engine.commandIndex error] } := by
  have succeeded : hwc2ErrorNone = 0 := rfl
  have refused : hwc2ErrorBadParameter ≠ 0 := by decide
  simp only [executeSetClientTarget, Frame.lookUp, Frame.targetError,
    ComposerHal.setClientTarget_of_known frame.known]
  split_ifs <;> simp_all [setError, write]

theorem executeValidateDisplay_frame (frame : Frame) (engine : CommandEngine context resources) :
    engine.executeValidateDisplay frame.display =
      { engine with
        world := ⟨{ engine.world.hal with
          device := { engine.world.hal.device with
            state := if engine.world.hal.device.dirtyCount = 0 then .validated
              else .validatedWithChanges }
          mustValidateDisplay := false },
            resources.setDisplayMustValidateState frame.display false engine.world.resources⟩
        writer := engine.writer ++ [.changedCompositionTypes frame.display
          (ComposerHal.reportedChanges engine.world.hal.device), .displayRequests frame.display,
            .clientTargetProperty frame.display] } := by
  have succeeded : hwc2ErrorNone = 0 := rfl
  simp only [executeValidateDisplay, executeValidateDisplayInternal,
    ComposerHal.validateDisplay_of_known frame.known, if_pos succeeded, write]

theorem executeAcceptDisplayChanges_frame (frame : Frame)
    (engine : CommandEngine context resources)
    (validated : engine.world.hal.device.state ≠ .modified) :
    engine.executeAcceptDisplayChanges frame.display =
      { engine with world := { engine.world with hal := { engine.world.hal with
          device := { engine.world.hal.device with
            dirtyLayers := .empty, state := .validated } } } } := by
  have succeeded : hwc2ErrorNone = 0 := rfl
  simp only [executeAcceptDisplayChanges,
    ComposerHal.acceptDisplayChanges_of_known frame.known validated, if_pos succeeded]

theorem executePresentDisplay_frame (frame : Frame) (engine : CommandEngine context resources)
    (may : engine.world.hal.mustValidateDisplay = false)
    (validated : engine.world.hal.device.state = .validated) :
    (engine.executePresentDisplay frame.display).2 =
      let posted := context.hwcPost frame.display engine.world.hal.device.buffer
        engine.world.hal.device.hwcContext
      { engine with
        world := { engine.world with hal := { engine.world.hal with
          device := { engine.world.hal.device with
            hwcContext := posted.2
            posts := ⟨frame.display, engine.world.hal.device.buffer, posted.1.code⟩ ::
              engine.world.hal.device.posts } } }
        writer := engine.writer ++ [.presentFence frame.display (some posted.1.retireFence),
          .releaseFences frame.display] } := by
  have succeeded : hwc2ErrorNone = 0 := rfl
  simp only [executePresentDisplay, ComposerHal.presentDisplay_of_known frame.known may validated,
    if_pos succeeded, write]

/-- The command of a frame shows it. -/
theorem executeCommand_frame (frame : Frame) (engine : CommandEngine context resources) :
    ShowsFrame engine (engine.executeCommand frame.command) frame := by
  have dispatched : engine.dispatchDisplayCommand frame.command =
      ((((engine.executeSetClientTarget frame.display
        ⟨frame.buffer, frame.dataspace⟩).executeValidateDisplay
          frame.display).executeAcceptDisplayChanges frame.display).executePresentDisplay
            frame.display).2 := rfl
  have validated : (if engine.world.hal.device.dirtyCount = 0 then ValidationState.validated
      else .validatedWithChanges) ≠ .modified := by split <;> exact nofun
  rw [executeSetClientTarget_frame, executeValidateDisplay_frame,
    executeAcceptDisplayChanges_frame, executePresentDisplay_frame] at dispatched
  · refine ⟨?_, ?_, ?_⟩ <;> rw [executeCommand, dispatched]
    · simp only [World.screens, ComposerHal.reportedChanges_of_empty]
      rfl
    · simp only [List.append_assoc]
      rfl
  · rfl
  · rfl
  · exact validated

/-- The commands of frames show them one after the other. -/
theorem foldl_frames (frames : List Frame) (engine : CommandEngine context resources) :
    let after := (frames.map Frame.command).foldl executeCommand engine
    after.world.screens = (frameMachine context resources).run engine.world.screens
        (frames.zipIdx engine.commandIndex) ∧
      after.writer = engine.writer ++
        ((frameMachine context resources).trace engine.world.screens
          (frames.zipIdx engine.commandIndex)).flatMap Prod.snd := by
  induction frames generalizing engine with
  | nil => simp
  | cons frame rest ih =>
      have shows := executeCommand_frame frame engine
      obtain ⟨screens, writer⟩ := ih (engine.executeCommand frame.command)
      rw [shows.index, shows.screens] at screens writer
      refine ⟨screens, writer.trans ?_⟩
      rw [shows.writer, List.append_assoc]
      rfl

end CommandEngine

/-- The states of the device do not matter to a client that sends whole frames, in as many
batches as it likes: the results of a batch and what it leaves behind are those of the frame
machine, from any state of the HAL and of the device. -/
theorem frames_refine (world : World context resources) (frames : List Frame) :
    ((CommandEngine.idle world).execute (frames.map Frame.command)).1 =
        ((frameMachine context resources).trace world.screens frames.zipIdx).flatMap Prod.snd ∧
      ((CommandEngine.idle world).execute (frames.map Frame.command)).2.world.screens =
        (frameMachine context resources).run world.screens frames.zipIdx := by
  obtain ⟨screens, writer⟩ := CommandEngine.foldl_frames frames (CommandEngine.idle world)
  exact ⟨writer.trans (List.nil_append _), screens⟩

end Arpi.Composer
