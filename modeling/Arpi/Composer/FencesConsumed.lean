import Arpi.Composer.CachingResources
import Arpi.Composer.FenceOwnership
import Arpi.Composer.ServiceEffects

/-!
# Fences across a batch

Each handler accounts for the fence of its field, whatever the look-up and the device answer, so
that a batch with the destruction of its commands accounts for all of its fences.
-/

namespace Arpi.Composer

open Arpi.Gralloc Arpi.Semantics

variable {context : HwcContext} {resources : ComposerResources}

namespace CommandEngine

/-- The client target of the device. -/
def clientTarget (engine : CommandEngine context resources) : BufferHandle :=
  engine.world.hal.device.buffer

/-- Only the handler of client targets changes the one of the device. -/
theorem executeField_clientTarget (display : DisplayId) (engine : CommandEngine context resources)
    {field : Field} (other : ∀ target, field ≠ .clientTarget target) :
    (engine.executeField display field).clientTarget = engine.clientTarget := by
  rw [clientTarget, (executeField_handles display engine field).world]
  exact (World.perform_quiet engine.world display other).buffer

theorem dispatch_clientTarget {Data : Type} (field : Option Data) (make : Data → Field)
    (other : ∀ data target, make data ≠ .clientTarget target) (display : DisplayId)
    (engine : CommandEngine context resources) :
    (dispatch field (fun data engine => engine.executeField display (make data))
      engine).clientTarget = engine.clientTarget := by
  cases field with
  | none => rfl
  | some data => exact executeField_clientTarget display engine (other data)

theorem dispatchBool_clientTarget (flag : Bool) (field : Field)
    (other : ∀ target, field ≠ .clientTarget target) (display : DisplayId)
    (engine : CommandEngine context resources) :
    (dispatchBool flag (fun engine => engine.executeField display field) engine).clientTarget =
      engine.clientTarget := by
  cases flag with
  | false => rfl
  | true => exact executeField_clientTarget display engine other

end CommandEngine

/-- Presenting a display posts the client target, or nothing. -/
theorem newPosts_presentDisplay (display : DisplayId) (hal : ComposerHal context) :
    newPosts hal.device (hal.presentDisplay display).2.2.device = [] ∨
      ∃ code, newPosts hal.device (hal.presentDisplay display).2.2.device =
        [⟨display, hal.device.buffer, code⟩] := by
  have none : newPosts hal.device hal.device = [] := by simp [newPosts]
  unfold ComposerHal.presentDisplay Hwc2Device.presentDisplay
  split
  · exact .inl none
  · split
    · exact .inl none
    · split
      · exact .inl none
      · exact .inr ⟨_, by simp [newPosts]; rfl⟩

namespace FencedEngine

/-- What is known of an engine and its fences. -/
def Accounted (all : Multiset Int) (first : BufferHandle) (outstanding : Multiset Int)
    (fenced : FencedEngine context resources) : Prop :=
  FenceLedger all first outstanding fenced.engine.clientTarget fenced.events

variable {all : Multiset Int} {first : BufferHandle} {outstanding : Multiset Int}
  {fenced : FencedEngine context resources}

/-- A handler that knows nothing of fences and leaves the client target alone. -/
theorem Accounted.handle (accounted : fenced.Accounted all first outstanding)
    {execute : CommandEngine context resources → CommandEngine context resources}
    (same : (execute fenced.engine).clientTarget = fenced.engine.clientTarget) :
    (fenced.handle execute).Accounted all first outstanding := by
  rw [Accounted, FencedEngine.handle, same]
  exact accounted

theorem Accounted.executeSetOutputBuffer (distinct : all.Nodup) (display : DisplayId)
    (buffer : FencedBuffer)
    (accounted : fenced.Accounted all first (ownedDescriptors [buffer.fence] + outstanding)) :
    (FencedEngine.executeSetOutputBuffer display buffer fenced).2.Accounted all first
      (ownedDescriptors [(FencedEngine.executeSetOutputBuffer display buffer fenced).1.fence] +
        outstanding) := by
  simp only [FencedEngine.executeSetOutputBuffer]
  split
  · exact (zero_add outstanding).symm ▸ FenceLedger.closeFence distinct accounted
  · exact accounted

theorem Accounted.executeSetLayerBuffer (distinct : all.Nodup) (display : DisplayId)
    (layer : LayerId) (buffer : FencedBuffer)
    (accounted : fenced.Accounted all first (ownedDescriptors [buffer.fence] + outstanding)) :
    (FencedEngine.executeSetLayerBuffer display layer buffer fenced).2.Accounted all first
      (ownedDescriptors
        [(FencedEngine.executeSetLayerBuffer display layer buffer fenced).1.fence] +
          outstanding) := by
  simp only [FencedEngine.executeSetLayerBuffer]
  split
  · exact (zero_add outstanding).symm ▸ FenceLedger.waitAndClose distinct accounted
  · exact accounted

/-- The device has waited for the fence before it takes the client target. -/
theorem setFencedClientTarget_ledger (distinct : all.Nodup) {fence : ScopedFileDescriptor}
    {events : List FenceEvent} (device : Hwc2Device context) (display : DisplayId)
    (target : BufferHandle) (dataspace : Int)
    (ledger : FenceLedger all first (ownedDescriptors [fence] + outstanding) device.buffer
      events) :
    FenceLedger all first outstanding
      (device.setFencedClientTarget display target fence.fd dataspace).2.2.buffer
      (events ++ (device.setFencedClientTarget display target fence.fd dataspace).2.1) := by
  have waited := ledger.waitAndClose distinct
  simp only [Hwc2Device.setFencedClientTarget]
  split
  · exact waited
  · split
    · exact waited
    · rw [← List.append_assoc]
      apply waited.target target
      intro some
      rw [waitAndClose, if_pos some]
      simp

theorem Accounted.executeSetClientTarget (distinct : all.Nodup) (display : DisplayId)
    (command : FencedClientTarget)
    (accounted : fenced.Accounted all first
      (ownedDescriptors [command.buffer.fence] + outstanding)) :
    (FencedEngine.executeSetClientTarget display command fenced).2.Accounted all first
      (ownedDescriptors
        [(FencedEngine.executeSetClientTarget display command fenced).1.buffer.fence] +
          outstanding) := by
  simp only [FencedEngine.executeSetClientTarget]
  split
  · have set := fun target => setFencedClientTarget_ledger distinct
      fenced.engine.world.hal.device display target command.dataspace accounted
    refine (zero_add outstanding).symm ▸ ?_
    rw [Accounted, CommandEngine.clientTarget]
    split <;> exact set _
  · exact accounted

theorem Accounted.executePresentDisplay (accounted : fenced.Accounted all first outstanding)
    (display : DisplayId) :
    (fenced.executePresentDisplay display).Accounted all first outstanding := by
  have handles := CommandEngine.executePresentDisplay_handles display fenced.engine
  have hal : (fenced.engine.executePresentDisplay display).2.world.hal =
      (fenced.engine.world.hal.presentDisplay display).2.2 := congrArg World.hal handles.world
  have same : (fenced.engine.executePresentDisplay display).2.clientTarget =
      fenced.engine.clientTarget :=
    CommandEngine.executeField_clientTarget display fenced.engine
      (show ∀ target, Field.presentDisplay ≠ .clientTarget target by simp)
  rw [Accounted, FencedEngine.executePresentDisplay]
  simp only [hal, same]
  rcases newPosts_presentDisplay display fenced.engine.world.hal with none | ⟨code, one⟩
  · rw [none, List.map_nil, List.append_nil]
    exact accounted
  · rw [one]
    exact FenceLedger.post accounted

theorem Accounted.presentIf (accounted : fenced.Accounted all first outstanding) (flag : Bool)
    (display : DisplayId) :
    (if flag then fenced.executePresentDisplay display else fenced).Accounted all first
      outstanding := by
  cases flag with
  | false => exact accounted
  | true => exact accounted.executePresentDisplay display

/-- What a layer command owns is the fence of its buffer. -/
theorem ownedDescriptors_layer (command : FencedLayerCommand) :
    ownedDescriptors command.fences =
      command.buffer.elim 0 fun buffer => ownedDescriptors [buffer.fence] :=
  ownedDescriptors_toList FencedBuffer.fence command.buffer

theorem ownedDescriptors_display (command : FencedDisplayCommand) :
    ownedDescriptors command.fences =
      (command.layers.map fun layer => ownedDescriptors layer.fences).sum +
        (command.clientTarget.elim 0 (fun target => ownedDescriptors [target.buffer.fence]) +
          command.virtualDisplayOutputBuffer.elim 0 fun buffer =>
            ownedDescriptors [buffer.fence]) := by
  rw [FencedDisplayCommand.fences, ownedDescriptors_append, ownedDescriptors_append,
    ownedDescriptors_flatMap, add_assoc]
  exact congrArg₂ (· + ·) rfl
    (congrArg₂ (· + ·)
      (ownedDescriptors_toList (fun target : FencedClientTarget => target.buffer.fence) _)
      (ownedDescriptors_toList FencedBuffer.fence _))

theorem Accounted.dispatchLayerCommand (distinct : all.Nodup) (display : DisplayId)
    (command : FencedLayerCommand)
    (accounted : fenced.Accounted all first (ownedDescriptors command.fences + outstanding)) :
    (FencedEngine.dispatchLayerCommand display command fenced).2.Accounted all first
      (ownedDescriptors (FencedEngine.dispatchLayerCommand display command fenced).1.fences +
        outstanding) := by
  rw [ownedDescriptors_layer] at accounted ⊢
  have buffer := workOn_accounted
    (fun buffer outstanding (fenced : FencedEngine context resources) accounted =>
      Accounted.executeSetLayerBuffer distinct display command.layer buffer accounted)
    command.buffer outstanding fenced accounted
  have composition := buffer.handle
    (CommandEngine.dispatch_clientTarget command.composition (.layerComposition command.layer)
      (by simp) display _)
  exact composition.handle
    (CommandEngine.dispatch_clientTarget command.sidebandStream
      (.layerSidebandStream command.layer) (by simp) display _)

theorem Accounted.dispatchDisplayCommand (distinct : all.Nodup) (command : FencedDisplayCommand)
    (accounted : fenced.Accounted all first (ownedDescriptors command.fences + outstanding)) :
    (FencedEngine.dispatchDisplayCommand command fenced).2.Accounted all first
      (ownedDescriptors (FencedEngine.dispatchDisplayCommand command fenced).1.fences +
        outstanding) := by
  rw [ownedDescriptors_display, add_assoc, add_assoc] at accounted ⊢
  have layers := workThrough_accounted
    (fun layer outstanding (fenced : FencedEngine context resources) accounted =>
      Accounted.dispatchLayerCommand distinct command.display layer accounted)
    command.layers _ fenced accounted
  rw [add_left_comm] at layers
  have target := workOn_accounted
    (fun target outstanding (fenced : FencedEngine context resources) accounted =>
      Accounted.executeSetClientTarget distinct command.display target accounted)
    command.clientTarget _ _ layers
  rw [add_left_comm, add_left_comm (Option.elim _ 0 _) (Option.elim _ 0 _),
    add_left_comm (List.sum _)] at target
  have output := workOn_accounted
    (fun buffer outstanding (fenced : FencedEngine context resources) accounted =>
      Accounted.executeSetOutputBuffer distinct command.display buffer accounted)
    command.virtualDisplayOutputBuffer _ _ target
  rw [add_left_comm, add_left_comm (Option.elim _ 0 _) (Option.elim _ 0 _)] at output
  have validated := output.handle (CommandEngine.dispatchBool_clientTarget
    command.validateDisplay .validateDisplay (by simp) command.display _)
  have accepted := validated.handle (CommandEngine.dispatchBool_clientTarget
    command.acceptDisplayChanges .acceptDisplayChanges (by simp) command.display _)
  have presented := accepted.presentIf command.presentDisplay command.display
  exact presented.handle (CommandEngine.dispatchBool_clientTarget
    command.presentOrValidateDisplay .presentOrValidateDisplay (by simp) command.display _)

theorem Accounted.executeCommand (distinct : all.Nodup) (command : FencedDisplayCommand)
    (accounted : fenced.Accounted all first (ownedDescriptors command.fences + outstanding)) :
    (FencedEngine.executeCommand command fenced).2.Accounted all first
      (ownedDescriptors (FencedEngine.executeCommand command fenced).1.fences + outstanding) :=
  (accounted.dispatchDisplayCommand distinct command).handle rfl

end FencedEngine

/-- A release fence is consumed whether the look-up succeeds or not. -/
theorem setReadbackBuffer_consumed (first : BufferHandle) (error : Int)
    (releaseFence : ScopedFileDescriptor) :
    FencesConsumed first [releaseFence] (setReadbackBuffer error releaseFence).2 := by
  have distinct : (ownedDescriptors [releaseFence]).Nodup := by
    by_cases some : releaseFence.fd = -1
    · rw [ownedDescriptors_singleton_of_none some]
      exact Multiset.nodup_zero
    · rw [ownedDescriptors_singleton some]
      exact Multiset.nodup_singleton _
  have start : FenceLedger (ownedDescriptors [releaseFence]) first
      (ownedDescriptors [releaseFence] + 0) first [] := by
    rw [add_zero]
    exact .start _ _
  unfold setReadbackBuffer
  split
  · have waited : FenceLedger _ _ _ _ (waitAndClose releaseFence.fd) :=
      start.waitAndClose distinct
    have nothing : releaseFence.translate.2.destroyed = [] := rfl
    dsimp only
    rw [nothing, List.append_nil]
    exact waited.consumed distinct
  · have closed : FenceLedger _ _ _ _ releaseFence.destroyed := start.destroyed distinct
    exact closed.consumed distinct

/-- Every fence of a batch is closed exactly once until its commands are destroyed, none is used
after that, and the fence of each client target is waited for before the device takes it and can
post it. The same holds of a release fence, and the fences change nothing else. -/
theorem fences_consumed (commands : List FencedDisplayCommand)
    (engine : CommandEngine context resources)
    (distinct : (ownedDescriptors (commands.flatMap FencedDisplayCommand.fences)).Nodup) :
    FencesConsumed engine.clientTarget (commands.flatMap FencedDisplayCommand.fences)
        (engine.executeFenced commands).events ∧
      ((engine.executeFenced commands).results, (engine.executeFenced commands).engine) =
        engine.execute (commands.map FencedDisplayCommand.plain) ∧
      ∀ error releaseFence, FencesConsumed engine.clientTarget [releaseFence]
        (setReadbackBuffer error releaseFence).2 := by
  refine ⟨?_, engine.executeFenced_eq commands, setReadbackBuffer_consumed engine.clientTarget⟩
  have start : FencedEngine.Accounted
      (ownedDescriptors (commands.flatMap FencedDisplayCommand.fences)) engine.clientTarget
      ((commands.map fun command => ownedDescriptors command.fences).sum + 0)
      ⟨{ engine with commandIndex := 0 }, []⟩ := by
    rw [add_zero, ← ownedDescriptors_flatMap]
    exact FenceLedger.start _ _
  have executed := workThrough_accounted
    (fun command outstanding (fenced : FencedEngine context resources) accounted =>
      FencedEngine.Accounted.executeCommand distinct command accounted) commands 0 _ start
  rw [add_zero, ← ownedDescriptors_flatMap] at executed
  exact (FenceLedger.flatMap_destroyed distinct executed).consumed distinct

/-- A buffer for a layer, a client target and an output buffer. -/
def exampleBatch : List FencedDisplayCommand :=
  [{ display := 0
     layers := [{
       layer := 1
       buffer := some { slot := 0, handle := some 3, fence := ⟨5, by decide⟩ } }]
     clientTarget := some ⟨{ slot := 0, handle := some 7, fence := ⟨6, by decide⟩ }, 0⟩
     virtualDisplayOutputBuffer := some { slot := 0, handle := some 9, fence := ⟨8, by decide⟩ }
     validateDisplay := true
     presentDisplay := true }]

/-- An engine that knows display 0 with a layer and a slot for its client target. -/
def exampleEngine : CommandEngine workingContext cachingResources :=
  .idle ⟨.new (), (CachingState.addLayer 0 1 (CachingState.setDisplayClientTargetCacheSize 0 1
    (CachingState.addPhysicalDisplay 0 .create).2).2).2⟩

/-- The fence of the output buffer, which is not found, is left to the destructor. -/
theorem fences_consumed_example :
    FencesConsumed exampleEngine.clientTarget (exampleBatch.flatMap FencedDisplayCommand.fences)
        (exampleEngine.executeFenced exampleBatch).events ∧
      (exampleEngine.executeFenced exampleBatch).events =
        [.syncWait 5, .close 5, .syncWait 6, .close 6, .target 1 6, .post 1, .close 8] :=
  ⟨(fences_consumed exampleBatch exampleEngine (by decide)).1, by decide⟩

end Arpi.Composer
