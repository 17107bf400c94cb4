import Arpi.Composer.ErrorReporting
import Arpi.Semantics.Custody
import Arpi.Semantics.History

/-!
# Acquire fences

The buffers of a batch come with fences, each a file descriptor that its command owns. A
handler takes the descriptor out of the command, waits for the fence and closes it; what no
handler has taken is closed when the command is destroyed. The engine is the one of
`ComposerCommandEngine`, with its calls on the descriptors.
-/

namespace Arpi.Composer

open Arpi.Gralloc Arpi.Semantics

/-- A `ScopedFileDescriptor`: the descriptor that it owns, or -1. -/
structure ScopedFileDescriptor where
  fd : Int
  valid : -1 ≤ fd
deriving DecidableEq

namespace ScopedFileDescriptor

/-- A `ScopedFileDescriptor` that owns no descriptor. -/
def empty : ScopedFileDescriptor := ⟨-1, by decide⟩

/-- `translate` of a descriptor: what is taken out, and what is left. -/
def translate (descriptor : ScopedFileDescriptor) : Int × ScopedFileDescriptor :=
  (descriptor.fd, empty)

end ScopedFileDescriptor

/-- What happens to fences: calls on their descriptors, the client target that the device takes
with the fence it came with, and the buffers that are posted. -/
inductive FenceEvent where
  | syncWait (fd : Int)
  | close (fd : Int)
  | target (buffer : BufferHandle) (acquireFence : Int)
  | post (buffer : BufferHandle)
deriving DecidableEq

/-- Wait for a fence, if there is one, and close it. -/
def waitAndClose (fence : Int) : List FenceEvent :=
  if 0 ≤ fence then [.syncWait fence, .close fence] else []

/-- The destructor of a `ScopedFileDescriptor`. -/
def ScopedFileDescriptor.destroyed (descriptor : ScopedFileDescriptor) : List FenceEvent :=
  if descriptor.fd ≠ -1 then [.close descriptor.fd] else []

/-- A `Buffer` with its fence. -/
structure FencedBuffer extends SlotBuffer where
  fence : ScopedFileDescriptor
deriving DecidableEq

/-- A `ClientTarget` with the fence of its buffer. -/
structure FencedClientTarget where
  buffer : FencedBuffer
  dataspace : Int
deriving DecidableEq

/-- A `LayerCommand` with the fence of its buffer. -/
structure FencedLayerCommand where
  layer : LayerId
  buffer : Option FencedBuffer := none
  composition : Option Composition := none
  sidebandStream : Option BufferHandle := none
deriving DecidableEq

/-- A `DisplayCommand` with its fences. -/
structure FencedDisplayCommand where
  display : DisplayId
  layers : List FencedLayerCommand := []
  clientTarget : Option FencedClientTarget := none
  virtualDisplayOutputBuffer : Option FencedBuffer := none
  validateDisplay : Bool := false
  acceptDisplayChanges : Bool := false
  presentDisplay : Bool := false
  presentOrValidateDisplay : Bool := false
deriving DecidableEq

section Plain

/-- The command without its fence. -/
def FencedClientTarget.plain (command : FencedClientTarget) : ClientTarget :=
  ⟨command.buffer.toSlotBuffer, command.dataspace⟩

/-- The command without its fence. -/
def FencedLayerCommand.plain (command : FencedLayerCommand) : LayerCommand where
  layer := command.layer
  buffer := command.buffer.map FencedBuffer.toSlotBuffer
  composition := command.composition
  sidebandStream := command.sidebandStream

/-- The command without its fences. -/
def FencedDisplayCommand.plain (command : FencedDisplayCommand) : DisplayCommand where
  display := command.display
  layers := command.layers.map FencedLayerCommand.plain
  clientTarget := command.clientTarget.map FencedClientTarget.plain
  virtualDisplayOutputBuffer := command.virtualDisplayOutputBuffer.map FencedBuffer.toSlotBuffer
  validateDisplay := command.validateDisplay
  acceptDisplayChanges := command.acceptDisplayChanges
  presentDisplay := command.presentDisplay
  presentOrValidateDisplay := command.presentOrValidateDisplay

/-- The fences that a command has. -/
def FencedLayerCommand.fences (command : FencedLayerCommand) : List ScopedFileDescriptor :=
  command.buffer.toList.map FencedBuffer.fence

/-- The fences that a command has. -/
def FencedDisplayCommand.fences (command : FencedDisplayCommand) : List ScopedFileDescriptor :=
  command.layers.flatMap FencedLayerCommand.fences ++
    command.clientTarget.toList.map (fun target => target.buffer.fence) ++
    command.virtualDisplayOutputBuffer.toList.map FencedBuffer.fence

end Plain

variable {context : HwcContext} {resources : ComposerResources}

/-- `Hwc2Device::setClientTarget`, which has done with the fence before it checks anything. -/
def Hwc2Device.setFencedClientTarget (display : DisplayId) (target : BufferHandle)
    (acquireFence dataspace : Int) (device : Hwc2Device context) :
    Int × List FenceEvent × Hwc2Device context :=
  let waited := waitAndClose acquireFence
  if ¬ KnownDisplay display then (hwc2ErrorBadDisplay, waited, device)
  else if dataspace ≠ halDataspaceUnknown then (hwc2ErrorBadParameter, waited, device)
  else
    (hwc2ErrorNone, waited ++ [.target target acquireFence], { device with buffer := target })

/-- `ComposerHal::setClientTarget`, and what is left of the fence. -/
def ComposerHal.setFencedClientTarget (display : DisplayId) (target : BufferHandle)
    (fence : ScopedFileDescriptor) (dataspace : Int) (hal : ComposerHal context) :
    Int × ScopedFileDescriptor × List FenceEvent × ComposerHal context :=
  let hwcFence := fence.translate
  let answer := hal.device.setFencedClientTarget display target hwcFence.1 dataspace
  (answer.1, hwcFence.2, answer.2.1, { hal with device := answer.2.2 })

/-- `ComposerCommandEngine` and what has happened to fences, oldest first. -/
structure FencedEngine (context : HwcContext) (resources : ComposerResources) where
  engine : CommandEngine context resources
  events : List FenceEvent

namespace FencedEngine

/-- A handler that knows nothing of fences. -/
def handle (execute : CommandEngine context resources → CommandEngine context resources)
    (fenced : FencedEngine context resources) : FencedEngine context resources :=
  { fenced with engine := execute fenced.engine }

/-- `executeSetClientTarget`, and what is left of the command. -/
def executeSetClientTarget (display : DisplayId) (command : FencedClientTarget)
    (fenced : FencedEngine context resources) :
    FencedClientTarget × FencedEngine context resources :=
  let useCache := command.buffer.handle.isNone
  let handle := command.buffer.handle.getD 0
  let found := resources.getDisplayClientTarget display command.buffer.slot useCache handle
    fenced.engine.world.resources
  let engine : CommandEngine context resources :=
    { fenced.engine with world := { fenced.engine.world with resources := found.2 } }
  if found.1.error = 0 then
    let set := engine.world.hal.setFencedClientTarget display found.1.handle command.buffer.fence
      command.dataspace
    let engine := { engine with world := { engine.world with hal := set.2.2.2 } }
    let engine := if set.1 = 0 then engine else engine.setError set.1
    ({ command with buffer := { command.buffer with fence := set.2.1 } },
      ⟨engine, fenced.events ++ set.2.2.1⟩)
  else (command, ⟨engine.setError found.1.error, fenced.events⟩)

/-- `executeSetOutputBuffer`, and what is left of the buffer. Its fence is not waited for. -/
def executeSetOutputBuffer (display : DisplayId) (buffer : FencedBuffer)
    (fenced : FencedEngine context resources) : FencedBuffer × FencedEngine context resources :=
  let found := resources.getDisplayOutputBuffer display buffer.slot buffer.handle.isNone
    (buffer.handle.getD 0) fenced.engine.world.resources
  let engine : CommandEngine context resources :=
    { fenced.engine with world := { fenced.engine.world with resources := found.2 } }
  if found.1.error = 0 then
    let fence := buffer.fence.translate
    ({ buffer with fence := fence.2 },
      ⟨engine, fenced.events ++ if 0 ≤ fence.1 then [.close fence.1] else []⟩)
  else (buffer, ⟨engine.setError found.1.error, fenced.events⟩)

/-- `executeSetLayerBuffer`, and what is left of the buffer. -/
def executeSetLayerBuffer (display : DisplayId) (layer : LayerId) (buffer : FencedBuffer)
    (fenced : FencedEngine context resources) : FencedBuffer × FencedEngine context resources :=
  let found := resources.getLayerBuffer display layer buffer.slot buffer.handle.isNone
    (buffer.handle.getD 0) fenced.engine.world.resources
  let engine : CommandEngine context resources :=
    { fenced.engine with world := { fenced.engine.world with resources := found.2 } }
  if found.1.error = 0 then
    let fence := buffer.fence.translate
    ({ buffer with fence := fence.2 }, ⟨engine, fenced.events ++ waitAndClose fence.1⟩)
  else (buffer, ⟨engine.setError found.1.error, fenced.events⟩)

/-- `executePresentDisplay`, with the buffers that it posts. -/
def executePresentDisplay (display : DisplayId) (fenced : FencedEngine context resources) :
    FencedEngine context resources :=
  let engine := (fenced.engine.executePresentDisplay display).2
  let posts := newPosts fenced.engine.world.hal.device engine.world.hal.device
  ⟨engine, fenced.events ++ posts.map fun post => .post post.buffer⟩

/-- `dispatchLayerCommand`, and what is left of the command. -/
def dispatchLayerCommand (display : DisplayId) (command : FencedLayerCommand)
    (fenced : FencedEngine context resources) :
    FencedLayerCommand × FencedEngine context resources :=
  let buffer := workOn (executeSetLayerBuffer display command.layer) command.buffer fenced
  ({ command with buffer := buffer.1 },
    buffer.2
      |>.handle (CommandEngine.dispatch command.composition
        (CommandEngine.executeSetLayerComposition display command.layer))
      |>.handle (CommandEngine.dispatch command.sidebandStream
        (CommandEngine.executeSetLayerSidebandStream display command.layer)))

/-- `dispatchDisplayCommand`, and what is left of the command. -/
def dispatchDisplayCommand (command : FencedDisplayCommand)
    (fenced : FencedEngine context resources) :
    FencedDisplayCommand × FencedEngine context resources :=
  let layers := workThrough (dispatchLayerCommand command.display) command.layers fenced
  let target := workOn (executeSetClientTarget command.display) command.clientTarget layers.2
  let output := workOn (executeSetOutputBuffer command.display)
    command.virtualDisplayOutputBuffer target.2
  let validated := output.2
    |>.handle (CommandEngine.dispatchBool command.validateDisplay
      (CommandEngine.executeValidateDisplay command.display))
    |>.handle (CommandEngine.dispatchBool command.acceptDisplayChanges
      (CommandEngine.executeAcceptDisplayChanges command.display))
  let presented :=
    if command.presentDisplay then validated.executePresentDisplay command.display else validated
  ({ command with
      layers := layers.1
      clientTarget := target.1
      virtualDisplayOutputBuffer := output.1 },
    presented.handle (CommandEngine.dispatchBool command.presentOrValidateDisplay
      (CommandEngine.executePresentOrValidateDisplay command.display)))

/-- One turn of the loop in `execute`, and what is left of the command. -/
def executeCommand (command : FencedDisplayCommand) (fenced : FencedEngine context resources) :
    FencedDisplayCommand × FencedEngine context resources :=
  let dispatched := fenced.dispatchDisplayCommand command
  (dispatched.1, dispatched.2.handle fun engine =>
    { engine with commandIndex := engine.commandIndex + 1 })

end FencedEngine

/-- What is left of a batch after `executeCommands`: its results, the engine, and what has
happened to fences until the commands are destroyed. -/
structure FencedBatch (context : HwcContext) (resources : ComposerResources) where
  results : List CommandResult
  engine : CommandEngine context resources
  events : List FenceEvent

/-- `executeCommands`, and the destruction of the commands. -/
def CommandEngine.executeFenced (commands : List FencedDisplayCommand)
    (engine : CommandEngine context resources) : FencedBatch context resources :=
  let executed := workThrough FencedEngine.executeCommand commands
    ⟨{ engine with commandIndex := 0 }, []⟩
  { results := executed.2.engine.writer
    engine := { executed.2.engine with writer := [] }
    events := executed.2.events ++
      (executed.1.flatMap FencedDisplayCommand.fences).flatMap ScopedFileDescriptor.destroyed }

/-- `setReadbackBuffer` with the error of the look-up, and the destruction of its fence. -/
def setReadbackBuffer (error : Int) (releaseFence : ScopedFileDescriptor) :
    Int × List FenceEvent :=
  if error = 0 then
    let fence := releaseFence.translate
    (error, waitAndClose fence.1 ++ fence.2.destroyed)
  else (error, releaseFence.destroyed)

/-! ## The engine under the fences -/

theorem Hwc2Device.setFencedClientTarget_eq (display : DisplayId) (target : BufferHandle)
    (acquireFence dataspace : Int) (device : Hwc2Device context) :
    ((device.setFencedClientTarget display target acquireFence dataspace).1,
        (device.setFencedClientTarget display target acquireFence dataspace).2.2) =
      device.setClientTarget display target dataspace := by
  unfold setFencedClientTarget setClientTarget
  by_cases known : KnownDisplay display
  · by_cases unknown : dataspace = halDataspaceUnknown <;> simp [known, unknown]
  · simp [known]

theorem ComposerHal.setFencedClientTarget_eq (display : DisplayId) (target : BufferHandle)
    (fence : ScopedFileDescriptor) (dataspace : Int) (hal : ComposerHal context) :
    ((hal.setFencedClientTarget display target fence dataspace).1,
        (hal.setFencedClientTarget display target fence dataspace).2.2.2) =
      hal.setClientTarget display target dataspace := by
  have device := hal.device.setFencedClientTarget_eq display target fence.translate.1 dataspace
  simp only [setFencedClientTarget, setClientTarget, ← device]

namespace FencedEngine

variable (display : DisplayId) (fenced : FencedEngine context resources)

theorem executeSetClientTarget_engine (command : FencedClientTarget) :
    (executeSetClientTarget display command fenced).2.engine =
      fenced.engine.executeSetClientTarget display command.plain := by
  have set := fun handle => fenced.engine.world.hal.setFencedClientTarget_eq display handle
    command.buffer.fence command.dataspace
  simp only [executeSetClientTarget, CommandEngine.executeSetClientTarget,
    FencedClientTarget.plain, ← set]
  split <;> rfl

theorem executeSetOutputBuffer_engine (buffer : FencedBuffer) :
    (executeSetOutputBuffer display buffer fenced).2.engine =
      fenced.engine.executeSetOutputBuffer display buffer.toSlotBuffer := by
  simp only [executeSetOutputBuffer, CommandEngine.executeSetOutputBuffer]
  split <;> rfl

theorem executeSetLayerBuffer_engine (layer : LayerId) (buffer : FencedBuffer) :
    (executeSetLayerBuffer display layer buffer fenced).2.engine =
      fenced.engine.executeSetLayerBuffer display layer buffer.toSlotBuffer := by
  simp only [executeSetLayerBuffer, CommandEngine.executeSetLayerBuffer]
  split <;> rfl

/-- A field with a fence is handed to the handler of the field without it. -/
theorem workOn_engine {Fenced Plain : Type} {plain : Fenced → Plain}
    {step : Fenced → FencedEngine context resources → Fenced × FencedEngine context resources}
    {execute : Plain → CommandEngine context resources → CommandEngine context resources}
    (steps : ∀ data fenced, (step data fenced).2.engine = execute (plain data) fenced.engine)
    (field : Option Fenced) (fenced : FencedEngine context resources) :
    (workOn step field fenced).2.engine =
      CommandEngine.dispatch (field.map plain) execute fenced.engine := by
  cases field with
  | none => rfl
  | some data => exact steps data fenced

theorem dispatchLayerCommand_engine (command : FencedLayerCommand) :
    (dispatchLayerCommand display command fenced).2.engine =
      CommandEngine.dispatchLayerCommand display fenced.engine command.plain := by
  have buffer := workOn_engine
    (fun buffer fenced => executeSetLayerBuffer_engine display fenced command.layer buffer)
    command.buffer fenced
  simp only [dispatchLayerCommand, handle, buffer]
  rfl

theorem dispatchDisplayCommand_engine (command : FencedDisplayCommand) :
    (dispatchDisplayCommand command fenced).2.engine =
      CommandEngine.dispatchDisplayCommand fenced.engine command.plain := by
  have layers : (workThrough (dispatchLayerCommand command.display) command.layers
      fenced).2.engine =
        (command.layers.map FencedLayerCommand.plain).foldl
          (CommandEngine.dispatchLayerCommand command.display) fenced.engine :=
    workThrough_view (fun layer fenced => dispatchLayerCommand_engine command.display fenced layer)
      command.layers fenced
  have target := workOn_engine
    (fun target (fenced : FencedEngine context resources) =>
      executeSetClientTarget_engine command.display fenced target) command.clientTarget
  have output := workOn_engine
    (fun buffer (fenced : FencedEngine context resources) =>
      executeSetOutputBuffer_engine command.display fenced buffer)
    command.virtualDisplayOutputBuffer
  simp only [dispatchDisplayCommand, handle, apply_ite FencedEngine.engine,
    executePresentDisplay, output, target, layers]
  rfl

theorem executeCommand_engine (command : FencedDisplayCommand) :
    (executeCommand command fenced).2.engine =
      fenced.engine.executeCommand command.plain := by
  simp only [executeCommand, handle, dispatchDisplayCommand_engine]
  rfl

end FencedEngine

/-- With their fences, commands do to the engine what they do without them. -/
theorem CommandEngine.executeFenced_eq (commands : List FencedDisplayCommand)
    (engine : CommandEngine context resources) :
    ((engine.executeFenced commands).results, (engine.executeFenced commands).engine) =
      engine.execute (commands.map FencedDisplayCommand.plain) := by
  have executed : (workThrough FencedEngine.executeCommand commands
      ⟨{ engine with commandIndex := 0 }, []⟩).2.engine =
        (commands.map FencedDisplayCommand.plain).foldl CommandEngine.executeCommand
          { engine with commandIndex := 0 } :=
    workThrough_view (fun command fenced => FencedEngine.executeCommand_engine fenced command)
      commands _
  simp only [executeFenced, execute, executed]

end Arpi.Composer
