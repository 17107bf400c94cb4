import Arpi.Composer.ComposerHal
import Arpi.Composer.ResourceManager

/-!
# The command engine

`ComposerCommandEngine` takes a batch of display commands apart, hands every field that is
set to its handler and collects the results. The fields of a command whose handlers do
nothing (cursor position, damage, blend mode and the like) are left out. Acquire fences
are waited for and closed by the handlers and leave no trace.
-/

namespace Arpi.Composer

open Arpi.Gralloc

/-- A `Buffer`: its slot, and its handle unless the cached one is meant. -/
structure SlotBuffer where
  slot : BitVec 32
  handle : Option BufferHandle
deriving DecidableEq

/-- A `ClientTarget`. -/
structure ClientTarget where
  buffer : SlotBuffer
  dataspace : Int
deriving DecidableEq

/-- A `LayerCommand`. -/
structure LayerCommand where
  layer : LayerId
  buffer : Option SlotBuffer := none
  composition : Option Composition := none
  sidebandStream : Option BufferHandle := none
deriving DecidableEq

/-- A `DisplayCommand`. -/
structure DisplayCommand where
  display : DisplayId
  layers : List LayerCommand := []
  clientTarget : Option ClientTarget := none
  virtualDisplayOutputBuffer : Option SlotBuffer := none
  validateDisplay : Bool := false
  acceptDisplayChanges : Bool := false
  presentDisplay : Bool := false
  presentOrValidateDisplay : Bool := false
deriving DecidableEq

/-- A `CommandResultPayload`. Display requests and release fences are always empty. -/
inductive CommandResult where
  | error (commandIndex : Nat) (errorCode : Int)
  | changedCompositionTypes (display : DisplayId) (changes : List (LayerId × Composition))
  | displayRequests (display : DisplayId)
  | clientTargetProperty (display : DisplayId)
  | presentFence (display : DisplayId) (fence : Option Int)
  | releaseFences (display : DisplayId)
  | presentOrValidateResult (display : DisplayId)
deriving DecidableEq

/-- What the pointers of the engine lead to. -/
structure World (context : HwcContext) (resources : ComposerResources) where
  hal : ComposerHal context
  resources : resources.State

/-- `ComposerCommandEngine`. -/
structure CommandEngine (context : HwcContext) (resources : ComposerResources) where
  world : World context resources
  writer : List CommandResult
  commandIndex : Nat

namespace CommandEngine

variable {context : HwcContext} {resources : ComposerResources}

/-- An engine between two batches. -/
def idle (world : World context resources) : CommandEngine context resources := ⟨world, [], 0⟩

/-- Append to the results. -/
def write (results : List CommandResult) (engine : CommandEngine context resources) :
    CommandEngine context resources :=
  { engine with writer := engine.writer ++ results }

/-- `ComposerServiceWriter::setError` under the index of the current command. -/
def setError (error : Int) (engine : CommandEngine context resources) :
    CommandEngine context resources :=
  engine.write [.error engine.commandIndex error]

/-- `executeValidateDisplayInternal`. -/
def executeValidateDisplayInternal (display : DisplayId)
    (engine : CommandEngine context resources) : Int × CommandEngine context resources :=
  let validated := engine.world.hal.validateDisplay display
  let engine := { engine with world := {
    hal := validated.2.2
    resources := resources.setDisplayMustValidateState display false engine.world.resources } }
  if validated.1 = 0 then
    (validated.1, engine.write [.changedCompositionTypes display validated.2.1,
      .displayRequests display, .clientTargetProperty display])
  else (validated.1, engine.setError validated.1)

/-- `executeSetClientTarget`. -/
def executeSetClientTarget (display : DisplayId) (command : ClientTarget)
    (engine : CommandEngine context resources) : CommandEngine context resources :=
  let useCache := command.buffer.handle.isNone
  let handle := command.buffer.handle.getD 0
  let found := resources.getDisplayClientTarget display command.buffer.slot useCache handle
    engine.world.resources
  let engine := { engine with world := { engine.world with resources := found.2 } }
  if found.1.error = 0 then
    let set := engine.world.hal.setClientTarget display found.1.handle command.dataspace
    let engine := { engine with world := { engine.world with hal := set.2 } }
    if set.1 = 0 then engine else engine.setError set.1
  else engine.setError found.1.error

/-- `executeSetOutputBuffer`. -/
def executeSetOutputBuffer (display : DisplayId) (buffer : SlotBuffer)
    (engine : CommandEngine context resources) : CommandEngine context resources :=
  let found := resources.getDisplayOutputBuffer display buffer.slot buffer.handle.isNone
    (buffer.handle.getD 0) engine.world.resources
  let engine := { engine with world := { engine.world with resources := found.2 } }
  if found.1.error = 0 then engine else engine.setError found.1.error

/-- `executeValidateDisplay`. -/
def executeValidateDisplay (display : DisplayId) (engine : CommandEngine context resources) :
    CommandEngine context resources :=
  (engine.executeValidateDisplayInternal display).2

/-- `executePresentOrValidateDisplay`, which always falls back to validating. -/
def executePresentOrValidateDisplay (display : DisplayId)
    (engine : CommandEngine context resources) : CommandEngine context resources :=
  let validated := engine.executeValidateDisplayInternal display
  if validated.1 = 0 then validated.2.write [.presentOrValidateResult display] else validated.2

/-- `executeAcceptDisplayChanges`. -/
def executeAcceptDisplayChanges (display : DisplayId) (engine : CommandEngine context resources) :
    CommandEngine context resources :=
  let accepted := engine.world.hal.acceptDisplayChanges display
  let engine := { engine with world := { engine.world with hal := accepted.2 } }
  if accepted.1 = 0 then engine else engine.setError accepted.1

/-- `executePresentDisplay`: the error is returned, not written. -/
def executePresentDisplay (display : DisplayId) (engine : CommandEngine context resources) :
    Int × CommandEngine context resources :=
  let presented := engine.world.hal.presentDisplay display
  let engine := { engine with world := { engine.world with hal := presented.2.2 } }
  if presented.1 = 0 then
    (presented.1, engine.write [.presentFence display presented.2.1, .releaseFences display])
  else (presented.1, engine)

/-- `executeSetLayerBuffer`. -/
def executeSetLayerBuffer (display : DisplayId) (layer : LayerId) (buffer : SlotBuffer)
    (engine : CommandEngine context resources) : CommandEngine context resources :=
  let found := resources.getLayerBuffer display layer buffer.slot buffer.handle.isNone
    (buffer.handle.getD 0) engine.world.resources
  let engine := { engine with world := { engine.world with resources := found.2 } }
  if found.1.error = 0 then engine else engine.setError found.1.error

/-- `executeSetLayerComposition`. -/
def executeSetLayerComposition (display : DisplayId) (layer : LayerId) (composition : Composition)
    (engine : CommandEngine context resources) : CommandEngine context resources :=
  let set := engine.world.hal.setLayerCompositionType display layer composition
  let engine := { engine with world := { engine.world with hal := set.2 } }
  if set.1 = 0 then engine else engine.setError set.1

/-- `executeSetLayerSidebandStream`: an error is overwritten before it is looked at. -/
def executeSetLayerSidebandStream (display : DisplayId) (layer : LayerId)
    (sidebandStream : BufferHandle) (engine : CommandEngine context resources) :
    CommandEngine context resources :=
  let found := resources.getLayerSidebandStream display layer sidebandStream
    engine.world.resources
  let engine := { engine with world := { engine.world with resources := found.2 } }
  let err := if found.1.error ≠ 0 then 0 else found.1.error
  if err = 0 then engine else engine.setError err

/-- Hand a field to its handler if it is set. -/
def dispatch {Data : Type} (field : Option Data)
    (execute : Data → CommandEngine context resources → CommandEngine context resources)
    (engine : CommandEngine context resources) : CommandEngine context resources :=
  match field with
  | some data => execute data engine
  | none => engine

/-- Call a handler if a flag is set. -/
def dispatchBool (field : Bool)
    (execute : CommandEngine context resources → CommandEngine context resources)
    (engine : CommandEngine context resources) : CommandEngine context resources :=
  if field then execute engine else engine

/-- `dispatchLayerCommand`. -/
def dispatchLayerCommand (display : DisplayId) (engine : CommandEngine context resources)
    (command : LayerCommand) : CommandEngine context resources :=
  engine
    |> dispatch command.buffer (executeSetLayerBuffer display command.layer)
    |> dispatch command.composition (executeSetLayerComposition display command.layer)
    |> dispatch command.sidebandStream (executeSetLayerSidebandStream display command.layer)

/-- `dispatchDisplayCommand`. -/
def dispatchDisplayCommand (engine : CommandEngine context resources)
    (command : DisplayCommand) : CommandEngine context resources :=
  command.layers.foldl (dispatchLayerCommand command.display) engine
    |> dispatch command.clientTarget (executeSetClientTarget command.display)
    |> dispatch command.virtualDisplayOutputBuffer (executeSetOutputBuffer command.display)
    |> dispatchBool command.validateDisplay (executeValidateDisplay command.display)
    |> dispatchBool command.acceptDisplayChanges (executeAcceptDisplayChanges command.display)
    -- the macro discards what `executePresentDisplay` returns
    |> dispatchBool command.presentDisplay
      (fun engine => (engine.executePresentDisplay command.display).2)
    |> dispatchBool command.presentOrValidateDisplay
      (executePresentOrValidateDisplay command.display)

/-- One turn of the loop in `execute`. -/
def executeCommand (engine : CommandEngine context resources) (command : DisplayCommand) :
    CommandEngine context resources :=
  let engine := engine.dispatchDisplayCommand command
  { engine with commandIndex := engine.commandIndex + 1 }

/-- `execute`: the results, and the engine after its writer was reset. -/
def execute (commands : List DisplayCommand) (engine : CommandEngine context resources) :
    List CommandResult × CommandEngine context resources :=
  let engine := commands.foldl executeCommand { engine with commandIndex := 0 }
  (engine.writer, { engine with writer := [] })

end CommandEngine

end Arpi.Composer
