import Arpi.Composer.ErrorReporting

/-!
# The composer service

`Composer` serves one client at a time. The client has resources of its own; the HAL and
the device under it outlive it. `serviceMachine` takes the service through its atomic
steps: a batch of display commands is one step per field, and the registration of a
callback is followed by one hotplug for each display that the device announces.
-/

namespace Arpi.Composer

open Arpi.Gralloc Arpi.Semantics

variable {context : HwcContext} {resources : ComposerResources}

/-- `EX_NO_RESOURCES`. -/
def exNoResources : Int := 6

namespace World

/-- `ComposerClient::createLayer`: the error and the layer that the caller reads. The
assignment on failure clears the pointer, not the layer. -/
def createLayer (display : DisplayId) (bufferSlotCount : BitVec 32)
    (world : World context resources) : Int × Option LayerId × World context resources :=
  let created := world.hal.createLayer display
  match created.2.1 with
  | some layer =>
      let added := resources.addLayer display layer bufferSlotCount world.resources
      (added.1, some layer, ⟨created.2.2, added.2⟩)
  | none => (created.1, none, { world with hal := created.2.2 })

/-- `ComposerClient::destroyLayer`. -/
def destroyLayer (display : DisplayId) (layer : LayerId) (world : World context resources) :
    Int × World context resources :=
  let destroyed := world.hal.destroyLayer display layer
  if destroyed.1 = 0 then
    let removed := resources.removeLayer display layer world.resources
    (removed.1, ⟨destroyed.2, removed.2⟩)
  else (destroyed.1, { world with hal := destroyed.2 })

/-- `ComposerClient::setClientTargetSlotCount`. -/
def setClientTargetSlotCount (display : DisplayId) (count : BitVec 32)
    (world : World context resources) : Int × World context resources :=
  let set := resources.setDisplayClientTargetCacheSize display count world.resources
  (set.1, { world with resources := set.2 })

/-- `ComposerClient::setVsyncEnabled`. -/
def setVsyncEnabled (display : DisplayId) (enabled : Bool) (world : World context resources) :
    Int × World context resources :=
  let set := world.hal.setVsyncEnabled display enabled
  (set.1, { world with hal := set.2 })

/-- One turn of the first loop in `cleanDisplayResources`. The look-up asks for the cached
handle, so the slot keeps it and the device receives it. -/
def cleanClientTarget (display : DisplayId) (world : World context resources) (slot : Nat) :
    World context resources :=
  let found := resources.getDisplayClientTarget display (.ofNat 32 slot) true 0 world.resources
  if found.1.error ≠ 0 then { world with resources := found.2 }
  else ⟨(world.hal.setClientTarget display found.1.handle halDataspaceUnknown).2, found.2⟩

/-- One turn of the second loop in `cleanDisplayResources`. -/
def cleanOutputBuffer (display : DisplayId) (world : World context resources) (slot : Nat) :
    World context resources :=
  { world with resources :=
      (resources.getDisplayOutputBuffer display (.ofNat 32 slot) true 0 world.resources).2 }

/-- `cleanDisplayResources`. -/
def cleanDisplayResources (display : DisplayId) (world : World context resources) :
    World context resources :=
  let cacheSize := resources.getDisplayClientTargetCacheSize display world.resources
  let world :=
    if cacheSize.1 = 0 then (List.range cacheSize.2).foldl (cleanClientTarget display) world
    else world
  let cacheSize := resources.getDisplayOutputBufferCacheSize display world.resources
  if cacheSize.1 = 0 then (List.range cacheSize.2).foldl (cleanOutputBuffer display) world
  else world

/-- `onHotplug`. -/
def onHotplug (display : DisplayId) (connected : Bool) (world : World context resources) :
    World context resources :=
  if connected then
    let world :=
      if resources.hasDisplay display world.resources then
        let cleaned := world.cleanDisplayResources display
        { cleaned with resources := (resources.removeDisplay display cleaned.resources).2 }
      else world
    { world with resources := (resources.addPhysicalDisplay display world.resources).2 }
  else { world with resources := (resources.removeDisplay display world.resources).2 }

/-- `ComposerClient::registerCallback`: the device announces its displays at once. -/
def registerCallback (world : World context resources) : World context resources :=
  let registered := world.hal.registerEventCallback
  registered.1.foldl (fun world display => world.onHotplug display true)
    { world with hal := registered.2 }

/-- What `destroyResources` does for a display that is cleared. -/
def destroyDisplay (hal : ComposerHal context) (cleared : ClearedDisplay) : ComposerHal context :=
  let hal := cleared.layers.foldl
    (fun hal layer => (hal.destroyLayer cleared.display layer).2) hal
  if cleared.isVirtual then hal
  else
    let hal := (hal.validateDisplay cleared.display).2.2
    let hal := (hal.acceptDisplayChanges cleared.display).2
    (hal.presentDisplay cleared.display).2.2

/-- `destroyResources`: the HAL that is left when the resources are gone. -/
def destroyResources (world : World context resources) : ComposerHal context :=
  (resources.clear world.resources).foldl destroyDisplay world.hal

end World

/-- The service: the HAL, and the resources of the client while there is one. -/
structure Service (context : HwcContext) (resources : ComposerResources) where
  hal : ComposerHal context
  client : Option resources.State

/-- The atomic steps of the service. -/
inductive ServiceStep where
  | createClient
  | destroyClient
  | registerEventCallback
  | hotplug (display : DisplayId) (connected : Bool)
  | createLayer (display : DisplayId) (bufferSlotCount : BitVec 32)
  | destroyLayer (display : DisplayId) (layer : LayerId)
  | setClientTargetSlotCount (display : DisplayId) (count : BitVec 32)
  | setVsyncEnabled (display : DisplayId) (enabled : Bool)
  | execute (display : DisplayId) (field : Field)
deriving DecidableEq

namespace Service

/-- The service as it starts. -/
def new (kms : context.State) : Service context resources := ⟨.new kms, none⟩

/-- `Composer::createClient`. -/
def createClient (service : Service context resources) : Int × Service context resources :=
  match service.client with
  | some _ => (exNoResources, service)
  | none => (0, { service with client := some resources.create })

/-- `ComposerClient::~ComposerClient`. -/
def destroyClient (service : Service context resources) : Service context resources :=
  match service.client with
  | some state =>
      ⟨World.destroyResources ⟨service.hal.unregisterEventCallback, state⟩, none⟩
  | none => service

/-- A call on the client; nothing happens when there is none. -/
def onClient (call : World context resources → Int × World context resources)
    (service : Service context resources) : Int × Service context resources :=
  match service.client with
  | some state =>
      let answered := call ⟨service.hal, state⟩
      (answered.1, ⟨answered.2.hal, some answered.2.resources⟩)
  | none => (0, service)

/-- What a step does to the world of the client. -/
def clientCall : ServiceStep → World context resources → Int × World context resources
  | .createClient, world | .destroyClient, world => (0, world)
  | .registerEventCallback, world => (0, { world with hal := world.hal.registerEventCallback.2 })
  | .hotplug display connected, world => (0, world.onHotplug display connected)
  | .createLayer display bufferSlotCount, world =>
      let created := world.createLayer display bufferSlotCount
      (created.1, created.2.2)
  | .destroyLayer display layer, world => world.destroyLayer display layer
  | .setClientTargetSlotCount display count, world =>
      world.setClientTargetSlotCount display count
  | .setVsyncEnabled display enabled, world => world.setVsyncEnabled display enabled
  | .execute display field, world =>
      (0, ((CommandEngine.idle world).executeField display field).world)

end Service

/-- The service taking one step after the other; a step answers with its error. -/
def serviceMachine (context : HwcContext) (resources : ComposerResources) :
    Machine (Service context resources) ServiceStep Int where
  step service
    | .createClient => service.createClient
    | .destroyClient => (0, service.destroyClient)
    | step => service.onClient (Service.clientCall step)

end Arpi.Composer
