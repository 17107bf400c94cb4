import Arpi.Gralloc.PrivateHandle
import Arpi.Semantics.Containers
import Arpi.Semantics.Machine

/-!
# The composer device

`Hwc2Device` keeps one validation state, one set of layers and one client target for
both displays. The KMS context behind it is a parameter: a state and what posting a
buffer on a display answers. `posts` lists the posts in the order in which they were
made, newest first.
-/

namespace Arpi.Composer

open Arpi.Gralloc Arpi.Semantics

/-- A `hwc2_display_t`; an `int64_t` display id is the same 64 bits. -/
abbrev DisplayId := BitVec 64

/-- A `hwc2_layer_t`. -/
abbrev LayerId := BitVec 64

/-- A composition type as an `int32_t`. -/
abbrev Composition := Int

def hwc2ErrorNone : Int := 0
def hwc2ErrorBadDisplay : Int := 2
def hwc2ErrorBadLayer : Int := 3
def hwc2ErrorBadParameter : Int := 4
def hwc2ErrorHasChanges : Int := 5
def hwc2ErrorNotValidated : Int := 7

def hwc2CompositionClient : Composition := 1
def hwc2VsyncEnable : Int := 1
def halDataspaceUnknown : Int := 0

/-- What `hwc_post` returns and leaves in its fence argument. -/
structure Posted where
  code : Int
  retireFence : Int
deriving DecidableEq

/-- The KMS context as the device uses it. -/
structure HwcContext where
  State : Type
  hwcPost : DisplayId → BufferHandle → State → Posted × State
  isDisplay2Active : State → Bool

/-- A KMS context on which every post succeeds. -/
def workingContext : HwcContext where
  State := Unit
  hwcPost _ _ kms := (⟨0, -1⟩, kms)
  isDisplay2Active _ := false

/-- `Hwc2Device::State`. -/
inductive ValidationState where
  | modified
  | validatedWithChanges
  | validated
deriving DecidableEq, Repr

/-- A buffer that was posted on a display, and what the post returned. -/
structure Post where
  display : DisplayId
  buffer : BufferHandle
  code : Int
deriving DecidableEq

/-- `Hwc2Device`; of its vsync thread only whether the callback is enabled. -/
structure Hwc2Device (context : HwcContext) where
  state : ValidationState
  nextLayerId : BitVec 64
  layers : UnorderedSet LayerId
  dirtyLayers : UnorderedSet LayerId
  buffer : BufferHandle
  callbackEnabled : Bool
  hwcContext : context.State
  posts : List Post

/-- The displays every device call accepts. -/
def KnownDisplay (display : DisplayId) : Prop := display = 0 ∨ display = 1

instance (display : DisplayId) : Decidable (KnownDisplay display) :=
  inferInstanceAs (Decidable (_ ∨ _))

namespace Hwc2Device

variable {context : HwcContext}

/-- The device as it is constructed over a KMS context. -/
def new (kms : context.State) : Hwc2Device context where
  state := .modified
  nextLayerId := 0
  layers := .empty
  dirtyLayers := .empty
  buffer := 0
  callbackEnabled := false
  hwcContext := kms
  posts := []

/-- `addLayer`. -/
def addLayer (device : Hwc2Device context) : LayerId × Hwc2Device context :=
  let id := device.nextLayerId + 1
  (id, { device with
    nextLayerId := id
    layers := device.layers.insert id
    dirtyLayers := device.dirtyLayers.insert id })

/-- `removeLayer`. The layer leaves the dirty set even when it is not live. -/
def removeLayer (layer : LayerId) (device : Hwc2Device context) : Bool × Hwc2Device context :=
  (device.layers.count layer,
    { device with
      dirtyLayers := device.dirtyLayers.erase layer
      layers := device.layers.erase layer })

/-- `markLayerDirty`. -/
def markLayerDirty (layer : LayerId) (dirty : Bool) (device : Hwc2Device context) :
    Bool × Hwc2Device context :=
  if device.layers.count layer = false then (false, device)
  else if dirty then (true, { device with dirtyLayers := device.dirtyLayers.insert layer })
  else (true, { device with dirtyLayers := device.dirtyLayers.erase layer })

/-- `clearDirtyLayers`. -/
def clearDirtyLayers (device : Hwc2Device context) : Hwc2Device context :=
  { device with dirtyLayers := .empty }

/-- `createLayer`. -/
def createLayer (display : DisplayId) (device : Hwc2Device context) :
    Int × Option LayerId × Hwc2Device context :=
  if ¬ KnownDisplay display then (hwc2ErrorBadDisplay, none, device)
  else
    let added := device.addLayer
    (hwc2ErrorNone, some added.1, { added.2 with state := .modified })

/-- `destroyLayer`. -/
def destroyLayer (display : DisplayId) (layer : LayerId) (device : Hwc2Device context) :
    Int × Hwc2Device context :=
  if ¬ KnownDisplay display then (hwc2ErrorBadDisplay, device)
  else
    let removed := device.removeLayer layer
    if removed.1 then (hwc2ErrorNone, { removed.2 with state := .modified })
    else (hwc2ErrorBadLayer, removed.2)

/-- `setVsyncEnabled`. -/
def setVsyncEnabled (display : DisplayId) (enabled : Int) (device : Hwc2Device context) :
    Int × Hwc2Device context :=
  if ¬ KnownDisplay display then (hwc2ErrorBadDisplay, device)
  else (hwc2ErrorNone, { device with callbackEnabled := decide (enabled = hwc2VsyncEnable) })

/-- `setClientTarget`. The acquire fence is waited for and closed first; the device keeps
nothing of it. -/
def setClientTarget (display : DisplayId) (target : BufferHandle) (dataspace : Int)
    (device : Hwc2Device context) : Int × Hwc2Device context :=
  if ¬ KnownDisplay display then (hwc2ErrorBadDisplay, device)
  else if dataspace ≠ halDataspaceUnknown then (hwc2ErrorBadParameter, device)
  else (hwc2ErrorNone, { device with buffer := target })

/-- `dirtyLayers.size()` as a `uint32_t`. -/
def dirtyCount (device : Hwc2Device context) : BitVec 32 := .ofNat 32 device.dirtyLayers.size

/-- `validateDisplay`: the error and the number of changed types. -/
def validateDisplay (display : DisplayId) (device : Hwc2Device context) :
    Int × BitVec 32 × Hwc2Device context :=
  if ¬ KnownDisplay display then (hwc2ErrorBadDisplay, 0, device)
  else
    let numTypes := device.dirtyCount
    if numTypes ≠ 0 then
      (hwc2ErrorHasChanges, numTypes, { device with state := .validatedWithChanges })
    else (hwc2ErrorNone, numTypes, { device with state := .validated })

/-- `presentDisplay`: the error and, on success, what the post left in the fence. -/
def presentDisplay (display : DisplayId) (device : Hwc2Device context) :
    Int × Option Int × Hwc2Device context :=
  if ¬ KnownDisplay display then (hwc2ErrorBadDisplay, none, device)
  else if device.state ≠ .validated then (hwc2ErrorNotValidated, none, device)
  else
    -- the code of the post is dropped
    let posted := context.hwcPost display device.buffer device.hwcContext
    (hwc2ErrorNone, some posted.1.retireFence,
      { device with
        hwcContext := posted.2
        posts := ⟨display, device.buffer, posted.1.code⟩ :: device.posts })

/-- `acceptDisplayChanges`. -/
def acceptDisplayChanges (display : DisplayId) (device : Hwc2Device context) :
    Int × Hwc2Device context :=
  if ¬ KnownDisplay display then (hwc2ErrorBadDisplay, device)
  else if device.state = .modified then (hwc2ErrorNotValidated, device)
  else (hwc2ErrorNone, { device.clearDirtyLayers with state := .validated })

/-- `getChangedCompositionTypes`: the error, the number of elements, and what was written to
the two arrays. `capacity` is the number of elements passed in; it is `none` when an array
is null. -/
def getChangedCompositionTypes (display : DisplayId) (capacity : Option (BitVec 32))
    (device : Hwc2Device context) : Int × BitVec 32 × List (LayerId × Composition) :=
  if ¬ KnownDisplay display then (hwc2ErrorBadDisplay, 0, [])
  else if device.state = .modified then (hwc2ErrorNotValidated, 0, [])
  else
    match capacity with
    | some numElements =>
        let numElements := if device.dirtyCount < numElements then device.dirtyCount else numElements
        (hwc2ErrorNone, numElements,
          (device.dirtyLayers.elements.take numElements.toNat).map
            fun layer => (layer, hwc2CompositionClient))
    | none => (hwc2ErrorNone, device.dirtyCount, [])

/-- `setLayerCompositionType`. -/
def setLayerCompositionType (display : DisplayId) (layer : LayerId) (type : Composition)
    (device : Hwc2Device context) : Int × Hwc2Device context :=
  if ¬ KnownDisplay display then (hwc2ErrorBadDisplay, device)
  else
    let marked := device.markLayerDirty layer (decide (type ≠ hwc2CompositionClient))
    if marked.1 then (hwc2ErrorNone, { marked.2 with state := .modified })
    else (hwc2ErrorBadLayer, marked.2)

/-- The displays that `registerCallback` announces to a hotplug callback. -/
def announcedDisplays (device : Hwc2Device context) : List DisplayId :=
  if context.isDisplay2Active device.hwcContext then [0, 1] else [0]

end Hwc2Device

/-- The calls on the device. -/
inductive DeviceCall where
  | createLayer (display : DisplayId)
  | destroyLayer (display : DisplayId) (layer : LayerId)
  | setVsyncEnabled (display : DisplayId) (enabled : Int)
  | setClientTarget (display : DisplayId) (target : BufferHandle) (dataspace : Int)
  | validateDisplay (display : DisplayId)
  | presentDisplay (display : DisplayId)
  | acceptDisplayChanges (display : DisplayId)
  | getChangedCompositionTypes (display : DisplayId) (capacity : Option (BitVec 32))
  | setLayerCompositionType (display : DisplayId) (layer : LayerId) (type : Composition)
deriving DecidableEq

/-- What a device call answers: its error and whatever its output parameters received. -/
structure DeviceAnswer where
  error : Int
  layer : Option LayerId := none
  count : BitVec 32 := 0
  changed : List (LayerId × Composition) := []
  retireFence : Option Int := none
deriving DecidableEq

/-- The device taking one call after the other. -/
def deviceMachine (context : HwcContext) : Machine (Hwc2Device context) DeviceCall DeviceAnswer where
  step device
    | .createLayer display =>
        let answer := device.createLayer display
        ({ error := answer.1, layer := answer.2.1 }, answer.2.2)
    | .destroyLayer display layer =>
        let answer := device.destroyLayer display layer
        ({ error := answer.1 }, answer.2)
    | .setVsyncEnabled display enabled =>
        let answer := device.setVsyncEnabled display enabled
        ({ error := answer.1 }, answer.2)
    | .setClientTarget display target dataspace =>
        let answer := device.setClientTarget display target dataspace
        ({ error := answer.1 }, answer.2)
    | .validateDisplay display =>
        let answer := device.validateDisplay display
        ({ error := answer.1, count := answer.2.1 }, answer.2.2)
    | .presentDisplay display =>
        let answer := device.presentDisplay display
        ({ error := answer.1, retireFence := answer.2.1 }, answer.2.2)
    | .acceptDisplayChanges display =>
        let answer := device.acceptDisplayChanges display
        ({ error := answer.1 }, answer.2)
    | .getChangedCompositionTypes display capacity =>
        let answer := device.getChangedCompositionTypes display capacity
        ({ error := answer.1, count := answer.2.1, changed := answer.2.2 }, device)
    | .setLayerCompositionType display layer type =>
        let answer := device.setLayerCompositionType display layer type
        ({ error := answer.1 }, answer.2)

end Arpi.Composer
