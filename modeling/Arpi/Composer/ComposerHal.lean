import Arpi.Composer.Hwc2Device

/-!
# The HAL above the device

`ComposerHal` passes its calls on to the device. It adds one flag: after a client has
registered its callback, nothing is presented before something was validated.
-/

namespace Arpi.Composer

/-- `ComposerHal`. -/
structure ComposerHal (context : HwcContext) where
  device : Hwc2Device context
  mustValidateDisplay : Bool
  callbackRegistered : Bool

namespace ComposerHal

variable {context : HwcContext}

/-- The HAL as it is created. -/
def new (kms : context.State) : ComposerHal context := ⟨.new kms, true, false⟩

/-- `registerEventCallback`: the displays that the device announces as connected. -/
def registerEventCallback (hal : ComposerHal context) : List DisplayId × ComposerHal context :=
  (hal.device.announcedDisplays,
    { hal with mustValidateDisplay := true, callbackRegistered := true })

/-- `unregisterEventCallback`. -/
def unregisterEventCallback (hal : ComposerHal context) : ComposerHal context :=
  { hal with callbackRegistered := false }

/-- `createLayer`. -/
def createLayer (display : DisplayId) (hal : ComposerHal context) :
    Int × Option LayerId × ComposerHal context :=
  let answer := hal.device.createLayer display
  (answer.1, answer.2.1, { hal with device := answer.2.2 })

/-- `destroyLayer`. -/
def destroyLayer (display : DisplayId) (layer : LayerId) (hal : ComposerHal context) :
    Int × ComposerHal context :=
  let answer := hal.device.destroyLayer display layer
  (answer.1, { hal with device := answer.2 })

/-- `setVsyncEnabled`. -/
def setVsyncEnabled (display : DisplayId) (enabled : Bool) (hal : ComposerHal context) :
    Int × ComposerHal context :=
  let answer := hal.device.setVsyncEnabled display (if enabled then 1 else 0)
  (answer.1, { hal with device := answer.2 })

/-- `setClientTarget`. -/
def setClientTarget (display : DisplayId) (target : Gralloc.BufferHandle) (dataspace : Int)
    (hal : ComposerHal context) : Int × ComposerHal context :=
  let answer := hal.device.setClientTarget display target dataspace
  (answer.1, { hal with device := answer.2 })

/-- `validateDisplay`: the error and the reported changes. The flag is cleared before the
error of the device is looked at. -/
def validateDisplay (display : DisplayId) (hal : ComposerHal context) :
    Int × List (LayerId × Composition) × ComposerHal context :=
  let validated := hal.device.validateDisplay display
  let hal := { hal with device := validated.2.2, mustValidateDisplay := false }
  if validated.1 ≠ hwc2ErrorNone ∧ validated.1 ≠ hwc2ErrorHasChanges then (validated.1, [], hal)
  else
    let counted := hal.device.getChangedCompositionTypes display none
    if counted.1 ≠ hwc2ErrorNone then (counted.1, [], hal)
    else
      let changed := hal.device.getChangedCompositionTypes display (some counted.2.1)
      if changed.1 ≠ hwc2ErrorNone then (changed.1, [], hal)
      else (hwc2ErrorNone, changed.2.2, hal)

/-- `presentDisplay`: the error and, on success, the present fence. -/
def presentDisplay (display : DisplayId) (hal : ComposerHal context) :
    Int × Option Int × ComposerHal context :=
  if hal.mustValidateDisplay then (hwc2ErrorNotValidated, none, hal)
  else
    let answer := hal.device.presentDisplay display
    (answer.1, answer.2.1, { hal with device := answer.2.2 })

/-- `acceptDisplayChanges`. -/
def acceptDisplayChanges (display : DisplayId) (hal : ComposerHal context) :
    Int × ComposerHal context :=
  let answer := hal.device.acceptDisplayChanges display
  (answer.1, { hal with device := answer.2 })

/-- `setLayerCompositionType`. -/
def setLayerCompositionType (display : DisplayId) (layer : LayerId) (type : Composition)
    (hal : ComposerHal context) : Int × ComposerHal context :=
  let answer := hal.device.setLayerCompositionType display layer type
  (answer.1, { hal with device := answer.2 })

end ComposerHal

/-- The calls on the HAL. -/
inductive HalCall where
  | registerEventCallback
  | unregisterEventCallback
  | createLayer (display : DisplayId)
  | destroyLayer (display : DisplayId) (layer : LayerId)
  | setVsyncEnabled (display : DisplayId) (enabled : Bool)
  | setClientTarget (display : DisplayId) (target : Gralloc.BufferHandle) (dataspace : Int)
  | validateDisplay (display : DisplayId)
  | presentDisplay (display : DisplayId)
  | acceptDisplayChanges (display : DisplayId)
  | setLayerCompositionType (display : DisplayId) (layer : LayerId) (type : Composition)
deriving DecidableEq

/-- What a HAL call answers. -/
structure HalAnswer where
  error : Int
  layer : Option LayerId := none
  changed : List (LayerId × Composition) := []
  presentFence : Option Int := none
deriving DecidableEq

/-- The HAL taking one call after the other. -/
def halMachine (context : HwcContext) :
    Semantics.Machine (ComposerHal context) HalCall HalAnswer where
  step hal
    | .registerEventCallback => ({ error := hwc2ErrorNone }, hal.registerEventCallback.2)
    | .unregisterEventCallback => ({ error := hwc2ErrorNone }, hal.unregisterEventCallback)
    | .createLayer display =>
        let answer := hal.createLayer display
        ({ error := answer.1, layer := answer.2.1 }, answer.2.2)
    | .destroyLayer display layer =>
        let answer := hal.destroyLayer display layer
        ({ error := answer.1 }, answer.2)
    | .setVsyncEnabled display enabled =>
        let answer := hal.setVsyncEnabled display enabled
        ({ error := answer.1 }, answer.2)
    | .setClientTarget display target dataspace =>
        let answer := hal.setClientTarget display target dataspace
        ({ error := answer.1 }, answer.2)
    | .validateDisplay display =>
        let answer := hal.validateDisplay display
        ({ error := answer.1, changed := answer.2.1 }, answer.2.2)
    | .presentDisplay display =>
        let answer := hal.presentDisplay display
        ({ error := answer.1, presentFence := answer.2.1 }, answer.2.2)
    | .acceptDisplayChanges display =>
        let answer := hal.acceptDisplayChanges display
        ({ error := answer.1 }, answer.2)
    | .setLayerCompositionType display layer type =>
        let answer := hal.setLayerCompositionType display layer type
        ({ error := answer.1 }, answer.2)

end Arpi.Composer
