import Arpi.Composer.ComposerHal

/-!
# What each device call can do

`DeviceOutcome` lists the effects of the device calls once, with the guard under which
each of them happens; every invariant of the device is derived from it.
-/

namespace Arpi.Composer

open Arpi.Gralloc Arpi.Semantics

variable {context : HwcContext}

/-- The display a device call names. -/
def DeviceCall.display : DeviceCall → DisplayId
  | .createLayer display | .destroyLayer display _ | .setVsyncEnabled display _
  | .setClientTarget display _ _ | .validateDisplay display | .presentDisplay display
  | .acceptDisplayChanges display | .getChangedCompositionTypes display _
  | .setLayerCompositionType display _ _ => display

/-- An error of a device call. `HAS_CHANGES` reports changes and is none. -/
def IsError (error : Int) : Prop := error ≠ hwc2ErrorNone ∧ error ≠ hwc2ErrorHasChanges

instance (error : Int) : Decidable (IsError error) := inferInstanceAs (Decidable (_ ∧ _))

theorem not_isError_none : ¬ IsError hwc2ErrorNone := by decide

theorem not_isError_hasChanges : ¬ IsError hwc2ErrorHasChanges := by decide

/-- Every dirty layer is live. -/
def DirtyLive (device : Hwc2Device context) : Prop :=
  ∀ layer, layer ∈ device.dirtyLayers → layer ∈ device.layers

namespace Hwc2Device

variable {device : Hwc2Device context} {display : DisplayId} {layer : LayerId}

theorem createLayer_of_known (known : KnownDisplay display) :
    device.createLayer display = (hwc2ErrorNone, some (device.nextLayerId + 1),
      { device with
        nextLayerId := device.nextLayerId + 1
        layers := device.layers.insert (device.nextLayerId + 1)
        dirtyLayers := device.dirtyLayers.insert (device.nextLayerId + 1)
        state := .modified }) := by
  rw [createLayer, if_neg (not_not.mpr known)]
  rfl

theorem destroyLayer_of_live (known : KnownDisplay display) (live : layer ∈ device.layers) :
    device.destroyLayer display layer = (hwc2ErrorNone,
      { device with
        layers := device.layers.erase layer
        dirtyLayers := device.dirtyLayers.erase layer
        state := .modified }) := by
  rw [destroyLayer, if_neg (not_not.mpr known)]
  simp only [removeLayer, UnorderedSet.count_eq_true.mpr live, if_true]

/-- Destroying a layer that is not live changes nothing, as it is not dirty either. -/
theorem destroyLayer_of_absent (known : KnownDisplay display) (dirtyLive : DirtyLive device)
    (absent : layer ∉ device.layers) :
    device.destroyLayer display layer = (hwc2ErrorBadLayer, device) := by
  have clean : layer ∉ device.dirtyLayers := fun dirty => absent (dirtyLive layer dirty)
  rw [destroyLayer, if_neg (not_not.mpr known)]
  simp only [removeLayer, UnorderedSet.count_eq_false.mpr absent, Bool.false_eq_true, if_false,
    UnorderedSet.erase_of_not_mem absent, UnorderedSet.erase_of_not_mem clean]

theorem setLayerCompositionType_of_live (known : KnownDisplay display)
    (live : layer ∈ device.layers) (type : Composition) :
    device.setLayerCompositionType display layer type = (hwc2ErrorNone,
      { device with
        dirtyLayers := if type = hwc2CompositionClient then device.dirtyLayers.erase layer
          else device.dirtyLayers.insert layer
        state := .modified }) := by
  rw [setLayerCompositionType, if_neg (not_not.mpr known)]
  have counted := UnorderedSet.count_eq_true.mpr live
  by_cases client : type = hwc2CompositionClient
  · simp [markLayerDirty, counted, client]
  · simp [markLayerDirty, counted, client]

theorem setLayerCompositionType_of_absent (known : KnownDisplay display)
    (absent : layer ∉ device.layers) (type : Composition) :
    device.setLayerCompositionType display layer type = (hwc2ErrorBadLayer, device) := by
  rw [setLayerCompositionType, if_neg (not_not.mpr known)]
  simp [markLayerDirty, UnorderedSet.count_eq_false.mpr absent]

theorem validateDisplay_of_clean (known : KnownDisplay display) (clean : device.dirtyCount = 0) :
    device.validateDisplay display =
      (hwc2ErrorNone, 0, { device with state := .validated }) := by
  rw [validateDisplay, if_neg (not_not.mpr known)]
  simp [clean]

theorem validateDisplay_of_dirty (known : KnownDisplay display) (dirty : device.dirtyCount ≠ 0) :
    device.validateDisplay display =
      (hwc2ErrorHasChanges, device.dirtyCount,
        { device with state := .validatedWithChanges }) := by
  rw [validateDisplay, if_neg (not_not.mpr known)]
  simp only [if_pos dirty]

theorem presentDisplay_of_validated (known : KnownDisplay display)
    (validated : device.state = .validated) :
    device.presentDisplay display = (hwc2ErrorNone,
      some (context.hwcPost display device.buffer device.hwcContext).1.retireFence,
      { device with
        hwcContext := (context.hwcPost display device.buffer device.hwcContext).2
        posts := ⟨display, device.buffer,
          (context.hwcPost display device.buffer device.hwcContext).1.code⟩ :: device.posts }) := by
  rw [presentDisplay, if_neg (not_not.mpr known), if_neg (not_not.mpr validated)]

theorem presentDisplay_of_not_validated (known : KnownDisplay display)
    (notValidated : device.state ≠ .validated) :
    device.presentDisplay display = (hwc2ErrorNotValidated, none, device) := by
  rw [presentDisplay, if_neg (not_not.mpr known), if_pos notValidated]

theorem acceptDisplayChanges_of_validated (known : KnownDisplay display)
    (validated : device.state ≠ .modified) :
    device.acceptDisplayChanges display = (hwc2ErrorNone,
      { device with dirtyLayers := .empty, state := .validated }) := by
  rw [acceptDisplayChanges, if_neg (not_not.mpr known), if_neg validated]
  rfl

theorem acceptDisplayChanges_of_modified (known : KnownDisplay display)
    (modified : device.state = .modified) :
    device.acceptDisplayChanges display = (hwc2ErrorNotValidated, device) := by
  rw [acceptDisplayChanges, if_neg (not_not.mpr known), if_pos modified]

/-- Asking for as many changes as there are yields all of them that fit into the count. -/
theorem getChangedCompositionTypes_all (known : KnownDisplay display)
    (validated : device.state ≠ .modified) :
    device.getChangedCompositionTypes display (some device.dirtyCount) =
      (hwc2ErrorNone, device.dirtyCount,
        (device.dirtyLayers.elements.take device.dirtyCount.toNat).map
          fun layer => (layer, hwc2CompositionClient)) := by
  rw [getChangedCompositionTypes, if_neg (not_not.mpr known), if_neg validated]
  simp

/-- With room for all of them, all changes are written. -/
theorem getChangedCompositionTypes_of_room {numElements : BitVec 32}
    (known : KnownDisplay display) (validated : device.state ≠ .modified)
    (room : device.dirtyLayers.size ≤ numElements.toNat) :
    device.getChangedCompositionTypes display (some numElements) =
      (hwc2ErrorNone, device.dirtyCount,
        device.dirtyLayers.elements.map fun layer => (layer, hwc2CompositionClient)) := by
  have counted : device.dirtyCount.toNat = device.dirtyLayers.size := by
    rw [dirtyCount, BitVec.toNat_ofNat, Nat.mod_eq_of_lt (room.trans_lt numElements.isLt)]
  have written : (if device.dirtyCount < numElements then device.dirtyCount else numElements) =
      device.dirtyCount := by
    split
    · rfl
    · exact (BitVec.eq_of_toNat_eq (by rw [BitVec.lt_def] at *; omega)).symm
  rw [getChangedCompositionTypes, if_neg (not_not.mpr known), if_neg validated]
  simp only [written, counted, UnorderedSet.size, List.take_length]

theorem getChangedCompositionTypes_count (known : KnownDisplay display)
    (validated : device.state ≠ .modified) :
    device.getChangedCompositionTypes display none = (hwc2ErrorNone, device.dirtyCount, []) := by
  rw [getChangedCompositionTypes, if_neg (not_not.mpr known), if_neg validated]

end Hwc2Device

/-- The effects of the device calls. -/
inductive DeviceOutcome (device : Hwc2Device context) :
    DeviceCall → DeviceAnswer → Hwc2Device context → Prop where
  | refused {call : DeviceCall} {error : Int} (failed : IsError error) :
      DeviceOutcome device call { error := error } device
  | created {display : DisplayId} (known : KnownDisplay display) :
      DeviceOutcome device (.createLayer display)
        { error := hwc2ErrorNone, layer := some (device.nextLayerId + 1) }
        { device with
          nextLayerId := device.nextLayerId + 1
          layers := device.layers.insert (device.nextLayerId + 1)
          dirtyLayers := device.dirtyLayers.insert (device.nextLayerId + 1)
          state := .modified }
  | destroyed {display : DisplayId} {layer : LayerId} (known : KnownDisplay display)
      (live : layer ∈ device.layers) :
      DeviceOutcome device (.destroyLayer display layer) { error := hwc2ErrorNone }
        { device with
          layers := device.layers.erase layer
          dirtyLayers := device.dirtyLayers.erase layer
          state := .modified }
  | vsync {display : DisplayId} {enabled : Int} (known : KnownDisplay display) :
      DeviceOutcome device (.setVsyncEnabled display enabled) { error := hwc2ErrorNone }
        { device with callbackEnabled := decide (enabled = hwc2VsyncEnable) }
  | targeted {display : DisplayId} {target : BufferHandle} (known : KnownDisplay display) :
      DeviceOutcome device (.setClientTarget display target halDataspaceUnknown)
        { error := hwc2ErrorNone } { device with buffer := target }
  | validated {display : DisplayId} (known : KnownDisplay display)
      (clean : device.dirtyCount = 0) :
      DeviceOutcome device (.validateDisplay display) { error := hwc2ErrorNone }
        { device with state := .validated }
  | changed {display : DisplayId} (known : KnownDisplay display)
      (dirty : device.dirtyCount ≠ 0) :
      DeviceOutcome device (.validateDisplay display)
        { error := hwc2ErrorHasChanges, count := device.dirtyCount }
        { device with state := .validatedWithChanges }
  | presented {display : DisplayId} (known : KnownDisplay display)
      (validated : device.state = .validated) :
      DeviceOutcome device (.presentDisplay display)
        { error := hwc2ErrorNone
          retireFence :=
            some (context.hwcPost display device.buffer device.hwcContext).1.retireFence }
        { device with
          hwcContext := (context.hwcPost display device.buffer device.hwcContext).2
          posts := ⟨display, device.buffer,
            (context.hwcPost display device.buffer device.hwcContext).1.code⟩ :: device.posts }
  | accepted {display : DisplayId} (known : KnownDisplay display)
      (validated : device.state ≠ .modified) :
      DeviceOutcome device (.acceptDisplayChanges display) { error := hwc2ErrorNone }
        { device with dirtyLayers := .empty, state := .validated }
  | listed {display : DisplayId} {capacity : Option (BitVec 32)} {count : BitVec 32}
      {layers : List (LayerId × Composition)} (known : KnownDisplay display)
      (validated : device.state ≠ .modified) :
      DeviceOutcome device (.getChangedCompositionTypes display capacity)
        { error := hwc2ErrorNone, count := count, changed := layers } device
  | typed {display : DisplayId} {layer : LayerId} {type : Composition}
      (known : KnownDisplay display) (live : layer ∈ device.layers) :
      DeviceOutcome device (.setLayerCompositionType display layer type)
        { error := hwc2ErrorNone }
        { device with
          dirtyLayers := if type = hwc2CompositionClient then device.dirtyLayers.erase layer
            else device.dirtyLayers.insert layer
          state := .modified }

/-- A call on a display other than 0 and 1 is refused. -/
theorem device_of_unknown {device : Hwc2Device context} {call : DeviceCall}
    (unknown : ¬ KnownDisplay call.display) :
    (deviceMachine context).step device call = ({ error := hwc2ErrorBadDisplay }, device) := by
  cases call <;> simp only [DeviceCall.display] at unknown <;>
    simp [deviceMachine, Hwc2Device.createLayer, Hwc2Device.destroyLayer,
      Hwc2Device.setVsyncEnabled, Hwc2Device.setClientTarget, Hwc2Device.validateDisplay,
      Hwc2Device.presentDisplay, Hwc2Device.acceptDisplayChanges,
      Hwc2Device.getChangedCompositionTypes, Hwc2Device.setLayerCompositionType, unknown]

/-- The specification of the device: a step has one of the listed outcomes. -/
theorem device_outcome {device : Hwc2Device context} (dirtyLive : DirtyLive device)
    (call : DeviceCall) :
    DeviceOutcome device call ((deviceMachine context).answer device call)
      ((deviceMachine context).next device call) := by
  by_cases known : KnownDisplay call.display
  case neg =>
    rw [Machine.answer, Machine.next, device_of_unknown known]
    exact .refused (by decide)
  cases call with
  | createLayer display =>
      change KnownDisplay display at known
      simp only [Machine.answer, Machine.next, deviceMachine,
        Hwc2Device.createLayer_of_known known]
      exact .created known
  | destroyLayer display layer =>
      change KnownDisplay display at known
      by_cases live : layer ∈ device.layers
      · simp only [Machine.answer, Machine.next, deviceMachine,
          Hwc2Device.destroyLayer_of_live known live]
        exact .destroyed known live
      · simp only [Machine.answer, Machine.next, deviceMachine,
          Hwc2Device.destroyLayer_of_absent known dirtyLive live]
        exact .refused (by decide)
  | setVsyncEnabled display enabled =>
      change KnownDisplay display at known
      have accepted : ¬ ¬ KnownDisplay display := not_not.mpr known
      simp only [Machine.answer, Machine.next, deviceMachine, Hwc2Device.setVsyncEnabled,
        if_neg accepted]
      exact .vsync known
  | setClientTarget display target dataspace =>
      change KnownDisplay display at known
      have accepted : ¬ ¬ KnownDisplay display := not_not.mpr known
      by_cases unknown : dataspace = halDataspaceUnknown
      · subst unknown
        simp only [Machine.answer, Machine.next, deviceMachine, Hwc2Device.setClientTarget,
          if_neg accepted, ne_eq, not_true, if_false]
        exact .targeted known
      · simp only [Machine.answer, Machine.next, deviceMachine, Hwc2Device.setClientTarget,
          if_neg accepted, ne_eq, unknown, not_false_eq_true, if_true]
        exact .refused (by decide)
  | validateDisplay display =>
      change KnownDisplay display at known
      by_cases clean : device.dirtyCount = 0
      · simp only [Machine.answer, Machine.next, deviceMachine,
          Hwc2Device.validateDisplay_of_clean known clean]
        exact .validated known clean
      · simp only [Machine.answer, Machine.next, deviceMachine,
          Hwc2Device.validateDisplay_of_dirty known clean]
        exact .changed known clean
  | presentDisplay display =>
      change KnownDisplay display at known
      by_cases validated : device.state = .validated
      · simp only [Machine.answer, Machine.next, deviceMachine,
          Hwc2Device.presentDisplay_of_validated known validated]
        exact .presented known validated
      · simp only [Machine.answer, Machine.next, deviceMachine,
          Hwc2Device.presentDisplay_of_not_validated known validated]
        exact .refused (by decide)
  | acceptDisplayChanges display =>
      change KnownDisplay display at known
      by_cases modified : device.state = .modified
      · simp only [Machine.answer, Machine.next, deviceMachine,
          Hwc2Device.acceptDisplayChanges_of_modified known modified]
        exact .refused (by decide)
      · simp only [Machine.answer, Machine.next, deviceMachine,
          Hwc2Device.acceptDisplayChanges_of_validated known modified]
        exact .accepted known modified
  | getChangedCompositionTypes display capacity =>
      change KnownDisplay display at known
      by_cases modified : device.state = .modified
      · have refused : device.getChangedCompositionTypes display capacity =
            (hwc2ErrorNotValidated, 0, []) := by
          rw [Hwc2Device.getChangedCompositionTypes.eq_def, if_neg (not_not.mpr known),
            if_pos modified]
        simp only [Machine.answer, Machine.next, deviceMachine, refused]
        exact .refused (by decide)
      · have answered : (device.getChangedCompositionTypes display capacity).1 =
            hwc2ErrorNone := by
          rw [Hwc2Device.getChangedCompositionTypes.eq_def, if_neg (not_not.mpr known),
            if_neg modified]
          cases capacity <;> rfl
        simp only [Machine.answer, Machine.next, deviceMachine, answered]
        exact .listed known modified
  | setLayerCompositionType display layer type =>
      change KnownDisplay display at known
      by_cases live : layer ∈ device.layers
      · simp only [Machine.answer, Machine.next, deviceMachine,
          Hwc2Device.setLayerCompositionType_of_live known live]
        exact .typed known live
      · simp only [Machine.answer, Machine.next, deviceMachine,
          Hwc2Device.setLayerCompositionType_of_absent known live]
        exact .refused (by decide)

/-- Dirty layers stay live. -/
theorem DeviceOutcome.dirtyLive {device after : Hwc2Device context} {call : DeviceCall}
    {answer : DeviceAnswer} (outcome : DeviceOutcome device call answer after)
    (dirtyLive : DirtyLive device) : DirtyLive after := by
  intro layer
  cases outcome with
  | refused | vsync | targeted | validated | changed | presented | listed => exact dirtyLive layer
  | created known =>
      simp only [UnorderedSet.mem_insert]
      exact Or.imp_right (dirtyLive layer)
  | destroyed known live =>
      simp only [UnorderedSet.mem_erase]
      exact And.imp_right (dirtyLive layer)
  | accepted known validated =>
      intro dirty
      exact absurd dirty UnorderedSet.not_mem_empty
  | @typed _ target type known live =>
      dsimp only
      split
      · simp only [UnorderedSet.mem_erase]
        exact fun dirty => dirtyLive layer dirty.2
      · simp only [UnorderedSet.mem_insert]
        rintro (rfl | dirty)
        · exact live
        · exact dirtyLive layer dirty

namespace ComposerHal

variable {hal : ComposerHal context} {display : DisplayId}

/-- The changes that the HAL reports for a device with these dirty layers. -/
def reportedChanges (device : Hwc2Device context) : List (LayerId × Composition) :=
  (device.dirtyLayers.elements.take device.dirtyCount.toNat).map
    fun layer => (layer, hwc2CompositionClient)

/-- Once the device has validated, the HAL reports its dirty layers. -/
theorem validateDisplay_of_device {error : Int} {numTypes : BitVec 32}
    {after : Hwc2Device context} (known : KnownDisplay display)
    (answered : hal.device.validateDisplay display = (error, numTypes, after))
    (succeeded : ¬ IsError error) (validated : after.state ≠ .modified) :
    hal.validateDisplay display = (hwc2ErrorNone, reportedChanges after,
      { hal with device := after, mustValidateDisplay := false }) := by
  rw [IsError] at succeeded
  simp only [validateDisplay, answered, if_neg succeeded,
    Hwc2Device.getChangedCompositionTypes_count known validated,
    Hwc2Device.getChangedCompositionTypes_all known validated, ne_eq, not_true, if_false,
    reportedChanges]

/-- On a known display the HAL validates and reports. -/
theorem validateDisplay_of_known (known : KnownDisplay display) :
    hal.validateDisplay display = (hwc2ErrorNone, reportedChanges hal.device,
      { hal with
        device := { hal.device with
          state := if hal.device.dirtyCount = 0 then .validated else .validatedWithChanges }
        mustValidateDisplay := false }) := by
  by_cases clean : hal.device.dirtyCount = 0
  · rw [if_pos clean]
    exact validateDisplay_of_device known (Hwc2Device.validateDisplay_of_clean known clean)
      (by decide) (nomatch ·)
  · rw [if_neg clean]
    exact validateDisplay_of_device known (Hwc2Device.validateDisplay_of_dirty known clean)
      (by decide) (nomatch ·)

/-- On another display it fails, but clears its flag all the same. -/
theorem validateDisplay_of_unknown (unknown : ¬ KnownDisplay display) :
    hal.validateDisplay display =
      (hwc2ErrorBadDisplay, [], { hal with mustValidateDisplay := false }) := by
  have failed : hwc2ErrorBadDisplay ≠ hwc2ErrorNone ∧
      hwc2ErrorBadDisplay ≠ hwc2ErrorHasChanges := by decide
  rw [validateDisplay, Hwc2Device.validateDisplay, if_pos unknown]
  simp only [if_pos failed]

/-- After a registration nothing is presented before something was validated. -/
theorem presentDisplay_of_mustValidate (must : hal.mustValidateDisplay = true) :
    hal.presentDisplay display = (hwc2ErrorNotValidated, none, hal) := by
  rw [presentDisplay, if_pos must]

theorem presentDisplay_of_mayPresent (may : hal.mustValidateDisplay = false) :
    hal.presentDisplay display =
      ((hal.device.presentDisplay display).1, (hal.device.presentDisplay display).2.1,
        { hal with device := (hal.device.presentDisplay display).2.2 }) := by
  rw [presentDisplay, if_neg (by simp [may])]

end ComposerHal

/-- The device call that a HAL call is passed on as, if it is. -/
def HalCall.passedOn : HalCall → Option DeviceCall
  | .createLayer display => some (.createLayer display)
  | .destroyLayer display layer => some (.destroyLayer display layer)
  | .setVsyncEnabled display enabled => some (.setVsyncEnabled display (if enabled then 1 else 0))
  | .setClientTarget display target dataspace => some (.setClientTarget display target dataspace)
  | .presentDisplay display => some (.presentDisplay display)
  | .acceptDisplayChanges display => some (.acceptDisplayChanges display)
  | .setLayerCompositionType display layer type =>
      some (.setLayerCompositionType display layer type)
  | .registerEventCallback | .unregisterEventCallback | .validateDisplay _ => none

/-- The effects of the HAL calls. -/
inductive HalOutcome (hal : ComposerHal context) :
    HalCall → HalAnswer → ComposerHal context → Prop where
  | registered :
      HalOutcome hal .registerEventCallback { error := hwc2ErrorNone }
        { hal with mustValidateDisplay := true, callbackRegistered := true }
  | unregistered :
      HalOutcome hal .unregisterEventCallback { error := hwc2ErrorNone }
        { hal with callbackRegistered := false }
  | passed {call : HalCall} {deviceCall : DeviceCall} {answer : DeviceAnswer}
      {after : Hwc2Device context} (passedOn : call.passedOn = some deviceCall)
      (outcome : DeviceOutcome hal.device deviceCall answer after) :
      HalOutcome hal call
        { error := answer.error, layer := answer.layer, presentFence := answer.retireFence }
        { hal with device := after }
  | held {display : DisplayId} (must : hal.mustValidateDisplay = true) :
      HalOutcome hal (.presentDisplay display) { error := hwc2ErrorNotValidated } hal
  | validated {display : DisplayId} (known : KnownDisplay display) :
      HalOutcome hal (.validateDisplay display)
        { error := hwc2ErrorNone, changed := ComposerHal.reportedChanges hal.device }
        { hal with
          device := { hal.device with
            state := if hal.device.dirtyCount = 0 then .validated else .validatedWithChanges }
          mustValidateDisplay := false }
  | invalid {display : DisplayId} (unknown : ¬ KnownDisplay display) :
      HalOutcome hal (.validateDisplay display) { error := hwc2ErrorBadDisplay }
        { hal with mustValidateDisplay := false }

/-- The specification of the HAL: a step has one of the listed outcomes. -/
theorem hal_outcome {hal : ComposerHal context} (dirtyLive : DirtyLive hal.device)
    (call : HalCall) :
    HalOutcome hal call ((halMachine context).answer hal call)
      ((halMachine context).next hal call) := by
  cases call with
  | registerEventCallback => exact .registered
  | unregisterEventCallback => exact .unregistered
  | createLayer display => exact .passed rfl (device_outcome dirtyLive (.createLayer display))
  | destroyLayer display layer =>
      exact .passed rfl (device_outcome dirtyLive (.destroyLayer display layer))
  | setVsyncEnabled display enabled =>
      exact .passed rfl
        (device_outcome dirtyLive (.setVsyncEnabled display (if enabled then 1 else 0)))
  | setClientTarget display target dataspace =>
      exact .passed rfl (device_outcome dirtyLive (.setClientTarget display target dataspace))
  | validateDisplay display =>
      by_cases known : KnownDisplay display
      · simp only [Machine.answer, Machine.next, halMachine,
          ComposerHal.validateDisplay_of_known known]
        exact .validated known
      · simp only [Machine.answer, Machine.next, halMachine,
          ComposerHal.validateDisplay_of_unknown known]
        exact .invalid known
  | presentDisplay display =>
      cases must : hal.mustValidateDisplay with
      | true =>
          simp only [Machine.answer, Machine.next, halMachine,
            ComposerHal.presentDisplay_of_mustValidate must]
          exact .held must
      | false =>
          simp only [Machine.answer, Machine.next, halMachine,
            ComposerHal.presentDisplay_of_mayPresent must]
          exact .passed rfl (device_outcome dirtyLive (.presentDisplay display))
  | acceptDisplayChanges display =>
      exact .passed rfl (device_outcome dirtyLive (.acceptDisplayChanges display))
  | setLayerCompositionType display layer type =>
      exact .passed rfl (device_outcome dirtyLive (.setLayerCompositionType display layer type))

/-- Dirty layers stay live under the HAL. -/
theorem HalOutcome.dirtyLive {hal after : ComposerHal context} {call : HalCall}
    {answer : HalAnswer} (outcome : HalOutcome hal call answer after)
    (dirtyLive : DirtyLive hal.device) : DirtyLive after.device := by
  cases outcome with
  | passed passedOn outcome => exact outcome.dirtyLive dirtyLive
  | registered | unregistered | held | validated | invalid => exact dirtyLive

/-- Neither the layers nor the client target change. -/
structure Quiet (before after : Hwc2Device context) : Prop where
  layers : after.layers = before.layers
  buffer : after.buffer = before.buffer

namespace Quiet

variable {device : Hwc2Device context} {display : DisplayId}

theorem trans {first second third : Hwc2Device context} (left : Quiet first second)
    (right : Quiet second third) : Quiet first third :=
  ⟨right.layers.trans left.layers, right.buffer.trans left.buffer⟩

theorem setVsyncEnabled (enabled : Int) :
    Quiet device (device.setVsyncEnabled display enabled).2 := by
  unfold Hwc2Device.setVsyncEnabled
  split <;> exact ⟨rfl, rfl⟩

theorem presentDisplay : Quiet device (device.presentDisplay display).2.2 := by
  unfold Hwc2Device.presentDisplay
  split
  · exact ⟨rfl, rfl⟩
  · split <;> exact ⟨rfl, rfl⟩

theorem acceptDisplayChanges : Quiet device (device.acceptDisplayChanges display).2 := by
  unfold Hwc2Device.acceptDisplayChanges
  split
  · exact ⟨rfl, rfl⟩
  · split <;> exact ⟨rfl, rfl⟩

theorem markLayerDirty (layer : LayerId) (dirty : Bool) :
    Quiet device (device.markLayerDirty layer dirty).2 := by
  unfold Hwc2Device.markLayerDirty
  split
  · exact ⟨rfl, rfl⟩
  · split <;> exact ⟨rfl, rfl⟩

theorem setLayerCompositionType (layer : LayerId) (type : Composition) :
    Quiet device (device.setLayerCompositionType display layer type).2 := by
  have marked := @markLayerDirty _ device layer (decide (type ≠ hwc2CompositionClient))
  unfold Hwc2Device.setLayerCompositionType
  split
  · exact ⟨rfl, rfl⟩
  · dsimp only
    split <;> exact ⟨marked.layers, marked.buffer⟩

variable {hal : ComposerHal context}

theorem halPresentDisplay : Quiet hal.device (hal.presentDisplay display).2.2.device := by
  unfold ComposerHal.presentDisplay
  split
  · exact ⟨rfl, rfl⟩
  · exact presentDisplay

theorem halValidateDisplay : Quiet hal.device (hal.validateDisplay display).2.2.device := by
  by_cases known : KnownDisplay display
  · rw [ComposerHal.validateDisplay_of_known known]
    exact ⟨rfl, rfl⟩
  · rw [ComposerHal.validateDisplay_of_unknown known]
    exact ⟨rfl, rfl⟩

end Quiet

/-- The device takes a client target on a known display without a dataspace. -/
theorem setClientTarget_device (device : Hwc2Device context) (display : DisplayId)
    (target : BufferHandle) (dataspace : Int) :
    (device.setClientTarget display target dataspace).2 =
      { device with
        buffer := if KnownDisplay display ∧ dataspace = halDataspaceUnknown then target
          else device.buffer } := by
  unfold Hwc2Device.setClientTarget
  by_cases known : KnownDisplay display
  · by_cases unknown : dataspace = halDataspaceUnknown <;> simp [known, unknown]
  · simp [known]

/-- Creating a layer leaves the client target alone. -/
theorem createLayer_buffer (device : Hwc2Device context) (display : DisplayId) :
    (device.createLayer display).2.2.buffer = device.buffer := by
  unfold Hwc2Device.createLayer
  split <;> rfl

/-- Destroying a layer leaves the client target alone. -/
theorem destroyLayer_buffer (device : Hwc2Device context) (display : DisplayId)
    (layer : LayerId) : (device.destroyLayer display layer).2.buffer = device.buffer := by
  unfold Hwc2Device.destroyLayer
  split
  · rfl
  · dsimp only
    split <;> rfl

/-- The layers after one was destroyed: on a known display it is gone. -/
theorem destroyLayer_layers (device : Hwc2Device context) (display : DisplayId)
    (layer : LayerId) : (device.destroyLayer display layer).2.layers =
      if KnownDisplay display then device.layers.erase layer else device.layers := by
  unfold Hwc2Device.destroyLayer
  by_cases known : KnownDisplay display
  · rw [if_neg (not_not.mpr known), if_pos known]
    dsimp only
    split <;> rfl
  · rw [if_pos known, if_neg known]

end Arpi.Composer
