import Arpi.Composer.Hwc2Device
import Mathlib.Data.Set.Insert

/-!
# The resources of a client

`ResourceManager` translates identifiers and errors and passes every call on to
`ComposerResources`, which is not part of the repository and is a parameter here.
`ResourceContract` states what is relied on: which displays and layers are registered and
what the client target slots hold. `cachingResources` is an implementation that keeps it.

A handle that a cache gives up is freed when the releaser of the call is destroyed, so a
client target is alive only while a slot holds it.
-/

namespace Arpi.Composer

open Arpi.Gralloc Arpi.Semantics

/-- What a look-up in a handle cache answers. -/
structure CacheAnswer where
  error : Int
  handle : BufferHandle
deriving DecidableEq

/-- A display that `clear` reports. -/
structure ClearedDisplay where
  display : DisplayId
  isVirtual : Bool
  layers : List LayerId
deriving DecidableEq

/-- `ComposerResources`, as far as it is used. -/
structure ComposerResources where
  State : Type
  create : State
  hasDisplay : DisplayId → State → Bool
  addPhysicalDisplay : DisplayId → State → Int × State
  removeDisplay : DisplayId → State → Int × State
  setDisplayClientTargetCacheSize : DisplayId → BitVec 32 → State → Int × State
  getDisplayClientTargetCacheSize : DisplayId → State → Int × Nat
  getDisplayOutputBufferCacheSize : DisplayId → State → Int × Nat
  addLayer : DisplayId → LayerId → BitVec 32 → State → Int × State
  removeLayer : DisplayId → LayerId → State → Int × State
  setDisplayMustValidateState : DisplayId → Bool → State → State
  getDisplayClientTarget : DisplayId → BitVec 32 → Bool → BufferHandle → State →
    CacheAnswer × State
  getDisplayOutputBuffer : DisplayId → BitVec 32 → Bool → BufferHandle → State →
    CacheAnswer × State
  getLayerBuffer : DisplayId → LayerId → BitVec 32 → Bool → BufferHandle → State →
    CacheAnswer × State
  getLayerSidebandStream : DisplayId → LayerId → BufferHandle → State → CacheAnswer × State
  clear : State → List ClearedDisplay

/-- What is kept for a display: its layers and its client target slots. -/
@[ext] structure DisplayResource where
  layers : Set LayerId
  clientTargets : List BufferHandle

/-- The resources of a display that was just added. -/
def DisplayResource.fresh : DisplayResource := ⟨∅, []⟩

/-- What is registered: the resources of every display that was added. -/
abbrev ResourceView := DisplayId → Option DisplayResource

namespace ResourceView

/-- The layers registered under a display. -/
def layersOn (view : ResourceView) (display : DisplayId) : Set LayerId :=
  match view display with
  | some resource => resource.layers
  | none => ∅

/-- The client target slots of a display. -/
def slots (view : ResourceView) (display : DisplayId) : List BufferHandle :=
  match view display with
  | some resource => resource.clientTargets
  | none => []

variable {view : ResourceView} {display : DisplayId} {resource : DisplayResource}

theorem layersOn_of_some (found : view display = some resource) :
    layersOn view display = resource.layers := by
  rw [layersOn, found]

theorem layersOn_of_none (missing : view display = none) : layersOn view display = ∅ := by
  rw [layersOn, missing]

theorem slots_of_some (found : view display = some resource) :
    slots view display = resource.clientTargets := by
  rw [slots, found]

theorem slots_of_none (missing : view display = none) : slots view display = [] := by
  rw [slots, missing]

/-- A layer is registered under a display that was added. -/
theorem mem_layersOn {layer : LayerId} : layer ∈ layersOn view display ↔
    ∃ resource, view display = some resource ∧ layer ∈ resource.layers := by
  cases found : view display with
  | none => simp [layersOn_of_none found]
  | some resource => simp [layersOn_of_some found]

/-- A handle lies in a slot of a display that was added. -/
theorem mem_slots {handle : BufferHandle} : handle ∈ slots view display ↔
    ∃ resource, view display = some resource ∧ handle ∈ resource.clientTargets := by
  cases found : view display with
  | none => simp [slots_of_none found]
  | some resource => simp [slots_of_some found]

@[simp] theorem layersOn_update_some :
    layersOn (Function.update view display (some resource)) =
      Function.update (layersOn view) display resource.layers := by
  funext other
  by_cases same : other = display
  · subst same
    simp [layersOn]
  · simp [layersOn, same]

@[simp] theorem layersOn_update_none :
    layersOn (Function.update view display none) =
      Function.update (layersOn view) display ∅ := by
  funext other
  by_cases same : other = display
  · subst same
    simp [layersOn]
  · simp [layersOn, same]

@[simp] theorem slots_update_some :
    slots (Function.update view display (some resource)) =
      Function.update (slots view) display resource.clientTargets := by
  funext other
  by_cases same : other = display
  · subst same
    simp [slots]
  · simp [slots, same]

@[simp] theorem slots_update_none :
    slots (Function.update view display none) = Function.update (slots view) display [] := by
  funext other
  by_cases same : other = display
  · subst same
    simp [slots]
  · simp [slots, same]

/-- A resource with the same slots leaves the slots alone. -/
theorem slots_update_same {changed : DisplayResource} (found : view display = some resource)
    (same : changed.clientTargets = resource.clientTargets) :
    slots (Function.update view display (some changed)) = slots view := by
  rw [slots_update_some, same, ← slots_of_some found, Function.update_eq_self]

/-- A resource with the same layers leaves the layers alone. -/
theorem layersOn_update_same {changed : DisplayResource} (found : view display = some resource)
    (same : changed.layers = resource.layers) :
    layersOn (Function.update view display (some changed)) = layersOn view := by
  rw [layersOn_update_some, same, ← layersOn_of_some found, Function.update_eq_self]

end ResourceView

/-- What is relied on of `ComposerResources`. -/
structure ResourceContract (resources : ComposerResources) where
  view : resources.State → ResourceView
  create : ∀ display, view resources.create display = none
  hasDisplay : ∀ display state, resources.hasDisplay display state = (view state display).isSome
  addPhysicalDisplay : ∀ display state, view state display = none →
    view (resources.addPhysicalDisplay display state).2 =
      Function.update (view state) display (some .fresh)
  addPhysicalDisplay_again : ∀ display state, view state display ≠ none →
    view (resources.addPhysicalDisplay display state).2 = view state
  removeDisplay : ∀ display state, view (resources.removeDisplay display state).2 =
    Function.update (view state) display none
  setDisplayClientTargetCacheSize : ∀ display size state,
    view (resources.setDisplayClientTargetCacheSize display size state).2 = view state ∨
      ∃ resource, view state display = some resource ∧ resource.clientTargets = [] ∧
        view (resources.setDisplayClientTargetCacheSize display size state).2 =
          Function.update (view state) display
            (some { resource with clientTargets := .replicate size.toNat 0 })
  getDisplayClientTargetCacheSize : ∀ display state resource, view state display = some resource →
    resources.getDisplayClientTargetCacheSize display state = (0, resource.clientTargets.length)
  addLayer_unknown : ∀ display layer size state, view state display = none →
    (resources.addLayer display layer size state).1 = hwc2ErrorBadDisplay ∧
      view (resources.addLayer display layer size state).2 = view state
  addLayer_again : ∀ display layer size state resource, view state display = some resource →
    layer ∈ resource.layers → (resources.addLayer display layer size state).1 ≠ 0 ∧
      view (resources.addLayer display layer size state).2 = view state
  addLayer : ∀ display layer size state resource, view state display = some resource →
    layer ∉ resource.layers → (resources.addLayer display layer size state).1 = 0 ∧
      view (resources.addLayer display layer size state).2 = Function.update (view state) display
        (some { resource with layers := insert layer resource.layers })
  removeLayer : ∀ display layer state resource, view state display = some resource →
    layer ∈ resource.layers → (resources.removeLayer display layer state).1 = 0 ∧
      view (resources.removeLayer display layer state).2 = Function.update (view state) display
        (some { resource with layers := resource.layers \ {layer} })
  removeLayer_unknown : ∀ display layer state,
    (∀ resource, view state display = some resource → layer ∉ resource.layers) →
      (resources.removeLayer display layer state).1 ≠ 0 ∧
        view (resources.removeLayer display layer state).2 = view state
  setDisplayMustValidateState : ∀ display mustValidate state,
    view (resources.setDisplayMustValidateState display mustValidate state) = view state
  lookup : ∀ display slot handle state resource, view state display = some resource →
    (bound : slot.toNat < resource.clientTargets.length) →
      resources.getDisplayClientTarget display slot true handle state =
        (⟨0, resource.clientTargets[slot.toNat]⟩, state)
  lookup_outside : ∀ display slot handle state,
    (∀ resource, view state display = some resource →
      resource.clientTargets.length ≤ slot.toNat) →
      (resources.getDisplayClientTarget display slot true handle state).1.error ≠ 0 ∧
        view (resources.getDisplayClientTarget display slot true handle state).2 = view state
  store : ∀ display slot handle state,
    ((resources.getDisplayClientTarget display slot false handle state).1.error ≠ 0 ∧
        view (resources.getDisplayClientTarget display slot false handle state).2 = view state) ∨
      ∃ resource, view state display = some resource ∧
        slot.toNat < resource.clientTargets.length ∧
        (resources.getDisplayClientTarget display slot false handle state).1.error = 0 ∧
        view (resources.getDisplayClientTarget display slot false handle state).2 =
          Function.update (view state) display (some { resource with
            clientTargets := resource.clientTargets.set slot.toNat
              (resources.getDisplayClientTarget display slot false handle state).1.handle })
  fresh : ∀ display slot handle state other resource, view state other = some resource →
    (resources.getDisplayClientTarget display slot false handle state).1.handle ≠ 0 →
      (resources.getDisplayClientTarget display slot false handle state).1.handle ∉
        resource.clientTargets
  getDisplayOutputBuffer : ∀ display slot fromCache handle state,
    view (resources.getDisplayOutputBuffer display slot fromCache handle state).2 = view state
  getLayerBuffer : ∀ display layer slot fromCache handle state,
    view (resources.getLayerBuffer display layer slot fromCache handle state).2 = view state
  getLayerSidebandStream : ∀ display layer handle state,
    view (resources.getLayerSidebandStream display layer handle state).2 = view state
  clear : ∀ state display resource, view state display = some resource →
    ∃ cleared ∈ resources.clear state, cleared.display = display ∧
      ∀ layer ∈ resource.layers, layer ∈ cleared.layers

end Arpi.Composer
