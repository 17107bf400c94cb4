import Arpi.Composer.ResourceManager
import Mathlib.Algebra.Order.BigOperators.Group.List
import Mathlib.Algebra.Order.Ring.Nat

/-!
# An implementation of the resources

`cachingResources` keeps the displays that were added, their layers and their client
target slots. An import yields a handle that no slot holds, or null for an empty handle.
It keeps the contract, so that the contract can be met.
-/

namespace Arpi.Composer

open Arpi.Gralloc Arpi.Semantics

/-- What is kept for a display. -/
structure CachedDisplay where
  layers : List LayerId
  clientTargets : List BufferHandle
deriving DecidableEq

/-- The displays that were added, and what is kept for each of them. -/
structure CachingState where
  displays : UnorderedSet DisplayId
  resource : DisplayId → CachedDisplay

namespace CachingState

/-- No display was added. -/
def create : CachingState := ⟨.empty, fun _ => ⟨[], []⟩⟩

/-- Keep something else for a display. -/
def update (display : DisplayId) (resource : CachedDisplay) (state : CachingState) :
    CachingState :=
  { state with resource := Function.update state.resource display resource }

/-- A handle that no slot of an added display holds. -/
def freeHandle (state : CachingState) : BufferHandle :=
  (state.displays.elements.flatMap fun display => (state.resource display).clientTargets).sum + 1

def addPhysicalDisplay (display : DisplayId) (state : CachingState) : Int × CachingState :=
  if state.displays.count display then (hwc2ErrorBadDisplay, state)
  else (hwc2ErrorNone,
    { (state.update display ⟨[], []⟩) with displays := state.displays.insert display })

def removeDisplay (display : DisplayId) (state : CachingState) : Int × CachingState :=
  (if state.displays.count display then hwc2ErrorNone else hwc2ErrorBadDisplay,
    { state with displays := state.displays.erase display })

def setDisplayClientTargetCacheSize (display : DisplayId) (size : BitVec 32)
    (state : CachingState) : Int × CachingState :=
  if state.displays.count display = false then (hwc2ErrorBadDisplay, state)
  else if (state.resource display).clientTargets ≠ [] then (hwc2ErrorBadParameter, state)
  else (hwc2ErrorNone, state.update display
    { state.resource display with clientTargets := .replicate size.toNat 0 })

def addLayer (display : DisplayId) (layer : LayerId) (state : CachingState) :
    Int × CachingState :=
  if state.displays.count display = false then (hwc2ErrorBadDisplay, state)
  else if layer ∈ (state.resource display).layers then (hwc2ErrorBadLayer, state)
  else (hwc2ErrorNone, state.update display
    { state.resource display with layers := layer :: (state.resource display).layers })

def removeLayer (display : DisplayId) (layer : LayerId) (state : CachingState) :
    Int × CachingState :=
  if state.displays.count display = false then (hwc2ErrorBadDisplay, state)
  else if layer ∉ (state.resource display).layers then (hwc2ErrorBadLayer, state)
  else (hwc2ErrorNone, state.update display
    { state.resource display with
      layers := (state.resource display).layers.filter fun other => other ≠ layer })

def getDisplayClientTarget (display : DisplayId) (slot : BitVec 32) (fromCache : Bool)
    (handle : BufferHandle) (state : CachingState) : CacheAnswer × CachingState :=
  let targets := (state.resource display).clientTargets
  if state.displays.count display = false then (⟨hwc2ErrorBadDisplay, 0⟩, state)
  else if targets.length ≤ slot.toNat then (⟨hwc2ErrorBadParameter, 0⟩, state)
  else if fromCache then (⟨hwc2ErrorNone, targets.getD slot.toNat 0⟩, state)
  else
    let imported := if handle = 0 then 0 else state.freeHandle
    (⟨hwc2ErrorNone, imported⟩, state.update display
      { state.resource display with clientTargets := targets.set slot.toNat imported })

/-- A layer is looked up; its own caches are not kept. -/
def lookupLayer (display : DisplayId) (layer : LayerId) (handle : BufferHandle)
    (state : CachingState) : CacheAnswer :=
  if state.displays.count display = false then ⟨hwc2ErrorBadDisplay, 0⟩
  else if layer ∉ (state.resource display).layers then ⟨hwc2ErrorBadLayer, 0⟩
  else ⟨hwc2ErrorNone, handle⟩

/-- What the contract sees of a state. -/
def view (state : CachingState) (display : DisplayId) : Option DisplayResource :=
  if state.displays.count display then
    some ⟨{layer | layer ∈ (state.resource display).layers},
      (state.resource display).clientTargets⟩
  else none

end CachingState

/-- The resources with client target slots. -/
def cachingResources : ComposerResources where
  State := CachingState
  create := .create
  hasDisplay display state := state.displays.count display
  addPhysicalDisplay := CachingState.addPhysicalDisplay
  removeDisplay := CachingState.removeDisplay
  setDisplayClientTargetCacheSize := CachingState.setDisplayClientTargetCacheSize
  getDisplayClientTargetCacheSize display state :=
    if state.displays.count display then
      (hwc2ErrorNone, (state.resource display).clientTargets.length)
    else (hwc2ErrorBadDisplay, 0)
  getDisplayOutputBufferCacheSize display state :=
    (if state.displays.count display then hwc2ErrorNone else hwc2ErrorBadDisplay, 0)
  addLayer display layer _ := CachingState.addLayer display layer
  removeLayer := CachingState.removeLayer
  setDisplayMustValidateState _ _ state := state
  getDisplayClientTarget := CachingState.getDisplayClientTarget
  getDisplayOutputBuffer display _ _ _ state :=
    (⟨if state.displays.count display then hwc2ErrorBadParameter else hwc2ErrorBadDisplay, 0⟩,
      state)
  getLayerBuffer display layer _ _ handle state := (state.lookupLayer display layer handle, state)
  getLayerSidebandStream display layer handle state :=
    (state.lookupLayer display layer handle, state)
  clear state := state.displays.elements.map fun display =>
    ⟨display, false, (state.resource display).layers⟩

namespace CachingState

variable {state : CachingState} {display other : DisplayId} {resource : CachedDisplay}
  {seen : DisplayResource}

theorem view_of_absent (absent : state.displays.count display = false) :
    state.view display = none := by
  simp [view, absent]

theorem view_of_added (added : state.displays.count display = true) :
    state.view display = some ⟨{layer | layer ∈ (state.resource display).layers},
      (state.resource display).clientTargets⟩ := by
  simp [view, added]

theorem count_of_view (found : state.view display = some seen) :
    state.displays.count display = true := by
  by_contra absent
  rw [view, if_neg absent] at found
  cases found

theorem count_of_view_none (found : state.view display = none) :
    state.displays.count display = false := by
  by_contra added
  rw [view_of_added (by simpa using added)] at found
  cases found

/-- Keeping something else for an added display changes the view of that display. -/
theorem view_update (added : state.displays.count display = true) :
    (state.update display resource).view = Function.update state.view display
      (some ⟨{layer | layer ∈ resource.layers}, resource.clientTargets⟩) := by
  funext other
  by_cases same : other = display
  · subst same
    simp [view, update, added]
  · simp only [view, update, Function.update_of_ne same]

/-- The free handle is in no slot. -/
theorem freeHandle_not_mem (added : state.displays.count display = true) :
    state.freeHandle ∉ (state.resource display).clientTargets := by
  intro member
  have held : state.freeHandle ∈
      state.displays.elements.flatMap fun display => (state.resource display).clientTargets :=
    List.mem_flatMap.mpr ⟨display, UnorderedSet.count_eq_true.mp added, member⟩
  have bound := List.le_sum_of_mem held
  exact Nat.not_succ_le_self _ bound

/-- Adding a display shows it without layers and without slots. -/
theorem view_add (state : CachingState) (display : DisplayId) :
    ({ (state.update display ⟨[], []⟩) with displays := state.displays.insert display } :
      CachingState).view = Function.update state.view display (some .fresh) := by
  funext other
  by_cases same : other = display
  · subst same
    rw [Function.update_self, view_of_added UnorderedSet.count_insert_self]
    simp only [update, Function.update_self, DisplayResource.fresh, List.not_mem_nil,
      Set.ofPred_false]
  · have counted : (state.displays.insert display).count other = state.displays.count other := by
      rw [Bool.eq_iff_iff, UnorderedSet.count_eq_true, UnorderedSet.count_eq_true,
        UnorderedSet.mem_insert]
      exact or_iff_right same
    simp only [view, update, counted, Function.update_of_ne same]

/-- Removing a display hides it. -/
theorem view_remove (state : CachingState) (display : DisplayId) :
    ({ state with displays := state.displays.erase display } : CachingState).view =
      Function.update state.view display none := by
  funext other
  by_cases same : other = display
  · subst same
    rw [Function.update_self]
    exact view_of_absent (UnorderedSet.count_eq_false.mpr (by simp))
  · have counted : (state.displays.erase display).count other = state.displays.count other := by
      rw [Bool.eq_iff_iff, UnorderedSet.count_eq_true, UnorderedSet.count_eq_true,
        UnorderedSet.mem_erase]
      exact and_iff_right same
    simp only [view, counted, Function.update_of_ne same]

/-- What is seen of an added display is what is kept for it. -/
theorem eq_of_view (found : state.view display = some seen) :
    seen = ⟨{layer | layer ∈ (state.resource display).layers},
      (state.resource display).clientTargets⟩ := by
  rw [view_of_added (count_of_view found)] at found
  exact (Option.some.inj found).symm

end CachingState

open CachingState in
/-- The caching resources keep the contract. -/
def cachingContract : ResourceContract cachingResources where
  view := CachingState.view
  create display := view_of_absent rfl
  hasDisplay display state := by
    cases added : state.displays.count display with
    | true => rw [view_of_added added]; exact added
    | false => rw [view_of_absent added]; exact added
  addPhysicalDisplay display state absent := by
    simp only [cachingResources, CachingState.addPhysicalDisplay, count_of_view_none absent,
      Bool.false_eq_true, if_false]
    exact view_add state display
  addPhysicalDisplay_again display state added := by
    obtain ⟨resource, found⟩ := Option.ne_none_iff_exists'.mp added
    simp only [cachingResources, CachingState.addPhysicalDisplay, count_of_view found, if_true]
  removeDisplay display state := view_remove state display
  setDisplayClientTargetCacheSize display size state := by
    cases added : state.displays.count display with
    | false =>
        left
        simp only [cachingResources, CachingState.setDisplayClientTargetCacheSize, added, if_true]
    | true =>
        by_cases empty : (state.resource display).clientTargets = []
        · refine .inr ⟨_, view_of_added added, empty, ?_⟩
          simp only [cachingResources, CachingState.setDisplayClientTargetCacheSize, added,
            Bool.true_eq_false, if_false, empty, ne_eq, not_true]
          exact view_update added
        · left
          simp only [cachingResources, CachingState.setDisplayClientTargetCacheSize, added,
            Bool.true_eq_false, if_false, ne_eq, empty, not_false_eq_true, if_true]
  getDisplayClientTargetCacheSize display state resource found := by
    obtain rfl := eq_of_view found
    simp only [cachingResources, count_of_view found, if_true, hwc2ErrorNone]
  addLayer_unknown display layer size state absent := by
    simp only [cachingResources, CachingState.addLayer, count_of_view_none absent, if_true,
      and_self]
  addLayer_again display layer size state resource found member := by
    obtain rfl := eq_of_view found
    have present : layer ∈ (state.resource display).layers := member
    simp only [cachingResources, CachingState.addLayer, count_of_view found, Bool.true_eq_false,
      if_false, if_pos present, and_true]
    decide
  addLayer display layer size state resource found member := by
    obtain rfl := eq_of_view found
    have absent : layer ∉ (state.resource display).layers := member
    simp only [cachingResources, CachingState.addLayer, count_of_view found, Bool.true_eq_false,
      if_false, if_neg absent, hwc2ErrorNone, true_and, view_update (count_of_view found)]
    congr 2
    ext other
    · simp
    · rfl
  removeLayer display layer state resource found member := by
    obtain rfl := eq_of_view found
    have present : ¬ layer ∉ (state.resource display).layers := not_not.mpr member
    simp only [cachingResources, CachingState.removeLayer, count_of_view found,
      Bool.true_eq_false, if_false, if_neg present, hwc2ErrorNone, true_and,
      view_update (count_of_view found)]
    congr 2
    ext other
    · simp
    · rfl
  removeLayer_unknown display layer state unregistered := by
    cases added : state.displays.count display with
    | false =>
        simp only [cachingResources, CachingState.removeLayer, added, if_true, and_true]
        decide
    | true =>
        have absent : layer ∉ (state.resource display).layers :=
          unregistered _ (view_of_added added)
        simp only [cachingResources, CachingState.removeLayer, added, Bool.true_eq_false,
          if_false, absent, not_false_eq_true, if_true, and_true]
        decide
  setDisplayMustValidateState _ _ _ := rfl
  lookup display slot handle state resource found bound := by
    obtain rfl := eq_of_view found
    have inside : ¬ (state.resource display).clientTargets.length ≤ slot.toNat :=
      Nat.not_le.mpr bound
    simp only [cachingResources, CachingState.getDisplayClientTarget, count_of_view found,
      Bool.true_eq_false, if_false, if_neg inside, if_true, hwc2ErrorNone]
    simp [List.getD, List.getElem?_eq_getElem bound]
  lookup_outside display slot handle state outside := by
    cases added : state.displays.count display with
    | false =>
        simp only [cachingResources, CachingState.getDisplayClientTarget, added, if_true, and_true]
        decide
    | true =>
        have beyond := outside _ (view_of_added added)
        simp only [cachingResources, CachingState.getDisplayClientTarget, added,
          Bool.true_eq_false, if_false, if_pos beyond, and_true]
        decide
  store display slot handle state := by
    cases added : state.displays.count display with
    | false =>
        left
        simp only [cachingResources, CachingState.getDisplayClientTarget, added, if_true, and_true]
        decide
    | true =>
        by_cases beyond : (state.resource display).clientTargets.length ≤ slot.toNat
        · left
          simp only [cachingResources, CachingState.getDisplayClientTarget, added,
            Bool.true_eq_false, if_false, if_pos beyond, and_true]
          decide
        · refine .inr ⟨_, view_of_added added, Nat.not_le.mp beyond, ?_⟩
          simp only [cachingResources, CachingState.getDisplayClientTarget, added,
            Bool.true_eq_false, Bool.false_eq_true, if_false, if_neg beyond, hwc2ErrorNone,
            true_and]
          exact view_update added
  fresh display slot handle state other resource found set := by
    obtain rfl := eq_of_view found
    have free := freeHandle_not_mem (count_of_view found)
    revert set
    simp only [cachingResources, CachingState.getDisplayClientTarget, Bool.false_eq_true,
      if_false]
    split_ifs with absent beyond null
    · exact fun set => absurd rfl set
    · exact fun set => absurd rfl set
    · exact fun set => absurd rfl set
    · exact fun _ => free
  getDisplayOutputBuffer _ _ _ _ _ := rfl
  getLayerBuffer _ _ _ _ _ _ := rfl
  getLayerSidebandStream _ _ _ _ := rfl
  clear state display resource found := by
    obtain rfl := eq_of_view found
    have added := UnorderedSet.count_eq_true.mp (count_of_view found)
    exact ⟨_, List.mem_map_of_mem added, rfl, fun _ member => member⟩

end Arpi.Composer
