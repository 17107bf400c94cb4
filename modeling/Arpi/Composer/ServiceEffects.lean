import Arpi.Composer.ComposerClient
import Arpi.Composer.DeviceEffects
import Arpi.Semantics.Holdings

/-!
# What the steps of the service do

One lemma for each call of a client says what becomes of the layers and the client target
of the device and of what is registered. A registration of a callback and a batch of
commands are runs of the service.
-/

namespace Arpi.Composer

open Arpi.Gralloc Arpi.Semantics

variable {context : HwcContext} {resources : ComposerResources}

/-- A number of 32 bits reaches every slot of a display. -/
def CountableSlots (slots : DisplayId → List BufferHandle) : Prop :=
  ∀ display, (slots display).length ≤ 2 ^ 32

/-- What a step of the service may do to the client target slots of all displays. -/
inductive SlotsChange (slots : DisplayId → List BufferHandle) :
    (DisplayId → List BufferHandle) → Prop where
  | kept : SlotsChange slots slots
  | emptied : SlotsChange slots fun _ => []
  | dropped (display : DisplayId) : SlotsChange slots (Function.update slots display [])
  | sized {display : DisplayId} (size : BitVec 32) (empty : slots display = []) :
      SlotsChange slots (Function.update slots display (.replicate size.toNat 0))
  | replaced {display : DisplayId} {handle : BufferHandle} (slot : Nat)
      (fresh : handle ≠ 0 → ∀ other, handle ∉ slots other) :
      SlotsChange slots (Function.update slots display ((slots display).set slot handle))

/-- The slots of all displays by their places. -/
def slotContents (slots : DisplayId → List BufferHandle) (place : DisplayId × Nat) :
    Option BufferHandle :=
  (slots place.1)[place.2]?

/-- Every slot can be reached, and no handle lies in two slots. -/
structure SoundSlots (slots : DisplayId → List BufferHandle) : Prop where
  small : CountableSlots slots
  sole : Sole 0 (slotContents slots)

theorem soundSlots_empty : SoundSlots fun _ => [] where
  small _ := Nat.zero_le _
  sole _ _ _ _ inFirst := by cases inFirst

/-- The slots stay sound. -/
theorem SlotsChange.sound {slots after : DisplayId → List BufferHandle}
    (change : SlotsChange slots after) (sound : SoundSlots slots) : SoundSlots after := by
  have updated : ∀ display list, list.length ≤ 2 ^ 32 →
      CountableSlots (Function.update slots display list) := by
    intro display list bound other
    by_cases same : other = display
    · subst same
      rwa [Function.update_self]
    · rw [Function.update_of_ne same]
      exact sound.small other
  cases change with
  | kept => exact sound
  | emptied => exact soundSlots_empty
  | dropped display =>
      refine ⟨updated display [] (Nat.zero_le _), sound.sole.shrink ?_⟩
      intro handle proper place inside
      rw [slotContents] at inside ⊢
      by_cases same : place.1 = display
      · simp [same] at inside
      · rwa [Function.update_of_ne same] at inside
  | @sized display size empty =>
      refine ⟨updated _ _ ?_, sound.sole.shrink ?_⟩
      · rw [List.length_replicate]
        exact Nat.le_of_lt size.isLt
      · intro handle proper place inside
        rw [slotContents] at inside ⊢
        by_cases same : place.1 = display
        · rw [same, Function.update_self, List.getElem?_replicate] at inside
          split at inside
          · exact absurd (Option.some.inj inside).symm proper
          · cases inside
        · rwa [Function.update_of_ne same] at inside
  | @replaced display handle slot fresh =>
      refine ⟨updated _ _ ?_, sound.sole.change (display, slot) ?_⟩
      · rw [List.length_set]
        exact sound.small display
      · intro other proper place inside
        rw [slotContents] at inside
        by_cases same : place.1 = display
        · rw [same, Function.update_self, List.getElem?_set] at inside
          by_cases here : slot = place.2
          · rw [if_pos here] at inside
            split at inside
            · obtain rfl := Option.some.inj inside
              refine .inr ⟨Prod.ext same here.symm, fun anywhere found => ?_⟩
              exact fresh proper anywhere.1 (List.mem_of_getElem? found)
            · cases inside
          · rw [if_neg here] at inside
            rw [slotContents, same]
            exact .inl inside
        · rw [Function.update_of_ne same] at inside
          exact .inl inside

namespace World

/-- Neither the layers and the client target of the device nor what is registered changes. -/
structure Unmoved (contract : ResourceContract resources)
    (before after : World context resources) : Prop where
  device : Quiet before.hal.device after.hal.device
  view : contract.view after.resources = contract.view before.resources

variable (contract : ResourceContract resources) {world : World context resources}
  {display : DisplayId}

/-- The device after a field that sets no client target. -/
theorem perform_quiet (world : World context resources) (display : DisplayId)
    {field : Field} (other : ∀ target, field ≠ .clientTarget target) :
    Quiet world.hal.device (world.perform display field).2.hal.device := by
  cases field with
  | layerBuffer layer buffer => exact ⟨rfl, rfl⟩
  | layerComposition layer composition => exact Quiet.setLayerCompositionType layer _
  | layerSidebandStream layer stream => exact ⟨rfl, rfl⟩
  | clientTarget target => exact absurd rfl (other target)
  | outputBuffer buffer => exact ⟨rfl, rfl⟩
  | validateDisplay => exact Quiet.halValidateDisplay
  | acceptDisplayChanges => exact Quiet.acceptDisplayChanges
  | presentDisplay => exact Quiet.halPresentDisplay
  | presentOrValidateDisplay => exact Quiet.halValidateDisplay

/-- A field that sets no client target. -/
theorem perform_unmoved (world : World context resources) (display : DisplayId)
    {field : Field} (other : ∀ target, field ≠ .clientTarget target) :
    Unmoved contract world (world.perform display field).2 := by
  refine ⟨perform_quiet world display other, ?_⟩
  cases field with
  | layerBuffer layer buffer => exact contract.getLayerBuffer ..
  | layerComposition layer composition => rfl
  | layerSidebandStream layer stream => exact contract.getLayerSidebandStream ..
  | clientTarget target => exact absurd rfl (other target)
  | outputBuffer buffer => exact contract.getDisplayOutputBuffer ..
  | validateDisplay => exact contract.setDisplayMustValidateState display false _
  | acceptDisplayChanges => rfl
  | presentDisplay => rfl
  | presentOrValidateDisplay => exact contract.setDisplayMustValidateState display false _

/-- What becomes of a client target command: the look-up fails, or the cached handle is
handed to the device, or the given handle takes the slot and is handed to the device. -/
inductive TargetOutcome (world : World context resources) (display : DisplayId)
    (command : ClientTarget) : World context resources → Prop where
  | missed {state : resources.State}
      (failed : (resources.getDisplayClientTarget display command.buffer.slot
        command.buffer.handle.isNone (command.buffer.handle.getD 0) world.resources).1.error ≠ 0)
      (view : contract.view state = contract.view world.resources) :
      TargetOutcome world display command { world with resources := state }
  | cached {handle : BufferHandle} (empty : command.buffer.handle = none)
      (held : handle ∈ (contract.view world.resources).slots display) :
      TargetOutcome world display command
        { world with hal := (world.hal.setClientTarget display handle command.dataspace).2 }
  | stored {handle : BufferHandle} {resource : DisplayResource} {state : resources.State}
      (given : command.buffer.handle.isSome)
      (found : contract.view world.resources display = some resource)
      (bound : command.buffer.slot.toNat < resource.clientTargets.length)
      (succeeded : (resources.getDisplayClientTarget display command.buffer.slot false
        (command.buffer.handle.getD 0) world.resources).1.error = 0)
      (fresh : handle ≠ 0 → ∀ other, handle ∉ (contract.view world.resources).slots other)
      (view : contract.view state = Function.update (contract.view world.resources) display
        (some { resource with
          clientTargets := resource.clientTargets.set command.buffer.slot.toNat handle })) :
      TargetOutcome world display command
        ⟨(world.hal.setClientTarget display handle command.dataspace).2, state⟩

/-- The specification of a client target command. -/
theorem target_outcome (world : World context resources) (display : DisplayId)
    (command : ClientTarget) :
    TargetOutcome contract world display command (world.target display command).2 := by
  have looked := contract.lookup display command.buffer.slot 0 world.resources
  have outside := contract.lookup_outside display command.buffer.slot 0 world.resources
  have stores := contract.store display command.buffer.slot (command.buffer.handle.getD 0)
    world.resources
  have fresh := contract.fresh display command.buffer.slot (command.buffer.handle.getD 0)
    world.resources
  cases given : command.buffer.handle with
  | none =>
      by_cases inside : ∃ resource, contract.view world.resources display = some resource ∧
          command.buffer.slot.toNat < resource.clientTargets.length
      · obtain ⟨resource, found, bound⟩ := inside
        have held : resource.clientTargets[command.buffer.slot.toNat] ∈
            (contract.view world.resources).slots display :=
          ResourceView.mem_slots.mpr ⟨resource, found, List.getElem_mem bound⟩
        have performed : (world.target display command).2 = { world with
            hal := (world.hal.setClientTarget display
              resource.clientTargets[command.buffer.slot.toNat] command.dataspace).2 } := by
          simp [target, given, looked resource found bound]
        rw [performed]
        exact .cached given held
      · have missing : ∀ resource, contract.view world.resources display = some resource →
            resource.clientTargets.length ≤ command.buffer.slot.toNat :=
          fun resource found => Nat.le_of_not_lt fun bound => inside ⟨resource, found, bound⟩
        obtain ⟨failed, view⟩ := outside missing
        have performed : (world.target display command).2 = { world with
            resources := (resources.getDisplayClientTarget display command.buffer.slot true 0
              world.resources).2 } := by
          simp [target, given, failed]
        rw [performed]
        refine .missed ?_ view
        rwa [given]
  | some handle =>
      rw [given, Option.getD_some] at stores fresh
      rcases stores with ⟨failed, view⟩ | ⟨resource, found, bound, succeeded, view⟩
      · have performed : (world.target display command).2 = { world with
            resources := (resources.getDisplayClientTarget display command.buffer.slot false
              handle world.resources).2 } := by
          simp [target, given, failed]
        rw [performed]
        refine .missed ?_ view
        rwa [given]
      · have performed : (world.target display command).2 =
            ⟨(world.hal.setClientTarget display (resources.getDisplayClientTarget display
                command.buffer.slot false handle world.resources).1.handle command.dataspace).2,
              (resources.getDisplayClientTarget display command.buffer.slot false handle
                world.resources).2⟩ := by
          simp [target, given, succeeded]
        rw [performed]
        refine .stored (by rw [given]; rfl) found bound ?_ ?_ view
        · rwa [given]
        · intro proper other member
          obtain ⟨kept, elsewhere, inside⟩ := ResourceView.mem_slots.mp member
          exact fresh other kept elsewhere proper inside

/-- The client target after the slots of a display have been handed to the device in turn. -/
def cleanedTarget (display : DisplayId) (slots : List BufferHandle) (buffer : BufferHandle) :
    BufferHandle :=
  if KnownDisplay display then slots.getLast?.getD buffer else buffer

/-- The client target is replaced. -/
def withBuffer (world : World context resources) (buffer : BufferHandle) :
    World context resources :=
  { world with hal := { world.hal with device := { world.hal.device with buffer := buffer } } }

theorem cleanClientTarget_eq {resource : DisplayResource} {slot : Nat}
    (found : contract.view world.resources display = some resource)
    (small : resource.clientTargets.length ≤ 2 ^ 32)
    (bound : slot < resource.clientTargets.length) :
    world.cleanClientTarget display slot =
      world.withBuffer (if KnownDisplay display then resource.clientTargets[slot]
        else world.hal.device.buffer) := by
  have exact : (BitVec.ofNat 32 slot).toNat = slot := by
    rw [BitVec.toNat_ofNat]
    exact Nat.mod_eq_of_lt (by omega)
  have looked := contract.lookup display (.ofNat 32 slot) 0 world.resources resource found
    (by rwa [exact])
  simp only [exact] at looked
  simp only [cleanClientTarget, looked, ne_eq, not_true, if_false, ComposerHal.setClientTarget,
    setClientTarget_device, and_true, withBuffer]

/-- The first loop of the clean-up hands the slots to the device one after the other. -/
theorem foldl_cleanClientTarget {resource : DisplayResource}
    (found : contract.view world.resources display = some resource)
    (small : resource.clientTargets.length ≤ 2 ^ 32) {count : Nat}
    (bound : count ≤ resource.clientTargets.length) :
    (List.range count).foldl (cleanClientTarget display) world =
      world.withBuffer (cleanedTarget display (resource.clientTargets.take count)
        world.hal.device.buffer) := by
  induction count with
  | zero =>
      rw [List.take_zero, cleanedTarget, List.getLast?_nil, Option.getD_none, ite_self]
      rfl
  | succ count ih =>
      have last : (resource.clientTargets.take (count + 1)).getLast? =
          some resource.clientTargets[count] := by
        rw [List.take_succ_eq_append_getElem (by omega), List.getLast?_concat]
      rw [List.range_succ, List.foldl_append, ih (by omega), List.foldl_cons, List.foldl_nil,
        cleanClientTarget_eq contract (by exact found) small bound]
      by_cases known : KnownDisplay display
      · simp only [withBuffer, cleanedTarget, known, if_true, last, Option.getD_some]
      · simp only [withBuffer, cleanedTarget, known, if_false]

/-- The second loop of the clean-up only looks up. -/
theorem foldl_cleanOutputBuffer (slots : List Nat) :
    (slots.foldl (cleanOutputBuffer display) world).hal = world.hal ∧
      contract.view (slots.foldl (cleanOutputBuffer display) world).resources =
        contract.view world.resources := by
  induction slots generalizing world with
  | nil => exact ⟨rfl, rfl⟩
  | cons slot rest ih =>
      obtain ⟨hal, view⟩ := @ih (world.cleanOutputBuffer display slot)
      exact ⟨hal, view.trans (contract.getDisplayOutputBuffer ..)⟩

/-- The clean-up leaves the last slot of the display in the device. -/
theorem cleanDisplayResources_effect {resource : DisplayResource}
    (found : contract.view world.resources display = some resource)
    (small : resource.clientTargets.length ≤ 2 ^ 32) :
    (world.cleanDisplayResources display).hal =
        (world.withBuffer (cleanedTarget display resource.clientTargets
          world.hal.device.buffer)).hal ∧
      contract.view (world.cleanDisplayResources display).resources =
        contract.view world.resources := by
  have loop := foldl_cleanClientTarget contract found small (Nat.le_refl _)
  rw [List.take_length] at loop
  simp only [cleanDisplayResources,
    contract.getDisplayClientTargetCacheSize display world.resources resource found, if_true, loop]
  split
  · exact foldl_cleanOutputBuffer contract _
  · exact ⟨rfl, rfl⟩

/-- What is registered after a hotplug. -/
theorem onHotplug_view (world : World context resources) (display : DisplayId) (connected : Bool)
    (small : CountableSlots (contract.view world.resources).slots) :
    contract.view (world.onHotplug display connected).resources =
      Function.update (contract.view world.resources) display
        (if connected then some .fresh else none) := by
  cases connected with
  | false => exact contract.removeDisplay display world.resources
  | true =>
      rw [onHotplug, if_pos rfl, if_pos rfl, contract.hasDisplay]
      cases found : contract.view world.resources display with
      | none => exact contract.addPhysicalDisplay display world.resources found
      | some resource =>
          obtain ⟨-, view⟩ := cleanDisplayResources_effect contract found
            (ResourceView.slots_of_some found ▸ small display)
          have removed := contract.removeDisplay display
            (world.cleanDisplayResources display).resources
          have added := contract.addPhysicalDisplay display
            (resources.removeDisplay display (world.cleanDisplayResources display).resources).2
            (by rw [removed, Function.update_self])
          rw [removed, view, Function.update_idem] at added
          exact added

/-- A hotplug drops the slots of the display. -/
theorem onHotplug_slots (world : World context resources) (display : DisplayId) (connected : Bool)
    (small : CountableSlots (contract.view world.resources).slots) :
    (contract.view (world.onHotplug display connected).resources).slots =
      Function.update (contract.view world.resources).slots display [] := by
  rw [onHotplug_view contract world display connected small]
  cases connected with
  | true => exact ResourceView.slots_update_some
  | false => exact ResourceView.slots_update_none

/-- A hotplug drops the registered layers of the display. -/
theorem onHotplug_layersOn (world : World context resources) (display : DisplayId)
    (connected : Bool) (small : CountableSlots (contract.view world.resources).slots) :
    (contract.view (world.onHotplug display connected).resources).layersOn =
      Function.update (contract.view world.resources).layersOn display ∅ := by
  rw [onHotplug_view contract world display connected small]
  cases connected with
  | true => exact ResourceView.layersOn_update_some
  | false => exact ResourceView.layersOn_update_none

/-- What the device holds after a hotplug. -/
theorem onHotplug_hal (world : World context resources) (display : DisplayId) (connected : Bool)
    (small : CountableSlots (contract.view world.resources).slots) :
    (world.onHotplug display connected).hal =
      (world.withBuffer (if connected then cleanedTarget display
        ((contract.view world.resources).slots display) world.hal.device.buffer
        else world.hal.device.buffer)).hal := by
  cases connected with
  | false => rfl
  | true =>
      rw [onHotplug, if_pos rfl, if_pos rfl, contract.hasDisplay]
      cases found : contract.view world.resources display with
      | none =>
          rw [ResourceView.slots_of_none found, cleanedTarget, List.getLast?_nil,
            Option.getD_none, ite_self]
          rfl
      | some resource =>
          rw [ResourceView.slots_of_some found]
          exact (cleanDisplayResources_effect contract found
            (ResourceView.slots_of_some found ▸ small display)).1

/-- Creating a layer leaves the slots alone. -/
theorem createLayer_slots (world : World context resources) (display : DisplayId)
    (size : BitVec 32) :
    (contract.view (world.createLayer display size).2.2.resources).slots =
      (contract.view world.resources).slots := by
  rw [createLayer]
  dsimp only
  split
  case h_1 layer _ =>
    cases found : contract.view world.resources display with
    | none => rw [(contract.addLayer_unknown display layer size _ found).2]
    | some resource =>
        by_cases member : layer ∈ resource.layers
        · rw [(contract.addLayer_again display layer size _ resource found member).2]
        · rw [(contract.addLayer display layer size _ resource found member).2]
          exact ResourceView.slots_update_same found rfl
  case h_2 => rfl

omit contract in
/-- Creating a layer leaves the client target alone. -/
theorem createLayer_target (world : World context resources) (display : DisplayId)
    (size : BitVec 32) : (world.createLayer display size).2.2.hal.device.buffer =
      world.hal.device.buffer := by
  have kept := createLayer_buffer world.hal.device display
  rw [createLayer]
  dsimp only
  split <;> exact kept

/-- Destroying a layer leaves the slots alone. -/
theorem destroyLayer_slots (world : World context resources) (display : DisplayId)
    (layer : LayerId) :
    (contract.view (world.destroyLayer display layer).2.resources).slots =
      (contract.view world.resources).slots := by
  rw [destroyLayer]
  dsimp only
  split
  · by_cases registered : ∃ resource, contract.view world.resources display = some resource ∧
        layer ∈ resource.layers
    · obtain ⟨resource, found, member⟩ := registered
      rw [(contract.removeLayer display layer _ resource found member).2]
      exact ResourceView.slots_update_same found rfl
    · rw [(contract.removeLayer_unknown display layer _ fun resource found member =>
        registered ⟨resource, found, member⟩).2]
  · rfl

omit contract in
/-- Destroying a layer leaves the client target alone. -/
theorem destroyLayer_target (world : World context resources) (display : DisplayId)
    (layer : LayerId) : (world.destroyLayer display layer).2.hal.device.buffer =
      world.hal.device.buffer := by
  have kept := destroyLayer_buffer world.hal.device display layer
  rw [destroyLayer]
  dsimp only
  split <;> exact kept

/-- Setting the number of slots may give a display its slots. -/
theorem setClientTargetSlotCount_slots (world : World context resources) (display : DisplayId)
    (count : BitVec 32) : SlotsChange (contract.view world.resources).slots
      (contract.view (world.setClientTargetSlotCount display count).2.resources).slots := by
  rcases contract.setDisplayClientTargetCacheSize display count world.resources with
    same | ⟨resource, found, empty, view⟩
  · rw [setClientTargetSlotCount, same]
    exact .kept
  · rw [setClientTargetSlotCount, view, ResourceView.slots_update_some]
    exact .sized count ((ResourceView.slots_of_some found).trans empty)

/-- A field may replace the handle in one slot. -/
theorem perform_slots (world : World context resources) (display : DisplayId) (field : Field) :
    SlotsChange (contract.view world.resources).slots
      (contract.view (world.perform display field).2.resources).slots := by
  by_cases targets : ∃ command, field = .clientTarget command
  · obtain ⟨command, rfl⟩ := targets
    have outcome := target_outcome contract world display command
    rw [perform]
    generalize (world.target display command).2 = after at outcome ⊢
    cases outcome with
    | missed failed view =>
        rw [view]
        exact .kept
    | cached => exact .kept
    | stored given found bound succeeded fresh view =>
        rw [view, ResourceView.slots_update_some, ← ResourceView.slots_of_some found]
        exact .replaced _ fresh
  · rw [(perform_unmoved contract world display fun command same => targets ⟨command, same⟩).view]
    exact .kept

omit contract in
/-- A cleared display loses its layers, if the device knows it. -/
theorem destroyDisplay_effect (hal : ComposerHal context) (cleared : ClearedDisplay) :
    (destroyDisplay hal cleared).device.buffer = hal.device.buffer ∧
      ∀ layer, layer ∈ (destroyDisplay hal cleared).device.layers ↔
        layer ∈ hal.device.layers ∧
          (KnownDisplay cleared.display → layer ∉ cleared.layers) := by
  have destroyed : ∀ (layers : List LayerId) (hal : ComposerHal context),
      let after := layers.foldl (fun hal layer => (hal.destroyLayer cleared.display layer).2) hal
      after.device.buffer = hal.device.buffer ∧
        ∀ layer, layer ∈ after.device.layers ↔
          layer ∈ hal.device.layers ∧ (KnownDisplay cleared.display → layer ∉ layers) := by
    intro layers
    induction layers with
    | nil => simp
    | cons first rest ih =>
        intro hal
        obtain ⟨buffer, layers⟩ := ih (hal.destroyLayer cleared.display first).2
        refine ⟨buffer.trans (destroyLayer_buffer ..), fun layer => (layers layer).trans ?_⟩
        have erased := destroyLayer_layers hal.device cleared.display first
        by_cases known : KnownDisplay cleared.display
        · rw [if_pos known] at erased
          simp only [ComposerHal.destroyLayer, erased, UnorderedSet.mem_erase, known, true_imp_iff,
            List.mem_cons]
          tauto
        · rw [if_neg known] at erased
          simp only [ComposerHal.destroyLayer, erased, known, false_imp_iff]
  obtain ⟨buffer, layers⟩ := destroyed cleared.layers hal
  rw [destroyDisplay]
  dsimp only at buffer layers ⊢
  generalize cleared.layers.foldl _ hal = stripped at buffer layers ⊢
  split
  · exact ⟨buffer, layers⟩
  · have settled : Quiet stripped.device _ :=
      (Quiet.halValidateDisplay.trans Quiet.acceptDisplayChanges).trans
        (@Quiet.halPresentDisplay _ cleared.display ((stripped.validateDisplay
          cleared.display).2.2.acceptDisplayChanges cleared.display).2)
    refine ⟨settled.buffer.trans buffer, fun layer => ?_⟩
    rw [settled.layers]
    exact layers layer

/-- The end of a client: the layers that are reported under known displays are gone. -/
theorem destroyResources_effect (world : World context resources) :
    world.destroyResources.device.buffer = world.hal.device.buffer ∧
      ∀ layer, layer ∈ world.destroyResources.device.layers ↔
        layer ∈ world.hal.device.layers ∧
          ∀ cleared ∈ resources.clear world.resources,
            KnownDisplay cleared.display → layer ∉ cleared.layers := by
  rw [destroyResources]
  generalize resources.clear world.resources = reported
  generalize world.hal = hal
  induction reported generalizing hal with
  | nil => simp
  | cons first rest ih =>
      obtain ⟨buffer, layers⟩ := ih (destroyDisplay hal first)
      obtain ⟨firstBuffer, firstLayers⟩ := destroyDisplay_effect hal first
      refine ⟨buffer.trans firstBuffer, fun layer => (layers layer).trans ?_⟩
      rw [firstLayers, List.forall_mem_cons, and_assoc]

end World

namespace Service

/-- A service with a client. -/
def serving (world : World context resources) : Service context resources :=
  ⟨world.hal, some world.resources⟩

/-- What is registered for the client; nothing while there is none. -/
def view (contract : ResourceContract resources) (service : Service context resources) :
    ResourceView :=
  match service.client with
  | some state => contract.view state
  | none => fun _ => none

/-- There is a client or there is none. -/
theorem cases_client (service : Service context resources) :
    service = ⟨service.hal, none⟩ ∨ ∃ world, service = serving world := by
  obtain ⟨hal, client⟩ := service
  cases client with
  | none => exact .inl rfl
  | some state => exact .inr ⟨⟨hal, state⟩, rfl⟩

/-- A field is executed as `perform` says. -/
theorem clientCall_execute (world : World context resources) (display : DisplayId)
    (field : Field) :
    clientCall (.execute display field) world = (0, (world.perform display field).2) := by
  rw [clientCall, (CommandEngine.executeField_handles display _ field).world]
  rfl

theorem next_execute (world : World context resources) (display : DisplayId) (field : Field) :
    (serviceMachine context resources).next (serving world) (.execute display field) =
      serving (world.perform display field).2 :=
  congrArg (fun answered : Int × World context resources => serving answered.2)
    (clientCall_execute world display field)

/-- Registering a callback is a run: the registration, then one hotplug for each display
that the device announces. -/
theorem registerCallback_run (world : World context resources) :
    serving world.registerCallback = (serviceMachine context resources).run (serving world)
      (.registerEventCallback ::
        world.hal.device.announcedDisplays.map fun display => .hotplug display true) := by
  have announced : ∀ (displays : List DisplayId) (world : World context resources),
      serving (displays.foldl (fun world display => world.onHotplug display true) world) =
        (serviceMachine context resources).run (serving world)
          (displays.map fun display => .hotplug display true) := by
    intro displays
    induction displays with
    | nil => exact fun _ => rfl
    | cons display rest ih => exact fun world => ih (world.onHotplug display true)
  exact announced _ _

/-- Executing a batch is a run: one step for each field, in order. -/
theorem execute_run (world : World context resources) (commands : List DisplayCommand) :
    serving ((CommandEngine.idle world).execute commands).2.world =
      (serviceMachine context resources).run (serving world)
        ((batchSteps commands 0).map fun step => .execute step.2.1 step.2.2) := by
  have performed : ∀ (steps : List BatchStep) (world : World context resources),
      serving ((operationMachine context resources).run world steps) =
        (serviceMachine context resources).run (serving world)
          (steps.map fun step => .execute step.2.1 step.2.2) := by
    intro steps
    induction steps with
    | nil => exact fun _ => rfl
    | cons step rest ih =>
        intro world
        rw [List.map_cons, Machine.run_cons, Machine.run_cons, next_execute]
        exact ih _
  rw [← performed]
  exact congrArg serving (foldl_executeCommand commands (CommandEngine.idle world)).1

/-- What a step does to the slots. -/
theorem slotsChange (contract : ResourceContract resources) (service : Service context resources)
    (small : CountableSlots (service.view contract).slots) (step : ServiceStep) :
    SlotsChange (service.view contract).slots
      (((serviceMachine context resources).next service step).view contract).slots := by
  rcases service.cases_client with gone | ⟨world, rfl⟩
  · rw [gone]
    cases step with
    | createClient =>
        have nothing : (contract.view resources.create).slots = fun _ => [] :=
          funext fun display => ResourceView.slots_of_none (contract.create display)
        have empty : SlotsChange (fun _ => []) (contract.view resources.create).slots := by
          rw [nothing]
          exact .kept
        exact empty
    | _ => exact .kept
  · have changes : ∀ after : World context resources,
        SlotsChange (contract.view world.resources).slots (contract.view after.resources).slots →
        SlotsChange ((serving world).view contract).slots ((serving after).view contract).slots :=
      fun _ change => change
    cases step with
    | createClient | registerEventCallback | setVsyncEnabled => exact .kept
    | destroyClient => exact .emptied
    | hotplug display connected =>
        apply changes (world.onHotplug display connected)
        rw [World.onHotplug_slots contract world display connected small]
        exact .dropped display
    | createLayer display size =>
        apply changes (world.createLayer display size).2.2
        rw [World.createLayer_slots]
        exact .kept
    | destroyLayer display layer =>
        apply changes (world.destroyLayer display layer).2
        rw [World.destroyLayer_slots]
        exact .kept
    | setClientTargetSlotCount display count =>
        exact changes _ (world.setClientTargetSlotCount_slots contract display count)
    | execute display field =>
        rw [next_execute]
        exact changes _ (world.perform_slots contract display field)

/-- Every step keeps the slots sound. -/
theorem soundSlots_next (contract : ResourceContract resources)
    {service : Service context resources} (sound : SoundSlots (service.view contract).slots)
    (step : ServiceStep) : SoundSlots
      (((serviceMachine context resources).next service step).view contract).slots :=
  (slotsChange contract service sound.small step).sound sound

end Service

end Arpi.Composer
