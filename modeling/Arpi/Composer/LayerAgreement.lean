import Arpi.Composer.ServiceEffects

/-!
# The layers of the device and the registered layers

A layer is created in the device and then registered with the resources, and destroyed in
the same order. There is no way back when the second step fails, and a hotplug drops the
registered layers without telling the device. `layers_agree_iff` says exactly which runs
keep the two sets equal.
-/

namespace Arpi.Composer

open Arpi.Gralloc Arpi.Semantics

variable {context : HwcContext} {resources : ComposerResources}

namespace Service

/-- The layers that the device holds. -/
def layers (service : Service context resources) : Set LayerId :=
  {layer | layer ∈ service.hal.device.layers}

theorem layers_congr {before after : Service context resources}
    (same : after.hal.device.layers = before.hal.device.layers) : after.layers = before.layers := by
  rw [layers, layers, same]

/-- The layers that are registered, by display. -/
def layersOn (contract : ResourceContract resources) (service : Service context resources) :
    DisplayId → Set LayerId :=
  (service.view contract).layersOn

/-- The layers that are registered over all displays. -/
def registered (contract : ResourceContract resources) (service : Service context resources) :
    Set LayerId :=
  held (service.layersOn contract)

/-- The layer that the device creates next. -/
def nextLayer (service : Service context resources) : LayerId :=
  service.hal.device.nextLayerId + 1

end Service

open Service

variable (contract : ResourceContract resources)

/-- The device holds the registered layers, and none once the client is gone. -/
structure LayersAgree (service : Service context resources) : Prop where
  same : service.layers = service.registered contract
  released : service.client = none → service.layers = ∅

/-- A step that answers with an error leaves both sets unchanged. -/
def FailureKeepsLayers (service : Service context resources) (step : ServiceStep) : Prop :=
  (serviceMachine context resources).answer service step ≠ 0 →
    ((serviceMachine context resources).next service step).layers = service.layers ∧
      ((serviceMachine context resources).next service step).registered contract =
        service.registered contract

/-- A step that the agreement survives: a layer is created on a display that was added (or
under an identifier that is in use), a live layer is destroyed on the one display it is
registered under, and a hotplug drops no layer. -/
def KeepsAgreement (service : Service context resources) : ServiceStep → Prop
  | .createLayer display _ => service.client ≠ none → KnownDisplay display →
      service.view contract display ≠ none ∨ service.nextLayer ∈ service.layers
  | .destroyLayer display layer => KnownDisplay display → layer ∈ service.layers →
      layer ∈ service.layersOn contract display ∧
        ∀ other, other ≠ display → layer ∉ service.layersOn contract other
  | .hotplug display _ => ∀ layer ∈ service.layersOn contract display,
      ∃ other, other ≠ display ∧ layer ∈ service.layersOn contract other
  | _ => True

/-- What holds along the runs that keep the agreement. -/
structure Agreement (service : Service context resources) : Prop where
  agree : LayersAgree contract service
  known : ∀ display, ¬ KnownDisplay display → service.layersOn contract display = ∅
  slots : SoundSlots (service.view contract).slots

namespace World

variable (world : World context resources) (display : DisplayId)

/-- What becomes of a layer that is to be created. -/
inductive CreateOutcome : Int → World context resources → Prop where
  | refused (unknown : ¬ KnownDisplay display) : CreateOutcome hwc2ErrorBadDisplay world
  | stranded {code : Int} {after : World context resources} (known : KnownDisplay display)
      (cause : contract.view world.resources display = none ∨
        (serving world).nextLayer ∈ (serving world).layersOn contract display)
      (failed : code ≠ 0)
      (layers : (serving after).layers = insert (serving world).nextLayer (serving world).layers)
      (view : contract.view after.resources = contract.view world.resources) :
      CreateOutcome code after
  | registered {after : World context resources} (known : KnownDisplay display)
      (added : contract.view world.resources display ≠ none)
      (layers : (serving after).layers = insert (serving world).nextLayer (serving world).layers)
      (layersOn : (serving after).layersOn contract =
        Function.update ((serving world).layersOn contract) display
          (insert (serving world).nextLayer ((serving world).layersOn contract display))) :
      CreateOutcome 0 after

/-- The specification of `createLayer`. -/
theorem createLayer_outcome (size : BitVec 32) :
    CreateOutcome contract world display (world.createLayer display size).1
      (world.createLayer display size).2.2 := by
  by_cases known : KnownDisplay display
  · have created := @Hwc2Device.createLayer_of_known _ world.hal.device _ known
    have inserted : ∀ (hal : ComposerHal context) (state : resources.State),
        hal.device.layers = world.hal.device.layers.insert (serving world).nextLayer →
        (serving ⟨hal, state⟩ : Service context resources).layers =
          insert (serving world).nextLayer (serving world).layers := by
      intro hal state layers
      ext layer
      simp only [Service.layers, serving, layers, UnorderedSet.mem_insert, Set.mem_ofPred_eq,
        Set.mem_insert_iff]
    simp only [createLayer, ComposerHal.createLayer, created]
    cases found : contract.view world.resources display with
    | none =>
        obtain ⟨failed, view⟩ := contract.addLayer_unknown display
          (serving world).nextLayer size world.resources found
        refine .stranded known (.inl found) ?_ (inserted _ _ rfl) view
        exact failed ▸ (by decide : hwc2ErrorBadDisplay ≠ 0)
    | some resource =>
        by_cases member : (serving world).nextLayer ∈ resource.layers
        · obtain ⟨failed, view⟩ := contract.addLayer_again display
            (serving world).nextLayer size world.resources resource found member
          exact .stranded known (.inr (ResourceView.mem_layersOn.mpr ⟨resource, found, member⟩))
            failed (inserted _ _ rfl) view
        · obtain ⟨succeeded, view⟩ := contract.addLayer display
            (serving world).nextLayer size world.resources resource found member
          have changed := congrArg ResourceView.layersOn view
          rw [ResourceView.layersOn_update_some, ← ResourceView.layersOn_of_some found] at changed
          rw [show (resources.addLayer display (world.hal.device.nextLayerId + 1) size
            world.resources).1 = 0 from succeeded]
          exact .registered known (by simp [found]) (inserted _ _ rfl) changed
  · have refused : world.createLayer display size = (hwc2ErrorBadDisplay, none, world) := by
      simp only [createLayer, ComposerHal.createLayer, Hwc2Device.createLayer, known,
        not_false_eq_true, if_true]
    rw [refused]
    exact .refused known

/-- What becomes of a layer that is to be destroyed. -/
inductive DestroyOutcome (layer : LayerId) : Int → World context resources → Prop where
  | refused (unknown : ¬ KnownDisplay display) : DestroyOutcome layer hwc2ErrorBadDisplay world
  | absent {code : Int} {after : World context resources}
      (absent : layer ∉ (serving world).layers)
      (layers : (serving after).layers = (serving world).layers)
      (view : contract.view after.resources = contract.view world.resources) :
      DestroyOutcome layer code after
  | stranded {code : Int} {after : World context resources} (known : KnownDisplay display)
      (live : layer ∈ (serving world).layers)
      (elsewhere : layer ∉ (serving world).layersOn contract display)
      (layers : (serving after).layers = (serving world).layers \ {layer})
      (view : contract.view after.resources = contract.view world.resources) :
      DestroyOutcome layer code after
  | removed {after : World context resources} (known : KnownDisplay display)
      (live : layer ∈ (serving world).layers)
      (here : layer ∈ (serving world).layersOn contract display)
      (layers : (serving after).layers = (serving world).layers \ {layer})
      (layersOn : (serving after).layersOn contract =
        Function.update ((serving world).layersOn contract) display
          ((serving world).layersOn contract display \ {layer})) :
      DestroyOutcome layer 0 after

/-- The specification of `destroyLayer`. -/
theorem destroyLayer_outcome (layer : LayerId) :
    DestroyOutcome contract world display layer (world.destroyLayer display layer).1
      (world.destroyLayer display layer).2 := by
  have erased := destroyLayer_layers world.hal.device display layer
  by_cases known : KnownDisplay display
  · rw [if_pos known] at erased
    by_cases live : layer ∈ world.hal.device.layers
    · have destroyed := Hwc2Device.destroyLayer_of_live known live
      have layers : ∀ (state : resources.State),
          (serving ⟨(world.hal.destroyLayer display layer).2, state⟩ :
            Service context resources).layers = (serving world).layers \ {layer} := by
        intro state
        ext other
        simp only [Service.layers, serving, ComposerHal.destroyLayer, erased,
          UnorderedSet.mem_erase, Set.mem_ofPred_eq, Set.mem_sdiff, Set.mem_singleton_iff]
        exact and_comm
      have passed : world.destroyLayer display layer =
          ((resources.removeLayer display layer world.resources).1,
            ⟨(world.hal.destroyLayer display layer).2,
              (resources.removeLayer display layer world.resources).2⟩) := by
        simp only [destroyLayer, ComposerHal.destroyLayer, destroyed]
        rfl
      rw [passed]
      by_cases member : layer ∈ (serving world).layersOn contract display
      · obtain ⟨resource, found, inside⟩ := ResourceView.mem_layersOn.mp member
        obtain ⟨succeeded, view⟩ :=
          contract.removeLayer display layer world.resources resource found inside
        have changed := congrArg ResourceView.layersOn view
        rw [ResourceView.layersOn_update_some, ← ResourceView.layersOn_of_some found] at changed
        rw [succeeded]
        exact .removed known live member (layers _) changed
      · refine .stranded known live member (layers _)
          (contract.removeLayer_unknown display layer world.resources ?_).2
        exact fun resource found inside =>
          member (ResourceView.mem_layersOn.mpr ⟨resource, found, inside⟩)
    · have code : (world.hal.destroyLayer display layer).1 = hwc2ErrorBadLayer := by
        simp [ComposerHal.destroyLayer, Hwc2Device.destroyLayer, Hwc2Device.removeLayer, known,
          UnorderedSet.count_eq_false.mpr live]
      have failed : (world.hal.destroyLayer display layer).1 ≠ 0 := by
        rw [code]
        decide
      rw [destroyLayer, if_neg failed]
      refine .absent live ?_ rfl
      ext other
      simp only [Service.layers, serving, ComposerHal.destroyLayer, erased,
        UnorderedSet.erase_of_not_mem live]
  · have refused : world.destroyLayer display layer = (hwc2ErrorBadDisplay, world) := by
      simp only [destroyLayer, ComposerHal.destroyLayer, Hwc2Device.destroyLayer, known,
        not_false_eq_true, if_true]
      rfl
    rw [refused]
    exact .refused known

/-- A step that sets the slots or executes a field leaves the registered layers alone. -/
theorem setClientTargetSlotCount_layersOn (count : BitVec 32) :
    (serving (world.setClientTargetSlotCount display count).2).layersOn contract =
      (serving world).layersOn contract := by
  rcases contract.setDisplayClientTargetCacheSize display count world.resources with
    same | ⟨resource, found, -, view⟩
  · exact congrArg ResourceView.layersOn same
  · exact (congrArg ResourceView.layersOn view).trans
      (ResourceView.layersOn_update_same found rfl)

/-- Executing a field leaves the layers and the registered layers alone. -/
theorem perform_layers (field : Field) :
    (serving (world.perform display field).2).layers = (serving world).layers ∧
      (serving (world.perform display field).2).layersOn contract =
        (serving world).layersOn contract := by
  by_cases targets : ∃ target, field = .clientTarget target
  · obtain ⟨target, rfl⟩ := targets
    have outcome := target_outcome contract world display target
    rw [perform]
    generalize (world.target display target).2 = after at outcome ⊢
    have set : ∀ handle, (world.hal.setClientTarget display handle
        target.dataspace).2.device.layers = world.hal.device.layers := by
      intro handle
      rw [ComposerHal.setClientTarget, setClientTarget_device]
    cases outcome with
    | missed failed view => exact ⟨layers_congr rfl, congrArg ResourceView.layersOn view⟩
    | cached => exact ⟨layers_congr (set _), rfl⟩
    | stored given found bound succeeded fresh view =>
        exact ⟨layers_congr (set _), (congrArg ResourceView.layersOn view).trans
          (ResourceView.layersOn_update_same found rfl)⟩
  · have unmoved := perform_unmoved contract world display
      fun target same => targets ⟨target, same⟩
    exact ⟨layers_congr unmoved.device.layers, congrArg ResourceView.layersOn unmoved.view⟩

end World

/-- What a step has to do with the agreement: whether it survives the step is decided by
`KeepsAgreement`, and no layer gets registered under a display that the device does not
know. -/
structure Decided (service : Service context resources) (step : ServiceStep) (answer : Int)
    (after : Service context resources) : Prop where
  known : ∀ display, ¬ KnownDisplay display → after.layersOn contract display = ∅
  sound : (LayersAgree contract after ∧ (answer ≠ 0 → after.layers = service.layers ∧
    after.registered contract = service.registered contract)) ↔
      KeepsAgreement contract service step

variable {contract}

/-- A step that changes nothing keeps the agreement. -/
theorem decided_of_kept {service after : Service context resources}
    (holds : Agreement contract service) {step : ServiceStep} {answer : Int}
    (layers : after.layers = service.layers)
    (layersOn : after.layersOn contract = service.layersOn contract)
    (client : after.client = none → service.client = none)
    (keeps : KeepsAgreement contract service step) :
    Decided contract service step answer after := by
  have registered : after.registered contract = service.registered contract :=
    congrArg held layersOn
  refine ⟨fun display unknown => ?_, iff_of_true ⟨⟨?_, fun gone => ?_⟩, fun _ => ?_⟩ keeps⟩
  · rw [layersOn]
    exact holds.known display unknown
  · rw [layers, registered]
    exact holds.agree.same
  · rw [layers]
    exact holds.agree.released (client gone)
  · exact ⟨layers, registered⟩

/-- A layer registered under some display is live. -/
theorem Agreement.live {service : Service context resources} (holds : Agreement contract service)
    {display : DisplayId} {layer : LayerId} (member : layer ∈ service.layersOn contract display) :
    layer ∈ service.layers := by
  rw [holds.agree.same]
  exact mem_held.mpr ⟨display, member⟩

theorem decided_createLayer {world : World context resources}
    (holds : Agreement contract (serving world)) (display : DisplayId) (size : BitVec 32) :
    Decided contract (serving world) (.createLayer display size)
      (world.createLayer display size).1 (serving (world.createLayer display size).2.2) := by
  have outcome := world.createLayer_outcome contract display size
  generalize (world.createLayer display size).1 = code at outcome ⊢
  generalize (world.createLayer display size).2.2 = after at outcome ⊢
  cases outcome with
  | refused unknown =>
      exact decided_of_kept holds rfl rfl (nomatch ·) fun _ known => absurd known unknown
  | stranded known cause failed layers view =>
      have layersOn : (serving after).layersOn contract = (serving world).layersOn contract :=
        congrArg ResourceView.layersOn view
      have registered : (serving after).registered contract = (serving world).registered contract :=
        congrArg held layersOn
      refine ⟨fun other unknown => ?_, ?_⟩
      · rw [layersOn]
        exact holds.known other unknown
      · constructor
        · rintro ⟨⟨same, -⟩, -⟩ _ _
          rw [layers, registered, ← holds.agree.same] at same
          exact .inr (same ▸ Set.mem_insert _ _)
        · intro keeps
          have member : (serving world).nextLayer ∈ (serving world).layers := by
            rcases cause with missing | member
            · exact (keeps (by simp [serving]) known).resolve_left fun added => added missing
            · exact holds.live member
          have unchanged : (serving after).layers = (serving world).layers :=
            layers.trans (Set.insert_eq_of_mem member)
          refine ⟨⟨?_, (nomatch ·)⟩, fun _ => ⟨unchanged, registered⟩⟩
          rw [unchanged, registered]
          exact holds.agree.same
  | registered known added layers layersOn =>
      refine ⟨fun other unknown => ?_, iff_of_true ⟨⟨?_, (nomatch ·)⟩, absurd rfl⟩
        fun _ _ => .inl added⟩
      · have different : other ≠ display := fun same => unknown (same ▸ known)
        rw [layersOn, Function.update_of_ne different]
        exact holds.known other unknown
      · rw [layers, Service.registered, layersOn, held_update_insert, holds.agree.same]
        rfl

theorem decided_destroyLayer {world : World context resources}
    (holds : Agreement contract (serving world)) (display : DisplayId) (layer : LayerId) :
    Decided contract (serving world) (.destroyLayer display layer)
      (world.destroyLayer display layer).1 (serving (world.destroyLayer display layer).2) := by
  have outcome := world.destroyLayer_outcome contract display layer
  generalize (world.destroyLayer display layer).1 = code at outcome ⊢
  generalize (world.destroyLayer display layer).2 = after at outcome ⊢
  cases outcome with
  | refused unknown =>
      exact decided_of_kept holds rfl rfl (nomatch ·) fun known => absurd known unknown
  | absent absent layers view =>
      exact decided_of_kept holds layers (congrArg ResourceView.layersOn view) (nomatch ·)
        fun _ live => absurd live absent
  | stranded known live elsewhere layers view =>
      have layersOn : (serving after).layersOn contract = (serving world).layersOn contract :=
        congrArg ResourceView.layersOn view
      refine ⟨fun other unknown => ?_, iff_of_false ?_ fun keeps => elsewhere (keeps known live).1⟩
      · rw [layersOn]
        exact holds.known other unknown
      · rintro ⟨⟨same, -⟩, -⟩
        have registered : (serving after).registered contract = (serving world).layers :=
          (congrArg held layersOn).trans holds.agree.same.symm
        rw [layers, registered] at same
        exact (same.symm ▸ live : layer ∈ (serving world).layers \ {layer}).2 rfl
  | removed known live here layers layersOn =>
      refine ⟨fun other unknown => ?_, ?_⟩
      · have different : other ≠ display := fun same => unknown (same ▸ known)
        rw [layersOn, Function.update_of_ne different]
        exact holds.known other unknown
      · have exact := held_update_diff_iff ((serving world).layersOn contract) display layer
        rw [← layersOn] at exact
        change (serving after).registered contract = (serving world).registered contract \ {layer} ↔
          _ at exact
        rw [← holds.agree.same, ← layers] at exact
        constructor
        · rintro ⟨⟨same, -⟩, -⟩ _ _
          exact ⟨here, exact.mp same.symm⟩
        · intro keeps
          exact ⟨⟨(exact.mpr (keeps known live).2).symm, (nomatch ·)⟩, absurd rfl⟩

theorem decided_hotplug {world : World context resources}
    (holds : Agreement contract (serving world)) (display : DisplayId) (connected : Bool) :
    Decided contract (serving world) (.hotplug display connected) 0
      (serving (world.onHotplug display connected)) := by
  have layers : (serving (world.onHotplug display connected)).layers = (serving world).layers :=
    layers_congr (congrArg (fun hal => hal.device.layers)
      (world.onHotplug_hal contract display connected holds.slots.small))
  have layersOn : (serving (world.onHotplug display connected)).layersOn contract =
      Function.update ((serving world).layersOn contract) display ∅ :=
    world.onHotplug_layersOn contract display connected holds.slots.small
  refine ⟨fun other unknown => ?_, ?_⟩
  · rw [layersOn]
    by_cases same : other = display
    · rw [same, Function.update_self]
    · rw [Function.update_of_ne same]
      exact holds.known other unknown
  · have exact := held_update_empty_iff ((serving world).layersOn contract) display
    rw [← layersOn] at exact
    change (serving _).registered contract = (serving world).registered contract ↔ _ at exact
    rw [← holds.agree.same, ← layers] at exact
    constructor
    · rintro ⟨⟨same, -⟩, -⟩
      exact exact.mp same.symm
    · intro keeps
      exact ⟨⟨(exact.mpr keeps).symm, (nomatch ·)⟩, absurd rfl⟩

/-- The end of a client takes every layer from the device. -/
theorem decided_destroyClient {world : World context resources}
    (holds : Agreement contract (serving world)) :
    Decided contract (serving world) .destroyClient 0 (serving world).destroyClient := by
  have none : (serving world).destroyClient.layers = ∅ := by
    rw [Set.eq_empty_iff_forall_notMem]
    intro layer member
    obtain ⟨live, cleared⟩ := ((World.destroyResources_effect
      ⟨world.hal.unregisterEventCallback, world.resources⟩).2 layer).mp member
    have registered : layer ∈ (serving world).registered contract := holds.agree.same ▸ live
    obtain ⟨display, here⟩ := mem_held.mp registered
    have known : KnownDisplay display := by
      by_contra unknown
      rw [holds.known display unknown] at here
      exact here
    obtain ⟨resource, found, inside⟩ := ResourceView.mem_layersOn.mp here
    obtain ⟨report, reported, rfl, complete⟩ :=
      contract.clear world.resources display resource found
    exact cleared report reported known (complete layer inside)
  refine ⟨fun _ _ => rfl, iff_of_true ⟨⟨?_, fun _ => none⟩, absurd rfl⟩ trivial⟩
  rw [none]
  exact held_empty.symm

/-- Every step is decided. -/
theorem decided_step {service : Service context resources} (holds : Agreement contract service)
    (step : ServiceStep) : Decided contract service step
      ((serviceMachine context resources).answer service step)
      ((serviceMachine context resources).next service step) := by
  rcases service.cases_client with gone | ⟨world, rfl⟩
  · have empty : service.layers = ∅ := holds.agree.released (by rw [gone])
    rw [gone] at holds empty ⊢
    cases step with
    | createClient =>
        refine decided_of_kept holds rfl ?_ (nomatch ·) trivial
        funext display
        exact ResourceView.layersOn_of_none (contract.create display)
    | createLayer display size =>
        exact decided_of_kept holds rfl rfl (fun _ => rfl) fun client => absurd rfl client
    | destroyLayer display layer =>
        refine decided_of_kept holds rfl rfl (fun _ => rfl) fun _ live => ?_
        rw [empty] at live
        exact absurd live (Set.notMem_empty layer)
    | hotplug display connected =>
        exact decided_of_kept holds rfl rfl (fun _ => rfl)
          fun layer member => absurd member (Set.notMem_empty layer)
    | _ => exact decided_of_kept holds rfl rfl (fun _ => rfl) trivial
  · cases step with
    | createClient | registerEventCallback =>
        exact decided_of_kept holds rfl rfl (nomatch ·) trivial
    | destroyClient => exact decided_destroyClient holds
    | hotplug display connected => exact decided_hotplug holds display connected
    | createLayer display size => exact decided_createLayer holds display size
    | destroyLayer display layer => exact decided_destroyLayer holds display layer
    | setClientTargetSlotCount display count =>
        exact decided_of_kept holds rfl
          (world.setClientTargetSlotCount_layersOn contract display count) (nomatch ·) trivial
    | setVsyncEnabled display enabled =>
        have quiet := @Quiet.setVsyncEnabled _ world.hal.device display (if enabled then 1 else 0)
        exact decided_of_kept holds (layers_congr quiet.layers) rfl (nomatch ·) trivial
    | execute display field =>
        obtain ⟨layers, layersOn⟩ := world.perform_layers contract display field
        rw [next_execute]
        exact decided_of_kept holds layers layersOn (nomatch ·) trivial

/-- What a step that keeps the agreement preserves. -/
theorem Agreement.next {service : Service context resources} (holds : Agreement contract service)
    {step : ServiceStep} (keeps : KeepsAgreement contract service step) :
    Agreement contract ((serviceMachine context resources).next service step) where
  agree := ((decided_step holds step).sound.mpr keeps).1
  known := (decided_step holds step).known
  slots := soundSlots_next contract holds.slots step

/-- A service without a client has no layers at all. -/
theorem agreement_new (kms : context.State) :
    Agreement contract (.new kms : Service context resources) where
  agree := by
    have none : (Service.new kms : Service context resources).layers = ∅ :=
      Set.eq_empty_iff_forall_notMem.mpr fun _ => UnorderedSet.not_mem_empty
    exact ⟨none.trans held_empty.symm, fun _ => none⟩
  known _ _ := rfl
  slots := soundSlots_empty

/-- Along a run the layers agree in every state, and no step that fails changes them,
exactly when every step keeps the agreement. -/
theorem layers_agree_iff (contract : ResourceContract resources) (kms : context.State)
    (steps : List ServiceStep) :
    ((serviceMachine context resources).Always (LayersAgree contract) (.new kms) steps ∧
      (serviceMachine context resources).EachStep (FailureKeepsLayers contract) (.new kms) steps) ↔
        (serviceMachine context resources).EachStep (KeepsAgreement contract) (.new kms) steps := by
  have start : Agreement contract (.new kms : Service context resources) := agreement_new kms
  have preserved : ∀ service step, Agreement contract service → True →
      KeepsAgreement contract service step →
      Agreement contract ((serviceMachine context resources).next service step) :=
    fun _ _ holds _ keeps => holds.next keeps
  have exactly : ∀ service step, Agreement contract service → True →
      ((LayersAgree contract ((serviceMachine context resources).next service step) ∧
        FailureKeepsLayers contract service step) ↔ KeepsAgreement contract service step) :=
    fun _ step holds _ => (decided_step holds step).sound
  rw [Machine.always_iff_eachStep_next, and_iff_right start.agree, ← Machine.eachStep_and]
  exact (serviceMachine context resources).eachStep_iff_eachStep preserved exactly start
    ((serviceMachine context resources).eachStep_of_forall (fun _ _ => trivial) _ _)

/-- A client that creates a layer on a connected display and destroys it keeps the agreement. -/
theorem layers_agree_example :
    ((serviceMachine workingContext cachingResources).Always (LayersAgree cachingContract)
        (.new ()) [.createClient, .hotplug 0 true, .createLayer 0 4, .destroyLayer 0 1] ∧
      (serviceMachine workingContext cachingResources).EachStep
        (FailureKeepsLayers cachingContract) (.new ())
        [.createClient, .hotplug 0 true, .createLayer 0 4, .destroyLayer 0 1]) := by
  refine (@layers_agree_iff workingContext _ cachingContract () _).mpr ⟨trivial, ?_, ?_, ?_, trivial⟩
  · intro layer member
    exact absurd member (Set.notMem_empty layer)
  · exact fun _ _ => .inl (nomatch ·)
  · intro _ _
    refine ⟨List.mem_singleton.mpr rfl, fun other different member => ?_⟩
    have absent : ((serviceMachine workingContext cachingResources).run (.new ())
        [.createClient, .hotplug 0 true, .createLayer 0 4]).view cachingContract other = none :=
      if_neg fun counted => different (List.mem_singleton.mp (of_decide_eq_true counted))
    exact Set.notMem_empty _ ((ResourceView.layersOn_of_none absent).subset member)

/-- A client that creates a layer on a display before any hotplug: the call fails, but the
device keeps the layer. -/
theorem layers_not_always_agree :
    ¬ ∀ steps, (serviceMachine workingContext cachingResources).Always
      (LayersAgree cachingContract) (.new ()) steps := by
  intro claim
  have agree := (claim [.createClient, .createLayer 0 4]).last.same
  have live : (1 : LayerId) ∈ ((serviceMachine workingContext cachingResources).run (.new ())
      [.createClient, .createLayer 0 4]).layers := List.mem_singleton.mpr rfl
  rw [agree] at live
  obtain ⟨display, member⟩ := mem_held.mp live
  exact member

end Arpi.Composer
