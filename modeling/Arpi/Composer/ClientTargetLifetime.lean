import Arpi.Composer.ServiceEffects

/-!
# The life of the client target

The device keeps the handle of the client target, the resources own it: they free a handle
when another one takes its slot, when the display is removed and when the client ends.
`target_held_iff` says exactly which runs never leave a freed handle in the device, where
the next presentation would post it.
-/

namespace Arpi.Composer

open Arpi.Gralloc Arpi.Semantics

variable {context : HwcContext} {resources : ComposerResources}

section Slots

variable {slots : DisplayId → List BufferHandle} {display : DisplayId} {handle : BufferHandle}

/-- The handles that lie in the slots of a display. -/
def slotHandles (slots : DisplayId → List BufferHandle) (display : DisplayId) :
    Set BufferHandle :=
  {handle | handle ∈ slots display}

theorem slotHandles_update (list : List BufferHandle) :
    slotHandles (Function.update slots display list) =
      Function.update (slotHandles slots) display {handle | handle ∈ list} := by
  funext other
  by_cases same : other = display
  · subst same
    simp [slotHandles]
  · simp [slotHandles, same]

/-- What the slots hold after those of one display have changed. -/
theorem held_slotHandles_update (list : List BufferHandle) :
    handle ∈ held (slotHandles (Function.update slots display list)) ↔
      handle ∈ list ∨ ∃ other, other ≠ display ∧ handle ∈ slots other := by
  rw [slotHandles_update]
  exact mem_held_update

/-- A handle does not lie in the slots of two displays. -/
theorem SoundSlots.not_elsewhere (sound : SoundSlots slots) (proper : handle ≠ 0)
    (here : handle ∈ slots display) {other : DisplayId} (different : other ≠ display) :
    handle ∉ slots other := by
  intro there
  obtain ⟨left, atLeft⟩ := List.mem_iff_getElem?.mp here
  obtain ⟨right, atRight⟩ := List.mem_iff_getElem?.mp there
  have same : (display, left) = (other, right) := sound.sole handle proper _ _ atLeft atRight
  exact different (Prod.mk.inj same).1.symm

/-- A handle that its display no longer holds is held by no display, unless it is null. -/
theorem SoundSlots.null_of_held (sound : SoundSlots slots) (here : handle ∈ slots display)
    {list : List BufferHandle} (gone : handle ≠ 0 → handle ∉ list)
    (holds : handle = 0 ∨ handle ∈ held (slotHandles (Function.update slots display list))) :
    handle = 0 := by
  rcases holds with null | holds
  · exact null
  · by_contra proper
    rcases held_slotHandles_update list |>.mp holds with inside | ⟨other, different, elsewhere⟩
    · exact gone proper inside
    · exact sound.not_elsewhere proper here different elsewhere

/-- A handle is gone from its display when a new one takes its slot. -/
theorem SoundSlots.not_mem_set (sound : SoundSlots slots) (proper : handle ≠ 0) {slot : Nat}
    (here : (slots display)[slot]? = some handle) {taking : BufferHandle}
    (fresh : taking ≠ 0 → ∀ other, taking ∉ slots other) :
    handle ∉ (slots display).set slot taking := by
  intro member
  obtain ⟨position, found⟩ := List.mem_iff_getElem?.mp member
  rw [List.getElem?_set] at found
  by_cases same : slot = position
  · rw [if_pos same] at found
    split at found
    · obtain rfl := Option.some.inj found
      exact fresh proper display (List.mem_of_getElem? here)
    · cases found
  · rw [if_neg same] at found
    have equal : (display, slot) = (display, position) :=
      sound.sole handle proper _ _ here found
    exact same (Prod.mk.inj equal).2

/-- A handle in another slot stays when a new handle takes a slot. -/
theorem mem_set_of_other {list : List BufferHandle} {slot position : Nat} {taking : BufferHandle}
    (found : list[position]? = some handle) (other : position ≠ slot) :
    handle ∈ list.set slot taking := by
  refine List.mem_of_getElem? (i := position) ?_
  rw [List.getElem?_set, if_neg other.symm]
  exact found

end Slots

namespace Service

/-- The client target that the device holds. -/
def clientTarget (service : Service context resources) : BufferHandle :=
  service.hal.device.buffer

/-- The client target slots, by display. -/
def slots (contract : ResourceContract resources) (service : Service context resources) :
    DisplayId → List BufferHandle :=
  (service.view contract).slots

end Service

open Service

variable (contract : ResourceContract resources)

/-- The client target is null, or a slot of the client holds it. -/
def TargetHeld (service : Service context resources) : Prop :=
  service.clientTarget = 0 ∨ service.clientTarget ∈ held (slotHandles (service.slots contract))

/-- A step that leaves no freed client target behind: a client ends after its target was
reset, a connected display has a null in its last slot, a removed one does not hold the
target, and no command that the device rejects takes the slot of the target. -/
def KeepsTarget (service : Service context resources) : ServiceStep → Prop
  | .destroyClient => service.clientTarget = 0
  | .hotplug display true => KnownDisplay display →
      ∀ handle ∈ (service.slots contract display).getLast?, handle = 0
  | .hotplug display false =>
      service.clientTarget ∈ service.slots contract display → service.clientTarget = 0
  | .execute display (.clientTarget target) => KnownDisplay display →
      target.dataspace ≠ halDataspaceUnknown → target.buffer.handle.isSome →
      (∃ state, service.client = some state ∧ (resources.getDisplayClientTarget display
        target.buffer.slot false (target.buffer.handle.getD 0) state).1.error = 0) →
      (service.slots contract display)[target.buffer.slot.toNat]? = some service.clientTarget →
      service.clientTarget = 0
  | _ => True

/-- What holds along the runs that keep the target: the slot that holds it belongs to a
display that the device knows. -/
structure TargetOwned (service : Service context resources) : Prop where
  sound : SoundSlots (service.slots contract)
  owner : service.clientTarget = 0 ∨
    ∃ display, KnownDisplay display ∧ service.clientTarget ∈ service.slots contract display

/-- How a step ends: with a target that is owned when the step keeps it, and with a target
that is not held otherwise. -/
structure Settles (service : Service context resources) (step : ServiceStep)
    (after : Service context resources) : Prop where
  keeps : KeepsTarget contract service step → after.clientTarget = 0 ∨
    ∃ display, KnownDisplay display ∧ after.clientTarget ∈ after.slots contract display
  breaks : TargetHeld contract after → KeepsTarget contract service step

variable {contract}

/-- A step that moves neither the target nor the slots. -/
theorem settles_of_kept {service after : Service context resources}
    (owned : TargetOwned contract service) {step : ServiceStep}
    (target : after.clientTarget = service.clientTarget)
    (slots : after.slots contract = service.slots contract)
    (keeps : KeepsTarget contract service step) : Settles contract service step after := by
  refine ⟨fun _ => ?_, fun _ => keeps⟩
  rw [target, slots]
  exact owned.owner

/-- A step that changes the slots of a display but not the target. -/
theorem owner_of_update {service : Service context resources} (owned : TargetOwned contract service)
    {display : DisplayId} {list : List BufferHandle}
    (kept : service.clientTarget ∈ service.slots contract display → KnownDisplay display →
      service.clientTarget = 0 ∨ service.clientTarget ∈ list) :
    service.clientTarget = 0 ∨ ∃ owner, KnownDisplay owner ∧
      service.clientTarget ∈ Function.update (service.slots contract) display list owner := by
  rcases owned.owner with null | ⟨owner, known, member⟩
  · exact .inl null
  · by_cases same : owner = display
    · subst same
      rcases kept member known with null | inside
      · exact .inl null
      · refine .inr ⟨owner, known, ?_⟩
        rwa [Function.update_self]
    · refine .inr ⟨owner, known, ?_⟩
      rwa [Function.update_of_ne same]

theorem settles_setClientTargetSlotCount {world : World context resources}
    (owned : TargetOwned contract (serving world)) (display : DisplayId) (count : BitVec 32) :
    Settles contract (serving world) (.setClientTargetSlotCount display count)
      (serving (world.setClientTargetSlotCount display count).2) := by
  rcases contract.setDisplayClientTargetCacheSize display count world.resources with
    same | ⟨resource, found, empty, view⟩
  · exact settles_of_kept owned rfl (congrArg ResourceView.slots same) trivial
  · refine ⟨fun _ => ?_, fun _ => trivial⟩
    have slots : (serving (world.setClientTargetSlotCount display count).2).slots contract =
        Function.update ((serving world).slots contract) display (.replicate count.toNat 0) := by
      have changed := congrArg ResourceView.slots view
      rwa [ResourceView.slots_update_some] at changed
    have none : (serving world).slots contract display = [] :=
      (ResourceView.slots_of_some found).trans empty
    rw [slots]
    refine owner_of_update owned fun member _ => ?_
    rw [none] at member
    exact absurd member List.not_mem_nil

/-- A hotplug hands the slots to the device one after the other and drops them. -/
theorem onHotplug_clientTarget {world : World context resources}
    (sound : SoundSlots ((serving world).slots contract)) (display : DisplayId)
    (connected : Bool) :
    (serving (world.onHotplug display connected)).clientTarget =
        (if connected then World.cleanedTarget display ((serving world).slots contract display)
          (serving world).clientTarget else (serving world).clientTarget) ∧
      (serving (world.onHotplug display connected)).slots contract =
        Function.update ((serving world).slots contract) display [] :=
  ⟨congrArg (fun hal => hal.device.buffer)
      (world.onHotplug_hal contract display connected sound.small),
    world.onHotplug_slots contract display connected sound.small⟩

theorem settles_disconnected {world : World context resources}
    (owned : TargetOwned contract (serving world)) (display : DisplayId) :
    Settles contract (serving world) (.hotplug display false)
      (serving (world.onHotplug display false)) := by
  obtain ⟨target, slots⟩ := onHotplug_clientTarget owned.sound display false
  rw [if_neg Bool.false_ne_true] at target
  constructor
  · intro keeps
    rw [target, slots]
    exact owner_of_update owned fun member _ => .inl (keeps member)
  · intro holds member
    rw [TargetHeld, target, slots] at holds
    exact owned.sound.null_of_held member (fun _ => List.not_mem_nil) holds

theorem settles_connected {world : World context resources}
    (owned : TargetOwned contract (serving world)) (display : DisplayId) :
    Settles contract (serving world) (.hotplug display true)
      (serving (world.onHotplug display true)) := by
  obtain ⟨target, slots⟩ := onHotplug_clientTarget owned.sound display true
  rw [if_pos rfl, World.cleanedTarget] at target
  by_cases known : KnownDisplay display
  · rw [if_pos known] at target
    cases last : ((serving world).slots contract display).getLast? with
    | none =>
        have empty : (serving world).slots contract display = [] :=
          List.getLast?_eq_none_iff.mp last
        refine settles_of_kept owned ?_ ?_ ?_
        · rw [target, last, Option.getD_none]
        · rw [slots, ← empty, Function.update_eq_self]
        · intro _ handle member
          rw [last] at member
          cases member
    | some handle =>
        have here : handle ∈ (serving world).slots contract display :=
          List.mem_of_getLast? last
        rw [last, Option.getD_some] at target
        constructor
        · intro keeps
          exact .inl (target.trans (keeps known handle last))
        · intro holds _ other member
          obtain rfl : handle = other := Option.some.inj (last.symm.trans member)
          rw [TargetHeld, target, slots] at holds
          exact owned.sound.null_of_held here (fun _ => List.not_mem_nil) holds
  · rw [if_neg known] at target
    refine ⟨fun _ => ?_, fun _ accepted => absurd accepted known⟩
    rw [target, slots]
    exact owner_of_update owned fun _ accepted => absurd accepted known

/-- The target after the device was handed one. -/
theorem setClientTarget_clientTarget (world : World context resources) (display : DisplayId)
    (handle : BufferHandle) (dataspace : Int) (state : resources.State) :
    (serving ⟨(world.hal.setClientTarget display handle dataspace).2, state⟩ :
      Service context resources).clientTarget =
        if KnownDisplay display ∧ dataspace = halDataspaceUnknown then handle
        else (serving world).clientTarget := by
  rw [Service.clientTarget, serving, ComposerHal.setClientTarget, setClientTarget_device]
  rfl

theorem settles_target {world : World context resources}
    (owned : TargetOwned contract (serving world)) (display : DisplayId) (command : ClientTarget) :
    Settles contract (serving world) (.execute display (.clientTarget command))
      (serving (world.target display command).2) := by
  have outcome := world.target_outcome contract display command
  generalize (world.target display command).2 = after at outcome ⊢
  cases outcome with
  | missed failed view =>
      refine settles_of_kept owned rfl (congrArg ResourceView.slots view) ?_
      rintro _ _ given ⟨state, serves, succeeded⟩ _
      obtain rfl := Option.some.inj serves
      rw [Option.isNone_eq_false_iff.mpr given] at failed
      exact absurd succeeded failed
  | @cached handle empty inside =>
      refine ⟨fun _ => ?_, fun _ _ _ given => absurd given (by simp [empty])⟩
      have slots : (serving { world with hal := (world.hal.setClientTarget display handle
          command.dataspace).2 }).slots contract = (serving world).slots contract := rfl
      rw [setClientTarget_clientTarget, slots]
      split
      · rename_i accepted
        exact .inr ⟨display, accepted.1, inside⟩
      · exact owned.owner
  | @stored handle resource state given found bound succeeded fresh view =>
      have here : (serving world).slots contract display = resource.clientTargets :=
        ResourceView.slots_of_some found
      have slots : (serving ⟨(world.hal.setClientTarget display handle command.dataspace).2,
          state⟩ : Service context resources).slots contract =
            Function.update ((serving world).slots contract) display
              (((serving world).slots contract display).set command.buffer.slot.toNat handle) := by
        have changed := congrArg ResourceView.slots view
        rw [ResourceView.slots_update_some] at changed
        rw [here]
        exact changed
      constructor
      · intro keeps
        rw [setClientTarget_clientTarget, slots]
        split
        · rename_i accepted
          refine .inr ⟨display, accepted.1, ?_⟩
          rw [Function.update_self]
          exact List.mem_set (here ▸ bound) handle
        · rename_i rejected
          refine owner_of_update owned fun member known => ?_
          obtain ⟨position, inside⟩ := List.mem_iff_getElem?.mp member
          by_cases same : position = command.buffer.slot.toNat
          · subst same
            exact .inl (keeps known (fun unknown => rejected ⟨known, unknown⟩) given
              ⟨_, rfl, succeeded⟩ inside)
          · exact .inr (mem_set_of_other inside same)
      · intro holds known dataspace _ _ inside
        have rejected : ¬ (KnownDisplay display ∧ command.dataspace = halDataspaceUnknown) :=
          fun accepted => dataspace accepted.2
        rw [TargetHeld, setClientTarget_clientTarget, if_neg rejected, slots] at holds
        exact owned.sound.null_of_held (List.mem_of_getElem? inside)
          (fun proper => owned.sound.not_mem_set proper inside fresh) holds

/-- Every step settles. -/
theorem settles_step {service : Service context resources} (owned : TargetOwned contract service)
    (step : ServiceStep) :
    Settles contract service step ((serviceMachine context resources).next service step) := by
  rcases service.cases_client with gone | ⟨world, rfl⟩
  · have null : service.clientTarget = 0 := by
      rcases owned.owner with null | ⟨display, -, member⟩
      · exact null
      · rw [gone] at member
        exact absurd member List.not_mem_nil
    rw [gone] at owned null ⊢
    cases step with
    | createClient =>
        refine settles_of_kept owned rfl ?_ trivial
        funext display
        exact ResourceView.slots_of_none (contract.create display)
    | destroyClient => exact settles_of_kept owned rfl rfl null
    | hotplug display connected =>
        refine settles_of_kept owned rfl rfl ?_
        cases connected with
        | true => exact fun _ handle member => nomatch member
        | false => exact fun _ => null
    | execute display field =>
        refine settles_of_kept owned rfl rfl ?_
        cases field with
        | clientTarget => exact fun _ _ _ _ _ => null
        | _ => trivial
    | _ => exact settles_of_kept owned rfl rfl trivial
  · cases step with
    | createClient | registerEventCallback => exact settles_of_kept owned rfl rfl trivial
    | destroyClient =>
        obtain ⟨buffer, -⟩ := World.destroyResources_effect
          ⟨world.hal.unregisterEventCallback, world.resources⟩
        constructor
        · exact fun null => .inl (buffer.trans null)
        · intro holds
          rcases holds with null | inside
          · exact buffer.symm.trans null
          · obtain ⟨display, member⟩ := mem_held.mp inside
            exact absurd member List.not_mem_nil
    | hotplug display connected =>
        cases connected with
        | true => exact settles_connected owned display
        | false => exact settles_disconnected owned display
    | createLayer display size =>
        refine settles_of_kept owned ?_ (world.createLayer_slots contract display size) trivial
        exact world.createLayer_target display size
    | destroyLayer display layer =>
        refine settles_of_kept owned ?_ (world.destroyLayer_slots contract display layer) trivial
        exact world.destroyLayer_target display layer
    | setClientTargetSlotCount display count =>
        exact settles_setClientTargetSlotCount owned display count
    | setVsyncEnabled display enabled =>
        have quiet := @Quiet.setVsyncEnabled _ world.hal.device display (if enabled then 1 else 0)
        exact settles_of_kept owned quiet.buffer rfl trivial
    | execute display field =>
        rw [next_execute]
        by_cases targets : ∃ command, field = .clientTarget command
        · obtain ⟨command, rfl⟩ := targets
          exact settles_target owned display command
        · have unmoved := world.perform_unmoved contract display
            fun command same => targets ⟨command, same⟩
          refine settles_of_kept owned unmoved.device.buffer
            (congrArg ResourceView.slots unmoved.view) ?_
          cases field with
          | clientTarget command => exact absurd ⟨command, rfl⟩ targets
          | _ => trivial

/-- What a step that keeps the target preserves. -/
theorem TargetOwned.next {service : Service context resources} (owned : TargetOwned contract service)
    {step : ServiceStep} (keeps : KeepsTarget contract service step) :
    TargetOwned contract ((serviceMachine context resources).next service step) where
  sound := soundSlots_next contract owned.sound step
  owner := (settles_step owned step).keeps keeps

/-- An owned target is held. -/
theorem TargetOwned.held {service : Service context resources}
    (owned : TargetOwned contract service) : TargetHeld contract service :=
  owned.owner.imp_right fun ⟨display, _, member⟩ => mem_held.mpr ⟨display, member⟩

/-- Along a run the client target is never a freed handle exactly when every step keeps it. -/
theorem target_held_iff (contract : ResourceContract resources) (kms : context.State)
    (steps : List ServiceStep) :
    (serviceMachine context resources).Always (TargetHeld contract) (.new kms) steps ↔
      (serviceMachine context resources).EachStep (KeepsTarget contract) (.new kms) steps := by
  have start : TargetOwned contract (.new kms : Service context resources) :=
    ⟨soundSlots_empty, .inl rfl⟩
  have preserved : ∀ service step, TargetOwned contract service → True →
      KeepsTarget contract service step →
      TargetOwned contract ((serviceMachine context resources).next service step) :=
    fun _ _ owned _ keeps => owned.next keeps
  have breaks : ∀ service step, TargetOwned contract service → True →
      TargetHeld contract ((serviceMachine context resources).next service step) →
      KeepsTarget contract service step :=
    fun _ step owned _ holds => (settles_step owned step).breaks holds
  exact (serviceMachine context resources).always_iff_eachStep (fun _ owned => owned.held)
    preserved breaks start ((serviceMachine context resources).eachStep_of_forall
      (fun _ _ => trivial) _ _)

/-- A client that shows a frame, resets the target from an empty slot and ends. -/
theorem target_held_example :
    (serviceMachine workingContext cachingResources).Always (TargetHeld cachingContract) (.new ())
      [.createClient, .hotplug 0 true, .setClientTargetSlotCount 0 2,
        .execute 0 (.clientTarget ⟨⟨0, some 7⟩, 0⟩), .execute 0 (.clientTarget ⟨⟨1, none⟩, 0⟩),
        .destroyClient] := by
  refine (@target_held_iff workingContext _ cachingContract () _).mpr
    ⟨trivial, ?_, trivial, ?_, ?_, ?_, trivial⟩
  · intro _ handle member
    cases member
  · exact fun _ rejected => absurd rfl rejected
  · exact fun _ rejected => absurd rfl rejected
  · rfl

/-- A display is connected again while it shows a frame: the clean-up hands the cached handle
to the device once more, and the handle is freed with the display. -/
theorem target_not_always_held :
    ¬ ∀ steps, (serviceMachine workingContext cachingResources).Always
      (TargetHeld cachingContract) (.new ()) steps := by
  intro claim
  have holds := (claim [.createClient, .registerEventCallback, .hotplug 0 true,
    .setClientTargetSlotCount 0 1, .execute 0 (.clientTarget ⟨⟨0, some 7⟩, 0⟩),
    .registerEventCallback, .hotplug 0 true]).last
  rcases holds with null | inside
  · exact absurd null (by decide)
  · obtain ⟨display, member⟩ := mem_held.mp inside
    by_cases first : display = 0
    · subst first
      exact absurd member List.not_mem_nil
    · have absent : ((serviceMachine workingContext cachingResources).run (.new ())
          [.createClient, .registerEventCallback, .hotplug 0 true,
            .setClientTargetSlotCount 0 1, .execute 0 (.clientTarget ⟨⟨0, some 7⟩, 0⟩),
            .registerEventCallback, .hotplug 0 true]).view cachingContract display = none :=
        if_neg fun counted => first (List.mem_singleton.mp (of_decide_eq_true counted))
      have empty := ResourceView.slots_of_none absent
      exact List.eq_nil_iff_forall_not_mem.mp empty _ member

end Arpi.Composer
