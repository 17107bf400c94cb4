import Arpi.Composer.ModeSets
import Arpi.Composer.ScanOut
import Arpi.Composer.ServiceEffects
import Arpi.Semantics.Layering

/-!
# From the service to the outputs

The service drives the HAL, the HAL the device, and the device the KMS context, which it
only ever asks to post a buffer. `kmsContext` is the context of `hwc_context.cpp`, for a kernel
whose answers to the n-th post are its n-th ones; it keeps a log of the posts. What the posts
keep then holds in all runs of the service.
-/

namespace Arpi.Composer

open Arpi.Gralloc Arpi.Semantics

variable {context : HwcContext} {resources : ComposerResources}

/-! ## Who drives whom -/

/-- The KMS context as a service that posts buffers. -/
def contextMachine (context : HwcContext) :
    Machine context.State (DisplayId × BufferHandle) Posted where
  step kms post := context.hwcPost post.1 post.2 kms

/-- Of all calls on the device only a presentation reaches the context. -/
theorem device_drives_context (context : HwcContext) :
    (deviceMachine context).Drives (contextMachine context) (·.hwcContext) := by
  intro device call
  have kept : ∀ {after : Hwc2Device context}, after.hwcContext = device.hwcContext →
      (contextMachine context).Reaches device.hwcContext after.hwcContext := fun same => .of_eq same
  cases call with
  | createLayer display =>
      refine kept ?_
      simp only [Machine.next, deviceMachine, Hwc2Device.createLayer]
      split <;> rfl
  | destroyLayer display layer =>
      refine kept ?_
      simp only [Machine.next, deviceMachine, Hwc2Device.destroyLayer]
      split
      · rfl
      · split <;> rfl
  | setVsyncEnabled display enabled =>
      refine kept ?_
      simp only [Machine.next, deviceMachine, Hwc2Device.setVsyncEnabled]
      split <;> rfl
  | setClientTarget display target dataspace =>
      refine kept ?_
      simp only [Machine.next, deviceMachine, setClientTarget_device]
  | validateDisplay display =>
      refine kept ?_
      simp only [Machine.next, deviceMachine, Hwc2Device.validateDisplay]
      split
      · rfl
      · split <;> rfl
  | presentDisplay display =>
      simp only [Machine.next, deviceMachine, Hwc2Device.presentDisplay]
      split
      · exact .refl _
      · split
        · exact .refl _
        · exact (contextMachine context).reaches_next device.hwcContext (display, device.buffer)
  | acceptDisplayChanges display =>
      refine kept ?_
      simp only [Machine.next, deviceMachine, Hwc2Device.acceptDisplayChanges]
      split
      · rfl
      · split <;> rfl
  | getChangedCompositionTypes display capacity => exact kept rfl
  | setLayerCompositionType display layer type =>
      refine kept ?_
      simp only [Machine.next, deviceMachine, Hwc2Device.setLayerCompositionType,
        Hwc2Device.markLayerDirty]
      split_ifs <;> rfl

/-- The device that is left by a validation of the HAL. -/
theorem validateDisplay_device (hal : ComposerHal context) (display : DisplayId) :
    (hal.validateDisplay display).2.2.device = (hal.device.validateDisplay display).2.2 := by
  simp only [ComposerHal.validateDisplay]
  split
  · rfl
  · split
    · rfl
    · split <;> rfl

/-- Every call on the HAL is at most one call on the device. -/
theorem hal_drives_device (context : HwcContext) :
    (halMachine context).Drives (deviceMachine context) (·.device) := by
  intro hal call
  have passed := (deviceMachine context).reaches_next hal.device
  cases call with
  | registerEventCallback => exact .refl _
  | unregisterEventCallback => exact .refl _
  | createLayer display => exact passed (.createLayer display)
  | destroyLayer display layer => exact passed (.destroyLayer display layer)
  | setVsyncEnabled display enabled =>
      exact passed (.setVsyncEnabled display (if enabled then 1 else 0))
  | setClientTarget display target dataspace =>
      exact passed (.setClientTarget display target dataspace)
  | validateDisplay display =>
      have validated := passed (.validateDisplay display)
      rwa [show (deviceMachine context).next hal.device (.validateDisplay display) =
        ((halMachine context).next hal (.validateDisplay display)).device from
          (validateDisplay_device hal display).symm] at validated
  | presentDisplay display =>
      simp only [Machine.next, halMachine, ComposerHal.presentDisplay]
      split
      · exact .refl _
      · exact passed (.presentDisplay display)
  | acceptDisplayChanges display => exact passed (.acceptDisplayChanges display)
  | setLayerCompositionType display layer type =>
      exact passed (.setLayerCompositionType display layer type)

/-! ## The service and the HAL -/

namespace World

/-- The HAL of the second world is reached from that of the first. -/
def HalReaches (before after : World context resources) : Prop :=
  (halMachine context).Reaches before.hal after.hal

theorem halReaches_cleanClientTarget (display : DisplayId) (world : World context resources)
    (slot : Nat) : world.HalReaches (world.cleanClientTarget display slot) := by
  simp only [cleanClientTarget]
  split
  · exact .refl _
  · exact (halMachine context).reaches_next world.hal (.setClientTarget display _ _)

theorem halReaches_cleanDisplayResources (display : DisplayId) (world : World context resources) :
    world.HalReaches (world.cleanDisplayResources display) := by
  have targets : ∀ (world : World context resources) (slots : List Nat),
      world.HalReaches (slots.foldl (cleanClientTarget display) world) :=
    Machine.Reaches.foldl World.hal fun world slot =>
      world.halReaches_cleanClientTarget display slot
  have buffers : ∀ (world : World context resources) (slots : List Nat),
      world.HalReaches (slots.foldl (cleanOutputBuffer display) world) :=
    Machine.Reaches.foldl World.hal fun world slot => .refl world.hal
  simp only [cleanDisplayResources]
  split
  · split
    · exact (targets _ _).trans (buffers _ _)
    · exact targets _ _
  · split
    · exact buffers _ _
    · exact .refl _

theorem halReaches_onHotplug (display : DisplayId) (connected : Bool)
    (world : World context resources) : world.HalReaches (world.onHotplug display connected) := by
  simp only [onHotplug]
  split
  · split
    · exact world.halReaches_cleanDisplayResources display
    · exact .refl _
  · exact .refl _

/-- A display that is cleared is shown once more. -/
theorem reaches_destroyDisplay (hal : ComposerHal context) (cleared : ClearedDisplay) :
    (halMachine context).Reaches hal (destroyDisplay hal cleared) := by
  have layers : (halMachine context).Reaches hal (cleared.layers.foldl
      (fun hal layer => (hal.destroyLayer cleared.display layer).2) hal) :=
    Machine.Reaches.foldl id (fun hal layer => (halMachine context).reaches_next hal
      (.destroyLayer cleared.display layer)) hal cleared.layers
  simp only [destroyDisplay]
  split
  · exact layers
  · exact ((layers.trans ((halMachine context).reaches_next _
      (.validateDisplay cleared.display))).trans ((halMachine context).reaches_next _
        (.acceptDisplayChanges cleared.display))).trans ((halMachine context).reaches_next _
          (.presentDisplay cleared.display))

theorem reaches_destroyResources (world : World context resources) :
    (halMachine context).Reaches world.hal world.destroyResources :=
  Machine.Reaches.foldl id reaches_destroyDisplay world.hal (resources.clear world.resources)

/-- Every field is at most one call on the HAL. -/
theorem halReaches_perform (world : World context resources) (display : DisplayId)
    (field : Field) : world.HalReaches (world.perform display field).2 := by
  have called := (halMachine context).reaches_next world.hal
  cases field with
  | layerBuffer layer buffer => exact .refl _
  | layerComposition layer composition =>
      exact called (.setLayerCompositionType display layer composition)
  | layerSidebandStream layer stream => exact .refl _
  | clientTarget target =>
      simp only [perform, World.target]
      split
      · exact .refl _
      · exact called (.setClientTarget display _ target.dataspace)
  | outputBuffer buffer => exact .refl _
  | validateDisplay => exact called (.validateDisplay display)
  | acceptDisplayChanges => exact called (.acceptDisplayChanges display)
  | presentDisplay => exact called (.presentDisplay display)
  | presentOrValidateDisplay => exact called (.validateDisplay display)

end World

/-- The service works through the HAL, with or without a client. -/
theorem service_drives_hal (context : HwcContext) (resources : ComposerResources) :
    (serviceMachine context resources).Drives (halMachine context) (·.hal) := by
  intro service step
  rcases service.cases_client with gone | ⟨world, rfl⟩
  · rw [gone]
    cases step <;> exact .refl _
  · have called := (halMachine context).reaches_next world.hal
    cases step with
    | createClient => exact .refl _
    | destroyClient =>
        have left : (halMachine context).Reaches world.hal.unregisterEventCallback
            (World.destroyResources ⟨world.hal.unregisterEventCallback, world.resources⟩) :=
          World.reaches_destroyResources ⟨world.hal.unregisterEventCallback, world.resources⟩
        exact (called .unregisterEventCallback).trans left
    | registerEventCallback => exact called .registerEventCallback
    | hotplug display connected => exact world.halReaches_onHotplug display connected
    | createLayer display bufferSlotCount =>
        have created := called (.createLayer display)
        simp only [Machine.next, serviceMachine, Service.onClient, Service.serving,
          Service.clientCall, World.createLayer]
        split <;> exact created
    | destroyLayer display layer =>
        have destroyed := called (.destroyLayer display layer)
        simp only [Machine.next, serviceMachine, Service.onClient, Service.serving,
          Service.clientCall, World.destroyLayer]
        split <;> exact destroyed
    | setClientTargetSlotCount display count => exact .refl _
    | setVsyncEnabled display enabled => exact called (.setVsyncEnabled display enabled)
    | execute display field =>
        rw [Service.next_execute]
        exact world.halReaches_perform display field

/-- The service works through the KMS context, which it only asks to post buffers. -/
theorem service_drives_context (context : HwcContext) (resources : ComposerResources) :
    (serviceMachine context resources).Drives (contextMachine context)
      (·.hal.device.hwcContext) :=
  (service_drives_hal context resources).trans
    ((hal_drives_device context).trans (device_drives_context context))

/-! ## The context of `hwc_context.cpp` -/

/-- A post that was made, what it returned and showed, and the framebuffer that the handle of
its buffer has then. -/
structure PostRecord where
  display : DisplayId
  buffer : BufferHandle
  posted : Posted
  shown : List ShowCall
  framebuffer : ObjectId

/-- The context with the log of its posts, oldest first. -/
structure PostLog where
  state : PostState
  log : List PostRecord

namespace PostLog

/-- All calls that have put a framebuffer on a CRTC, oldest first. -/
def shown (kms : PostLog) : List ShowCall := kms.log.flatMap PostRecord.shown

/-- The post of a buffer. The device passes no fence in. -/
def post (answers : Nat → KernelAnswers) (display : DisplayId) (buffer : BufferHandle)
    (kms : PostLog) : Posted × PostLog :=
  let result := hwcPost (answers kms.log.length) display buffer (-1) kms.state
  (result.posted, ⟨result.state, kms.log ++
    [⟨display, buffer, result.posted, result.shown, (result.state.memory buffer).fbId⟩]⟩)

end PostLog

/-- The context over a kernel. -/
def kmsContext (answers : Nat → KernelAnswers) : HwcContext where
  State := PostLog
  hwcPost := PostLog.post answers
  isDisplay2Active kms := kms.state.context.isDisplay2Active

/-- The kernel leaves no fence for a commit that fails. -/
def KernelContract (answers : Nat → KernelAnswers) : Prop :=
  ∀ post, (answers post).atomicCommit < 0 → (answers post).outFence = some (-1)

/-- A flip needs an output whose mode is set, and a mode is set only where it is not. -/
def ModeReady (before : List ShowCall) (shown : ShowCall) : Prop :=
  ∀ name, (shown.Flips name → ModeSet before name) ∧ (shown.TriesMode name → ¬ ModeSet before name)

/-- A post shows the framebuffer of its buffer on its own display at most once, and a fence that
it returns, which is any but -1, is that of a flip that succeeded. -/
structure PostRecord.Proper (record : PostRecord) : Prop where
  once : record.shown.length ≤ 1
  buffer : ∀ shown ∈ record.shown, shown.fbId = record.framebuffer
  display : ∀ shown ∈ record.shown, ∃ name, displayOutput record.display = some name ∧
    (shown.Flips name ∨ shown.TriesMode name)
  fence : record.posted.retireFence ≠ -1 → ∃ shown ∈ record.shown, shown.Flipped

/-- The flags of the context are right, every call so far was ready, and every post proper. -/
structure PostLog.InOrder (kms : PostLog) : Prop where
  flags : FlagsRight kms.state kms.shown
  ready : Justified ModeReady kms.shown
  proper : ∀ record ∈ kms.log, record.Proper

section Posts

variable {state : PostState} {history : List ShowCall} {call : PostCall} {name : OutputName}
  {fbId : ObjectId} {result : PostResult}

/-- What a post does on its output is ready when the flags are right. -/
theorem OutputOutcome.ready (flags : FlagsRight state history)
    (outcome : OutputOutcome state call.answers name fbId call.outFence result) :
    ∃ shown, result.shown = [shown] ∧ ModeReady history shown ∧ shown.fbId = fbId ∧
      (shown.Flips name ∨ shown.TriesMode name) := by
  cases outcome with
  | modeSet armed =>
      refine ⟨_, rfl, fun other => ⟨fun flips => flips.elim, ?_⟩, rfl, .inr rfl⟩
      rintro rfl set
      exact armed ((flags _).mpr set)
  | committed unarmed succeeded =>
      refine ⟨_, rfl, fun other => ⟨?_, fun tries => tries.elim⟩, rfl, .inl rfl⟩
      rintro rfl
      exact (flags _).mp unarmed
  | failed unarmed failed =>
      refine ⟨_, rfl, fun other => ⟨?_, fun tries => tries.elim⟩, rfl, .inl rfl⟩
      rintro rfl
      exact (flags _).mp unarmed

/-- A fence that is left by a post of a caller without one is that of a flip that succeeded. -/
theorem OutputOutcome.flipped (contract : FenceContract call)
    (outcome : OutputOutcome state call.answers name fbId call.outFence result)
    (fence : result.posted.retireFence ≠ -1) : ∃ shown ∈ result.shown, shown.Flipped := by
  cases outcome with
  | modeSet armed => exact absurd rfl fence
  | committed unarmed succeeded => exact ⟨_, List.mem_singleton.mpr rfl, succeeded⟩
  | failed unarmed failed =>
      refine absurd ?_ fence
      rw [contract.2 failed]
      rfl

/-- The same of the whole post, which leaves no fence if it refuses. -/
theorem hwcPost_flipped (state : PostState) {call : PostCall} (contract : FenceContract call) :
    let result := hwcPost call.answers call.display call.buffer call.outFence state
    result.posted.retireFence ≠ -1 → ∃ shown ∈ result.shown, shown.Flipped := by
  intro result fence
  have outcome : PostOutcome state call result := hwcPost_outcome state call
  clear_value result
  cases outcome with
  | refused why failed kept => exact absurd contract.1 fence
  | shown name shows =>
      exact (postOutput_outcome (framedState state call) call.answers name shows.nonnull
        call.outFence).flipped contract fence

/-- What a post may add to the calls: nothing, or one that is ready and shows the framebuffer of
the buffer. -/
theorem FlagsRight.ready (flags : FlagsRight state history) (call : PostCall) :
    let result := hwcPost call.answers call.display call.buffer call.outFence state
    result.shown = [] ∨ ∃ shown name, result.shown = [shown] ∧ ModeReady history shown ∧
      shown.fbId = (result.state.memory call.buffer).fbId ∧
      displayOutput call.display = some name ∧ (shown.Flips name ∨ shown.TriesMode name) := by
  intro result
  have outcome : PostOutcome state call result := hwcPost_outcome state call
  have framed : FlagsRight (framedState state call) history := by
    intro name
    rw [framedState_context]
    exact flags name
  clear_value result
  cases outcome with
  | refused why failed kept => exact .inl rfl
  | shown name shows =>
      have branch := postOutput_outcome (framedState state call) call.answers name shows.nonnull
        call.outFence
      obtain ⟨shown, one, ready, framebuffer, here⟩ := branch.ready framed
      refine .inr ⟨shown, name, one, ready, ?_, shows.display, here⟩
      rw [framebuffer, branch.keeps.1]

end Posts

/-- A post that adds nothing, or one call that is ready. -/
theorem PostRecord.proper_of_ready {before : List ShowCall}
    (justified : Justified ModeReady before) {record : PostRecord}
    (added : record.shown = [] ∨ ∃ shown name, record.shown = [shown] ∧ ModeReady before shown ∧
      shown.fbId = record.framebuffer ∧
      displayOutput record.display = some name ∧ (shown.Flips name ∨ shown.TriesMode name))
    (fence : record.posted.retireFence ≠ -1 → ∃ shown ∈ record.shown, shown.Flipped) :
    Justified ModeReady (before ++ record.shown) ∧ record.Proper := by
  rcases added with nothing | ⟨last, name, one, ready, framebuffer, here, shows⟩
  · have none : ∀ shown, shown ∉ record.shown := by simp [nothing]
    refine ⟨?_, by simp [nothing], fun shown member => absurd member (none shown),
      fun shown member => absurd member (none shown), fence⟩
    rw [nothing, List.append_nil]
    exact justified
  · have only : ∀ shown ∈ record.shown, shown = last := by simp [one]
    refine ⟨?_, by simp [one], fun shown member => ?_, fun shown member => ?_, fence⟩
    · rw [one]
      exact justified.append ready
    · rw [only shown member]
      exact framebuffer
    · rw [only shown member]
      exact ⟨name, here, shows⟩

/-- Every post keeps the log in order. -/
theorem PostLog.InOrder.post {kms : PostLog} (inOrder : kms.InOrder)
    {answers : Nat → KernelAnswers} (contract : KernelContract answers) (display : DisplayId)
    (buffer : BufferHandle) : (kms.post answers display buffer).2.InOrder := by
  let call : PostCall := ⟨display, buffer, -1, answers kms.log.length⟩
  let result := hwcPost (answers kms.log.length) display buffer (-1) kms.state
  let record : PostRecord :=
    ⟨display, buffer, result.posted, result.shown, (result.state.memory buffer).fbId⟩
  have added : (kms.post answers display buffer).2.shown = kms.shown ++ record.shown := by
    simp [PostLog.shown, PostLog.post, record, result]
  have without : FenceContract call := ⟨rfl, contract kms.log.length⟩
  have fence : record.posted.retireFence ≠ -1 → ∃ shown ∈ record.shown, shown.Flipped :=
    hwcPost_flipped kms.state without
  have proper : Justified ModeReady (kms.shown ++ record.shown) ∧ record.Proper :=
    PostRecord.proper_of_ready inOrder.ready (inOrder.flags.ready call) fence
  rw [← added] at proper
  refine ⟨?_, proper.1, fun earlier member => ?_⟩
  · rw [added]
    exact (inOrder.flags.post call).2
  · rcases List.mem_append.mp member with before | now
    · exact inOrder.proper earlier before
    · rw [List.mem_singleton.mp now]
      exact proper.2

theorem PostLog.inOrder_next {answers : Nat → KernelAnswers} (contract : KernelContract answers)
    (kms : PostLog) (post : DisplayId × BufferHandle) (inOrder : kms.InOrder) :
    PostLog.InOrder ((contextMachine (kmsContext answers)).next kms post) :=
  inOrder.post contract post.1 post.2

/-- The log of a context that was just initialised. -/
def PostLog.initial (context : KmsContext) (memory : BufferHandle → PrivateHandle)
    (framebuffers : ObjectId → Option Framebuffer) : PostLog :=
  ⟨⟨context, memory, framebuffers⟩, []⟩

theorem PostLog.inOrder_initial {platform : Platform} {used : BitVec 32} {context : KmsContext}
    {state : InitState} (returned : platform.initKms used context = some ⟨0, state⟩)
    (memory : BufferHandle → PrivateHandle) (framebuffers : ObjectId → Option Framebuffer) :
    (PostLog.initial state.context memory framebuffers).InOrder where
  flags name := by
    refine iff_of_false ?_ Since.not_nil
    rw [show (PostLog.initial state.context memory framebuffers).state.context = state.context
      from rfl, firstPostOf_of_initKms returned name]
    decide
  ready := .nil
  proper record member := absurd member List.not_mem_nil

/-- Whatever clients do with the service, once the outputs are initialised: a flip is committed
only on an output whose mode was set and not lost since, a mode is set only where it is not set,
every post shows its buffer on its own display at most once, and a fence that a post returns is
that of a flip that succeeded, if a commit that fails leaves no fence. -/
theorem service_posts_inOrder {platform : Platform} {used : BitVec 32} {context : KmsContext}
    {state : InitState} (returned : platform.initKms used context = some ⟨0, state⟩)
    (memory : BufferHandle → PrivateHandle) (framebuffers : ObjectId → Option Framebuffer)
    {answers : Nat → KernelAnswers} (contract : KernelContract answers)
    (resources : ComposerResources) (steps : List ServiceStep) :
    (serviceMachine (kmsContext answers) resources).Always
      (fun service => PostLog.InOrder service.hal.device.hwcContext)
      (.new (PostLog.initial state.context memory framebuffers)) steps :=
  (service_drives_context (kmsContext answers) resources).always
    (PostLog.inOrder_next contract) (PostLog.inOrder_initial returned memory framebuffers) steps

/-- A card with two outputs is initialised, and a client shows a frame twice and ends. -/
theorem service_posts_inOrder_example :
    ∃ state : InitState, (Platform.exampleCard [1, 2]).initKms 0 Platform.zeroedContext =
        some ⟨0, state⟩ ∧
      (serviceMachine (kmsContext fun _ => exampleAnswers 7) cachingResources).Always
        (fun service => PostLog.InOrder service.hal.device.hwcContext)
        (.new (PostLog.initial state.context
          (fun _ => PrivateHandle.new 5464 1366 768 halPixelFormatRgba8888 0x1A00)
          fun _ => none))
        [.createClient, .hotplug 0 true, .setClientTargetSlotCount 0 2,
          .execute 0 (.clientTarget ⟨⟨0, some 7⟩, 0⟩), .execute 0 .validateDisplay,
          .execute 0 .acceptDisplayChanges, .execute 0 .presentDisplay,
          .execute 0 .presentDisplay, .destroyClient] := by
  obtain ⟨state, returned⟩ : ∃ state,
      (Platform.exampleCard [1, 2]).initKms 0 Platform.zeroedContext = some ⟨0, state⟩ := ⟨_, rfl⟩
  have contract : KernelContract fun _ => exampleAnswers 7 :=
    fun post failed => absurd failed (show ¬ (0 : Int) < 0 by decide)
  exact ⟨state, returned, service_posts_inOrder returned
    (fun _ => PrivateHandle.new 5464 1366 768 halPixelFormatRgba8888 0x1A00) (fun _ => none)
    contract cachingResources _⟩

end Arpi.Composer
