import Arpi.Composer.DisplayPipeline

/-!
# The present fences of a batch

A batch of display commands presents displays in order. Each presentation that succeeds is a
post, and the fence of the post is what the client finds among the results. The other results
of a batch are no fences, and the other fields reach no output.
-/

namespace Arpi.Composer

open Arpi.Gralloc Arpi.Semantics

variable {context : HwcContext} {resources : ComposerResources}

/-- The present fences among the results, with their displays. -/
def presentFences (results : List CommandResult) : List (DisplayId × Int) :=
  results.filterMap fun
    | .presentFence display fence => fence.map fun fence => (display, fence)
    | _ => none

/-- The fences of posts, with their displays. -/
def postedFences (trace : List ((DisplayId × BufferHandle) × Posted)) : List (DisplayId × Int) :=
  trace.map fun post => (post.1.1, post.2.retireFence)

/-- A presentation that fails leaves the HAL alone; one that succeeds is a post. -/
theorem ComposerHal.presentDisplay_cases (hal : ComposerHal context) (display : DisplayId) :
    (hal.presentDisplay display).1 ≠ 0 ∧ (hal.presentDisplay display).2.2 = hal ∨
      hal.presentDisplay display =
        (0, some (context.hwcPost display hal.device.buffer hal.device.hwcContext).1.retireFence,
          { hal with device := { hal.device with
              hwcContext := (context.hwcPost display hal.device.buffer hal.device.hwcContext).2
              posts := ⟨display, hal.device.buffer,
                (context.hwcPost display hal.device.buffer hal.device.hwcContext).1.code⟩ ::
                  hal.device.posts } }) := by
  have badDisplay : hwc2ErrorBadDisplay ≠ 0 := by decide
  have notValidated : hwc2ErrorNotValidated ≠ 0 := by decide
  simp only [presentDisplay, Hwc2Device.presentDisplay]
  split
  · exact .inl ⟨notValidated, rfl⟩
  · split
    · exact .inl ⟨badDisplay, rfl⟩
    · split
      · exact .inl ⟨notValidated, rfl⟩
      · exact .inr rfl

namespace CommandEngine

/-- The context that the engine leads to. -/
def hwcContext (engine : CommandEngine context resources) : context.State :=
  engine.world.hal.device.hwcContext

/-- What the engine does to its outputs: it makes some posts, and writes their fences. -/
structure Presents (engine after : CommandEngine context resources)
    (posts : List (DisplayId × BufferHandle)) : Prop where
  outputs : after.hwcContext = (contextMachine context).run engine.hwcContext posts
  fences : presentFences after.writer = presentFences engine.writer ++
    postedFences ((contextMachine context).trace engine.hwcContext posts)

namespace Presents

variable {first second third : CommandEngine context resources}
  {front back : List (DisplayId × BufferHandle)}

theorem refl (engine : CommandEngine context resources) : Presents engine engine [] :=
  ⟨rfl, by simp [postedFences]⟩

theorem trans (left : Presents first second front) (right : Presents second third back) :
    Presents first third (front ++ back) where
  outputs := by rw [Machine.run_append, right.outputs, left.outputs]
  fences := by
    rw [right.fences, left.fences, left.outputs, Machine.trace_append]
    simp [postedFences]

/-- A handler that neither posts nor writes a fence. -/
theorem quiet {engine after : CommandEngine context resources}
    (outputs : after.hwcContext = engine.hwcContext)
    (fences : presentFences after.writer = presentFences engine.writer) :
    Presents engine after [] :=
  ⟨outputs, by simp [fences, postedFences]⟩

end Presents

@[simp] theorem presentFences_setError (error : Int) (engine : CommandEngine context resources) :
    presentFences (engine.setError error).writer = presentFences engine.writer := by
  simp [setError, write, presentFences]

/-- Only a presentation writes a fence. -/
theorem executeField_presentFences (display : DisplayId)
    (engine : CommandEngine context resources) {field : Field} (other : field ≠ .presentDisplay) :
    presentFences (engine.executeField display field).writer = presentFences engine.writer := by
  cases field with
  | layerBuffer layer buffer =>
      simp only [executeField, executeSetLayerBuffer]
      split <;> simp
  | layerComposition layer composition =>
      simp only [executeField, executeSetLayerComposition]
      split <;> simp
  | layerSidebandStream layer stream =>
      simp only [executeField, executeSetLayerSidebandStream]
      split_ifs <;> simp
  | clientTarget target =>
      simp only [executeField, executeSetClientTarget]
      split
      · split <;> simp
      · simp
  | outputBuffer buffer =>
      simp only [executeField, executeSetOutputBuffer]
      split <;> simp
  | validateDisplay =>
      simp only [executeField, executeValidateDisplay, executeValidateDisplayInternal]
      split
      · simp [write, presentFences]
      · simp
  | acceptDisplayChanges =>
      simp only [executeField, executeAcceptDisplayChanges]
      split <;> simp
  | presentDisplay => exact absurd rfl other
  | presentOrValidateDisplay =>
      simp only [executeField, executePresentOrValidateDisplay, executeValidateDisplayInternal]
      split
      · simp [write, presentFences]
      · simp_all

/-- Only a presentation reaches the context. -/
theorem executeField_hwcContext (display : DisplayId) (engine : CommandEngine context resources)
    {field : Field} (other : field ≠ .presentDisplay) :
    (engine.executeField display field).hwcContext = engine.hwcContext := by
  rw [hwcContext, (executeField_handles display engine field).world]
  have validated : (engine.world.validate display).2.hal.device.hwcContext =
      engine.hwcContext := by
    simp only [World.validate, validateDisplay_device, Hwc2Device.validateDisplay]
    split_ifs <;> rfl
  cases field with
  | layerBuffer layer buffer | layerSidebandStream layer stream | outputBuffer buffer => rfl
  | layerComposition layer composition =>
      simp only [World.perform, ComposerHal.setLayerCompositionType,
        Hwc2Device.setLayerCompositionType, Hwc2Device.markLayerDirty]
      split_ifs <;> rfl
  | clientTarget target =>
      simp only [World.perform, World.target]
      split
      · rfl
      · simp only [ComposerHal.setClientTarget, setClientTarget_device]
        rfl
  | validateDisplay => exact validated
  | acceptDisplayChanges =>
      simp only [World.perform, ComposerHal.acceptDisplayChanges, Hwc2Device.acceptDisplayChanges]
      split_ifs <;> rfl
  | presentDisplay => exact absurd rfl other
  | presentOrValidateDisplay => exact validated

/-- A presentation posts the client target and writes the fence of the post, or does neither. -/
theorem executePresentDisplay_presents (display : DisplayId)
    (engine : CommandEngine context resources) :
    ∃ posts, Presents engine (engine.executePresentDisplay display).2 posts := by
  rcases engine.world.hal.presentDisplay_cases display with ⟨failed, same⟩ | posted
  · have unmoved : (engine.executePresentDisplay display).2 = engine := by
      simp only [executePresentDisplay, if_neg failed, same]
    exact ⟨[], unmoved.symm ▸ .refl engine⟩
  · refine ⟨[(display, engine.world.hal.device.buffer)], ?_, ?_⟩
    · simp only [executePresentDisplay, posted, if_true]
      rfl
    · simp [executePresentDisplay, posted, write, presentFences, postedFences, contextMachine,
        Machine.answer, hwcContext]

/-- A field makes a post and writes its fence, or does neither. -/
theorem executeField_presents (display : DisplayId) (engine : CommandEngine context resources)
    (field : Field) : ∃ posts, Presents engine (engine.executeField display field) posts := by
  by_cases presents : field = .presentDisplay
  · subst presents
    exact engine.executePresentDisplay_presents display
  · exact ⟨[], .quiet (engine.executeField_hwcContext display presents)
      (engine.executeField_presentFences display presents)⟩

/-- A command makes posts and writes their fences. -/
theorem executeCommand_presents (engine : CommandEngine context resources)
    (command : DisplayCommand) : ∃ posts, Presents engine (engine.executeCommand command) posts := by
  have fields : ∀ (fields : List Field) (engine : CommandEngine context resources),
      ∃ posts, Presents engine (fields.foldl (executeField command.display) engine) posts := by
    intro fields
    induction fields with
    | nil => exact fun engine => ⟨[], .refl engine⟩
    | cons field rest ih =>
        intro engine
        obtain ⟨first, here⟩ := engine.executeField_presents command.display field
        obtain ⟨later, after⟩ := ih (engine.executeField command.display field)
        exact ⟨first ++ later, here.trans after⟩
  obtain ⟨posts, presented⟩ := fields command.fields engine
  rw [← dispatchDisplayCommand_eq] at presented
  exact ⟨posts, presented.outputs, presented.fences⟩

/-- A batch makes posts and writes their fences, in the same order. -/
theorem foldl_presents (commands : List DisplayCommand) (engine : CommandEngine context resources) :
    ∃ posts, Presents engine (commands.foldl executeCommand engine) posts := by
  induction commands generalizing engine with
  | nil => exact ⟨[], .refl engine⟩
  | cons command rest ih =>
      obtain ⟨first, here⟩ := engine.executeCommand_presents command
      obtain ⟨later, after⟩ := ih (engine.executeCommand command)
      exact ⟨first ++ later, here.trans after⟩

end CommandEngine

/-- The posts of a run are logged with what they returned. -/
theorem contextMachine_log (answers : Nat → KernelAnswers) (kms : PostLog)
    (posts : List (DisplayId × BufferHandle)) :
    ∃ records : List PostRecord,
      PostLog.log ((contextMachine (kmsContext answers)).run kms posts) = kms.log ++ records ∧
        postedFences ((contextMachine (kmsContext answers)).trace kms posts) =
          records.map fun record => (record.display, record.posted.retireFence) := by
  induction posts generalizing kms with
  | nil => exact ⟨[], (List.append_nil _).symm, rfl⟩
  | cons post rest ih =>
      obtain ⟨records, log, fences⟩ := ih (kms.post answers post.1 post.2).2
      refine ⟨⟨post.1, post.2, (kms.post answers post.1 post.2).1,
        (hwcPost (answers kms.log.length) post.1 post.2 (-1) kms.state).shown,
        ((kms.post answers post.1 post.2).2.state.memory post.2).fbId⟩ :: records, ?_, ?_⟩
      · refine log.trans ?_
        simp [PostLog.post]
      · rw [List.map_cons, ← fences]
        rfl

/-- In every run of the service over outputs that were initialised, the present fences that a
batch reports are those of the posts that it makes, in order and each under the display of its
post; and a fence that is not none is that of a flip that succeeded, on an output of that
display. -/
theorem batch_presentFences {platform : Platform} {used : BitVec 32} {kms : KmsContext}
    {initial : InitState} (returned : platform.initKms used kms = some ⟨0, initial⟩)
    (memory : BufferHandle → PrivateHandle) (framebuffers : ObjectId → Option Framebuffer)
    {answers : Nat → KernelAnswers} (contract : KernelContract answers)
    (steps : List ServiceStep) {world : World (kmsContext answers) resources}
    (serves : (serviceMachine (kmsContext answers) resources).run
      (.new (PostLog.initial initial.context memory framebuffers)) steps = .serving world)
    (commands : List DisplayCommand) :
    ∃ records : List PostRecord,
      PostLog.log ((CommandEngine.idle world).execute commands).2.hwcContext =
          PostLog.log world.hal.device.hwcContext ++ records ∧
        presentFences ((CommandEngine.idle world).execute commands).1 =
          records.map (fun record => (record.display, record.posted.retireFence)) ∧
        ∀ record ∈ records, record.Proper := by
  obtain ⟨posts, presented⟩ := (CommandEngine.idle world).foldl_presents commands
  obtain ⟨records, log, fences⟩ :=
    contextMachine_log answers world.hal.device.hwcContext posts
  have after : PostLog.log ((CommandEngine.idle world).execute commands).2.hwcContext =
      PostLog.log world.hal.device.hwcContext ++ records := by
    rw [← log]
    exact congrArg PostLog.log presented.outputs
  have inOrder : PostLog.InOrder ((CommandEngine.idle world).execute commands).2.hwcContext := by
    have reached := Service.execute_run world commands
    rw [← serves, ← Machine.run_append] at reached
    have always : (serviceMachine (kmsContext answers) resources).Always
        (fun service => PostLog.InOrder service.hal.device.hwcContext)
        (.new (PostLog.initial initial.context memory framebuffers))
        (steps ++ (batchSteps commands 0).map fun step => .execute step.2.1 step.2.2) :=
      (service_drives_context (kmsContext answers) resources).always
        (PostLog.inOrder_next contract) (PostLog.inOrder_initial returned memory framebuffers) _
    have last := always.last
    rw [← reached] at last
    exact last
  refine ⟨records, after, presented.fences.trans fences, fun record member => ?_⟩
  apply inOrder.proper
  rw [after]
  exact List.mem_append_right _ member

/-- A client that shows a frame twice: the first post sets the mode, and the second one flips. -/
theorem batch_presentFences_example :
    ∃ (initial : InitState) (world : World (kmsContext fun _ => exampleAnswers 7)
        cachingResources) (records : List PostRecord),
      (Platform.exampleCard [1, 2]).initKms 0 Platform.zeroedContext = some ⟨0, initial⟩ ∧
        presentFences ((CommandEngine.idle world).execute
          [{ display := 0, clientTarget := some ⟨⟨0, some 7⟩, 0⟩, validateDisplay := true
             acceptDisplayChanges := true, presentDisplay := true },
            { display := 0, presentDisplay := true }]).1 =
          records.map (fun record => (record.display, record.posted.retireFence)) ∧
        ∀ record ∈ records, record.Proper := by
  obtain ⟨initial, returned⟩ : ∃ initial,
      (Platform.exampleCard [1, 2]).initKms 0 Platform.zeroedContext = some ⟨0, initial⟩ := ⟨_, rfl⟩
  have contract : KernelContract fun _ => exampleAnswers 7 :=
    fun post failed => absurd failed (show ¬ (0 : Int) < 0 by decide)
  obtain ⟨world, serves⟩ : ∃ world, (serviceMachine (kmsContext fun _ => exampleAnswers 7)
      cachingResources).run (.new (PostLog.initial initial.context
        (fun _ => PrivateHandle.new 5464 1366 768 halPixelFormatRgba8888 0x1A00) fun _ => none))
        [.createClient, .hotplug 0 true, .setClientTargetSlotCount 0 2] = .serving world :=
    ⟨⟨_, _⟩, rfl⟩
  obtain ⟨records, -, fences, proper⟩ := batch_presentFences returned
    (fun _ => PrivateHandle.new 5464 1366 768 halPixelFormatRgba8888 0x1A00) (fun _ => none)
    contract [.createClient, .hotplug 0 true, .setClientTargetSlotCount 0 2] serves
    [{ display := 0, clientTarget := some ⟨⟨0, some 7⟩, 0⟩, validateDisplay := true
       acceptDisplayChanges := true, presentDisplay := true },
      { display := 0, presentDisplay := true }]
  exact ⟨initial, world, records, returned, fences, proper⟩

end Arpi.Composer
