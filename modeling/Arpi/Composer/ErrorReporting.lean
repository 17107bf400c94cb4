import Arpi.Composer.ComposerCommandEngine
import Arpi.Composer.CachingResources
import Arpi.Semantics.Machine

/-!
# The errors that a batch reports

A batch is a list of fields, each of which executes one or two operations. What the
operations answer decides which errors the results should hold. The engine leaves out the
failures of three operations; it reports the others in order, under the right index, and
executes every field whatever failed before.
-/

namespace Arpi.Composer

open Arpi.Gralloc Arpi.Semantics

variable {context : HwcContext} {resources : ComposerResources}

/-- The operations under the handlers. -/
inductive Operation where
  | getDisplayClientTarget
  | setClientTarget
  | getDisplayOutputBuffer
  | getLayerBuffer
  | getLayerSidebandStream
  | setLayerCompositionType
  | validateDisplay
  | acceptDisplayChanges
  | presentDisplay
  | hwcPost
deriving DecidableEq

/-- An operation that was executed, and what it returned. -/
structure Executed where
  operation : Operation
  code : Int
deriving DecidableEq

/-- A field of a display command that has a handler. -/
inductive Field where
  | layerBuffer (layer : LayerId) (buffer : SlotBuffer)
  | layerComposition (layer : LayerId) (composition : Composition)
  | layerSidebandStream (layer : LayerId) (stream : BufferHandle)
  | clientTarget (target : ClientTarget)
  | outputBuffer (buffer : SlotBuffer)
  | validateDisplay
  | acceptDisplayChanges
  | presentDisplay
  | presentOrValidateDisplay
deriving DecidableEq

/-- The fields of a layer command that are set, in the order in which they are dispatched. -/
def LayerCommand.fields (command : LayerCommand) : List Field :=
  command.buffer.toList.map (.layerBuffer command.layer) ++
    command.composition.toList.map (.layerComposition command.layer) ++
    command.sidebandStream.toList.map (.layerSidebandStream command.layer)

/-- A field without data, when its flag is set. -/
def flagged (flag : Bool) (field : Field) : List Field := if flag then [field] else []

/-- The fields of a display command that are set, in the order in which they are dispatched. -/
def DisplayCommand.fields (command : DisplayCommand) : List Field :=
  command.layers.flatMap LayerCommand.fields ++
    command.clientTarget.toList.map .clientTarget ++
    command.virtualDisplayOutputBuffer.toList.map .outputBuffer ++
    flagged command.validateDisplay .validateDisplay ++
    flagged command.acceptDisplayChanges .acceptDisplayChanges ++
    flagged command.presentDisplay .presentDisplay ++
    flagged command.presentOrValidateDisplay .presentOrValidateDisplay

/-- The posts that a step has added, oldest first. -/
def newPosts (before after : Hwc2Device context) : List Post :=
  (after.posts.take (after.posts.length - before.posts.length)).reverse

namespace World

/-- Validate, whatever the error. -/
def validate (display : DisplayId) (world : World context resources) :
    List Executed × World context resources :=
  let validated := world.hal.validateDisplay display
  ([⟨.validateDisplay, validated.1⟩],
    ⟨validated.2.2, resources.setDisplayMustValidateState display false world.resources⟩)

/-- Find the client target and, unless that failed, set it. -/
def target (display : DisplayId) (command : ClientTarget) (world : World context resources) :
    List Executed × World context resources :=
  let found := resources.getDisplayClientTarget display command.buffer.slot
    command.buffer.handle.isNone (command.buffer.handle.getD 0) world.resources
  if found.1.error ≠ 0 then
    ([⟨.getDisplayClientTarget, found.1.error⟩], { world with resources := found.2 })
  else
    let set := world.hal.setClientTarget display found.1.handle command.dataspace
    ([⟨.getDisplayClientTarget, found.1.error⟩, ⟨.setClientTarget, set.1⟩], ⟨set.2, found.2⟩)

/-- The operations that a field executes on a display, and what they leave behind. -/
def perform (display : DisplayId) (world : World context resources) :
    Field → List Executed × World context resources
  | .layerBuffer layer buffer =>
      let found := resources.getLayerBuffer display layer buffer.slot buffer.handle.isNone
        (buffer.handle.getD 0) world.resources
      ([⟨.getLayerBuffer, found.1.error⟩], { world with resources := found.2 })
  | .layerComposition layer composition =>
      let set := world.hal.setLayerCompositionType display layer composition
      ([⟨.setLayerCompositionType, set.1⟩], { world with hal := set.2 })
  | .layerSidebandStream layer stream =>
      let found := resources.getLayerSidebandStream display layer stream world.resources
      ([⟨.getLayerSidebandStream, found.1.error⟩], { world with resources := found.2 })
  | .clientTarget target => world.target display target
  | .outputBuffer buffer =>
      let found := resources.getDisplayOutputBuffer display buffer.slot buffer.handle.isNone
        (buffer.handle.getD 0) world.resources
      ([⟨.getDisplayOutputBuffer, found.1.error⟩], { world with resources := found.2 })
  | .validateDisplay | .presentOrValidateDisplay => world.validate display
  | .acceptDisplayChanges =>
      let accepted := world.hal.acceptDisplayChanges display
      ([⟨.acceptDisplayChanges, accepted.1⟩], { world with hal := accepted.2 })
  | .presentDisplay =>
      let presented := world.hal.presentDisplay display
      ((newPosts world.hal.device presented.2.2.device).map (fun post => ⟨.hwcPost, post.code⟩) ++
          [⟨.presentDisplay, presented.1⟩], { world with hal := presented.2.2 })

end World

/-- A field of a batch: the index of its command, its display and the field. -/
abbrev BatchStep := Nat × DisplayId × Field

/-- The fields of a batch in the order of execution. -/
def batchSteps (commands : List DisplayCommand) (first : Nat) : List BatchStep :=
  (commands.zipIdx first).flatMap fun command =>
    command.1.fields.map fun field => (command.2, command.1.display, field)

/-- The operations of a batch, one field after the other. -/
def operationMachine (context : HwcContext) (resources : ComposerResources) :
    Machine (World context resources) BatchStep (List Executed) where
  step world step := world.perform step.2.1 step.2.2

/-- The operations that a batch executes, each under the index of its command. -/
def executedBy (world : World context resources) (steps : List BatchStep) :
    List (Nat × Executed) :=
  ((operationMachine context resources).trace world steps).flatMap fun step =>
    step.2.map fun executed => (step.1.1, executed)

/-- The error entry of an operation, if it failed. -/
def errorEntry (executed : Nat × Executed) : Option (Nat × Int) :=
  if executed.2.code = 0 then none else some (executed.1, executed.2.code)

/-- The error entries among the results. -/
def errorsOf (results : List CommandResult) : List (Nat × Int) :=
  results.filterMap fun
    | .error commandIndex errorCode => some (commandIndex, errorCode)
    | _ => none

@[simp] theorem errorsOf_append (front back : List CommandResult) :
    errorsOf (front ++ back) = errorsOf front ++ errorsOf back :=
  List.filterMap_append

/-- The results of a batch hold one error for each operation that failed, in order, and
every field was executed. -/
def ReportsErrors (world : World context resources) (commands : List DisplayCommand) : Prop :=
  errorsOf ((CommandEngine.idle world).execute commands).1 =
      (executedBy world (batchSteps commands 0)).filterMap errorEntry ∧
    ((CommandEngine.idle world).execute commands).2.world =
      (operationMachine context resources).run world (batchSteps commands 0)

/-- Whether the engine looks at the error of an operation. -/
def Operation.reported : Operation → Bool
  | .getLayerSidebandStream | .presentDisplay | .hwcPost => false
  | _ => true

/-- The handler of a field. -/
def CommandEngine.executeField (display : DisplayId) (engine : CommandEngine context resources) :
    Field → CommandEngine context resources
  | .layerBuffer layer buffer => engine.executeSetLayerBuffer display layer buffer
  | .layerComposition layer composition =>
      engine.executeSetLayerComposition display layer composition
  | .layerSidebandStream layer stream =>
      engine.executeSetLayerSidebandStream display layer stream
  | .clientTarget target => engine.executeSetClientTarget display target
  | .outputBuffer buffer => engine.executeSetOutputBuffer display buffer
  | .validateDisplay => engine.executeValidateDisplay display
  | .acceptDisplayChanges => engine.executeAcceptDisplayChanges display
  | .presentDisplay => (engine.executePresentDisplay display).2
  | .presentOrValidateDisplay => engine.executePresentOrValidateDisplay display

namespace CommandEngine

/-- Handing an optional field to its handler is handing the fields made of it. -/
theorem dispatch_eq {Data : Type} (field : Option Data) (make : Data → Field)
    (display : DisplayId) (engine : CommandEngine context resources) :
    dispatch field (fun data engine => engine.executeField display (make data)) engine =
      (field.toList.map make).foldl (executeField display) engine := by
  cases field <;> rfl

theorem dispatchBool_eq (flag : Bool) (field : Field) (display : DisplayId)
    (engine : CommandEngine context resources) :
    dispatchBool flag (fun engine => engine.executeField display field) engine =
      (flagged flag field).foldl (executeField display) engine := by
  cases flag <;> rfl

/-- A layer command is dispatched field by field. -/
theorem dispatchLayerCommand_eq (display : DisplayId) (engine : CommandEngine context resources)
    (command : LayerCommand) :
    dispatchLayerCommand display engine command =
      command.fields.foldl (executeField display) engine := by
  rw [LayerCommand.fields, List.foldl_append, List.foldl_append, ← dispatch_eq, ← dispatch_eq,
    ← dispatch_eq]
  rfl

/-- A display command is dispatched field by field. -/
theorem dispatchDisplayCommand_eq (engine : CommandEngine context resources)
    (command : DisplayCommand) :
    dispatchDisplayCommand engine command =
      command.fields.foldl (executeField command.display) engine := by
  have layers : command.layers.foldl (dispatchLayerCommand command.display) engine =
      (command.layers.flatMap LayerCommand.fields).foldl (executeField command.display)
        engine := by
    generalize command.layers = layers
    induction layers generalizing engine with
    | nil => rfl
    | cons layer rest ih =>
        rw [List.foldl_cons, ih, dispatchLayerCommand_eq, List.flatMap_cons, List.foldl_append]
  simp only [DisplayCommand.fields, List.foldl_append, ← layers, ← dispatch_eq,
    ← dispatchBool_eq]
  rfl

/-- What a handler does to the engine: it executes operations, and appends the errors of
those that it looks at. -/
structure Handles (engine after : CommandEngine context resources)
    (performed : List Executed × World context resources) : Prop where
  world : after.world = performed.2
  index : after.commandIndex = engine.commandIndex
  errors : errorsOf after.writer = errorsOf engine.writer ++
    (performed.1.filter fun executed => executed.operation.reported).filterMap
      fun executed => errorEntry (engine.commandIndex, executed)

/-- A handler of a single operation that is looked at. -/
theorem Handles.single {engine after : CommandEngine context resources} {operation : Operation}
    {code : Int} {world : World context resources} (looked : operation.reported = true)
    (handled : after = if code = 0 then { engine with world := world }
      else ({ engine with world := world } : CommandEngine context resources).setError code) :
    Handles engine after ([⟨operation, code⟩], world) := by
  subst handled
  by_cases succeeded : code = 0
  · rw [if_pos succeeded]
    exact ⟨rfl, rfl, by simp [looked, errorEntry, succeeded]⟩
  · rw [if_neg succeeded]
    exact ⟨rfl, rfl, by simp [setError, write, errorsOf, looked, errorEntry, succeeded]⟩

/-- Results that are no errors do not matter. -/
theorem Handles.write {engine after : CommandEngine context resources}
    {performed : List Executed × World context resources}
    (handles : Handles engine after performed) {results : List CommandResult}
    (noErrors : errorsOf results = []) : Handles engine (after.write results) performed where
  world := handles.world
  index := handles.index
  errors := by
    rw [CommandEngine.write, errorsOf_append, noErrors, List.append_nil]
    exact handles.errors

/-- A handler that looks at none of its operations. -/
theorem Handles.silent {engine : CommandEngine context resources}
    {performed : List Executed × World context resources}
    (overlooked : ∀ executed ∈ performed.1, executed.operation.reported = false) :
    Handles engine { engine with world := performed.2 } performed where
  world := rfl
  index := rfl
  errors := by
    have none : (performed.1.filter fun executed => executed.operation.reported) = [] := by
      rw [List.filter_eq_nil_iff]
      intro executed member
      rw [overlooked executed member]
      decide
    rw [none, List.filterMap_nil, List.append_nil]

theorem executeValidateDisplayInternal_handles (display : DisplayId)
    (engine : CommandEngine context resources) :
    Handles engine (engine.executeValidateDisplayInternal display).2
      (engine.world.validate display) := by
  rw [executeValidateDisplayInternal, World.validate]
  by_cases succeeded : (engine.world.hal.validateDisplay display).1 = 0
  · simp only [if_pos succeeded]
    refine Handles.write (.single rfl ?_) rfl
    rw [if_pos succeeded]
  · simp only [if_neg succeeded]
    refine .single rfl ?_
    rw [if_neg succeeded]

theorem executeSetClientTarget_handles (display : DisplayId) (target : ClientTarget)
    (engine : CommandEngine context resources) :
    Handles engine (engine.executeSetClientTarget display target)
      (engine.world.target display target) := by
  simp only [executeSetClientTarget, World.target]
  generalize resources.getDisplayClientTarget _ _ _ _ _ = found
  by_cases missing : found.1.error = 0
  · simp only [missing, ne_eq, not_true, if_false, if_true]
    generalize engine.world.hal.setClientTarget _ _ _ = set
    by_cases succeeded : set.1 = 0
    · rw [if_pos succeeded]
      exact ⟨rfl, rfl, by simp [Operation.reported, errorEntry, succeeded]⟩
    · rw [if_neg succeeded]
      exact ⟨rfl, rfl, by
        simp [setError, CommandEngine.write, errorsOf, Operation.reported, errorEntry, succeeded]⟩
  · simp only [missing, ne_eq, not_false_eq_true, if_true, if_false]
    refine .single rfl ?_
    rw [if_neg missing]

theorem executePresentDisplay_handles (display : DisplayId)
    (engine : CommandEngine context resources) :
    Handles engine (engine.executePresentDisplay display).2
      (engine.world.perform display .presentDisplay) := by
  have overlooked : ∀ executed ∈ (engine.world.perform display .presentDisplay).1,
      executed.operation.reported = false := by
    intro executed member
    rcases List.mem_append.mp member with post | present
    · obtain ⟨_, _, rfl⟩ := List.mem_map.mp post
      rfl
    · obtain rfl := List.mem_singleton.mp present
      rfl
  rw [executePresentDisplay]
  by_cases succeeded : (engine.world.hal.presentDisplay display).1 = 0
  · simp only [if_pos succeeded]
    exact (Handles.silent overlooked).write rfl
  · simp only [if_neg succeeded]
    exact .silent overlooked

/-- Every handler does what its field says. -/
theorem executeField_handles (display : DisplayId) (engine : CommandEngine context resources)
    (field : Field) :
    Handles engine (engine.executeField display field) (engine.world.perform display field) := by
  cases field with
  | layerBuffer layer buffer => exact .single rfl rfl
  | layerComposition layer composition => exact .single rfl rfl
  | layerSidebandStream layer stream =>
      have overlooked : ∀ executed ∈
          (engine.world.perform display (.layerSidebandStream layer stream)).1,
          executed.operation.reported = false := by
        intro executed member
        obtain rfl := List.mem_singleton.mp member
        rfl
      have overwritten : engine.executeSetLayerSidebandStream display layer stream =
          { engine with
            world := (engine.world.perform display (.layerSidebandStream layer stream)).2 } := by
        rw [executeSetLayerSidebandStream, World.perform]
        by_cases succeeded :
            (resources.getLayerSidebandStream display layer stream engine.world.resources).1.error =
              0
        · simp only [succeeded, ne_eq, not_true, if_false, if_true]
        · simp only [succeeded, ne_eq, not_false_eq_true, if_true]
      rw [executeField, overwritten]
      exact .silent overlooked
  | clientTarget target => exact executeSetClientTarget_handles display target engine
  | outputBuffer buffer => exact .single rfl rfl
  | validateDisplay => exact executeValidateDisplayInternal_handles display engine
  | acceptDisplayChanges => exact .single rfl rfl
  | presentDisplay => exact executePresentDisplay_handles display engine
  | presentOrValidateDisplay =>
      have handles := executeValidateDisplayInternal_handles display engine
      rw [executeField, executePresentOrValidateDisplay]
      by_cases succeeded : (engine.executeValidateDisplayInternal display).1 = 0
      · simp only [if_pos succeeded]
        exact handles.write rfl
      · simp only [if_neg succeeded]
        exact handles

end CommandEngine

/-- The errors that the engine writes for operations: those of the operations it looks at. -/
def reportedErrors (executed : List (Nat × Executed)) : List (Nat × Int) :=
  (executed.filter fun step => step.2.operation.reported).filterMap errorEntry

theorem reportedErrors_append (front back : List (Nat × Executed)) :
    reportedErrors (front ++ back) = reportedErrors front ++ reportedErrors back := by
  simp [reportedErrors]

theorem executedBy_cons (world : World context resources) (step : BatchStep)
    (rest : List BatchStep) :
    executedBy world (step :: rest) =
      (world.perform step.2.1 step.2.2).1.map (fun executed => (step.1, executed)) ++
        executedBy (world.perform step.2.1 step.2.2).2 rest := rfl

theorem executedBy_append (world : World context resources) (front back : List BatchStep) :
    executedBy world (front ++ back) = executedBy world front ++
      executedBy ((operationMachine context resources).run world front) back := by
  simp [executedBy, Machine.trace_append]

/-- A list of fields of one command is executed field by field, and the errors are reported
under the index of the command. -/
theorem foldl_executeField (display : DisplayId) (fields : List Field)
    (engine : CommandEngine context resources) :
    let steps := fields.map fun field => (engine.commandIndex, display, field)
    let after := fields.foldl (CommandEngine.executeField display) engine
    after.world = (operationMachine context resources).run engine.world steps ∧
      after.commandIndex = engine.commandIndex ∧
      errorsOf after.writer =
        errorsOf engine.writer ++ reportedErrors (executedBy engine.world steps) := by
  induction fields generalizing engine with
  | nil => simp [executedBy, reportedErrors]
  | cons field rest ih =>
      have handles := CommandEngine.executeField_handles display engine field
      obtain ⟨world, index, errors⟩ := ih (engine.executeField display field)
      simp only [handles.world, handles.index] at world index errors
      refine ⟨world, index, errors.trans ?_⟩
      rw [List.map_cons, executedBy_cons, reportedErrors_append, handles.errors,
        List.append_assoc]
      congr 2
      simp [reportedErrors, List.filter_map, List.filterMap_map, Function.comp_def]

theorem batchSteps_cons (command : DisplayCommand) (rest : List DisplayCommand) (first : Nat) :
    batchSteps (command :: rest) first =
      (command.fields.map fun field => (first, command.display, field)) ++
        batchSteps rest (first + 1) := by
  simp [batchSteps, List.zipIdx_cons]

/-- A batch is executed command by command. -/
theorem foldl_executeCommand (commands : List DisplayCommand)
    (engine : CommandEngine context resources) :
    let steps := batchSteps commands engine.commandIndex
    let after := commands.foldl CommandEngine.executeCommand engine
    after.world = (operationMachine context resources).run engine.world steps ∧
      errorsOf after.writer =
        errorsOf engine.writer ++ reportedErrors (executedBy engine.world steps) := by
  induction commands generalizing engine with
  | nil => simp [batchSteps, executedBy, reportedErrors]
  | cons command rest ih =>
      obtain ⟨world, index, errors⟩ := foldl_executeField command.display command.fields engine
      rw [← CommandEngine.dispatchDisplayCommand_eq] at world index errors
      have nextWorld : (engine.executeCommand command).world = _ := world
      have nextIndex : (engine.executeCommand command).commandIndex = engine.commandIndex + 1 :=
        congrArg (· + 1) index
      have nextErrors : errorsOf (engine.executeCommand command).writer = _ := errors
      obtain ⟨laterWorld, laterErrors⟩ := ih (engine.executeCommand command)
      rw [nextWorld, nextIndex] at laterWorld
      rw [nextErrors, nextWorld, nextIndex] at laterErrors
      simp only [List.foldl_cons, batchSteps_cons, Machine.run_append, executedBy_append,
        reportedErrors_append, ← List.append_assoc]
      exact ⟨laterWorld, laterErrors⟩

/-- A filter that loses nothing that the list had to give. -/
theorem filterMap_filter_eq_iff {α β : Type*} (keep : α → Bool) (entry : α → Option β)
    (list : List α) :
    (list.filter keep).filterMap entry = list.filterMap entry ↔
      ∀ element ∈ list, keep element = false → entry element = none := by
  induction list with
  | nil => simp
  | cons head rest ih =>
      rw [List.forall_mem_cons]
      cases kept : keep head with
      | true =>
          rw [List.filter_cons_of_pos kept, List.filterMap_cons, List.filterMap_cons]
          cases entry head <;> simp [ih]
      | false =>
          rw [List.filter_cons_of_neg (by simp [kept]), List.filterMap_cons]
          cases found : entry head with
          | none => simp [ih]
          | some value =>
              have shorter : ((rest.filter keep).filterMap entry).length ≤
                  (rest.filterMap entry).length :=
                (List.filter_sublist.filterMap entry).length_le
              constructor
              · intro same
                rw [same, List.length_cons] at shorter
                exact absurd shorter (Nat.not_succ_le_self _)
              · rintro ⟨lost, -⟩
                cases lost rfl

/-- A batch reports its errors exactly when none of the operations fails whose error the
engine does not look at. -/
theorem execute_reports_iff (world : World context resources) (commands : List DisplayCommand) :
    ReportsErrors world commands ↔
      ∀ step ∈ executedBy world (batchSteps commands 0),
        step.2.operation ∈ [.presentDisplay, .hwcPost, .getLayerSidebandStream] →
          step.2.code = 0 := by
  obtain ⟨sameWorld, errors⟩ := foldl_executeCommand commands (CommandEngine.idle world)
  have written : errorsOf ((CommandEngine.idle world).execute commands).1 =
      reportedErrors (executedBy world (batchSteps commands 0)) := errors
  have finished : ((CommandEngine.idle world).execute commands).2.world =
      (operationMachine context resources).run world (batchSteps commands 0) := sameWorld
  rw [ReportsErrors, written, and_iff_left finished, reportedErrors, filterMap_filter_eq_iff]
  refine forall₂_congr fun step _ => ?_
  have overlooked : step.2.operation.reported = false ↔
      step.2.operation ∈ [.presentDisplay, .hwcPost, .getLayerSidebandStream] := by
    cases step.2.operation <;> decide
  rw [overlooked, errorEntry]
  refine imp_congr_right fun _ => ?_
  by_cases succeeded : step.2.code = 0 <;> simp [succeeded]

/-- A display command that only presents, sent to a device that nobody has validated. -/
theorem execute_not_always_reports :
    ¬ ∀ (world : World workingContext cachingResources) commands,
      ReportsErrors world commands := by
  intro claim
  have reports := (claim ⟨.new (), .create⟩ [{ display := 0, presentDisplay := true }]).1
  exact absurd reports (by decide)

end Arpi.Composer
