import Arpi.Gralloc.AllocatorService
import Arpi.Gralloc.AutoRegistration
import Arpi.Gralloc.MapperService
import Arpi.Gralloc.ReachableRecords
import Arpi.Semantics.Layering

/-!
# Who works on the registry

The allocator, the mapper and the legacy module each have a registry in their process. They
work on it only through the registry's calls, and besides write the contents of handles. So what
these calls keep holds in every state of the three, whatever their clients ask for.
-/

namespace Arpi.Gralloc

open Arpi.Semantics

/-- A call of the registry, or the contents of a handle written. -/
inductive ProcessCall where
  | registry (call : RegistryCall)
  | write (handle : BufferHandle) (contents : PrivateHandle)

/-- A process with a registry. -/
def processMachine : Machine GrallocState ProcessCall Returned where
  step state
    | .registry call => registryMachine.step state call
    | .write handle contents =>
        (.code 0, { state with memory := Function.update state.memory handle contents })

namespace Process

variable (state : GrallocState)

theorem lock (handle : BufferHandle) (mapped : Option Mapping) (usage : U64) (x y w h : Int) :
    processMachine.Reaches state (gbmLock mapped handle usage x y w h state).2.2 :=
  processMachine.reaches_next state (.registry (.lock handle usage x y w h mapped))

theorem unlock (handle : BufferHandle) :
    processMachine.Reaches state (gbmUnlock handle state).2 :=
  processMachine.reaches_next state (.registry (.unlock handle))

theorem free (handle : BufferHandle) : processMachine.Reaches state (gbmFree handle state) :=
  processMachine.reaches_next state (.registry (.free handle))

theorem register (handle : BufferHandle) (accepted : Bool) :
    processMachine.Reaches state (gbmRegister accepted handle state).2 :=
  processMachine.reaches_next state (.registry (.register handle accepted))

theorem lockYcbcr (handle : BufferHandle) (mapped : Option Mapping) (usage : U64)
    (x y w h : Int) :
    processMachine.Reaches state (gbmLockYcbcr mapped handle usage x y w h state).2.2 := by
  rw [(gbmLockYcbcr_eq mapped handle usage x y w h state).1]
  exact lock state handle mapped usage x y w h

end Process

/-! ## The mapper -/

namespace Mapper

/-- What an import leaves is what the registration of the clone leaves. -/
theorem importBuffer_gralloc (duplicate : Option (BufferHandle × Int)) (accepted : Bool)
    (raw : PrivateHandle) (state : MapperState) :
    (importBuffer duplicate accepted (some raw) state).2.gralloc =
      (gbmRegister accepted (duplicate.elim 0 Prod.fst)
        (duplicate.elim state fun copy => nativeHandleClone copy raw state).gralloc).2 := by
  cases duplicate <;>
  · simp only [importBuffer, Option.elim]
    split <;> rfl

/-- What an unlock or a flush leaves is what `gbm_unlock` leaves, if it gets that far. -/
theorem giveBack_reaches (buffer : BufferHandle) (state : GrallocState) :
    processMachine.Reaches state (giveBack buffer state).2 := by
  unfold giveBack
  by_cases null : buffer = 0
  · rw [if_pos null]
    exact .refl state
  · rw [if_neg null]
    have unlocked := Process.unlock state buffer
    generalize gbmUnlock buffer state = answer at unlocked
    obtain ⟨returned, after⟩ := answer
    cases returned with
    | fault => exact unlocked
    | code result =>
        dsimp only
        split <;> exact unlocked

/-- The mapper works on its registry through the registry's calls. -/
theorem mapper_drives_process : mapperMachine.Drives processMachine (·.gralloc) := by
  intro state call
  cases call with
  | importBuffer duplicate accepted rawHandle =>
      cases rawHandle with
      | none => exact .refl _
      | some raw =>
          simp only [Machine.next, mapperMachine, importBuffer_gralloc]
          refine .trans ?_ (Process.register _ _ accepted)
          cases duplicate with
          | none => exact .refl _
          | some copy => exact processMachine.reaches_next state.gralloc (.write copy.1 _)
  | freeBuffer buffer =>
      simp only [Machine.next, mapperMachine, freeBuffer]
      by_cases null : buffer = 0
      · rw [if_pos null]
        exact .refl _
      · rw [if_neg null]
        exact Process.free state.gralloc buffer
  | lock dup mapped buffer cpuUsage accessRegion acquireFence =>
      simp only [Machine.next, mapperMachine, lock_enters]
      split
      · exact Process.lock ..
      · exact .refl _
  | unlock buffer => exact giveBack_reaches buffer state.gralloc
  | flushLockedBuffer buffer => exact giveBack_reaches buffer state.gralloc
  | rereadLockedBuffer buffer => exact .refl _

end Mapper

/-! ## The legacy module -/

/-- A registration opens the device first, and gives up if it cannot. -/
theorem gbmModRegister_reaches (device accepted : Bool) (handle : BufferHandle)
    (state : ModuleState) :
    processMachine.Reaches state.gralloc (gbmModRegister device accepted handle state).2.gralloc := by
  have opened : (gbmModInit device state).2.gralloc = state.gralloc := by
    unfold gbmModInit
    split <;> rfl
  unfold gbmModRegister
  generalize gbmModInit device state = opening at opened
  obtain ⟨ret, after⟩ := opening
  dsimp only at opened ⊢
  rw [← opened]
  split
  · exact Process.register after.gralloc handle accepted
  · exact .refl _

theorem lockYcbcr_reaches (device accepted : Bool) (mapped : Option Mapping)
    (handle : BufferHandle) (usage : U32) (x y w h : Int) (state : ModuleState) :
    processMachine.Reaches state.gralloc
      (lockYcbcr device accepted mapped handle usage x y w h state).2.2.gralloc := by
  have registered := gbmModRegister_reaches device accepted handle state
  unfold lockYcbcr
  generalize gbmModRegister device accepted handle state = registration at registered
  obtain ⟨ret, after⟩ := registration
  refine registered.trans ?_
  -- What is remembered is no concern of the registry.
  have locked (remembered : ModuleState) (same : remembered.gralloc = after.gralloc) :
      processMachine.Reaches after.gralloc (gbmModLockYcbcr mapped handle (legacyLockUsage usage)
        x y w h remembered).2.2.gralloc := by
    rw [← same]
    exact Process.lockYcbcr remembered.gralloc handle mapped (legacyLockUsage usage) x y w h
  apply locked
  split <;> rfl

theorem unlock_reaches (handle : BufferHandle) (state : ModuleState) :
    processMachine.Reaches state.gralloc (unlock handle state).2.gralloc := by
  unfold unlock
  by_cases closed : state.gbm = false
  · rw [if_pos closed]
    exact .refl _
  · rw [if_neg closed]
    have unlocked : processMachine.Reaches state.gralloc (gbmModUnlock handle state).2.gralloc :=
      Process.unlock state.gralloc handle
    generalize gbmModUnlock handle state = answer at unlocked
    obtain ⟨returned, after⟩ := answer
    cases returned with
    | fault => exact unlocked
    | code ret =>
        dsimp only
        split
        · exact unlocked
        · split
          · exact unlocked.trans (Process.free after.gralloc handle)
          · exact unlocked

/-- The legacy module works on its registry through the registry's calls. -/
theorem module_drives_process : moduleMachine.Drives processMachine (·.state.gralloc) := by
  intro tracked call
  cases call with
  | lockYcbcr device accepted mapped handle usage x y w h =>
      exact lockYcbcr_reaches device accepted mapped handle usage x y w h tracked.state
  | unlock handle => exact unlock_reaches handle tracked.state

/-! ## The allocator -/

namespace Allocator

theorem freeBuffers_reaches (buffers : List BufferHandle) (state : AllocatorState) :
    processMachine.Reaches state.gralloc (freeBuffers buffers state).gralloc :=
  .foldl (·.gralloc) (fun state buffer => Process.free state.gralloc buffer) state buffers

theorem account_gralloc (outcome : Outcome) (format : U32) (object : BoId)
    (state : AllocatorState) : (account outcome format object state).gralloc = state.gralloc := by
  unfold account
  split
  · rfl
  · dsimp only
    split
    · rfl
    · exact AllocatorState.openDescriptor_gralloc ..

theorem allocateOneBuffer_reaches (outcome : Outcome) (descriptor : BufferDescriptorInfo)
    (state : AllocatorState) :
    processMachine.Reaches state.gralloc
      (allocateOneBuffer outcome descriptor state).2.2.gralloc := by
  unfold allocateOneBuffer
  dsimp only
  rw [account_gralloc]
  unfold Gralloc.allocateOneBuffer
  have allocated := processMachine.reaches_next state.gralloc (.registry (.alloc outcome.address
    outcome.created outcome.errno descriptor.width descriptor.height descriptor.format
    (allocatedUsage descriptor.usage)))
  dsimp only
  split <;> exact allocated

/-- Each turn of the loop allocates, and the last may free what there is. -/
theorem allocateBuffers_reaches (outcomes : Nat → Outcome) (descriptor : BufferDescriptorInfo)
    (remaining index : Nat) (stride : U32) (buffers : List BufferHandle) (state : AllocatorState) :
    processMachine.Reaches state.gralloc
      (allocateBuffers outcomes descriptor remaining index stride buffers state).2.gralloc := by
  induction remaining generalizing index stride buffers state with
  | zero => exact .refl _
  | succ remaining ih =>
      have allocated := allocateOneBuffer_reaches (outcomes index) descriptor state
      unfold allocateBuffers
      generalize allocateOneBuffer (outcomes index) descriptor state = answer at allocated
      obtain ⟨status, made, after⟩ := answer
      cases made with
      | none => exact allocated.trans (freeBuffers_reaches buffers after)
      | some buffer =>
          dsimp only
          split
          · exact allocated.trans (ih ..)
          · split
            · exact allocated.trans (freeBuffers_reaches ..)
            · exact allocated.trans (ih ..)

/-- The duplications are no concern of the registry. -/
theorem duplicateBuffers_gralloc (dupToAidl : Nat → DupToAidl) (buffers : List BufferHandle)
    (index : Nat) (state : AllocatorState) :
    (duplicateBuffers dupToAidl buffers index state).2.gralloc = state.gralloc := by
  induction buffers generalizing index state with
  | nil => rfl
  | cons handle remaining ih =>
      unfold duplicateBuffers
      dsimp only
      exact ih ..

theorem allocate_reaches (maxSize : Nat) (call : AllocateCall) (state : AllocatorState) :
    processMachine.Reaches state.gralloc (allocate maxSize call state).2.gralloc := by
  unfold allocate
  cases call.decoded with
  | error ret => exact .refl _
  | ok descriptor =>
      dsimp only
      split
      · exact .refl _
      · have allocated := allocateBuffers_reaches call.outcomes descriptor call.count.toInt.toNat 0 0
          [] state
        generalize allocateBuffers call.outcomes descriptor call.count.toInt.toNat 0 0 [] state =
          answer at allocated
        obtain ⟨made, after⟩ := answer
        cases made with
        | error status => exact allocated
        | ok made =>
            have freed := freeBuffers_reaches made.2 (duplicateBuffers call.dupToAidl made.2 0 after).2
            rw [duplicateBuffers_gralloc] at freed
            exact allocated.trans freed

/-- The allocator works on its registry through the registry's calls. -/
theorem allocator_drives_process (maxSize : Nat) :
    (allocatorMachine maxSize).Drives processMachine (·.gralloc) := by
  intro state call
  cases call with
  | allocate call => exact allocate_reaches maxSize call state
  | reply result =>
      have closes (state : AllocatorState) (copy : PrivateHandle) :
          processMachine.Reaches state.gralloc (state.closeDescriptor copy.fd).gralloc :=
        .refl state.gralloc
      exact .foldl (·.gralloc) closes state result.buffers

end Allocator

/-! ## What the registry's calls keep -/

/-- A registry whose entries hold live objects, no two of them the same, with lock records
whose fields fit together. -/
structure RegistrySound (state : GrallocState) : Prop where
  live : ∀ handle bo, state.gbmBoHandleMap.find handle = some (some bo) →
    (state.bos.cells bo).isSome
  sole : ∀ handle other bo, state.gbmBoHandleMap.find handle = some (some bo) →
    state.gbmBoHandleMap.find other = some (some bo) → handle = other
  records : ∀ bo, (lockRecord state bo).Sound
  unlocked : ∀ bo, (lockRecord state bo).lockCount = 0 → (lockRecord state bo).mapData = none

namespace RecordsInvariant

theorem registrySound {state : GrallocState} (invariant : RecordsInvariant state) :
    RegistrySound state where
  live handle bo found := Option.isSome_iff_exists.mpr (invariant.entries.live handle bo found)
  sole handle other bo found again :=
    invariant.entries.sole (some bo) (by simp) handle other found again
  records := invariant.sound
  unlocked bo free := by
    by_contra mapped
    rw [(invariant.sound bo).once mapped] at free
    exact absurd free (by decide)

/-- The contents of handles are no concern of the records. -/
theorem process (state : GrallocState) (call : ProcessCall) (invariant : RecordsInvariant state) :
    RecordsInvariant (processMachine.next state call) := by
  cases call with
  | registry call => exact next state call invariant
  | write handle contents =>
      exact ⟨invariant.entries.congr ⟨rfl, fun _ => rfl⟩,
        fun bo => (invariant.sound bo).congr rfl⟩

/-- The registry of whoever works on it through its calls is sound in every state. -/
theorem always_sound {State Input Output : Type*} {user : Machine State Input Output}
    {view : State → GrallocState} (drives : user.Drives processMachine view) {state : State}
    (start : RecordsInvariant (view state)) (inputs : List Input) :
    user.Always (fun state => RegistrySound (view state)) state inputs :=
  (drives.always process start inputs).mono fun _ invariant => invariant.registrySound

end RecordsInvariant

/-- In every state that a mapper, the legacy module or an allocator reaches, whatever their
clients ask for and whatever driver and kernel answer, the registry is sound. -/
theorem registry_users_sound (memory : BufferHandle → PrivateHandle) :
    (∀ calls, Mapper.mapperMachine.Always (fun state => RegistrySound state.gralloc)
      (.fresh memory) calls) ∧
    (∀ calls, moduleMachine.Always (fun tracked => RegistrySound tracked.state.gralloc)
      (.loaded memory) calls) ∧
    ∀ maxSize calls, (Allocator.allocatorMachine maxSize).Always
      (fun state => RegistrySound state.gralloc) (.fresh memory) calls := by
  have start := RecordsInvariant.fresh memory
  refine ⟨fun calls => ?_, fun calls => ?_, fun maxSize calls => ?_⟩
  · exact RecordsInvariant.always_sound Mapper.mapper_drives_process start calls
  · exact RecordsInvariant.always_sound module_drives_process start calls
  · exact RecordsInvariant.always_sound (Allocator.allocator_drives_process maxSize) start calls

end Arpi.Gralloc
