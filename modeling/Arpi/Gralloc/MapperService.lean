import Arpi.Gralloc.Mapper
import Arpi.Gralloc.Effects
import Arpi.Semantics.Interleaving
import Mathlib.Data.Finset.Basic

/-!
# The mapper as a service

A client process calls the mapper with pointers of its own choice. Which buffers it has
imported is not kept anywhere in the mapper; it is what the answers of `importBuffer` and
the calls of `freeBuffer` say, and it is recorded here beside the run.
-/

namespace Arpi.Gralloc.Mapper

open Arpi.Semantics

/-- The calls of the mapper, with the answers of the allocator, the kernel and the driver. -/
inductive MapperCall where
  | importBuffer (duplicate : Option (BufferHandle × Int)) (accepted : Bool)
      (rawHandle : Option PrivateHandle)
  | freeBuffer (buffer : BufferHandle)
  | lock (dup : Int → Int) (mapped : Option Mapping) (buffer : BufferHandle) (cpuUsage : U64)
      (accessRegion : Rect) (acquireFence : Option FenceHandle)
  | unlock (buffer : BufferHandle)
  | flushLockedBuffer (buffer : BufferHandle)
  | rereadLockedBuffer (buffer : BufferHandle)

/-- What the mapper answers; `fault` when it reads through a null pointer. -/
inductive MapperAnswer where
  | imported (error : Error) (buffer : BufferHandle)
  | status (error : Error)
  | locked (error : Error) (data : Address)
  | unlocked (error : Error) (releaseFence : Option FenceHandle)
  | fault
deriving DecidableEq

/-- What `unlock` and `flushLockedBuffer` answer. -/
def MapperAnswer.ofUnlock : Option (Error × Option FenceHandle) → MapperAnswer
  | none => .fault
  | some (error, fence) => .unlocked error fence

/-- The mapper in one client process. -/
def mapperMachine : Machine MapperState MapperCall MapperAnswer where
  step state
    | .importBuffer duplicate accepted rawHandle =>
        let answer := importBuffer duplicate accepted rawHandle state
        (.imported answer.1.1 answer.1.2, answer.2)
    | .freeBuffer buffer =>
        let answer := freeBuffer buffer state
        (.status answer.1, answer.2)
    | .lock dup mapped buffer cpuUsage accessRegion acquireFence =>
        let answer := lock dup mapped buffer cpuUsage accessRegion acquireFence state.gralloc
        (.locked answer.1.1 answer.1.2, { state with gralloc := answer.2 })
    | .unlock buffer =>
        let answer := unlock buffer state.gralloc
        (.ofUnlock answer.1, { state with gralloc := answer.2 })
    | .flushLockedBuffer buffer =>
        let answer := flushLockedBuffer buffer state.gralloc
        (.ofUnlock answer.1, { state with gralloc := answer.2 })
    | .rereadLockedBuffer buffer => (.status (rereadLockedBuffer buffer), state)

/-- A process that has imported nothing yet. -/
def MapperState.fresh (memory : BufferHandle → PrivateHandle) : MapperState := ⟨.fresh memory, []⟩

/-- The buffers that an import has answered with and that were not freed since. -/
def trackImports (state : MapperState) (imported : Finset BufferHandle) :
    MapperCall → Finset BufferHandle
  | .importBuffer duplicate accepted rawHandle =>
      let answer := (importBuffer duplicate accepted rawHandle state).1
      if answer.1 = .none then insert answer.2 imported else imported
  | .freeBuffer buffer => imported.erase buffer
  | .lock .. | .unlock _ | .flushLockedBuffer _ | .rereadLockedBuffer _ => imported

/-- `native_handle_clone` returns neither null nor the address of a handle that is alive. -/
def CloneContract (imported : Finset BufferHandle) : MapperCall → Prop
  | .importBuffer (some copy) _ _ => copy.1 ≠ 0 ∧ copy.1 ∉ imported
  | _ => True

instance (imported : Finset BufferHandle) (call : MapperCall) :
    Decidable (CloneContract imported call) :=
  match call with
  | .importBuffer (some copy) _ _ => inferInstanceAs (Decidable (copy.1 ≠ 0 ∧ copy.1 ∉ imported))
  | .importBuffer none _ _ | .freeBuffer _ | .lock .. | .unlock _ | .flushLockedBuffer _
  | .rereadLockedBuffer _ => inferInstanceAs (Decidable True)

/-! ## What imports and frees do -/

/-- The outcomes of an import: nothing was cloned, the clone was given up again, or it was
registered for a new object. -/
inductive ImportOutcome (state : MapperState) (duplicate : Option (BufferHandle × Int)) :
    (Error × BufferHandle) × MapperState → Prop where
  | rejected : ImportOutcome state duplicate ((.badBuffer, 0), state)
  | exhausted (failed : duplicate = none) :
      ImportOutcome state duplicate
        ((.noResources, 0), ⟨state.gralloc, .delete 0 :: .close 0 :: state.handleCalls⟩)
  | refused {copy : BufferHandle × Int} (raw : PrivateHandle) (cloned : duplicate = some copy) :
      ImportOutcome state duplicate
        ((.noResources, 0), ⟨(nativeHandleClone copy raw state).gralloc,
          .delete copy.1 :: .close copy.1 :: .clone copy.1 :: state.handleCalls⟩)
  | registered {copy : BufferHandle × Int} (raw : PrivateHandle) (cloned : duplicate = some copy)
      (nonnull : copy.1 ≠ 0) (absent : state.gralloc.gbmBoHandleMap.find copy.1 = none)
      (object : Bo) (unattached : object.userData = none) {gralloc : GrallocState}
      (memory : gralloc.memory = (nativeHandleClone copy raw state).gralloc.memory)
      (holds : Holds gralloc
        (state.gralloc.gbmBoHandleMap.assign copy.1 (some state.gralloc.bos.next))
        (state.gralloc.bos.create object)) :
      ImportOutcome state duplicate
        ((.none, copy.1), ⟨gralloc, .clone copy.1 :: state.handleCalls⟩)

variable {state : MapperState}

/-- The specification of `importBuffer`. -/
theorem importBuffer_outcome (duplicate : Option (BufferHandle × Int)) (accepted : Bool)
    (rawHandle : Option PrivateHandle) :
    ImportOutcome state duplicate (importBuffer duplicate accepted rawHandle state) := by
  cases rawHandle with
  | none => exact .rejected
  | some raw =>
      cases duplicate with
      | none =>
          have failed : (-einval : Int) ≠ 0 := by decide
          have refused : gbmRegister accepted 0 state.gralloc = (-einval, state.gralloc) :=
            gbmRegister_of_present (.inl rfl)
          simp only [importBuffer, refused, if_pos failed]
          exact .exhausted rfl
      | some copy =>
          have failed : (-einval : Int) ≠ 0 := by decide
          let cloned := (nativeHandleClone copy raw state).gralloc
          rcases gbmRegister_outcome accepted copy.1 cloned with
            ⟨refused, -⟩ | ⟨⟨nonnull, entry, -⟩, registered⟩
          · simp only [importBuffer, refused, cloned, if_pos failed]
            exact .refused raw rfl
          · have absent : state.gralloc.gbmBoHandleMap.find copy.1 = none := entry
            simp only [importBuffer, registered, cloned, ne_eq, not_true, if_false]
            exact .registered raw rfl nonnull absent _ rfl rfl ⟨rfl, rfl⟩

/-- An import succeeds exactly when there is a clone at a new address, with a descriptor that
the driver accepts. -/
theorem importBuffer_succeeds_iff (duplicate : Option (BufferHandle × Int)) (accepted : Bool)
    (raw : PrivateHandle) :
    (importBuffer duplicate accepted (some raw) state).1.1 = .none ↔
      ∃ copy, duplicate = some copy ∧ copy.1 ≠ 0 ∧
        state.gralloc.gbmBoHandleMap.find copy.1 = none ∧ 0 ≤ copy.2 ∧ accepted = true := by
  have failed : (-einval : Int) ≠ 0 := by decide
  cases duplicate with
  | none =>
      have refused : gbmRegister accepted 0 state.gralloc = (-einval, state.gralloc) :=
        gbmRegister_of_present (.inl rfl)
      simp only [importBuffer, refused, if_pos failed]
      simp
  | some copy =>
      let cloned := (nativeHandleClone copy raw state).gralloc
      have descriptor : (cloned.memory copy.1).fd = copy.2 := by
        simp [cloned, nativeHandleClone]
      have succeeds_iff : ImportSucceeds accepted copy.1 cloned ↔ 0 ≤ copy.2 ∧ accepted = true := by
        rw [ImportSucceeds, descriptor]
      rcases gbmRegister_outcome accepted copy.1 cloned with
        ⟨refused, unmet⟩ | ⟨⟨nonnull, absent, succeeds⟩, registered⟩
      · simp only [importBuffer, refused, cloned, if_pos failed]
        refine iff_of_false (by simp) ?_
        rintro ⟨other, same, nonnull, absent, met⟩
        cases same
        exact unmet ⟨nonnull, absent, succeeds_iff.mpr met⟩
      · simp only [importBuffer, registered, cloned, ne_eq, not_true, if_false, true_iff]
        exact ⟨copy, rfl, nonnull, absent, succeeds_iff.mp succeeds⟩

/-- An import that fails leaves the registry as it was. -/
theorem ImportOutcome.registry {duplicate : Option (BufferHandle × Int)}
    {answer : (Error × BufferHandle) × MapperState} (outcome : ImportOutcome state duplicate answer)
    (failed : answer.1.1 ≠ .none) :
    Holds answer.2.gralloc state.gralloc.gbmBoHandleMap state.gralloc.bos := by
  cases outcome with
  | rejected => exact ⟨rfl, rfl⟩
  | exhausted => exact ⟨rfl, rfl⟩
  | refused => exact ⟨rfl, rfl⟩
  | registered => exact absurd rfl failed

theorem freeBuffer_null : freeBuffer 0 state = (.badBuffer, state) := rfl

/-- A free of any other pointer closes and deletes what it points to. -/
theorem freeBuffer_of_nonnull {buffer : BufferHandle} (nonnull : buffer ≠ 0) :
    freeBuffer buffer state =
      (.none, ⟨gbmFree buffer state.gralloc,
        .delete buffer :: .close buffer :: state.handleCalls⟩) := by
  unfold freeBuffer
  rw [if_neg nonnull]
  rfl

end Arpi.Gralloc.Mapper
