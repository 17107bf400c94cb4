import Arpi.Gralloc.Allocator
import Arpi.Semantics.Machine
import Mathlib.Data.Finmap

/-!
# The allocator as a service

`Allocator::allocate` makes a batch of buffers in the allocator's process, hands out
duplicates of them and frees them again. Beside the registry the process holds private
handles on its heap, and open descriptors: those of the handles, and the duplicates that it
has handed out and whose replies are still to be sent.
-/

namespace Arpi.Gralloc.Allocator

open Arpi.Semantics

/-- The open descriptors, each with the object whose memory it refers to. -/
abbrev Descriptors := Finmap fun _ : Int => BoId

/-- The registry of the allocator's process, its private handles and its descriptors. -/
structure AllocatorState where
  gralloc : GrallocState
  handles : Finset BufferHandle
  descriptors : Descriptors

/-- How one allocation goes: the address that `new` returns, what `gbm_bo_create` yields,
and the `errno` it leaves if it fails. -/
structure Outcome where
  address : BufferHandle
  created : Option CreatedBo
  errno : Int

namespace AllocatorState

/-- A process that has allocated nothing yet. -/
def fresh (memory : BufferHandle → PrivateHandle) : AllocatorState := ⟨.fresh memory, ∅, ∅⟩

/-- `new private_handle_t`. -/
def newHandle (state : AllocatorState) (address : BufferHandle) : AllocatorState :=
  { state with handles := insert address state.handles }

/-- `native_handle_delete`, and `delete` in `freeBuffers`. -/
def deleteHandle (state : AllocatorState) (address : BufferHandle) : AllocatorState :=
  { state with handles := state.handles.erase address }

/-- `gbm_bo_get_fd` of an object, which opens nothing if it fails. -/
def openDescriptor (state : AllocatorState) (fd : Int) (object : BoId) : AllocatorState :=
  if 0 ≤ fd then { state with descriptors := state.descriptors.insert fd object } else state

/-- `native_handle_close` of a handle with this descriptor. -/
def closeDescriptor (state : AllocatorState) (fd : Int) : AllocatorState :=
  { state with descriptors := state.descriptors.erase fd }

section Descriptors

variable (state : AllocatorState) (fd : Int) (object : BoId)

@[simp] theorem openDescriptor_gralloc :
    (state.openDescriptor fd object).gralloc = state.gralloc := by
  unfold openDescriptor
  split <;> rfl

@[simp] theorem openDescriptor_handles :
    (state.openDescriptor fd object).handles = state.handles := by
  unfold openDescriptor
  split <;> rfl

theorem lookup_openDescriptor_of_ne {other : Int} (different : other ≠ fd) :
    (state.openDescriptor fd object).descriptors.lookup other = state.descriptors.lookup other := by
  unfold openDescriptor
  split
  · exact Finmap.lookup_insert_of_ne _ different
  · rfl

theorem lookup_openDescriptor_self (closed : state.descriptors.lookup fd = none) :
    (state.openDescriptor fd object).descriptors.lookup fd =
      if 0 ≤ fd then some object else none := by
  unfold openDescriptor
  split
  · exact Finmap.lookup_insert _
  · exact closed

end Descriptors

end AllocatorState

/-- The heap and the descriptors after `gralloc_gbm_bo_create`, which is not called for an
unknown format and deletes the new handle again when there is no object. -/
def account (outcome : Outcome) (format : U32) (object : BoId) (state : AllocatorState) :
    AllocatorState :=
  if grallocGbmGetBpp format = 0 then state
  else
    let state := state.newHandle outcome.address
    match outcome.created with
    | none => state.deleteHandle outcome.address
    | some bo => state.openDescriptor bo.fd object

/-- `Allocator::allocateOneBuffer` in the allocator's process. -/
def allocateOneBuffer (outcome : Outcome) (descriptor : BufferDescriptorInfo)
    (state : AllocatorState) : Int × Option (BufferHandle × U32) × AllocatorState :=
  match Gralloc.allocateOneBuffer outcome.address outcome.created outcome.errno descriptor
      state.gralloc with
  | (status, allocated, gralloc) =>
      (status, allocated, account outcome descriptor.format state.gralloc.bos.next
        { state with gralloc := gralloc })

/-- One turn of `freeBuffers`. -/
def freeBuffer (buffer : BufferHandle) (state : AllocatorState) : AllocatorState :=
  let state := { state with gralloc := gbmFree buffer state.gralloc }
  let state := state.closeDescriptor (state.gralloc.memory buffer).fd
  state.deleteHandle buffer

/-- `Allocator::freeBuffers`. -/
def freeBuffers (buffers : List BufferHandle) (state : AllocatorState) : AllocatorState :=
  buffers.foldl (fun state buffer => freeBuffer buffer state) state

/-- `STATUS_UNKNOWN_ERROR`. -/
def statusUnknownError : Int := -2147483648

/-- The first loop of `allocate`, with the turns that remain. -/
def allocateBuffers (outcomes : Nat → Outcome) (descriptor : BufferDescriptorInfo) :
    Nat → Nat → U32 → List BufferHandle → AllocatorState →
      Except Int (U32 × List BufferHandle) × AllocatorState
  | 0, _, stride, buffers, state => (.ok (stride, buffers), state)
  | remaining + 1, index, stride, buffers, state =>
      match allocateOneBuffer (outcomes index) descriptor state with
      | (status, none, state) => (.error status, freeBuffers buffers state)
      | (_, some (tmpBuffer, tmpStride), state) =>
          let buffers := buffers ++ [tmpBuffer]
          if stride = 0 then
            allocateBuffers outcomes descriptor remaining (index + 1) tmpStride buffers state
          else if stride ≠ tmpStride then
            (.error statusUnknownError, freeBuffers buffers state)
          else allocateBuffers outcomes descriptor remaining (index + 1) stride buffers state

/-- `AllocationResult`. -/
structure AllocationResult where
  stride : U32
  buffers : List PrivateHandle
deriving DecidableEq

/-- `::android::dupToAidl` of a handle in a process with these descriptors: the copy, whose
words the result keeps as those of a handle, and the descriptors that are open then. -/
abbrev DupToAidl := Descriptors → PrivateHandle → PrivateHandle × Descriptors

/-- A call of `allocate`: the decoded descriptor, the count, the result to fill in, how each
allocation would go, and how each duplication does. -/
structure AllocateCall where
  decoded : Except Int BufferDescriptorInfo
  count : U32
  outResult : AllocationResult
  outcomes : Nat → Outcome
  dupToAidl : Nat → DupToAidl

/-- The second loop of `allocate`, with the buffers that remain. -/
def duplicateBuffers (dupToAidl : Nat → DupToAidl) :
    List BufferHandle → Nat → AllocatorState → List PrivateHandle × AllocatorState
  | [], _, state => ([], state)
  | handle :: remaining, index, state =>
      match dupToAidl index state.descriptors (state.gralloc.memory handle) with
      | (copy, descriptors) =>
          match duplicateBuffers dupToAidl remaining (index + 1)
              { state with descriptors := descriptors } with
          | (copies, state) => (copy :: copies, state)

/-- `Allocator::allocate`: a status and the result, or nothing when it aborts because
`reserve` throws. The count is widened to a `size_t` for `reserve`. -/
def allocate (maxSize : Nat) (call : AllocateCall) (state : AllocatorState) :
    Option (Int × AllocationResult) × AllocatorState :=
  match call.decoded with
  | .error ret => (some (ret, call.outResult), state)
  | .ok descriptor =>
      if (call.count.signExtend 64).toNat > maxSize then (none, state)
      else
        match allocateBuffers call.outcomes descriptor call.count.toInt.toNat 0 0 [] state with
        | (.error status, state) => (some (status, call.outResult), state)
        | (.ok (stride, buffers), state) =>
            match duplicateBuffers call.dupToAidl buffers 0 state with
            | (copies, state) => (some (0, ⟨stride, copies⟩), freeBuffers buffers state)

/-- A client calls `allocate`, or the reply with a result is sent, after which the descriptors
of the result are closed. -/
inductive AllocatorCall where
  | allocate (call : AllocateCall)
  | reply (result : AllocationResult)

/-- A property of the calls of `allocate`. -/
def AllocatorCall.Allocates (property : AllocateCall → Prop) : AllocatorCall → Prop
  | .allocate call => property call
  | .reply _ => True

/-- The allocator serving one call after the other. -/
def allocatorMachine (maxSize : Nat) :
    Machine AllocatorState AllocatorCall (Option (Int × AllocationResult)) where
  step state
    | .allocate call => allocate maxSize call state
    | .reply result =>
        (some (0, result),
          result.buffers.foldl (fun state copy => state.closeDescriptor copy.fd) state)

end Arpi.Gralloc.Allocator
