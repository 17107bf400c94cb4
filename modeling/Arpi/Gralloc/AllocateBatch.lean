import Arpi.Gralloc.AllocatorService
import Arpi.Gralloc.Effects
import Arpi.Semantics.Holdings

/-!
# Batches of allocations

While `allocate` builds its batch, the process is as it was before the call except for the
buffers made so far: the lease of each says what it added. However the loop ends, every
lease can be given back, and nothing is left of it.
-/

namespace Arpi.Gralloc.Allocator

open Arpi.Semantics

/-- The registry, the live objects and the private handles are the same, and so is what each
descriptor refers to, except for those that are handed out. -/
structure SameHoldings (handedOut : List Int) (before after : AllocatorState) : Prop where
  entries : after.gralloc.gbmBoHandleMap = before.gralloc.gbmBoHandleMap
  objects : after.gralloc.bos.cells = before.gralloc.bos.cells
  handles : after.handles = before.handles
  descriptors : AgreeOff handedOut before.descriptors.lookup after.descriptors.lookup

/-- The contents of a new buffer once its object was created. -/
def madeContents (descriptor : BufferDescriptorInfo) (bo : CreatedBo) : PrivateHandle :=
  { PrivateHandle.new bo.stride descriptor.width descriptor.height descriptor.format
      (allocatedUsage descriptor.usage) with fd := bo.fd }

/-- What `::android::dupToAidl` does: it copies the words of a handle, `dup` of an open
descriptor opens another for the same object, and `dup` of anything else opens nothing. -/
structure DupToAidlContract (dupToAidl : DupToAidl) : Prop where
  words : ∀ descriptors handle, (dupToAidl descriptors handle).1 =
    { handle with fd := (dupToAidl descriptors handle).1.fd }
  opened : ∀ descriptors handle object, descriptors.lookup handle.fd = some object →
    0 ≤ (dupToAidl descriptors handle).1.fd ∧
      descriptors.lookup (dupToAidl descriptors handle).1.fd = none ∧
      (dupToAidl descriptors handle).2 =
        descriptors.insert (dupToAidl descriptors handle).1.fd object
  unopened : ∀ descriptors handle, descriptors.lookup handle.fd = none →
    (dupToAidl descriptors handle).1.fd = -1 ∧ (dupToAidl descriptors handle).2 = descriptors

/-- What the call relies on: a failed decode has a status, `new` returns addresses that are
not in use, a failed `gbm_bo_create` leaves an `errno`, a successful one has at least a pixel
in a row, `gbm_bo_get_fd` returns descriptors that are not open, so never one of the batch
twice, and `::android::dupToAidl` duplicates. -/
structure AllocateContract (state : AllocatorState) (call : AllocateCall) : Prop where
  decoding : ∀ ret, call.decoded = .error ret → ret ≠ 0
  unused : ∀ index, (call.outcomes index).address ∉ state.handles
  distinct : Function.Injective fun index => (call.outcomes index).address
  errno : ∀ index, (call.outcomes index).created = none → (call.outcomes index).errno ≠ 0
  stride : ∀ index bo descriptor, (call.outcomes index).created = some bo →
    call.decoded = .ok descriptor → grallocGbmGetBpp descriptor.format ≤ bo.stride
  descriptor : ∀ index bo, (call.outcomes index).created = some bo →
    state.descriptors.lookup bo.fd = none
  descriptors : ∀ first second bo other, (call.outcomes first).created = some bo →
    (call.outcomes second).created = some other → 0 ≤ bo.fd → bo.fd = other.fd → first = second
  duplication : ∀ index, DupToAidlContract (call.dupToAidl index)

theorem SameHoldings.refl (state : AllocatorState) : SameHoldings [] state state :=
  ⟨rfl, rfl, rfl, .refl _⟩

/-- Only private handles are registered. -/
def HandlesRegistered (state : AllocatorState) : Prop :=
  ∀ handle, state.gralloc.gbmBoHandleMap.find handle ≠ none → handle ∈ state.handles

/-! ## One buffer -/

/-- What `allocateOneBuffer` does: nothing, or it makes a buffer at the new address. -/
inductive BufferOutcome (state : AllocatorState) (outcome : Outcome)
    (descriptor : BufferDescriptorInfo) : Int × Option (BufferHandle × U32) × AllocatorState → Prop
  | failed {status : Int} {after : AllocatorState} (nonzero : status ≠ 0)
      (same : SameHoldings [] state after)
      (memory : ∀ handle, handle ≠ outcome.address →
        after.gralloc.memory handle = state.gralloc.memory handle)
      (later : after.gralloc.bos.next = state.gralloc.bos.next) :
      BufferOutcome state outcome descriptor (status, none, after)
  | made {bo : CreatedBo} {after : AllocatorState}
      (created : outcome.created = some bo) (known : grallocGbmGetBpp descriptor.format ≠ 0)
      (entries : after.gralloc.gbmBoHandleMap = state.gralloc.gbmBoHandleMap.assign
        outcome.address (some state.gralloc.bos.next))
      (objects : ∃ object, after.gralloc.bos = state.gralloc.bos.create object)
      (memory : after.gralloc.memory = Function.update state.gralloc.memory outcome.address
        (madeContents descriptor bo))
      (handles : after.handles = insert outcome.address state.handles)
      (next : after.gralloc.bos.next = state.gralloc.bos.next + 1)
      (descriptors : after.descriptors =
        (state.openDescriptor bo.fd state.gralloc.bos.next).descriptors) :
      BufferOutcome state outcome descriptor
        (0, some (outcome.address, bo.stride / grallocGbmGetBpp descriptor.format), after)

/-- The specification of `allocateOneBuffer` at an address that is not in use. -/
theorem allocateOneBuffer_outcome {state : AllocatorState} {outcome : Outcome}
    (descriptor : BufferDescriptorInfo)
    (absent : state.gralloc.gbmBoHandleMap.find outcome.address = none)
    (unused : outcome.address ∉ state.handles)
    (errno : outcome.created = none → outcome.errno ≠ 0) :
    BufferOutcome state outcome descriptor (allocateOneBuffer outcome descriptor state) := by
  by_cases unknown : grallocGbmGetBpp descriptor.format = 0
  · have refused : allocateOneBuffer outcome descriptor state = (-einval, none, state) := by
      simp [allocateOneBuffer, Gralloc.allocateOneBuffer, gbmAlloc, account, unknown, einval]
    rw [refused]
    exact .failed (by decide) (.refl state) (fun _ _ => rfl) rfl
  cases created : outcome.created with
  | none =>
      have status : -outcome.errno ≠ 0 := by
        have nonzero := errno created
        omega
      simp only [allocateOneBuffer, Gralloc.allocateOneBuffer, gbmAlloc, account, if_neg unknown,
        created, grallocGbmBoCreate, gbmAllocBo, if_pos status]
      refine .failed status ⟨rfl, rfl, ?_, .refl _⟩ (fun handle different => ?_) rfl
      · exact Finset.erase_insert unused
      · exact Function.update_of_ne different _ _
  | some bo =>
      simp only [allocateOneBuffer, Gralloc.allocateOneBuffer, gbmAlloc, account, if_neg unknown,
        created, grallocGbmBoCreate, gbmAllocBo, Function.update_self, ne_eq, not_true, if_false,
        Option.getD_some]
      refine .made created unknown ?_ ?_ ?_ ?_ ?_ ?_
      · simp only [AllocatorState.openDescriptor_gralloc, AllocatorState.newHandle]
        exact UnorderedMap.emplace_of_absent absent
      · simp only [AllocatorState.openDescriptor_gralloc, AllocatorState.newHandle]
        exact ⟨_, rfl⟩
      · simp only [AllocatorState.openDescriptor_gralloc, AllocatorState.newHandle,
          Function.update_idem]
        rfl
      · exact AllocatorState.openDescriptor_handles ..
      · simp only [AllocatorState.openDescriptor_gralloc, AllocatorState.newHandle]
        rfl
      · unfold AllocatorState.openDescriptor
        split <;> rfl

/-! ## Leases -/

/-- A buffer of the batch: its handle, its object and what the handle contains. -/
structure Lease where
  handle : BufferHandle
  bo : BoId
  contents : PrivateHandle

/-- The descriptor of a buffer. -/
def Lease.fd (lease : Lease) : Int := lease.contents.fd

/-- What the descriptor of a buffer refers to, if the buffer has one. -/
def Lease.file (lease : Lease) : Option BoId := if 0 ≤ lease.fd then some lease.bo else none

/-- What a lease holds now, none of which existed before. -/
structure Leases (before now : AllocatorState) (lease : Lease) : Prop where
  entry : now.gralloc.gbmBoHandleMap.find lease.handle = some (some lease.bo)
  contents : now.gralloc.memory lease.handle = lease.contents
  newEntry : before.gralloc.gbmBoHandleMap.find lease.handle = none
  newObject : before.gralloc.bos.cells lease.bo = none
  newHandle : lease.handle ∉ before.handles
  newDescriptor : before.descriptors.lookup lease.fd = none

/-- The state now is the state before and the leases. -/
structure Leased (before now : AllocatorState) (leases : List Lease) : Prop where
  entries : AgreeOff (leases.map Lease.handle) before.gralloc.gbmBoHandleMap.find
    now.gralloc.gbmBoHandleMap.find
  objects : AgreeOff (leases.map Lease.bo) before.gralloc.bos.cells now.gralloc.bos.cells
  handles : AgreeOff (leases.map Lease.handle) (· ∈ before.handles) (· ∈ now.handles)
  descriptors : AgreeOff (leases.map Lease.fd) before.descriptors.lookup now.descriptors.lookup
  each : ∀ lease ∈ leases, Leases before now lease
  distinct : (leases.map Lease.handle).Nodup
  later : before.gralloc.bos.next ≤ now.gralloc.bos.next

namespace Leased

variable {before now after : AllocatorState} {lease : Lease} {leases : List Lease}

theorem refl (state : AllocatorState) : Leased state state [] where
  entries := .refl _
  objects := .refl _
  handles := .refl _
  descriptors := .refl _
  each _ member := absurd member List.not_mem_nil
  distinct := List.nodup_nil
  later := le_rfl

/-- When every lease is given back, everything is as before. -/
theorem sameHoldings (leased : Leased before now []) : SameHoldings [] before now where
  entries := UnorderedMap.ext leased.entries.eq
  objects := leased.objects.eq
  handles := Finset.ext fun handle => iff_of_eq (congrFun leased.handles.eq handle)
  descriptors := leased.descriptors

/-- Freeing the buffer of a lease gives the lease back. -/
theorem freeBuffer (leased : Leased before now (lease :: leases)) :
    Leased before (Allocator.freeBuffer lease.handle now) leases := by
  have held := leased.each lease List.mem_cons_self
  obtain ⟨notAgain, distinct⟩ := List.nodup_cons.mp leased.distinct
  have freed := gbmFree_of_live held.entry
  have fd : (now.gralloc.memory lease.handle).fd = lease.fd := by rw [held.contents, Lease.fd]
  simp only [Allocator.freeBuffer, AllocatorState.closeDescriptor, AllocatorState.deleteHandle,
    freed, fd]
  refine ⟨?_, ?_, ?_, ?_, ?_, distinct, leased.later⟩
  · apply leased.entries.giveBack
    · rw [held.newEntry, UnorderedMap.find_erase_self]
    · exact fun other different => UnorderedMap.find_erase_of_ne different
  · apply leased.objects.giveBack
    · rw [held.newObject, Store.destroy_cells_self]
    · exact fun other different => Store.destroy_cells_of_ne different
  · apply leased.handles.giveBack
    · simp [held.newHandle]
    · intro other different
      simp [different]
  · apply leased.descriptors.giveBack
    · rw [held.newDescriptor, Finmap.lookup_erase]
    · exact fun other different => Finmap.lookup_erase_ne different
  · intro other member
    have still := leased.each other (List.mem_cons_of_mem lease member)
    have different : other.handle ≠ lease.handle := by
      intro same
      exact notAgain (same ▸ List.mem_map_of_mem member)
    refine ⟨?_, still.contents, still.newEntry, still.newObject, still.newHandle,
      still.newDescriptor⟩
    rw [UnorderedMap.find_erase_of_ne different]
    exact still.entry

/-- Freeing the buffers of all leases gives all of them back. -/
theorem freeBuffers (leased : Leased before now leases) :
    SameHoldings [] before (Allocator.freeBuffers (leases.map Lease.handle) now) := by
  induction leases generalizing now with
  | nil => exact leased.sameHoldings
  | cons lease leases ih => exact ih leased.freeBuffer

/-- A buffer that failed leaves the leases as they are. -/
theorem failed (leased : Leased before now leases) (same : SameHoldings [] now after)
    (memory : ∀ lease ∈ leases,
      after.gralloc.memory lease.handle = now.gralloc.memory lease.handle)
    (later : after.gralloc.bos.next = now.gralloc.bos.next) : Leased before after leases where
  entries := by rw [same.entries]; exact leased.entries
  objects := by rw [same.objects]; exact leased.objects
  handles := by rw [same.handles]; exact leased.handles
  descriptors := by rw [same.descriptors.eq]; exact leased.descriptors
  each := by
    intro lease member
    obtain ⟨entry, contents, newEntry, newObject, newHandle, newDescriptor⟩ :=
      leased.each lease member
    refine ⟨?_, (memory lease member).trans contents, newEntry, newObject, newHandle,
      newDescriptor⟩
    rw [same.entries]
    exact entry
  distinct := leased.distinct
  later := by rw [later]; exact leased.later

/-- A buffer that was made is one more lease. -/
theorem made (leased : Leased before now leases) {outcome : Outcome}
    {descriptor : BufferDescriptorInfo} {bo : CreatedBo}
    (entries : after.gralloc.gbmBoHandleMap = now.gralloc.gbmBoHandleMap.assign
      outcome.address (some now.gralloc.bos.next))
    (objects : ∃ object, after.gralloc.bos = now.gralloc.bos.create object)
    (memory : after.gralloc.memory = Function.update now.gralloc.memory outcome.address
      (madeContents descriptor bo))
    (handles : after.handles = insert outcome.address now.handles)
    (descriptors : after.descriptors =
      (now.openDescriptor bo.fd now.gralloc.bos.next).descriptors)
    (newEntry : before.gralloc.gbmBoHandleMap.find outcome.address = none)
    (newHandle : outcome.address ∉ before.handles)
    (newDescriptor : before.descriptors.lookup bo.fd = none)
    (other : outcome.address ∉ leases.map Lease.handle) :
    Leased before after
      (leases ++ [⟨outcome.address, now.gralloc.bos.next, madeContents descriptor bo⟩]) := by
  obtain ⟨object, objects⟩ := objects
  constructor
  · rw [List.map_append, entries]
    exact leased.entries.take fun other different => UnorderedMap.find_assign_of_ne different
  · rw [List.map_append, objects]
    exact leased.objects.take fun other different => Store.create_cells_of_ne different
  · rw [List.map_append, handles]
    apply leased.handles.take
    intro other different
    exact propext (Finset.mem_insert.trans (or_iff_right different))
  · rw [List.map_append, descriptors]
    exact leased.descriptors.take fun fd different =>
      AllocatorState.lookup_openDescriptor_of_ne _ _ _ different
  · intro lease member
    rcases List.mem_append.mp member with older | new
    · have held := leased.each lease older
      have different : lease.handle ≠ outcome.address := by
        intro same
        exact other (same ▸ List.mem_map_of_mem older)
      refine ⟨?_, ?_, held.newEntry, held.newObject, held.newHandle, held.newDescriptor⟩
      · rw [entries, UnorderedMap.find_assign_of_ne different]
        exact held.entry
      · rw [memory, Function.update_of_ne different]
        exact held.contents
    · obtain rfl := List.mem_singleton.mp new
      refine ⟨?_, ?_, newEntry, before.gralloc.bos.fresh _ leased.later, newHandle, newDescriptor⟩
      · rw [entries, UnorderedMap.find_assign_self]
      · rw [memory, Function.update_self]
  · rw [List.map_append]
    refine List.nodup_append.mpr ⟨leased.distinct, List.nodup_singleton _, ?_⟩
    intro first old second new same
    have address : first = outcome.address := by
      rw [same, List.mem_singleton.mp new]
    exact other (address ▸ old)
  · have later := leased.later
    rw [objects]
    exact Nat.le_succ_of_le later

end Leased

/-! ## The loop -/

/-- The lease of a turn of the loop, with the stride that all turns share. -/
structure MadeBy (descriptor : BufferDescriptorInfo) (outcome : Outcome) (stride : U32)
    (object : BoId) (lease : Lease) : Prop where
  handle : lease.handle = outcome.address
  bo : lease.bo = object
  created : ∃ bo, outcome.created = some bo ∧ lease.contents = madeContents descriptor bo ∧
    bo.stride / grallocGbmGetBpp descriptor.format = stride

/-- The loop after some turns: every turn has added its lease, the descriptors of the leases
are open, and the stride is zero only before the first turn. -/
structure Progress (before now : AllocatorState) (outcomes : Nat → Outcome)
    (descriptor : BufferDescriptorInfo) (turns : Nat) (stride : U32)
    (buffers : List BufferHandle) (leases : List Lease) : Prop where
  leased : Leased before now leases
  buffers : buffers = leases.map Lease.handle
  length : leases.length = turns
  made : ∀ turn lease, leases[turn]? = some lease →
    MadeBy descriptor (outcomes turn) stride (before.gralloc.bos.next + turn) lease
  created : now.gralloc.bos.next = before.gralloc.bos.next + turns
  opened : ∀ lease ∈ leases, now.descriptors.lookup lease.fd = lease.file
  started : stride = 0 → leases = []

/-- How the loop ends: with an error and without leases, or after all its turns. -/
inductive LoopOutcome (before : AllocatorState) (outcomes : Nat → Outcome)
    (descriptor : BufferDescriptorInfo) (turns : Nat) :
    Except Int (U32 × List BufferHandle) × AllocatorState → Prop
  | failed {status : Int} {after : AllocatorState} (nonzero : status ≠ 0)
      (same : SameHoldings [] before after) :
      LoopOutcome before outcomes descriptor turns (.error status, after)
  | finished {stride : U32} {buffers : List BufferHandle} {after : AllocatorState}
      (leases : List Lease)
      (progress : Progress before after outcomes descriptor turns stride buffers leases) :
      LoopOutcome before outcomes descriptor turns (.ok (stride, buffers), after)

/-- A row of at least one pixel has a stride in pixels. -/
theorem pixels_ne_zero {stride bpp : U32} (known : bpp ≠ 0) (pixel : bpp ≤ stride) :
    stride / bpp ≠ 0 := by
  intro zero
  have quotient : stride.toNat / bpp.toNat = 0 := by
    rw [← BitVec.toNat_udiv, zero]
    rfl
  have positive : 0 < bpp.toNat := by
    rw [Nat.pos_iff_ne_zero]
    exact fun none => known (BitVec.eq_of_toNat_eq none)
  exact absurd ((Nat.div_eq_zero_iff_lt positive).mp quotient) (Nat.not_lt.mpr pixel)

section Loop

variable {before now after : AllocatorState} {outcomes : Nat → Outcome}
  {descriptor : BufferDescriptorInfo} {turns : Nat} {stride : U32}
  {buffers : List BufferHandle} {leases : List Lease} {call : AllocateCall}

/-- The address of the next turn is not that of a lease. -/
theorem Progress.other
    (progress : Progress before now outcomes descriptor turns stride buffers leases)
    (distinct : Function.Injective fun index => (outcomes index).address) :
    (outcomes turns).address ∉ leases.map Lease.handle := by
  intro member
  obtain ⟨lease, held, same⟩ := List.mem_map.mp member
  obtain ⟨turn, found⟩ := List.mem_iff_getElem?.mp held
  obtain rfl : turn = turns := distinct ((progress.made turn lease found).handle.symm.trans same)
  obtain ⟨bound, -⟩ := List.getElem?_eq_some_iff.mp found
  rw [progress.length] at bound
  exact absurd bound (Nat.lt_irrefl turn)

/-- The descriptor of the next turn is not that of a lease. -/
theorem Progress.fd_ne
    (progress : Progress before now call.outcomes descriptor turns stride buffers leases)
    (contract : AllocateContract before call)
    {bo : CreatedBo} (created : (call.outcomes turns).created = some bo) (proper : 0 ≤ bo.fd)
    {lease : Lease} (member : lease ∈ leases) : lease.fd ≠ bo.fd := by
  intro same
  obtain ⟨turn, found⟩ := List.mem_iff_getElem?.mp member
  obtain ⟨older, made, contents, -⟩ := (progress.made turn lease found).created
  have fd : bo.fd = older.fd := by
    rw [← same, Lease.fd, contents]
    rfl
  obtain rfl : turns = turn := contract.descriptors turns turn bo older created made proper fd
  obtain ⟨bound, -⟩ := List.getElem?_eq_some_iff.mp found
  rw [progress.length] at bound
  exact absurd bound (Nat.lt_irrefl turns)

/-- The descriptor of the next turn is not open. -/
theorem Progress.closed
    (progress : Progress before now call.outcomes descriptor turns stride buffers leases)
    (contract : AllocateContract before call)
    {bo : CreatedBo} (created : (call.outcomes turns).created = some bo) :
    now.descriptors.lookup bo.fd = none := by
  by_cases taken : bo.fd ∈ leases.map Lease.fd
  · obtain ⟨lease, member, same⟩ := List.mem_map.mp taken
    have negative : ¬ 0 ≤ lease.fd := fun proper =>
      progress.fd_ne contract created (same ▸ proper) member same
    rw [← same, progress.opened lease member, Lease.file, if_neg negative]
  · exact (progress.leased.descriptors _ taken).trans (contract.descriptor turns bo created)

/-- The next turn opens the descriptor of its buffer and leaves the others as they are. -/
theorem Progress.stillOpened
    (progress : Progress before now call.outcomes descriptor turns stride buffers leases)
    (contract : AllocateContract before call)
    {bo : CreatedBo} (created : (call.outcomes turns).created = some bo)
    (descriptors : after.descriptors =
      (now.openDescriptor bo.fd now.gralloc.bos.next).descriptors) :
    ∀ lease ∈ leases ++
        [⟨(call.outcomes turns).address, now.gralloc.bos.next, madeContents descriptor bo⟩],
      after.descriptors.lookup lease.fd = lease.file := by
  intro lease member
  rw [descriptors]
  rcases List.mem_append.mp member with older | new
  · rw [← progress.opened lease older]
    by_cases proper : 0 ≤ bo.fd
    · exact AllocatorState.lookup_openDescriptor_of_ne _ _ _
        (progress.fd_ne contract created proper older)
    · rw [AllocatorState.openDescriptor, if_neg proper]
  · obtain rfl := List.mem_singleton.mp new
    exact AllocatorState.lookup_openDescriptor_self _ _ _
      (progress.closed contract created)

/-- A turn that made a buffer of the right stride. -/
theorem Progress.next
    (progress : Progress before now outcomes descriptor turns stride buffers leases)
    {lease : Lease} (leased : Leased before after (leases ++ [lease])) {next : U32}
    (proper : next ≠ 0)
    (made : MadeBy descriptor (outcomes turns) next (before.gralloc.bos.next + turns) lease)
    (created : after.gralloc.bos.next = before.gralloc.bos.next + (turns + 1))
    (opened : ∀ other ∈ leases ++ [lease], after.descriptors.lookup other.fd = other.file)
    (same : stride = 0 ∨ stride = next) :
    Progress before after outcomes descriptor (turns + 1) next (buffers ++ [lease.handle])
      (leases ++ [lease]) where
  leased := leased
  buffers := by rw [progress.buffers, List.map_append, List.map_singleton]
  length := by rw [List.length_append, progress.length, List.length_singleton]
  made := by
    intro turn other found
    rcases Nat.lt_or_ge turn leases.length with older | new
    · rw [List.getElem?_append_left older] at found
      rcases same with unset | rfl
      · rw [progress.started unset] at older
        exact absurd older (Nat.not_lt_zero turn)
      · exact progress.made turn other found
    · rw [List.getElem?_append_right new, List.getElem?_singleton] at found
      split at found
      · obtain rfl := Option.some.inj found
        have last : turn = turns := by
          have length := progress.length
          omega
        rwa [last]
      · cases found
  created := created
  opened := opened
  started zero := absurd zero proper

/-- The specification of the loop: every turn keeps the progress, and every way out of it
gives the leases back or returns them all. -/
theorem allocateBuffers_outcome (registered : HandlesRegistered before)
    (contract : AllocateContract before call) (decoded : call.decoded = .ok descriptor)
    (remaining : Nat)
    (progress : Progress before now call.outcomes descriptor turns stride buffers leases) :
    LoopOutcome before call.outcomes descriptor (turns + remaining)
      (allocateBuffers call.outcomes descriptor remaining turns stride buffers now) := by
  induction remaining generalizing now turns stride buffers leases with
  | zero => exact .finished leases progress
  | succ remaining ih =>
      have unused := contract.unused turns
      have other := progress.other contract.distinct
      have newEntry : before.gralloc.gbmBoHandleMap.find (call.outcomes turns).address = none := by
        by_contra entry
        exact unused (registered _ entry)
      have absent : now.gralloc.gbmBoHandleMap.find (call.outcomes turns).address = none :=
        (progress.leased.entries _ other).trans newEntry
      have free : (call.outcomes turns).address ∉ now.handles := by
        have same := progress.leased.handles _ other
        exact fun member => unused (same.mp member)
      have outcome := allocateOneBuffer_outcome descriptor absent free (contract.errno turns)
      rw [allocateBuffers]
      generalize allocateOneBuffer (call.outcomes turns) descriptor now = answer at outcome ⊢
      cases outcome with
      | failed nonzero same memory later =>
          refine .failed nonzero ?_
          rw [progress.buffers]
          apply Leased.freeBuffers
          refine progress.leased.failed same (fun lease member => memory _ ?_) later
          intro address
          exact other (address ▸ List.mem_map_of_mem member)
      | @made bo after created known entries objects memory handles next descriptors =>
          have closed := contract.descriptor turns bo created
          have leased := progress.leased.made entries objects memory handles descriptors newEntry
            unused closed other
          have opened := progress.stillOpened contract created descriptors
          have latest : after.gralloc.bos.next = before.gralloc.bos.next + (turns + 1) := by
            rw [next, progress.created, Nat.add_assoc]
          have proper : bo.stride / grallocGbmGetBpp descriptor.format ≠ 0 :=
            pixels_ne_zero known (contract.stride turns bo descriptor created decoded)
          have made : MadeBy descriptor (call.outcomes turns)
              (bo.stride / grallocGbmGetBpp descriptor.format) (before.gralloc.bos.next + turns)
              ⟨(call.outcomes turns).address, now.gralloc.bos.next, madeContents descriptor bo⟩ :=
            ⟨rfl, progress.created, bo, created, rfl, rfl⟩
          have count : turns + (remaining + 1) = turns + 1 + remaining := by omega
          dsimp only
          rw [count]
          by_cases unset : stride = 0
          · rw [if_pos unset]
            exact ih (progress.next leased proper made latest opened (.inl unset))
          rw [if_neg unset]
          by_cases differs : stride ≠ bo.stride / grallocGbmGetBpp descriptor.format
          · rw [if_pos differs]
            refine .failed (by decide) ?_
            have freed := leased.freeBuffers
            rw [List.map_append, ← progress.buffers] at freed
            exact freed
          · rw [if_neg differs]
            have same := not_not.mp differs
            have turned := progress.next leased proper made latest opened (.inr same)
            rw [← same] at turned
            exact ih turned

end Loop

end Arpi.Gralloc.Allocator
