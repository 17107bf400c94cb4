import Arpi.Gralloc.GbmModule
import Arpi.Gralloc.LiveBuffer
import Arpi.Gralloc.Mapper

/-!
# Three encodings of one usage

The allocator and the legacy module both translate a CPU usage to gralloc1 bits before
the check in `gbm_lock` compares the two; the mapper does not translate. A frequent write
is the one field whose two encodings differ in a bit that the check can miss.
-/

namespace Arpi.Gralloc

open Arpi.Semantics

/-- A field of a usage that is not used, used rarely or used often. -/
def cpuReadField (usage : U64) : U64 := usage &&& BufferUsage.cpuReadMask
def cpuWriteField (usage : U64) : U64 := usage &&& BufferUsage.cpuWriteMask

/-- A lock usage of CPU bits only, each of whose fields is unused or the one the buffer
was allocated with. -/
structure CpuUsageOf (allocated cpuUsage : U64) : Prop where
  bits : cpuUsage = cpuReadField cpuUsage ||| cpuWriteField cpuUsage
  read : cpuReadField cpuUsage = 0 ∨
    (cpuReadField cpuUsage = BufferUsage.cpuReadRarely ∨
      cpuReadField cpuUsage = BufferUsage.cpuReadOften) ∧
    cpuReadField cpuUsage = cpuReadField allocated
  write : cpuWriteField cpuUsage = 0 ∨
    (cpuWriteField cpuUsage = BufferUsage.cpuWriteRarely ∨
      cpuWriteField cpuUsage = BufferUsage.cpuWriteOften) ∧
    cpuWriteField cpuUsage = cpuWriteField allocated

/-- The buffer was allocated for one of the uses that `gbm_lock` never refuses. -/
def LockedFreely (allocated : U64) : Prop :=
  cpuReadField allocated = BufferUsage.cpuReadRarely ∨
    cpuReadField allocated = BufferUsage.cpuReadOften ∨
    allocated &&& gralloc1ConsumerUsageGpuTexture ≠ 0 ∨
    allocated &&& gralloc1ConsumerUsageClientTarget ≠ 0

instance (allocated : U64) : Decidable (LockedFreely allocated) :=
  inferInstanceAs (Decidable (_ ∨ _))

/-! ## The fields of an allocated usage -/

theorem producerWriteUsage_cases (usage : U64) :
    producerWriteUsage usage = 0 ∨
      producerWriteUsage usage = gralloc1ProducerUsageCpuWrite ∨
      producerWriteUsage usage = gralloc1ProducerUsageCpuWriteOften := by
  unfold producerWriteUsage
  split
  · exact .inr (.inl rfl)
  · split
    · exact .inr (.inr rfl)
    · exact .inl rfl

theorem producerWriteUsage_of_rarely {usage : U64}
    (rarely : cpuWriteField usage = BufferUsage.cpuWriteRarely) :
    producerWriteUsage usage = gralloc1ProducerUsageCpuWrite :=
  if_pos rarely

theorem producerWriteUsage_of_often {usage : U64}
    (often : cpuWriteField usage = BufferUsage.cpuWriteOften) :
    producerWriteUsage usage = gralloc1ProducerUsageCpuWriteOften := by
  have notRarely : usage &&& BufferUsage.cpuWriteMask ≠ BufferUsage.cpuWriteRarely := by
    rw [← cpuWriteField, often]
    decide
  rw [producerWriteUsage, if_neg notRarely]
  exact if_pos often

theorem readUsage_cases (usage : U64) :
    readUsage usage = 0 ∨ readUsage usage = gralloc1UsageCpuRead ∨
      readUsage usage = gralloc1UsageCpuReadOften := by
  unfold readUsage
  split
  · exact .inr (.inl rfl)
  · split
    · exact .inr (.inr rfl)
    · exact .inl rfl

/-- The two translations together: cleared bits, the CPU fields, and the data-buffer bit. -/
theorem allocatedUsage_and (usage mask : U64) :
    allocatedUsage usage &&& mask =
      (usage &&& ~~~(BufferUsage.cpuReadMask ||| BufferUsage.cpuWriteMask |||
          BufferUsage.gpuDataBuffer)) &&& mask |||
        producerWriteUsage usage &&& mask ||| readUsage usage &&& mask |||
      ((usage &&& ~~~(BufferUsage.cpuReadMask ||| BufferUsage.cpuWriteMask |||
          BufferUsage.sensorDirectData ||| BufferUsage.gpuDataBuffer)) &&& mask |||
        readUsage usage &&& mask |||
        (if usage &&& BufferUsage.gpuDataBuffer ≠ 0 then gralloc1ConsumerUsageGpuDataBuffer
          else 0) &&& mask) := by
  simp only [allocatedUsage, toProducerUsage, toConsumerUsage, Bits.or_and]

/-- The bit that both sides translate last is neither a CPU bit nor one that frees locks. -/
theorem dataBuffer_and (mask : U64) (apart : gralloc1ConsumerUsageGpuDataBuffer &&& mask = 0)
    (usage : U64) :
    (if usage &&& BufferUsage.gpuDataBuffer ≠ 0 then gralloc1ConsumerUsageGpuDataBuffer
      else 0) &&& mask = 0 := by
  split
  · exact apart
  · simp

/-- The read field of an allocated usage is the translated one. -/
theorem allocatedUsage_read (usage : U64) :
    allocatedUsage usage &&& BufferUsage.cpuReadMask = readUsage usage := by
  rw [allocatedUsage_and, Bits.and_not_and_of_subset (by decide),
    Bits.and_not_and_of_subset (by decide), dataBuffer_and _ (by decide)]
  rcases producerWriteUsage_cases usage with write | write | write <;>
    rcases readUsage_cases usage with read | read | read <;>
    rw [write, read] <;> decide

/-- The write field of an allocated usage is the translated one. -/
theorem allocatedUsage_write (usage : U64) :
    allocatedUsage usage &&& BufferUsage.cpuWriteMask = producerWriteUsage usage := by
  rw [allocatedUsage_and, Bits.and_not_and_of_subset (by decide),
    Bits.and_not_and_of_subset (by decide), dataBuffer_and _ (by decide)]
  rcases producerWriteUsage_cases usage with write | write | write <;>
    rcases readUsage_cases usage with read | read | read <;>
    rw [write, read] <;> decide

/-- The two uses that free locks are copied. -/
theorem allocatedUsage_copied {mask : U64}
    (copied : mask = gralloc1ConsumerUsageGpuTexture ∨ mask = gralloc1ConsumerUsageClientTarget)
    (usage : U64) : allocatedUsage usage &&& mask = usage &&& mask := by
  have write : producerWriteUsage usage &&& mask = 0 := by
    rcases copied with rfl | rfl <;>
      rcases producerWriteUsage_cases usage with write | write | write <;> rw [write] <;> decide
  have read : readUsage usage &&& mask = 0 := by
    rcases copied with rfl | rfl <;>
      rcases readUsage_cases usage with read | read | read <;> rw [read] <;> decide
  have data := dataBuffer_and mask (by rcases copied with rfl | rfl <;> decide) usage
  have kept : ∀ cleared : U64, mask &&& cleared = 0 →
      (usage &&& ~~~cleared) &&& mask = usage &&& mask :=
    fun cleared apart => Bits.and_not_and_of_disjoint apart usage
  rw [allocatedUsage_and, write, read, data, kept _ (by rcases copied with rfl | rfl <;> decide),
    kept _ (by rcases copied with rfl | rfl <;> decide)]
  simp

/-- The check of `gbm_lock`, positively. -/
theorem usageAllowed_iff (handleUsage usage : U64) :
    usageAllowed handleUsage usage = true ↔
      handleUsage &&& usage = usage ∨
        handleUsage &&& gralloc1UsageCpuReadOften ≠ 0 ∨
        handleUsage &&& gralloc1ConsumerUsageClientTarget ≠ 0 ∨
        handleUsage &&& gralloc1ConsumerUsageGpuTexture ≠ 0 := by
  unfold usageAllowed
  by_cases subset : handleUsage &&& usage = usage
  · simp [subset]
  · simp [subset, or_assoc]

/-- The check on an allocated usage: the fields fit or the buffer is locked freely. -/
theorem usageAllowed_allocated (allocated usage : U64) :
    usageAllowed (allocatedUsage allocated) usage = true ↔
      allocatedUsage allocated &&& usage = usage ∨ LockedFreely allocated := by
  have often : allocatedUsage allocated &&& gralloc1UsageCpuReadOften ≠ 0 ↔
      cpuReadField allocated = BufferUsage.cpuReadRarely ∨
        cpuReadField allocated = BufferUsage.cpuReadOften := by
    rw [Bits.and_of_subset BufferUsage.cpuReadMask (by decide), allocatedUsage_read]
    unfold readUsage cpuReadField
    split
    · next rarely => exact iff_of_true (by decide) (.inl rarely)
    · next notRarely =>
        split
        · next often => exact iff_of_true (by decide) (.inr often)
        · next notOften => exact iff_of_false (by decide) (not_or.mpr ⟨notRarely, notOften⟩)
  rw [usageAllowed_iff, often, allocatedUsage_copied (.inr rfl), allocatedUsage_copied (.inl rfl),
    LockedFreely]
  tauto

/-! ## A CPU usage against the check -/

namespace CpuUsageOf

variable {allocated cpuUsage : U64}

/-- A usage whose fields are known is their union. -/
theorem eq_of_fields (cpu : CpuUsageOf allocated cpuUsage) {read write : U64}
    (readField : cpuReadField cpuUsage = read) (writeField : cpuWriteField cpuUsage = write) :
    cpuUsage = read ||| write := by
  rw [cpu.bits, readField, writeField]

/-- A buffer that is not locked freely is not locked for reading. -/
theorem read_of_not_free (cpu : CpuUsageOf allocated cpuUsage) (bound : ¬ LockedFreely allocated) :
    cpuReadField cpuUsage = 0 := by
  rcases cpu.read with unused | ⟨rarely | often, same⟩
  · exact unused
  · exact absurd (.inl (same.symm.trans rarely)) bound
  · exact absurd (.inr (.inl (same.symm.trans often))) bound

/-- The mapper hands a CPU usage on as it is. -/
theorem lockUsage_eq (cpu : CpuUsageOf allocated cpuUsage) :
    Mapper.lockUsage cpuUsage = cpuUsage := by
  have fields : (cpuReadField cpuUsage = 0 ∨ cpuReadField cpuUsage = 2 ∨
      cpuReadField cpuUsage = 3) ∧ (cpuWriteField cpuUsage = 0 ∨
      cpuWriteField cpuUsage = 0x20 ∨ cpuWriteField cpuUsage = 0x30) :=
    ⟨cpu.read.imp id And.left, cpu.write.imp id And.left⟩
  obtain ⟨read | read | read, write | write | write⟩ := fields <;>
    rw [cpu.eq_of_fields read write] <;> decide

/-- What arrives through the mapper passes the check unless it is a frequent write. -/
theorem mapper_allowed_iff (cpu : CpuUsageOf allocated cpuUsage) :
    usageAllowed (allocatedUsage allocated) (Mapper.lockUsage cpuUsage) = true ↔
      LockedFreely allocated ∨ cpuWriteField cpuUsage ≠ BufferUsage.cpuWriteOften := by
  rw [usageAllowed_allocated, cpu.lockUsage_eq]
  by_cases free : LockedFreely allocated
  · exact iff_of_true (.inr free) (.inl free)
  have read := cpu.read_of_not_free free
  rcases cpu.write with unused | ⟨rarely | often, same⟩
  · rw [cpu.eq_of_fields read unused]
    exact iff_of_true (.inl (by simp)) (.inr (by decide))
  · have translated := producerWriteUsage_of_rarely (same.symm.trans rarely)
    refine iff_of_true (.inl ?_) (.inr (by rw [rarely]; decide))
    rw [cpu.eq_of_fields read rarely,
      Bits.and_of_subset BufferUsage.cpuWriteMask (by decide), allocatedUsage_write, translated]
    decide
  · have translated := producerWriteUsage_of_often (same.symm.trans often)
    refine iff_of_false (not_or.mpr ⟨?_, free⟩) (not_or.mpr ⟨free, not_not.mpr often⟩)
    rw [cpu.eq_of_fields read often,
      Bits.and_of_subset BufferUsage.cpuWriteMask (by decide), allocatedUsage_write, translated]
    decide

/-- What arrives through the legacy module always passes the check. -/
theorem legacy_allowed (cpu : CpuUsageOf allocated cpuUsage) :
    usageAllowed (allocatedUsage allocated) (legacyLockUsage (cpuUsage.setWidth 32)) = true := by
  rw [usageAllowed_allocated]
  by_cases free : LockedFreely allocated
  · exact .inr free
  left
  have read := cpu.read_of_not_free free
  rcases cpu.write with unused | ⟨rarely | often, same⟩
  · have converted : legacyLockUsage (cpuUsage.setWidth 32) = 0 := by
      rw [cpu.eq_of_fields read unused]
      decide
    rw [converted]
    simp
  · have converted : legacyLockUsage (cpuUsage.setWidth 32) = gralloc1ProducerUsageCpuWrite := by
      rw [cpu.eq_of_fields read rarely]
      decide
    have translated := producerWriteUsage_of_rarely (same.symm.trans rarely)
    rw [converted, Bits.and_of_subset BufferUsage.cpuWriteMask (by decide),
      allocatedUsage_write, translated]
    decide
  · have converted :
        legacyLockUsage (cpuUsage.setWidth 32) = gralloc1ProducerUsageCpuWriteOften := by
      rw [cpu.eq_of_fields read often]
      decide
    have translated := producerWriteUsage_of_often (same.symm.trans often)
    rw [converted, Bits.and_of_subset BufferUsage.cpuWriteMask (by decide),
      allocatedUsage_write, translated]
    decide

end CpuUsageOf

/-! ## From the allocation to the lock -/

/-- `allocateOneBuffer` leaves the translated usage in the new handle. -/
theorem allocateOneBuffer_usage {address handle : BufferHandle} {created : CreatedBo}
    {errno : Int} {descriptor : BufferDescriptorInfo} {stride : U32}
    {state after : GrallocState}
    (allocated : allocateOneBuffer address (some created) errno descriptor state =
      (0, some (handle, stride), after)) :
    (after.memory handle).usage = allocatedUsage descriptor.usage := by
  unfold allocateOneBuffer gbmAlloc at allocated
  by_cases unknown : grallocGbmGetBpp descriptor.format = 0
  · rw [if_pos unknown] at allocated
    cases allocated
  · rw [if_neg unknown] at allocated
    cases allocated
    simp only [Function.update_self]
    rfl

/-- A successful import yields a live buffer with the contents of the raw handle, but for
the descriptor, and it is not the null handle. -/
theorem importBuffer_live {duplicate : Option (BufferHandle × Int)} {accepted : Bool}
    {raw : PrivateHandle} {buffer : BufferHandle} {state after : Mapper.MapperState}
    (imported : Mapper.importBuffer duplicate accepted (some raw) state =
      ((.none, buffer), after)) :
    buffer ≠ 0 ∧ ∃ contents geometry bo, contents.usage = raw.usage ∧
      LiveBuffer after.gralloc buffer contents geometry bo := by
  unfold Mapper.importBuffer at imported
  cases duplicate with
  | none =>
      simp only [gbmRegister_of_present (.inl rfl)] at imported
      cases imported
  | some copy =>
      dsimp only at imported
      generalize clone : Mapper.nativeHandleClone copy raw state = cloned at imported
      have memory : (cloned.gralloc.memory copy.1).usage = raw.usage := by
        rw [← clone]
        simp [Mapper.nativeHandleClone]
      rcases gbmRegister_outcome accepted copy.1 cloned.gralloc with
        ⟨refused, -⟩ | ⟨⟨nonnull, -, -⟩, registered⟩
      · simp only [refused] at imported
        cases imported
      · simp only [registered] at imported
        cases imported
        refine ⟨nonnull, cloned.gralloc.memory copy.1,
          (importedBo (cloned.gralloc.memory copy.1)).geometry, cloned.gralloc.bos.next, memory, rfl,
          UnorderedMap.find_assign_self, ?_, ?_⟩
        · rw [Store.create_cells_next, Option.map_some]
        · apply recordSound_of_unattached
          simp [gbmBoData, importedBo]

/-- A call took one more lock of the buffer. -/
def LockTaken (handle : BufferHandle) (before after : GrallocState) : Prop :=
  ∃ bo, before.gbmBoHandleMap.find handle = some (some bo) ∧
    (lockRecord after bo).lockCount = (lockRecord before bo).lockCount + 1

/-- A buffer that nobody holds locked. -/
def Unlocked (handle : BufferHandle) (state : GrallocState) : Prop :=
  ∀ bo, state.gbmBoHandleMap.find handle = some (some bo) → (lockRecord state bo).lockCount = 0

/-- On an unlocked buffer, with a driver that maps, the usage check alone decides. -/
theorem LiveBuffer.lockTaken_iff {state : GrallocState} {handle : BufferHandle}
    {contents : PrivateHandle} {geometry : U32 × U32 × U32} {bo : BoId}
    (buffer : LiveBuffer state handle contents geometry bo) (unlocked : Unlocked handle state)
    (mapping : Mapping) (usage : U64) (x y w h : Int) :
    LockTaken handle state (gbmLock (some mapping) handle usage x y w h state).2.2 ↔
      usageAllowed contents.usage usage = true := by
  have count := unlocked bo buffer.registered
  have outcome := buffer.lockOutcome (some mapping) usage x y w h
  generalize gbmLock (some mapping) handle usage x y w h state = answer at outcome ⊢
  have taken : LockTaken handle state answer.2.2 ↔ (lockRecord answer.2.2 bo).lockCount = 1 := by
    constructor
    · rintro ⟨held, entry, more⟩
      rw [buffer.registered] at entry
      cases entry
      rw [more, count]
      rfl
    · intro one
      exact ⟨bo, buffer.registered, by rw [one, count]; rfl⟩
  rw [taken]
  cases outcome with
  | @refused _ after why _ _ unchanged =>
      have kept : (lockRecord after bo).lockCount = (lockRecord state bo).lockCount := by
        rcases unchanged with same | written
        · rw [same]
        · rw [written.lockRecord_eq]
      rw [kept, count]
      refine iff_of_false (by decide) (fun allowed => why ?_)
      have free : (lockRecord state bo).mapData = none := by
        by_contra mapped
        have one := buffer.sound.once mapped
        omega
      rw [buffer.memory]
      rw [buffer.memory] at why
      exact ⟨allowed, fun clash => clash.1 count, fun _ => ⟨free, by simp⟩⟩
  | granted admitted written _ _ =>
      rw [written.lockRecord_eq, ← buffer.memory]
      refine iff_of_true ?_ admitted.allowed
      rw [BoData.granted, count]
      rfl

/-- On a registered handle the legacy module just locks. -/
theorem lockYcbcr_of_registered {state : ModuleState} {handle : BufferHandle}
    (present : state.gralloc.gbmBoHandleMap.find handle ≠ none) (device accepted : Bool)
    (mapped : Option Mapping) (usage : U32) (x y w h : Int) :
    (lockYcbcr device accepted mapped handle usage x y w h state).2.2.gralloc =
      (gbmLock mapped handle (legacyLockUsage usage) x y w h state.gralloc).2.2 := by
  have fails : ¬ Registers state device accepted handle :=
    fun registers => present registers.2.2.1
  obtain ⟨gbm, _, locked⟩ := lockYcbcr_of_fails fails mapped usage x y w h
  rw [locked]
  exact (gbmLockYcbcr_eq mapped handle (legacyLockUsage usage) x y w h state.gralloc).1

/-- A buffer that was allocated, imported and unlocked again takes a lock for the CPU use it
was allocated for through both services, unless it is to be written often, was not allocated
to be read, and is neither a texture nor a client target. -/
theorem usage_compatible_iff
    -- the allocation
    {address handle : BufferHandle} {created : CreatedBo} {errno : Int}
    {descriptor : BufferDescriptorInfo} {stride : U32} {allocator allocator' : GrallocState}
    (allocated : allocateOneBuffer address (some created) errno descriptor allocator =
      (0, some (handle, stride), allocator'))
    -- the import, and the locks and unlocks since
    {duplicate : Option (BufferHandle × Int)} {accepted : Bool} {buffer : BufferHandle}
    {importer importer' : Mapper.MapperState}
    (imported : Mapper.importBuffer duplicate accepted (some (allocator'.memory handle)) importer =
      ((.none, buffer), importer'))
    {calls : List RegistryCall} (own : ∀ call ∈ calls, call.LocksOrUnlocks buffer)
    (unlocked : Unlocked buffer (registryMachine.run importer'.gralloc calls))
    -- the lock
    {cpuUsage : U64} (cpu : CpuUsageOf descriptor.usage cpuUsage) (mapping : Mapping)
    {dup : Int → Int} {acquireFence : Option Mapper.FenceHandle} {fd : Int}
    (fence : Mapper.getFenceFd dup acquireFence = .ok fd) (region : Mapper.Rect)
    (device reaccepted gbm : Bool) (rhandle : BufferHandle) (x y w h : Int) :
    let state := registryMachine.run importer'.gralloc calls
    (LockTaken buffer state
        (Mapper.lock dup (some mapping) buffer cpuUsage region acquireFence state).2 ∧
      LockTaken buffer state
        (lockYcbcr device reaccepted (some mapping) buffer (cpuUsage.setWidth 32) x y w h
          ⟨state, gbm, rhandle⟩).2.2.gralloc) ↔
      LockedFreely descriptor.usage ∨ cpuWriteField cpuUsage ≠ BufferUsage.cpuWriteOften := by
  intro state
  have usage := allocateOneBuffer_usage allocated
  obtain ⟨nonnull, contents, geometry, bo, same, live⟩ := importBuffer_live imported
  have buffer' : LiveBuffer state buffer contents geometry bo := live.run own
  have present : state.gbmBoHandleMap.find buffer ≠ none := by
    rw [buffer'.registered]
    simp
  have legacy :
      (lockYcbcr device reaccepted (some mapping) buffer (cpuUsage.setWidth 32) x y w h
          ⟨state, gbm, rhandle⟩).2.2.gralloc =
        (gbmLock (some mapping) buffer (legacyLockUsage (cpuUsage.setWidth 32)) x y w h state).2.2 :=
    lockYcbcr_of_registered present device reaccepted (some mapping) (cpuUsage.setWidth 32) x y w h
  have enters : buffer ≠ 0 ∧ (Mapper.getFenceFd dup acquireFence).isOk = true := by
    rw [fence]
    exact ⟨nonnull, rfl⟩
  rw [Mapper.lock_enters, if_pos enters, legacy, buffer'.lockTaken_iff unlocked,
    buffer'.lockTaken_iff unlocked, same, usage, cpu.mapper_allowed_iff]
  exact and_iff_left cpu.legacy_allowed

/-- An allocator that made one RGBA buffer of 16 by 16 pixels with this usage. -/
def exampleAllocation (usage : U64) : Int × Option (BufferHandle × U32) × GrallocState :=
  allocateOneBuffer 1 (some ⟨3, 64⟩) 0 ⟨16, 16, halPixelFormatRgba8888, usage⟩
    (.fresh fun _ => .new 0 0 0 0 0)

/-- A process that imported that buffer at the address 2. -/
def exampleImport (usage : U64) : (Mapper.Error × BufferHandle) × Mapper.MapperState :=
  Mapper.importBuffer (some (2, 5)) true (some ((exampleAllocation usage).2.2.memory 1))
    ⟨.fresh fun _ => .new 0 0 0 0 0, []⟩

/-- A buffer to be read and written often, locked and unlocked before. -/
theorem usage_compatible_example :
    let state := registryMachine.run (exampleImport 0x33).2.gralloc
      [.lock 2 0x66 0 0 16 16 (some ⟨4096, 7, by decide⟩), .unlock 2]
    LockTaken 2 state
      (Mapper.lock id (some ⟨4096, 7, by decide⟩) 2 0x33 ⟨0, 0, 16, 16⟩ none state).2 ∧
    LockTaken 2 state
      (lockYcbcr true true (some ⟨4096, 7, by decide⟩) 2 0x33 0 0 16 16
        ⟨state, false, 0⟩).2.2.gralloc := by
  have allocated : exampleAllocation 0x33 = (0, some (1, 16), (exampleAllocation 0x33).2.2) := rfl
  have imported : exampleImport 0x33 = ((.none, 2), (exampleImport 0x33).2) := rfl
  refine (usage_compatible_iff allocated imported (by simp [RegistryCall.LocksOrUnlocks]) ?_
    ⟨by decide, by decide, by decide⟩ ⟨4096, 7, by decide⟩ rfl ⟨0, 0, 16, 16⟩ true true false 0
    0 0 16 16).mpr (by decide)
  intro bo entry
  cases entry
  rfl

/-- A buffer allocated to be written often only, locked for that through the mapper: the
bits 0x30 arrive at a buffer that was allocated with 0x60. -/
theorem usage_not_always_compatible :
    CpuUsageOf 0x30 0x30 ∧ (exampleAllocation 0x30).1 = 0 ∧
      (exampleImport 0x30).1 = (.none, 2) ∧ Unlocked 2 (exampleImport 0x30).2.gralloc ∧
      ¬ LockTaken 2 (exampleImport 0x30).2.gralloc
        (Mapper.lock id (some ⟨4096, 7, by decide⟩) 2 0x30 ⟨0, 0, 16, 16⟩ none
          (exampleImport 0x30).2.gralloc).2 := by
  refine ⟨⟨by decide, by decide, by decide⟩, rfl, rfl, ?_, ?_⟩
  · intro bo entry
    cases entry
    rfl
  · rintro ⟨bo, entry, taken⟩
    cases entry
    exact absurd taken (by decide)

end Arpi.Gralloc
