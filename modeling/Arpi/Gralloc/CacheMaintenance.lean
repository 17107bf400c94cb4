import Arpi.Gralloc.UnlockSafety

/-!
# Flushing and rereading a locked buffer

Between a lock and its unlock a client may write back or refresh the CPU caches. Reread
does nothing, but `flushLockedBuffer` has the body of `unlock`, so the first flush ends
the lock and unmaps the buffer while the client still uses the pointer it was given.
-/

namespace Arpi.Gralloc.Mapper

open Arpi.Semantics

/-- The calls that a client makes on a buffer while it holds the lock. -/
inductive CacheCall where
  | flushLockedBuffer
  | rereadLockedBuffer
deriving DecidableEq

/-- The call on one buffer. -/
def CacheCall.on (buffer : BufferHandle) : CacheCall → MapperCall
  | .flushLockedBuffer => .flushLockedBuffer buffer
  | .rereadLockedBuffer => .rereadLockedBuffer buffer

/-- The state after the calls on one buffer. -/
def maintain (buffer : BufferHandle) (calls : List CacheCall) (state : MapperState) :
    MapperState :=
  mapperMachine.run state (calls.map (CacheCall.on buffer))

/-- The calls leave the count, the usage and the mapping of the lock as they were and ask
the driver for nothing, and the unlock after them unmaps the mapping of the lock. -/
def LockKept (buffer : BufferHandle) (bo : BoId) (mapping : Mapping) (locked : MapperState)
    (calls : List CacheCall) : Prop :=
  let after := (maintain buffer calls locked).gralloc
  lockStateOf after buffer = lockStateOf locked.gralloc buffer ∧
    after.calls = locked.gralloc.calls ∧
    (unlock buffer after).2.calls = .unmap bo (some mapping.mapData) :: after.calls

/-- A buffer whose object carries this lock record. -/
structure Recorded (state : GrallocState) (buffer : BufferHandle) (bo : BoId) (data : BoData) :
    Prop where
  nonnull : buffer ≠ 0
  registered : state.gbmBoHandleMap.find buffer = some (some bo)
  attached : gbmBoData state bo = some data

namespace Recorded

variable {state after : GrallocState} {buffer : BufferHandle} {bo : BoId} {data : BoData}

theorem alive (recorded : Recorded state buffer bo data) :
    ∃ object, state.bos.cells bo = some object := by
  obtain ⟨object, found, -⟩ := Option.bind_eq_some_iff.mp recorded.attached
  exact ⟨object, found⟩

theorem lockRecord_eq (recorded : Recorded state buffer bo data) : lockRecord state bo = data := by
  rw [lockRecord, recorded.attached, Option.getD_some]

theorem lockStateOf_eq (recorded : Recorded state buffer bo data) :
    lockStateOf state buffer = some (data, mappingsOf state bo) := by
  obtain ⟨object, alive⟩ := recorded.alive
  rw [lockStateOf_of_live recorded.registered alive, recorded.lockRecord_eq]

/-- An unlock of a buffer with a record: it changes nothing, or it releases the record. -/
theorem giveBack_outcome (recorded : Recorded state buffer bo data) :
    data.lockCount = 0 ∧ (giveBack buffer state).2 = state ∨
      data.lockCount ≠ 0 ∧ Recorded (giveBack buffer state).2 buffer bo data.released := by
  obtain ⟨object, alive⟩ := recorded.alive
  rw [giveBack_state recorded.nonnull]
  have outcome := gbmUnlock_outcome recorded.registered alive
  generalize gbmUnlock buffer state = answer at outcome ⊢
  cases outcome with
  | fault unattached =>
      rw [recorded.attached] at unattached
      cases unattached
  | idle attached unlocked =>
      rw [recorded.attached] at attached
      cases attached
      exact .inl ⟨unlocked, rfl⟩
  | released attached locked written =>
      rw [recorded.attached] at attached
      cases attached
      exact .inr ⟨locked, recorded.nonnull,
        by rw [written.registry.entries, recorded.registered], written.record⟩

/-- An unlock of a buffer that is not locked changes nothing. -/
theorem giveBack_idle (recorded : Recorded state buffer bo data) (unlocked : data.lockCount = 0) :
    (giveBack buffer state).2 = state := by
  rcases recorded.giveBack_outcome with ⟨-, unchanged⟩ | ⟨locked, -⟩
  · exact unchanged
  · exact absurd unlocked locked

/-- An unlock of a locked buffer releases its record. -/
theorem giveBack_locked (recorded : Recorded state buffer bo data) (locked : data.lockCount ≠ 0) :
    Recorded (giveBack buffer state).2 buffer bo data.released := by
  rcases recorded.giveBack_outcome with ⟨unlocked, -⟩ | ⟨-, released⟩
  · exact absurd unlocked locked
  · exact released

/-- An unlock of a mapped buffer unmaps it with the token of its record. -/
theorem giveBack_calls (recorded : Recorded state buffer bo data) (locked : data.lockCount ≠ 0)
    (mapped : data.Mapped) :
    (giveBack buffer state).2.calls = .unmap bo data.mapData :: state.calls := by
  rw [giveBack_state recorded.nonnull]
  simp only [gbmUnlock, fromHandle_of_present recorded.registered, recorded.attached, locked,
    mapped, if_true, if_false]
  rfl

end Recorded

/-! ## The lock that is maintained -/

/-- The CPU bits of a usage survive the cast to `int32_t`. -/
theorem wantsMapping_lockUsage (cpuUsage : U64) :
    WantsMapping (lockUsage cpuUsage) ↔ WantsMapping cpuUsage := by
  have same : lockUsage cpuUsage &&& cpuUsageMask =
      (cpuUsage ||| (cpuUsage &&& ~~~BufferUsage.cpuWriteMask)) &&& cpuUsageMask :=
    Bits.signExtend_setWidth_and 32 cpuUsageMask_fits _
  have absorbed : cpuUsage ||| (cpuUsage &&& ~~~BufferUsage.cpuWriteMask) = cpuUsage := by
    ext index
    simp only [BitVec.getElem_or, BitVec.getElem_and]
    cases cpuUsage[index] <;> simp
  rw [WantsMapping, same, absorbed, ← WantsMapping]

section Lock

variable {state : GrallocState} {dup : Int → Int} {mapped : Option Mapping}
  {buffer : BufferHandle} {cpuUsage : U64} {accessRegion : Rect}
  {acquireFence : Option FenceHandle}

/-- A fence that cannot be used is an error. -/
theorem getFenceFd_error {error : Error} (failed : getFenceFd dup acquireFence = .error error) :
    error ≠ .none := by
  rintro rfl
  unfold getFenceFd at failed
  cases acquireFence with
  | none => cases failed
  | some handle =>
      dsimp only at failed
      split_ifs at failed <;> cases failed

/-- A lock is granted only if `gbm_lock` grants it. -/
theorem lock_granted
    (granted : (lock dup mapped buffer cpuUsage accessRegion acquireFence state).1.1 = .none) :
    let answer := gbmLock mapped buffer (lockUsage cpuUsage) accessRegion.left accessRegion.top
      accessRegion.width accessRegion.height state
    buffer ≠ 0 ∧ answer.1 = 0 ∧
      lock dup mapped buffer cpuUsage accessRegion acquireFence state =
        ((.none, answer.2.1), answer.2.2) := by
  intro answer
  by_cases null : buffer = 0
  · simp [lock, null] at granted
  cases fence : getFenceFd dup acquireFence with
  | error error =>
      simp only [lock, null, if_false, fence] at granted
      exact absurd granted (getFenceFd_error fence)
  | ok fenceFd =>
      have entered : lock dup mapped buffer cpuUsage accessRegion acquireFence state =
          if answer.1 ≠ 0 then ((.unsupported, 0), answer.2.2)
          else ((.none, answer.2.1), answer.2.2) := by
        simp only [lock, null, if_false, fence]
        rfl
      rw [entered] at granted ⊢
      by_cases failed : answer.1 = 0
      · exact ⟨null, failed, if_neg (not_not.mpr failed)⟩
      · rw [if_pos failed] at granted
        cases granted

/-- A lock for the CPU maps the buffer, and it is the only lock then. -/
theorem lock_for_cpu (records : RecordsInvariant state) (cpu : WantsMapping cpuUsage)
    (granted : (lock dup mapped buffer cpuUsage accessRegion acquireFence state).1.1 = .none) :
    let answer := lock dup mapped buffer cpuUsage accessRegion acquireFence state
    ∃ bo mapping data, mapped = some mapping ∧ answer.1.2 = mapping.address ∧
      mapping ∈ mappingsOf answer.2 bo ∧ Recorded answer.2 buffer bo data ∧
      data.mapData = some mapping.mapData ∧ data.lockCount = 1 ∧ data.Mapped := by
  obtain ⟨nonnull, succeeded, entered⟩ := lock_granted granted
  rw [entered]
  have invariant := records.lock buffer mapped (lockUsage cpuUsage) accessRegion.left
    accessRegion.top accessRegion.width accessRegion.height
  cases records.entries.shape buffer with
  | absent absent =>
      rw [gbmLock_of_absent absent] at succeeded
      exact absurd succeeded (show (-einval : Int) ≠ 0 by decide)
  | null null =>
      rw [gbmLock_of_null null] at succeeded
      exact absurd succeeded (show (-einval : Int) ≠ 0 by decide)
  | live bo object registered alive =>
      have outcome := gbmLock_outcome registered alive mapped (lockUsage cpuUsage)
        accessRegion.left accessRegion.top accessRegion.width accessRegion.height
      generalize gbmLock mapped buffer (lockUsage cpuUsage) accessRegion.left accessRegion.top
        accessRegion.width accessRegion.height state = answer at *
      cases outcome with
      | refused why nonzero => exact absurd succeeded nonzero
      | @granted address mapData after object admitted written alive locked =>
          cases locked with
          | unmapped unwanted =>
              exact absurd ((wantsMapping_or _ _).mpr
                (.inl ((wantsMapping_lockUsage cpuUsage).mpr cpu))) unwanted
          | mapped wanted mapping answered live =>
              have sound : RecordSound after bo := invariant.sound bo
              rw [RecordSound, written.lockRecord_eq] at sound
              have token : ((lockRecord state bo).granted (lockUsage cpuUsage)
                  (some mapping.mapData)).mapData ≠ none := Option.some_ne_none _
              refine ⟨bo, mapping, _, answered, rfl, ?_, ⟨nonnull, ?_, written.record⟩, rfl,
                sound.once token, (BoData.mapped_iff _).mpr (sound.mapped.mp token)⟩
              · rw [mappingsOf, alive]
                exact live
              · rw [written.registry.entries, registered]

end Lock

/-! ## Any number of calls -/

section Maintenance

variable {state : MapperState} {buffer : BufferHandle} {bo : BoId} {data : BoData}
  {calls : List CacheCall}

/-- Rereads alone change nothing. -/
theorem maintain_of_rereads (unflushed : .flushLockedBuffer ∉ calls) :
    maintain buffer calls state = state := by
  induction calls with
  | nil => rfl
  | cons call rest ih =>
      rw [List.mem_cons, not_or] at unflushed
      obtain ⟨here, later⟩ := unflushed
      cases call with
      | flushLockedBuffer => exact absurd rfl here
      | rereadLockedBuffer => exact ih later

/-- Nothing that is called on an unlocked buffer locks it. -/
theorem maintain_idle (recorded : Recorded state.gralloc buffer bo data)
    (unlocked : data.lockCount = 0) (calls : List CacheCall) :
    maintain buffer calls state = state := by
  induction calls with
  | nil => rfl
  | cons call rest ih =>
      cases call with
      | flushLockedBuffer =>
          have same : mapperMachine.next state (.flushLockedBuffer buffer) = state := by
            rw [Machine.next]
            simp only [mapperMachine, flushLockedBuffer, recorded.giveBack_idle unlocked]
          rw [maintain, List.map_cons, Machine.run_cons, CacheCall.on, same]
          exact ih
      | rereadLockedBuffer => exact ih

/-- The first flush of a buffer that is locked once releases it. -/
theorem maintain_of_flush (recorded : Recorded state.gralloc buffer bo data)
    (once : data.lockCount = 1) (flushed : .flushLockedBuffer ∈ calls) :
    Recorded (maintain buffer calls state).gralloc buffer bo data.released := by
  have released : data.released.lockCount = 0 := by
    rw [released_lockCount, once]
    rfl
  induction calls with
  | nil => cases flushed
  | cons call rest ih =>
      cases call with
      | flushLockedBuffer =>
          have given : Recorded (mapperMachine.next state (.flushLockedBuffer buffer)).gralloc
              buffer bo data.released := recorded.giveBack_locked (by omega)
          rw [maintain, List.map_cons, Machine.run_cons, CacheCall.on, ← maintain,
            maintain_idle given released]
          exact given
      | rereadLockedBuffer =>
          exact ih ((List.mem_cons.mp flushed).resolve_left (by simp))

end Maintenance

/-- Every state of the mapper keeps the invariant of the lock records. -/
theorem records_of_run (memory : BufferHandle → PrivateHandle) (history : List MapperCall) :
    RecordsInvariant (mapperMachine.run (.fresh memory) history).gralloc := by
  let mapper := mapperMachine.monitored trackBuffers
  let invariant (ledger : MapperState × Buffers) : Prop :=
    LocksTracked ledger.1.gralloc ledger.2
  have start : invariant (.fresh memory, .none) := .fresh memory
  have preserved : ∀ ledger call, invariant ledger → invariant (mapper.next ledger call) :=
    fun ledger call tracked => tracked.next call
  have records := (mapper.always_of_invariant preserved start history).last.records
  rwa [Machine.monitored_run] at records

/-- A lock for the CPU that the mapper grants, in any state that its calls can reach, hands
out the address of a new mapping. Calls of flush and reread keep the lock, and leave it to
the unlock to unmap that mapping, exactly when no flush is among them. -/
theorem lockKept_iff (memory : BufferHandle → PrivateHandle) (history : List MapperCall)
    (dup : Int → Int) (mapped : Option Mapping) (buffer : BufferHandle) (cpuUsage : U64)
    (accessRegion : Rect) (acquireFence : Option FenceHandle) (cpu : WantsMapping cpuUsage)
    (granted : (lock dup mapped buffer cpuUsage accessRegion acquireFence
      (mapperMachine.run (.fresh memory) history).gralloc).1.1 = .none) :
    let before := mapperMachine.run (.fresh memory) history
    let answer := lock dup mapped buffer cpuUsage accessRegion acquireFence before.gralloc
    let locked : MapperState := { before with gralloc := answer.2 }
    ∃ bo mapping, locked.gralloc.gbmBoHandleMap.find buffer = some (some bo) ∧
      mapping ∈ mappingsOf locked.gralloc bo ∧ answer.1.2 = mapping.address ∧
      ∀ calls, LockKept buffer bo mapping locked calls ↔ .flushLockedBuffer ∉ calls := by
  intro before answer locked
  obtain ⟨bo, mapping, data, -, address, live, recorded, token, once, mapped⟩ :=
    lock_for_cpu (records_of_run memory history) cpu granted
  have locks : data.lockCount ≠ 0 := by omega
  refine ⟨bo, mapping, recorded.registered, live, address, fun calls => ?_⟩
  by_cases flushed : CacheCall.flushLockedBuffer ∈ calls
  · refine iff_of_false ?_ (not_not.mpr flushed)
    rintro ⟨unchanged, -⟩
    have released : Recorded (maintain buffer calls locked).gralloc buffer bo data.released :=
      maintain_of_flush recorded once flushed
    rw [released.lockStateOf_eq, Recorded.lockStateOf_eq recorded] at unchanged
    have counts : data.released.lockCount = data.lockCount := by
      rw [(Prod.mk.inj (Option.some.inj unchanged)).1]
    rw [released_lockCount] at counts
    omega
  · refine iff_of_true ?_ flushed
    rw [LockKept, maintain_of_rereads flushed]
    refine ⟨rfl, rfl, ?_⟩
    rw [← token]
    exact recorded.giveBack_calls locks mapped

/-- A mapping of the buffer that `exampleImported` describes. -/
def exampleMapping : Mapping := ⟨0x7000, 9, by decide⟩

/-- A buffer that is imported, locked for reading and reread before the unlock. -/
theorem lockKept_iff_reread :
    let locked := mapperMachine.run (.fresh fun _ => exampleImported)
      [.importBuffer (some (1, 5)) true (some exampleImported),
        .lock id (some exampleMapping) 1 BufferUsage.cpuReadOften ⟨0, 0, 0, 0⟩ none]
    LockKept 1 0 exampleMapping locked [.rereadLockedBuffer] := by
  intro locked
  obtain ⟨bo, mapping, registered, live, -, kept⟩ := lockKept_iff (fun _ => exampleImported)
    [.importBuffer (some (1, 5)) true (some exampleImported)] id (some exampleMapping) 1
    BufferUsage.cpuReadOften ⟨0, 0, 0, 0⟩ none (by decide) (by decide)
  have same : bo = 0 := by
    have found : locked.gralloc.gbmBoHandleMap.find 1 = some (some 0) := by decide
    exact Option.some.inj (Option.some.inj (registered.symm.trans found))
  subst same
  have only : mappingsOf locked.gralloc 0 = [exampleMapping] := by decide
  have found : mapping = exampleMapping := by
    rw [← List.mem_singleton, ← only]
    exact live
  rw [← found]
  exact (kept [.rereadLockedBuffer]).mpr (by decide)

/-- A flush of the locked buffer succeeds, and so does the unlock after it, but the flush
has unmapped the buffer and the unlock does nothing. -/
theorem flush_not_keeps_lock :
    let before := mapperMachine.run (.fresh fun _ => exampleImported)
      [.importBuffer (some (1, 5)) true (some exampleImported)]
    let answer := lock id (some exampleMapping) 1 BufferUsage.cpuReadOften ⟨0, 0, 0, 0⟩ none
      before.gralloc
    let locked : MapperState := { before with gralloc := answer.2 }
    let flushed := flushLockedBuffer 1 locked.gralloc
    (answer.1 = (.none, 0x7000) ∧ flushed.1 = some (.none, none) ∧
        (unlock 1 flushed.2).1 = some (.none, none)) ∧
      ¬ ∃ bo mapping, LockKept 1 bo mapping locked [.flushLockedBuffer] := by
  intro before answer locked flushed
  refine ⟨by decide, ?_⟩
  rintro ⟨bo, mapping, unchanged, -⟩
  exact absurd unchanged (by decide)

end Arpi.Gralloc.Mapper
