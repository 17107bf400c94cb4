import Arpi.Gralloc.FailedLocks
import Arpi.Gralloc.MapperService
import Arpi.Gralloc.ReachableRecords

/-!
# Unlocks of buffers that were never locked

The lock record of a buffer is created in the middle of `gbm_lock`, after the check of the
usage. `gbm_unlock` reads the record without asking whether there is one, so an unlock is
safe exactly when a lock of the buffer has passed that check since the buffer was imported.
-/

namespace Arpi.Gralloc

open Arpi.Semantics

section Records

variable {state after : GrallocState} {handle : BufferHandle} {bo : BoId} {object : Bo}

/-- Entries and objects decide the invariant; what the handles contain does not matter. -/
theorem RecordsInvariant.holds (invariant : RecordsInvariant state)
    (same : Holds after state.gbmBoHandleMap state.bos) : RecordsInvariant after where
  entries := invariant.entries.congr ⟨same.entries, fun bo => by rw [same.bos]⟩
  sound bo := (invariant.sound bo).congr (by rw [same.bos])

theorem countLock_attached (usage : U64) (other : BoId) :
    (gbmBoData (countLock bo usage state) other).isSome = (gbmBoData state other).isSome := by
  by_cases here : other = bo
  · subst here
    cases alive : state.bos.cells other with
    | none => simp [gbmBoData, countLock, alive]
    | some object => simp [gbmBoData, countLock, alive]
  · simp [gbmBoData, countLock, here]

/-- A lock of a usage that the buffer does not allow changes nothing. -/
theorem gbmLock_of_disallowed (registered : state.gbmBoHandleMap.find handle = some (some bo))
    {usage : U64} (disallowed : ¬ usageAllowed (state.memory handle).usage usage = true)
    (mapped : Option Mapping) (x y w h : Int) :
    gbmLock mapped handle usage x y w h state = (-einval, 0, state) := by
  unfold gbmLock
  rw [fromHandle_of_present registered]
  dsimp only
  rw [if_neg disallowed]

/-- The mapping step and the counting keep the record that they find. -/
theorem mapAndCount_attached {data : BoData} (alive : state.bos.cells bo = some object)
    (recorded : object.userData = some data) (mapped : Option Mapping) (x y w h : Int)
    (write : Bool) (usage : U64) :
    let answer := gbmMap mapped handle bo data x y w h write state
    let locked := if answer.1 ≠ 0 then answer
      else (0, answer.2.1, countLock bo usage answer.2.2)
    (gbmBoData locked.2.2 bo).isSome := by
  intro answer locked
  obtain ⟨-, next, found, carries⟩ :=
    gbmMap_request handle alive recorded mapped x y w h write
  have carried : (gbmBoData answer.2.2 bo).isSome := by
    rw [gbmBoData, found]
    exact carries
  by_cases failed : answer.1 ≠ 0
  · have same : locked = answer := if_pos failed
    rw [same]
    exact carried
  · have counted : locked = (0, answer.2.1, countLock bo usage answer.2.2) := if_neg failed
    rw [counted, countLock_attached]
    exact carried

/-- A lock that passes the check of the usage leaves a lock record, whatever becomes of it. -/
theorem gbmLock_attaches (registered : state.gbmBoHandleMap.find handle = some (some bo))
    (alive : state.bos.cells bo = some object) {usage : U64}
    (allowed : usageAllowed (state.memory handle).usage usage = true)
    (mapped : Option Mapping) (x y w h : Int) :
    (gbmBoData (gbmLock mapped handle usage x y w h state).2.2 bo).isSome := by
  have attached := setBoData_cells alive (lockRecord state bo)
  have carries : (gbmBoData (setBoData state bo (lockRecord state bo)) bo).isSome := by
    rw [gbmBoData, attached]
    rfl
  unfold gbmLock
  rw [fromHandle_of_present registered]
  dsimp only
  rw [if_pos allowed]
  unfold lockRecorded
  by_cases clash : (lockRecord state bo).Clashes usage
  · rw [if_pos clash]
    exact carries
  rw [if_neg clash]
  by_cases wanted : WantsMapping (usage ||| (lockRecord state bo).lockedUsage)
  case neg =>
    simp only [if_neg wanted, countLock_attached]
    exact carries
  simp only [if_pos wanted]
  exact mapAndCount_attached attached rfl mapped x y _ _ _ _

/-- An unlock neither attaches nor detaches a lock record. -/
theorem UnlockOutcome.attached {answer : Returned × GrallocState}
    (outcome : UnlockOutcome state bo answer) (other : BoId) :
    (gbmBoData answer.2 other).isSome = (gbmBoData state other).isSome := by
  by_cases here : other = bo
  · subst here
    cases outcome with
    | fault _ => rfl
    | idle _ _ => rfl
    | released attached _ written => rw [written.record, attached]; rfl
  · rw [gbmBoData, outcome.others other here, ← gbmBoData]

end Records

namespace Mapper

/-- What makes a lock reach the lock record: a buffer, a fence that can be used, and a
usage that the buffer allows. -/
def ReachesRecord (state : GrallocState) (dup : Int → Int) (buffer : BufferHandle)
    (cpuUsage : U64) (acquireFence : Option FenceHandle) : Prop :=
  buffer ≠ 0 ∧ (getFenceFd dup acquireFence).isOk = true ∧
    usageAllowed (state.memory buffer).usage (lockUsage cpuUsage) = true

instance (state : GrallocState) (dup : Int → Int) (buffer : BufferHandle) (cpuUsage : U64)
    (acquireFence : Option FenceHandle) :
    Decidable (ReachesRecord state dup buffer cpuUsage acquireFence) :=
  inferInstanceAs (Decidable (_ ∧ _ ∧ _))

/-- The imported buffers, and those that a lock has reached since their import. -/
structure Buffers where
  imported : Finset BufferHandle
  prepared : Finset BufferHandle

/-- No buffer is imported and none was locked. -/
def Buffers.none : Buffers := ⟨∅, ∅⟩

/-- The buffers that a lock has reached since they were imported. -/
def trackPrepared (state : MapperState) (prepared : Finset BufferHandle) :
    MapperCall → Finset BufferHandle
  | .importBuffer duplicate accepted rawHandle =>
      let answer := (importBuffer duplicate accepted rawHandle state).1
      if answer.1 = .none then prepared.erase answer.2 else prepared
  | .freeBuffer buffer => prepared.erase buffer
  | .lock dup _ buffer cpuUsage _ acquireFence =>
      if ReachesRecord state.gralloc dup buffer cpuUsage acquireFence then insert buffer prepared
      else prepared
  | .unlock _ | .flushLockedBuffer _ | .rereadLockedBuffer _ => prepared

def trackBuffers (state : MapperState) (buffers : Buffers) (call : MapperCall) : Buffers where
  imported := trackImports state buffers.imported call
  prepared := trackPrepared state buffers.prepared call

/-- A buffer on which no lock is held. -/
def HoldsNoLock (state : GrallocState) (buffer : BufferHandle) : Prop :=
  ∀ record mappings, lockStateOf state buffer = some (record, mappings) → record.lockCount = 0

/-- What an unlock did to a buffer is safe: it read no missing lock record, and without a
lock it left the lock state as it was. -/
def SafeFor (buffer : BufferHandle) (state : GrallocState)
    (answer : Option (Error × Option FenceHandle) × GrallocState) : Prop :=
  answer.1 ≠ none ∧
    (HoldsNoLock state buffer → lockStateOf answer.2 buffer = lockStateOf state buffer)

/-- Both ways of unlocking a buffer are safe. -/
def UnlocksSafely (state : GrallocState) (buffer : BufferHandle) : Prop :=
  SafeFor buffer state (unlock buffer state) ∧
    SafeFor buffer state (flushLockedBuffer buffer state)

/-- The unlocks that a step makes of imported buffers are safe. -/
def StepUnlocksSafely (ledger : MapperState × Buffers) : MapperCall → Prop
  | .unlock buffer => buffer ∈ ledger.2.imported →
      SafeFor buffer ledger.1.gralloc (unlock buffer ledger.1.gralloc)
  | .flushLockedBuffer buffer => buffer ∈ ledger.2.imported →
      SafeFor buffer ledger.1.gralloc (flushLockedBuffer buffer ledger.1.gralloc)
  | .importBuffer .. | .freeBuffer _ | .lock .. | .rereadLockedBuffer _ => True

/-- The imported buffers that a step unlocks were reached by a lock. -/
def UnlocksPrepared (ledger : MapperState × Buffers) : MapperCall → Prop
  | .unlock buffer => buffer ∈ ledger.2.imported → buffer ∈ ledger.2.prepared
  | .flushLockedBuffer buffer => buffer ∈ ledger.2.imported → buffer ∈ ledger.2.prepared
  | .importBuffer .. | .freeBuffer _ | .lock .. | .rereadLockedBuffer _ => True

/-- Imported buffers have an object, and it carries a lock record exactly when a lock
reached the buffer. -/
structure LocksTracked (state : GrallocState) (buffers : Buffers) : Prop where
  records : RecordsInvariant state
  nonnull : 0 ∉ buffers.imported
  attached : ∀ buffer ∈ buffers.imported, ∃ bo,
    state.gbmBoHandleMap.find buffer = some (some bo) ∧
      ((gbmBoData state bo).isSome ↔ buffer ∈ buffers.prepared)

/-- A buffer that was imported before a step, and whose entry and record the step keeps. -/
structure Keeps (before after : GrallocState) (buffers held : Buffers) (buffer : BufferHandle) :
    Prop where
  member : buffer ∈ buffers.imported
  prepared : buffer ∈ held.prepared ↔ buffer ∈ buffers.prepared
  entry : after.gbmBoHandleMap.find buffer = before.gbmBoHandleMap.find buffer
  record : ∀ bo, before.gbmBoHandleMap.find buffer = some (some bo) →
    (gbmBoData after bo).isSome = (gbmBoData before bo).isSome

section Unlocks

variable {state : GrallocState} {buffer : BufferHandle}

theorem giveBack_state (nonnull : buffer ≠ 0) :
    (giveBack buffer state).2 = (gbmUnlock buffer state).2 := by
  unfold giveBack
  rw [if_neg nonnull]
  rcases gbmUnlock buffer state with ⟨code | _, after⟩
  · dsimp only
    split <;> rfl
  · rfl

theorem giveBack_answers (nonnull : buffer ≠ 0) :
    (giveBack buffer state).1 ≠ none ↔ (gbmUnlock buffer state).1 ≠ .fault := by
  unfold giveBack
  rw [if_neg nonnull]
  rcases gbmUnlock buffer state with ⟨code | _, after⟩
  · dsimp only
    split <;> simp
  · simp

end Unlocks

namespace LocksTracked

variable {state after : GrallocState} {buffers held : Buffers}

theorem fresh (memory : BufferHandle → PrivateHandle) : LocksTracked (.fresh memory) .none :=
  ⟨.fresh memory, Finset.notMem_empty 0, fun _ member => absurd member (Finset.notMem_empty _)⟩

/-- The buffers that a step keeps stay tracked. -/
theorem keep (tracked : LocksTracked state buffers) {buffer : BufferHandle}
    (keeps : Keeps state after buffers held buffer) :
    ∃ bo, after.gbmBoHandleMap.find buffer = some (some bo) ∧
      ((gbmBoData after bo).isSome ↔ buffer ∈ held.prepared) := by
  obtain ⟨bo, registered, attached⟩ := tracked.attached buffer keeps.member
  refine ⟨bo, keeps.entry.trans registered, ?_⟩
  rw [keeps.record bo registered, keeps.prepared]
  exact attached

/-- A step that keeps every buffer it leaves imported. -/
theorem keepAll (tracked : LocksTracked state buffers) (records : RecordsInvariant after)
    (keeps : ∀ buffer ∈ held.imported, Keeps state after buffers held buffer) :
    LocksTracked after held where
  records := records
  nonnull member := tracked.nonnull (keeps 0 member).member
  attached _ member := tracked.keep (keeps _ member)

/-- An import adds a buffer whose object has no lock record yet. -/
theorem importBuffer {mapper : MapperState} (tracked : LocksTracked mapper.gralloc buffers)
    (duplicate : Option (BufferHandle × Int)) (accepted : Bool)
    (rawHandle : Option PrivateHandle) :
    let answer := Mapper.importBuffer duplicate accepted rawHandle mapper
    LocksTracked answer.2.gralloc
      ⟨if answer.1.1 = .none then insert answer.1.2 buffers.imported else buffers.imported,
        if answer.1.1 = .none then buffers.prepared.erase answer.1.2 else buffers.prepared⟩ := by
  intro answer
  have outcome : ImportOutcome mapper duplicate answer :=
    importBuffer_outcome duplicate accepted rawHandle
  clear_value answer
  cases outcome with
  | rejected => exact tracked
  | exhausted => exact tracked
  | refused raw =>
      exact ⟨tracked.records.holds ⟨rfl, rfl⟩, tracked.nonnull, tracked.attached⟩
  | @registered copy raw cloned proper absent object unattached gralloc memory holds =>
      have records : RecordsInvariant gralloc := by
        apply tracked.records.create unattached
        rwa [UnorderedMap.emplace_of_absent absent]
      refine ⟨records, ?_, fun buffer member => ?_⟩
      · simp [tracked.nonnull, Ne.symm proper]
      simp only [if_true] at member ⊢
      by_cases new : buffer = copy.1
      · subst new
        refine ⟨mapper.gralloc.bos.next, ?_, ?_⟩
        · rw [holds.entries, UnorderedMap.find_assign_self]
        · simp [gbmBoData, holds.bos, unattached]
      · have older := (Finset.mem_insert.mp member).resolve_left new
        have keeps : Keeps mapper.gralloc gralloc buffers
            ⟨insert copy.1 buffers.imported, buffers.prepared.erase copy.1⟩ buffer := by
          refine ⟨older, by simp [new], ?_, fun bo registered => ?_⟩
          · rw [holds.entries, UnorderedMap.find_assign_of_ne new]
          · obtain ⟨object, alive⟩ := tracked.records.entries.live buffer bo registered
            have different : bo ≠ mapper.gralloc.bos.next := by
              rintro rfl
              simp at alive
            rw [gbmBoData, holds.bos, Store.create_cells_of_ne different, ← gbmBoData]
        exact tracked.keep keeps

/-- A free takes its buffer out and leaves the others. -/
theorem free (tracked : LocksTracked state buffers) (buffer : BufferHandle) :
    LocksTracked (gbmFree buffer state)
      ⟨buffers.imported.erase buffer, buffers.prepared.erase buffer⟩ := by
  refine tracked.keepAll (tracked.records.free buffer) fun other member => ?_
  obtain ⟨different, older⟩ := Finset.mem_erase.mp member
  have prepared : other ∈ buffers.prepared.erase buffer ↔ other ∈ buffers.prepared := by
    simp [different]
  cases tracked.records.entries.shape buffer with
  | absent absent =>
      rw [gbmFree_of_absent absent]
      exact ⟨older, prepared, UnorderedMap.find_assign_of_ne different, fun _ _ => rfl⟩
  | null entry =>
      rw [gbmFree_of_null entry]
      exact ⟨older, prepared, rfl, fun _ _ => rfl⟩
  | live freed object registered alive =>
      rw [gbmFree_of_live registered]
      refine ⟨older, prepared, UnorderedMap.find_erase_of_ne different, fun bo found => ?_⟩
      have kept : bo ≠ freed := by
        rintro rfl
        exact different
          (tracked.records.entries.sole (some bo) (by simp) other buffer found registered)
      simp only [gbmBoData, Store.destroy_cells_of_ne kept]

/-- A free of any pointer, null included. -/
theorem freeBuffer {mapper : MapperState} (tracked : LocksTracked mapper.gralloc buffers)
    (buffer : BufferHandle) :
    LocksTracked (Mapper.freeBuffer buffer mapper).2.gralloc
      ⟨buffers.imported.erase buffer, buffers.prepared.erase buffer⟩ := by
  by_cases null : buffer = 0
  · subst null
    rw [freeBuffer_null]
    refine tracked.keepAll tracked.records fun other member => ?_
    obtain ⟨different, older⟩ := Finset.mem_erase.mp member
    exact ⟨older, by simp [different], rfl, fun _ _ => rfl⟩
  · rw [freeBuffer_of_nonnull null]
    exact tracked.free buffer

/-- A null entry under a key that had none. -/
theorem assignNull (tracked : LocksTracked state buffers) {handle : BufferHandle}
    (absent : state.gbmBoHandleMap.find handle = none)
    (holds : Holds after (state.gbmBoHandleMap.assign handle none) state.bos)
    (others : ∀ buffer, buffer ≠ handle → (buffer ∈ held.prepared ↔ buffer ∈ buffers.prepared))
    (imported : held.imported = buffers.imported) : LocksTracked after held := by
  refine tracked.keepAll (tracked.records.assignNull holds) fun buffer member => ?_
  rw [imported] at member
  have different : buffer ≠ handle := by
    rintro rfl
    obtain ⟨bo, registered, -⟩ := tracked.attached buffer member
    rw [absent] at registered
    cases registered
  refine ⟨member, others buffer different, ?_, fun bo _ => ?_⟩
  · rw [holds.entries, UnorderedMap.find_assign_of_ne different]
  · rw [gbmBoData, holds.bos, ← gbmBoData]

/-- What an unlock leaves, whatever it names. -/
theorem unlock (tracked : LocksTracked state buffers) (buffer : BufferHandle) :
    LocksTracked (gbmUnlock buffer state).2 buffers := by
  cases tracked.records.entries.shape buffer with
  | absent absent =>
      rw [gbmUnlock_of_absent absent]
      exact tracked.assignNull absent ⟨rfl, rfl⟩ (fun _ _ => Iff.rfl) rfl
  | null entry =>
      rw [gbmUnlock_of_null entry]
      exact tracked
  | live bo object registered alive =>
      have outcome := gbmUnlock_outcome registered alive
      refine tracked.keepAll (tracked.records.unlock buffer) fun other member => ?_
      exact ⟨member, Iff.rfl, by rw [outcome.sameRegistry.entries],
        fun held _ => outcome.attached held⟩

theorem giveBack (tracked : LocksTracked state buffers) (buffer : BufferHandle) :
    LocksTracked (Mapper.giveBack buffer state).2 buffers := by
  by_cases null : buffer = 0
  · subst null
    exact tracked
  · rw [giveBack_state null]
    exact tracked.unlock buffer

/-- A lock attaches a record to its buffer if it reaches one, and detaches none. -/
theorem lock (tracked : LocksTracked state buffers) (dup : Int → Int) (mapped : Option Mapping)
    (buffer : BufferHandle) (cpuUsage : U64) (accessRegion : Rect)
    (acquireFence : Option FenceHandle) :
    LocksTracked (Mapper.lock dup mapped buffer cpuUsage accessRegion acquireFence state).2
      ⟨buffers.imported, if ReachesRecord state dup buffer cpuUsage acquireFence
        then insert buffer buffers.prepared else buffers.prepared⟩ := by
  rw [lock_enters]
  by_cases enters : buffer ≠ 0 ∧ (getFenceFd dup acquireFence).isOk = true
  case neg =>
    rw [if_neg enters, if_neg fun reaches => enters ⟨reaches.1, reaches.2.1⟩]
    exact tracked
  rw [if_pos enters]
  have others : ∀ other, other ≠ buffer →
      (other ∈ (if ReachesRecord state dup buffer cpuUsage acquireFence
        then insert buffer buffers.prepared else buffers.prepared) ↔ other ∈ buffers.prepared) := by
    intro other different
    split
    · simp [different]
    · rfl
  cases tracked.records.entries.shape buffer with
  | absent absent =>
      rw [gbmLock_of_absent absent]
      exact tracked.assignNull absent ⟨rfl, rfl⟩ others rfl
  | null entry =>
      rw [gbmLock_of_null entry]
      refine tracked.keepAll tracked.records fun other member => ?_
      have different : other ≠ buffer := by
        rintro rfl
        obtain ⟨bo, registered, -⟩ := tracked.attached other member
        rw [entry] at registered
        cases registered
      exact ⟨member, others other different, rfl, fun _ _ => rfl⟩
  | live bo object registered alive =>
      by_cases allowed : usageAllowed (state.memory buffer).usage (lockUsage cpuUsage) = true
      case neg =>
        rw [gbmLock_of_disallowed registered allowed, if_neg fun reaches => allowed reaches.2.2]
        exact tracked
      rw [if_pos ⟨enters.1, enters.2, allowed⟩]
      have outcome := gbmLock_outcome registered alive mapped (lockUsage cpuUsage)
        accessRegion.left accessRegion.top accessRegion.width accessRegion.height
      have attaches := gbmLock_attaches registered alive allowed mapped
        accessRegion.left accessRegion.top accessRegion.width accessRegion.height
      refine ⟨tracked.records.lock .., tracked.nonnull, fun other member => ?_⟩
      by_cases here : other = buffer
      · subst here
        refine ⟨bo, ?_, iff_of_true attaches (Finset.mem_insert_self _ _)⟩
        rw [outcome.sameRegistry.entries]
        exact registered
      · obtain ⟨held, found, attached⟩ := tracked.attached other member
        have kept : held ≠ bo := by
          rintro rfl
          exact here
            (tracked.records.entries.sole (some held) (by simp) other buffer found registered)
        refine ⟨held, ?_, ?_⟩
        · rw [outcome.sameRegistry.entries]
          exact found
        · rw [gbmBoData, outcome.others held kept, ← gbmBoData, attached]
          simp [here]

/-- Every call of the mapper keeps the locks tracked. -/
theorem next {ledger : MapperState × Buffers} (tracked : LocksTracked ledger.1.gralloc ledger.2)
    (call : MapperCall) :
    let after := (mapperMachine.monitored trackBuffers).next ledger call
    LocksTracked after.1.gralloc after.2 := by
  cases call with
  | importBuffer duplicate accepted rawHandle =>
      exact tracked.importBuffer duplicate accepted rawHandle
  | freeBuffer buffer => exact tracked.freeBuffer buffer
  | lock dup mapped buffer cpuUsage accessRegion acquireFence =>
      exact tracked.lock dup mapped buffer cpuUsage accessRegion acquireFence
  | unlock buffer => exact tracked.giveBack buffer
  | flushLockedBuffer buffer => exact tracked.giveBack buffer
  | rereadLockedBuffer buffer => exact tracked

/-- An unlock of an imported buffer is safe exactly when a lock has reached the buffer. -/
theorem safeFor_iff (tracked : LocksTracked state buffers) {buffer : BufferHandle}
    (member : buffer ∈ buffers.imported) :
    SafeFor buffer state (Mapper.giveBack buffer state) ↔ buffer ∈ buffers.prepared := by
  have nonnull : buffer ≠ 0 := by
    rintro rfl
    exact tracked.nonnull member
  obtain ⟨bo, registered, attached⟩ := tracked.attached buffer member
  obtain ⟨object, alive⟩ := tracked.records.entries.live buffer bo registered
  have held := lockStateOf_of_live registered alive
  have outcome := gbmUnlock_outcome registered alive
  rw [SafeFor, giveBack_answers nonnull, giveBack_state nonnull, ← attached]
  generalize gbmUnlock buffer state = answer at outcome ⊢
  cases outcome with
  | fault unattached =>
      rw [unattached]
      exact iff_of_false (fun safe => safe.1 rfl) (by simp)
  | idle found unlocked =>
      rw [found]
      exact iff_of_true ⟨by simp, fun _ => rfl⟩ rfl
  | @released data after found locked written =>
      have record : lockRecord state bo = data := by rw [lockRecord, found, Option.getD_some]
      rw [found]
      refine iff_of_true ⟨by simp, fun free => ?_⟩ rfl
      have unlocked := free _ _ held
      rw [record] at unlocked
      exact absurd unlocked locked

end LocksTracked

/-- An unlock that a step makes is safe exactly when it names a buffer that a lock has
reached. -/
theorem stepUnlocksSafely_iff {ledger : MapperState × Buffers}
    (tracked : LocksTracked ledger.1.gralloc ledger.2) (call : MapperCall) :
    StepUnlocksSafely ledger call ↔ UnlocksPrepared ledger call := by
  cases call with
  | unlock buffer => exact forall_congr' tracked.safeFor_iff
  | flushLockedBuffer buffer => exact forall_congr' tracked.safeFor_iff
  | importBuffer => exact Iff.rfl
  | freeBuffer => exact Iff.rfl
  | lock => exact Iff.rfl
  | rereadLockedBuffer => exact Iff.rfl

/-- In every state that mapper calls can reach, an unlock of an imported buffer is safe
exactly when, since its import, a lock of the buffer had a usable fence and a usage that
the buffer allows. The unlocks of a run are therefore all safe exactly when each that names
an imported buffer comes after such a lock. -/
theorem unlock_safe_iff (memory : BufferHandle → PrivateHandle) (calls : List MapperCall) :
    (mapperMachine.monitored trackBuffers).Always
        (fun ledger => ∀ buffer ∈ ledger.2.imported,
          (UnlocksSafely ledger.1.gralloc buffer ↔ buffer ∈ ledger.2.prepared))
        (.fresh memory, .none) calls ∧
      ((mapperMachine.monitored trackBuffers).EachStep StepUnlocksSafely
          (.fresh memory, .none) calls ↔
        (mapperMachine.monitored trackBuffers).EachStep UnlocksPrepared
          (.fresh memory, .none) calls) := by
  let mapper := mapperMachine.monitored trackBuffers
  let invariant (ledger : MapperState × Buffers) : Prop :=
    LocksTracked ledger.1.gralloc ledger.2
  have start : invariant (.fresh memory, .none) := .fresh memory
  have preserved : ∀ ledger call, invariant ledger → invariant (mapper.next ledger call) :=
    fun ledger call tracked => tracked.next call
  constructor
  · apply (mapper.always_of_invariant preserved start calls).mono
    intro ledger tracked buffer member
    exact (and_congr (tracked.safeFor_iff member) (tracked.safeFor_iff member)).trans and_self_iff
  · exact mapper.eachStep_iff_eachStep
      (fun ledger call tracked _ _ => preserved ledger call tracked)
      (fun ledger call tracked _ => stepUnlocksSafely_iff tracked call) start
      (mapper.eachStep_of_forall (fun _ _ => trivial) _ calls)

/-- A buffer that is imported and unlocked without a lock before: `gbm_unlock` reads through
the null pointer that stands for the missing record. -/
theorem unlock_not_always_safe :
    ¬ ∀ (memory : BufferHandle → PrivateHandle) (calls : List MapperCall),
      (mapperMachine.monitored trackBuffers).Always
        (fun ledger => ∀ buffer ∈ ledger.2.imported, UnlocksSafely ledger.1.gralloc buffer)
        (.fresh memory, .none) calls := by
  intro claim
  have safe := (claim (fun _ => exampleImported)
    [.importBuffer (some (1, 5)) true (some exampleImported)]).last 1 (by decide)
  exact safe.1.1 (by decide)

end Mapper

end Arpi.Gralloc
