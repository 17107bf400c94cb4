import Arpi.Gralloc.UnlockSafety
import Arpi.Semantics.Refinement

/-!
# The registry as a table of locks

What callers can observe of `gbm_gralloc.cpp` is a table: a handle is unknown, lost to a null
entry, or the name of a buffer, and a buffer is locked for the CPU through a mapping, shared by
locks that need no mapping, or not locked. The table has no objects and no records.
`registry_refines_table` says that it gives every answer that the registry gives, with the
handles, strides and addresses in them.
-/

namespace Arpi.Gralloc

open Arpi.Semantics

/-! ## The registry and its answers -/

/-- What a call gives back: an allocation its code and, if it is zero, the handle and the
stride, a lock its code and the address, and every other call what it returns. -/
inductive RegistryAnswer where
  | allocated (code : Int) (buffer : Option (BufferHandle × U32))
  | locked (code : Int) (address : Address)
  | returned (answer : Returned)
deriving DecidableEq

/-- What a call returns, without what it stores through pointers. -/
def RegistryAnswer.code : RegistryAnswer → Returned
  | .allocated code _ => .code code
  | .locked code _ => .code code
  | .returned answer => answer

/-- The registry with all that its calls give back. -/
def registryService : Machine GrallocState RegistryCall RegistryAnswer where
  step state
    | .alloc address created errno width height format usage =>
        let answer := gbmAlloc address created errno width height format usage state
        (.allocated answer.1 answer.2.1, answer.2.2)
    | .register handle accepted =>
        let answer := gbmRegister accepted handle state
        (.returned (.code answer.1), answer.2)
    | .unregister handle =>
        let answer := gbmUnregister handle state
        (.returned (.code answer.1), answer.2)
    | .free handle => (.returned (.code 0), gbmFree handle state)
    | .lock handle usage x y w h mapped =>
        let answer := gbmLock mapped handle usage x y w h state
        (.locked answer.1 answer.2.1, answer.2.2)
    | .unlock handle =>
        let answer := gbmUnlock handle state
        (.returned answer.1, answer.2)

/-- Who looks only at what the calls return sees the registry. -/
theorem registryService_observing :
    registryService.observing RegistryAnswer.code = registryMachine := by
  refine congrArg Machine.mk (funext fun state => funext fun call => ?_)
  cases call <;> rfl

/-! ## The table -/

/-- The locks of a buffer: it was never locked and an unlock would fault, it is not locked,
the CPU has it through a mapping for a usage, or one lock and `others` more hold it for a usage
without CPU bits. -/
inductive BufferLock where
  | untouched
  | unlocked
  | mapped (mapData : Nat) (usage : U64)
  | shared (others : Nat) (usage : U64)
deriving DecidableEq

/-- The bits of a usage that `locked_for` has room for. -/
def keptUsage (usage : U64) : U64 := (usage.setWidth 32).signExtend 64

namespace BufferLock

/-- A lock of a buffer that nobody has locked, its code and its address. The driver decides
whether the buffer can be mapped, and where. -/
def first (mapped : Option Mapping) (usage : U64) : Int × Address × BufferLock :=
  if WantsMapping usage then
    match mapped with
    | none => (-enomem, 0, .unlocked)
    | some mapping => (0, mapping.address, .mapped mapping.mapData (keptUsage usage))
  else (0, 0, .shared 0 (keptUsage usage))

/-- A lock. The CPU shares a buffer with nobody, and the others only for what the first of
them has asked for. -/
def lock (mapped : Option Mapping) (usage : U64) : BufferLock → Int × Address × BufferLock
  | .untouched => first mapped usage
  | .unlocked => first mapped usage
  | .mapped mapData held => (-einval, 0, .mapped mapData held)
  | .shared others held =>
      if held &&& usage = usage then (0, 0, .shared (others + 1) held)
      else (-einval, 0, .shared others held)

/-- An unlock. -/
def unlock : BufferLock → Returned × BufferLock
  | .untouched => (.fault, .untouched)
  | .unlocked => (.code 0, .unlocked)
  | .mapped _ _ => (.code 0, .unlocked)
  | .shared 0 _ => (.code 0, .unlocked)
  | .shared (others + 1) held => (.code 0, .shared others held)

end BufferLock

/-- What is known of a handle. -/
inductive TableEntry where
  | absent
  | lost
  | buffer (lock : BufferLock)
deriving DecidableEq

namespace TableEntry

/-- Looking up an unknown handle loses it. -/
def lookup : TableEntry → TableEntry
  | .absent => .lost
  | entry => entry

/-- A new buffer, unless something is known of the handle already. -/
def enter : TableEntry → TableEntry
  | .absent => .buffer .untouched
  | entry => entry

theorem enter_of_ne {entry : TableEntry} (known : entry ≠ .absent) : entry.enter = entry := by
  cases entry with
  | absent => exact absurd rfl known
  | lost => rfl
  | buffer lock => rfl

/-- A buffer is forgotten. -/
def forget : TableEntry → TableEntry
  | .buffer _ => .absent
  | entry => entry.lookup

/-- A lock for a usage that the handle allows or does not allow. -/
def lock (allowed : Bool) (mapped : Option Mapping) (usage : U64) :
    TableEntry → Int × Address × TableEntry
  | .buffer lock =>
      if allowed then
        let answer := lock.lock mapped usage
        (answer.1, answer.2.1, .buffer answer.2.2)
      else (-einval, 0, .buffer lock)
  | entry => (-einval, 0, entry.lookup)

/-- An unlock. -/
def unlock : TableEntry → Returned × TableEntry
  | .buffer lock => (lock.unlock.1, .buffer lock.unlock.2)
  | entry => (.code (-einval), entry.lookup)

end TableEntry

/-- The usage that each handle was made for, whether it has a descriptor, and its entry. -/
@[ext] structure BufferTable where
  usage : BufferHandle → U64
  described : BufferHandle → Bool
  entries : BufferHandle → TableEntry

namespace BufferTable

/-- A new handle at an address. -/
def describe (table : BufferTable) (address : BufferHandle) (usage : U64) (described : Bool) :
    BufferTable :=
  { table with
    usage := Function.update table.usage address usage
    described := Function.update table.described address described }

/-- Writes an entry. -/
def write (table : BufferTable) (handle : BufferHandle) (entry : TableEntry) : BufferTable :=
  { table with entries := Function.update table.entries handle entry }

@[simp] theorem write_self (table : BufferTable) (handle : BufferHandle) (entry : TableEntry) :
    (table.write handle entry).entries handle = entry := Function.update_self ..

theorem write_of_ne {table : BufferTable} {handle other : BufferHandle} {entry : TableEntry}
    (different : other ≠ handle) : (table.write handle entry).entries other = table.entries other :=
  Function.update_of_ne different ..

end BufferTable

/-- The table as a service. -/
def tableMachine : Machine BufferTable RegistryCall RegistryAnswer where
  step table
    | .alloc address created errno _ _ format usage =>
        if grallocGbmGetBpp format = 0 then (.allocated (-einval) none, table)
        else
          match created with
          | none => (.allocated (-errno) none, table.describe address usage false)
          | some bo =>
              (.allocated 0 (some (address, bo.stride / grallocGbmGetBpp format)),
                (table.describe address usage (decide (0 ≤ bo.fd))).write address
                  (table.entries address).enter)
    | .register handle accepted =>
        if handle ≠ 0 ∧ table.entries handle = .absent ∧ table.described handle = true ∧
            accepted = true then
          (.returned (.code 0), table.write handle (.buffer .untouched))
        else (.returned (.code (-einval)), table)
    | .unregister handle | .free handle =>
        (.returned (.code 0), table.write handle (table.entries handle).forget)
    | .lock handle usage _ _ _ _ mapped =>
        let answer := (table.entries handle).lock (usageAllowed (table.usage handle) usage)
          mapped usage
        (.locked answer.1 answer.2.1, table.write handle answer.2.2)
    | .unlock handle =>
        let answer := (table.entries handle).unlock
        (.returned answer.1, table.write handle answer.2)

/-! ## Lock records as locks -/

section Records

variable {state : GrallocState} {handle : BufferHandle} {bo : BoId} {object : Bo} {usage : U64}

/-- What a lock of an allowed usage answers and makes of the record. -/
def BoData.lock (mapped : Option Mapping) (usage : U64) (data : BoData) : Int × Address × BoData :=
  if data.Clashes usage then (-einval, 0, data)
  else if WantsMapping (usage ||| data.lockedUsage) then
    if data.mapData.isSome then (-einval, 0, data)
    else
      match mapped with
      | none => (-enomem, 0, data)
      | some mapping => (0, mapping.address, data.granted usage (some mapping.mapData))
  else (0, 0, data.granted usage data.mapData)

/-- The specification of `gbm_lock` by its record. -/
theorem gbmLock_record (registered : state.gbmBoHandleMap.find handle = some (some bo))
    (alive : state.bos.cells bo = some object)
    (allowed : usageAllowed (state.memory handle).usage usage = true) (mapped : Option Mapping)
    (x y w h : Int) :
    ∃ after, gbmLock mapped handle usage x y w h state =
        (((lockRecord state bo).lock mapped usage).1,
          ((lockRecord state bo).lock mapped usage).2.1, after) ∧
      RecordWritten state after bo ((lockRecord state bo).lock mapped usage).2.2 := by
  have attached := setBoData_cells alive (lockRecord state bo)
  have written := setBoData_written alive (lockRecord state bo)
  unfold gbmLock
  rw [fromHandle_of_present registered]
  dsimp only
  rw [if_pos allowed]
  unfold lockRecorded BoData.lock
  by_cases clash : (lockRecord state bo).Clashes usage
  · rw [if_pos clash, if_pos clash]
    exact ⟨_, rfl, written⟩
  rw [if_neg clash, if_neg clash]
  by_cases wanted : WantsMapping (usage ||| (lockRecord state bo).lockedUsage)
  case neg =>
    simp only [if_neg wanted]
    exact ⟨_, rfl, written.trans (countLock_written attached rfl usage).1⟩
  simp only [if_pos wanted]
  by_cases busy : (lockRecord state bo).mapData = none
  case neg =>
    rw [gbmMap_busy mapped busy, if_pos (Option.isSome_iff_ne_none.mpr busy),
      if_pos (show (-einval : Int) ≠ 0 by decide)]
    exact ⟨_, rfl, written⟩
  rw [busy, Option.isSome_none, if_neg Bool.false_ne_true]
  cases mapped with
  | none =>
      obtain ⟨after, answer, kept⟩ := gbmMap_refused attached rfl busy
      rw [answer, if_pos (show (-enomem : Int) ≠ 0 by decide)]
      exact ⟨_, rfl, written.trans kept⟩
  | some mapping =>
      obtain ⟨after, next, answer, kept, found, -, recorded⟩ :=
        gbmMap_mapped attached mapping busy
      rw [answer, if_neg (not_not.mpr rfl)]
      exact ⟨_, rfl, written.trans (kept.trans (countLock_written found recorded usage).1)⟩

/-- The locks that a record stands for. -/
def BoData.locks (data : BoData) : BufferLock :=
  if data.lockCount = 0 then .unlocked
  else
    match data.mapData with
    | some mapData => .mapped mapData data.lockedUsage
    | none => .shared (data.lockCount - 1).toNat data.lockedUsage

variable {data : BoData}

theorem BoData.locks_unlocked (idle : data.lockCount = 0) : data.locks = .unlocked := if_pos idle

theorem BoData.locks_mapped {mapData : Nat} (locked : data.lockCount ≠ 0)
    (mapped : data.mapData = some mapData) : data.locks = .mapped mapData data.lockedUsage := by
  rw [BoData.locks, if_neg locked, mapped]

theorem BoData.locks_shared (locked : data.lockCount ≠ 0) (unmapped : data.mapData = none) :
    data.locks = .shared (data.lockCount - 1).toNat data.lockedUsage := by
  rw [BoData.locks, if_neg locked, unmapped]

/-- A sound record without a lock has neither usage nor mapping. -/
theorem BoData.Sound.idle_fields (sound : data.Sound) (idle : data.lockCount = 0) :
    data.lockedUsage = 0#64 ∧ data.mapData = none := by
  have forgotten : data.lockedUsage = 0#64 := by
    rw [BoData.lockedUsage, sound.idle idle]
    rfl
  refine ⟨forgotten, ?_⟩
  by_contra mapped
  have wanted := sound.mapped.mp mapped
  rw [forgotten] at wanted
  exact absurd wanted (by decide)

/-- The first lock of a sound record. -/
theorem BoData.Sound.lock_idle (sound : data.Sound) (idle : data.lockCount = 0)
    (mapped : Option Mapping) (usage : U64) :
    BufferLock.first mapped usage = ((data.lock mapped usage).1, (data.lock mapped usage).2.1,
      (data.lock mapped usage).2.2.locks) := by
  obtain ⟨forgotten, unmapped⟩ := sound.idle_fields idle
  have fits : ¬ data.Clashes usage := fun clash => clash.1 idle
  have counted : ∀ mapData, (data.granted usage mapData).lockCount ≠ 0 := by
    intro mapData
    change data.lockCount + 1 ≠ 0
    omega
  have kept : ∀ mapData, (data.granted usage mapData).lockedUsage = keptUsage usage := by
    intro mapData
    rw [BoData.lockedUsage, BoData.granted, forgotten, BitVec.or_zero, BitVec.zero_or]
    rfl
  unfold BufferLock.first BoData.lock
  rw [if_neg fits, forgotten, BitVec.or_zero, unmapped, Option.isSome_none,
    if_neg Bool.false_ne_true]
  by_cases wanted : WantsMapping usage
  · rw [if_pos wanted, if_pos wanted]
    cases mapped with
    | none => rw [BoData.locks_unlocked idle]
    | some mapping => rw [BoData.locks_mapped (counted _) rfl, kept]
  · rw [if_neg wanted, if_neg wanted, BoData.locks_shared (counted none) rfl, kept]
    have count : (data.lockCount + 1 - 1).toNat = 0 := by rw [idle]; rfl
    rw [BoData.granted, count]

/-- A lock of a sound record is a lock of what it stands for. -/
theorem BoData.Sound.lock_locks (sound : data.Sound) (mapped : Option Mapping) (usage : U64) :
    data.locks.lock mapped usage = ((data.lock mapped usage).1, (data.lock mapped usage).2.1,
      (data.lock mapped usage).2.2.locks) := by
  by_cases idle : data.lockCount = 0
  · rw [BoData.locks_unlocked idle]
    exact sound.lock_idle idle mapped usage
  cases token : data.mapData with
  | some mapData =>
      -- The compatible usages would map the buffer a second time.
      have present : data.mapData ≠ none := by rw [token]; exact Option.some_ne_none mapData
      have wanted : WantsMapping (usage ||| data.lockedUsage) :=
        (wantsMapping_or _ _).mpr (.inr (sound.mapped.mp present))
      have refused : data.lock mapped usage = (-einval, 0, data) := by
        unfold BoData.lock
        rw [if_pos wanted, if_pos (Option.isSome_iff_ne_none.mpr present), ite_self]
      rw [refused, BoData.locks_mapped idle token]
      rfl
  | none =>
      rw [BoData.locks_shared idle token, BufferLock.lock]
      by_cases subset : data.lockedUsage &&& usage = usage
      case neg =>
        have refused : data.lock mapped usage = (-einval, 0, data) := if_pos ⟨idle, subset⟩
        rw [if_neg subset, refused, BoData.locks_shared idle token]
      have fits : ¬ data.Clashes usage := fun clash => clash.2 subset
      have granted : data.lock mapped usage = (0, 0, data.granted usage none) := by
        unfold BoData.lock
        rw [if_neg fits, if_neg (sound.not_wantsMapping data fits token idle), token]
      have counted := sound.counted
      have count : (data.granted usage none).lockCount = data.lockCount + 1 := rfl
      have held : (data.granted usage none).lockedUsage = data.lockedUsage := by
        have union : data.lockedUsage ||| (usage ||| data.lockedUsage) = data.lockedUsage := by
          rw [← subset]
          ext place
          simp only [BitVec.getElem_or, BitVec.getElem_and]
          cases data.lockedUsage[place] <;> simp
        rw [BoData.granted, BoData.lockedUsage, union, BoData.lockedUsage]
        dsimp only
        rw [Bits.setWidth_signExtend (by decide)]
      rw [if_pos subset, granted, BoData.locks_shared (by rw [count]; omega) rfl, held, count]
      congr 3
      omega

/-- An unlock of a locked record is an unlock of what it stands for. -/
theorem BoData.Sound.unlock_locks (sound : data.Sound) (locked : data.lockCount ≠ 0) :
    data.locks.unlock = (.code 0, data.released.locks) := by
  have counted := sound.counted
  have count := released_lockCount data
  by_cases mapped : data.mapData = none
  case neg =>
    obtain ⟨mapData, token⟩ := Option.ne_none_iff_exists'.mp mapped
    have last : data.released.lockCount = 0 := by
      have once := sound.once mapped
      omega
    rw [BoData.locks_mapped locked token, BoData.locks_unlocked last]
    rfl
  rw [BoData.locks_shared locked mapped]
  by_cases last : data.lockCount = 1
  · have first : (data.lockCount - 1).toNat = 0 := by omega
    rw [first, BoData.locks_unlocked (by omega)]
    rfl
  · obtain ⟨others, more⟩ : ∃ others, (data.lockCount - 1).toNat = others + 1 :=
      ⟨(data.lockCount - 2).toNat, by omega⟩
    have fewer : (data.released.lockCount - 1).toNat = others := by omega
    have held : data.released.lockedUsage = data.lockedUsage := by
      rw [BoData.lockedUsage, data.released_lockedFor, if_neg last, BoData.lockedUsage]
    rw [more, BoData.locks_shared (by omega) sound.released_mapData, held, fewer]
    rfl

end Records

/-! ## The table of a state -/

/-- The locks of an object. -/
def locksOf (state : GrallocState) (bo : BoId) : BufferLock :=
  match gbmBoData state bo with
  | none => .untouched
  | some data => data.locks

/-- The entry of a handle. -/
def entryOf (state : GrallocState) (handle : BufferHandle) : TableEntry :=
  match state.gbmBoHandleMap.find handle with
  | none => .absent
  | some none => .lost
  | some (some bo) => .buffer (locksOf state bo)

/-- What callers can observe of a state. -/
def tableOf (state : GrallocState) : BufferTable where
  usage handle := (state.memory handle).usage
  described handle := decide (0 ≤ (state.memory handle).fd)
  entries := entryOf state

section Views

variable {state after : GrallocState} {handle : BufferHandle} {bo : BoId}

theorem entryOf_of_absent (absent : state.gbmBoHandleMap.find handle = none) :
    entryOf state handle = .absent := by
  rw [entryOf, absent]

theorem entryOf_of_null (null : state.gbmBoHandleMap.find handle = some none) :
    entryOf state handle = .lost := by
  rw [entryOf, null]

theorem entryOf_of_live (registered : state.gbmBoHandleMap.find handle = some (some bo)) :
    entryOf state handle = .buffer (locksOf state bo) := by
  rw [entryOf, registered]

/-- An entry looks the same while it holds the same object with the same record. -/
theorem entryOf_congr (entry : after.gbmBoHandleMap.find handle = state.gbmBoHandleMap.find handle)
    (records : ∀ bo, state.gbmBoHandleMap.find handle = some (some bo) →
      after.bos.cells bo = state.bos.cells bo) : entryOf after handle = entryOf state handle := by
  unfold entryOf
  rw [entry]
  cases found : state.gbmBoHandleMap.find handle with
  | none => rfl
  | some entry =>
      cases entry with
      | none => rfl
      | some bo => simp only [locksOf, gbmBoData, records bo found]

/-- A call that keeps the handles and touches one entry writes this entry. -/
theorem tableOf_write (memory : after.memory = state.memory) {entry : TableEntry}
    (here : entryOf after handle = entry)
    (others : ∀ other, other ≠ handle → entryOf after other = entryOf state other) :
    tableOf after = (tableOf state).write handle entry := by
  refine BufferTable.ext ?_ ?_ (funext fun other => ?_)
  · simp only [tableOf, BufferTable.write, memory]
  · simp only [tableOf, BufferTable.write, memory]
  · by_cases same : other = handle
    · subst same
      simp [tableOf, BufferTable.write, here]
    · simp [tableOf, BufferTable.write, others other same, same]

/-- Writing the entry that is there changes nothing. -/
theorem write_of_same {entry : TableEntry} (same : entryOf state handle = entry) :
    (tableOf state).write handle entry = tableOf state := by
  subst same
  simp [BufferTable.write, tableOf]

/-- Assigning another entry to a handle touches no other entry. -/
theorem entryOf_of_assigned {entry : Option BoId} {other : BufferHandle}
    (holds : Holds after (state.gbmBoHandleMap.assign handle entry) state.bos)
    (different : other ≠ handle) : entryOf after other = entryOf state other :=
  entryOf_congr (by rw [holds.entries, UnorderedMap.find_assign_of_ne different])
    fun bo _ => by rw [holds.bos]

/-- What happens to the object of one handle does not show at the others. -/
theorem EntriesLive.entryOf_others (entries : EntriesLive state)
    (registered : state.gbmBoHandleMap.find handle = some (some bo)) {other : BufferHandle}
    (different : other ≠ handle)
    (entry : after.gbmBoHandleMap.find other = state.gbmBoHandleMap.find other)
    (records : ∀ held, held ≠ bo → after.bos.cells held = state.bos.cells held) :
    entryOf after other = entryOf state other := by
  refine entryOf_congr entry fun held found => records held ?_
  rintro rfl
  exact different (entries.sole (some held) (Option.some_ne_none _) other handle found registered)

/-- Where only the lock record of a registered buffer was written, the entry of its handle is. -/
theorem EntriesLive.tableOf_record (entries : EntriesLive state)
    (registered : state.gbmBoHandleMap.find handle = some (some bo)) {data : BoData}
    (written : RecordWritten state after bo data) :
    tableOf after = (tableOf state).write handle (.buffer data.locks) := by
  refine tableOf_write written.memory ?_ fun other different => ?_
  · rw [entryOf_of_live (by rw [written.registry.entries]; exact registered), locksOf,
      written.record]
  · exact entries.entryOf_others registered different (by rw [written.registry.entries])
      written.others

theorem entryOf_eq_absent_iff :
    entryOf state handle = .absent ↔ state.gbmBoHandleMap.find handle = none := by
  unfold entryOf
  split <;> simp_all

/-- A call that looks up an unknown handle loses it. -/
theorem tableOf_assign_null :
    tableOf { state with gbmBoHandleMap := state.gbmBoHandleMap.assign handle none } =
      (tableOf state).write handle .lost := by
  apply tableOf_write
  · rfl
  · apply entryOf_of_null
    exact UnorderedMap.find_assign_self
  · intro other different
    exact entryOf_of_assigned ⟨rfl, rfl⟩ different

/-- A lock cannot tell an object without a record from one that nobody holds. -/
theorem locksOf_lock (mapped : Option Mapping) (usage : U64) :
    (locksOf state bo).lock mapped usage = (lockRecord state bo).locks.lock mapped usage := by
  unfold locksOf lockRecord
  cases gbmBoData state bo with
  | none => rfl
  | some data => rfl

end Views

/-! ## One call -/

section Calls

variable {state : GrallocState}

/-- A lock is one of the table. -/
theorem RecordsInvariant.lock_entry (invariant : RecordsInvariant state) (handle : BufferHandle)
    (mapped : Option Mapping) (usage : U64) (x y w h : Int) :
    let answer := gbmLock mapped handle usage x y w h state
    let entry := (entryOf state handle).lock (usageAllowed (state.memory handle).usage usage)
      mapped usage
    answer.1 = entry.1 ∧ answer.2.1 = entry.2.1 ∧
      tableOf answer.2.2 = (tableOf state).write handle entry.2.2 := by
  intro answer entry
  cases invariant.entries.shape handle with
  | absent absent =>
      have unknown : entry = (-einval, 0, .lost) := by
        simp only [entry, entryOf_of_absent absent]
        rfl
      have asked : answer = _ := gbmLock_of_absent absent mapped usage x y w h
      rw [asked, unknown]
      exact ⟨rfl, rfl, tableOf_assign_null⟩
  | null null =>
      have lost : entry = (-einval, 0, .lost) := by
        simp only [entry, entryOf_of_null null]
        rfl
      have asked : answer = _ := gbmLock_of_null null mapped usage x y w h
      rw [asked, lost]
      exact ⟨rfl, rfl, (write_of_same (entryOf_of_null null)).symm⟩
  | live bo object registered alive =>
      have known := entryOf_of_live registered
      by_cases allowed : usageAllowed (state.memory handle).usage usage = true
      case neg =>
        have refused : entry = (-einval, 0, .buffer (locksOf state bo)) := by
          simp only [entry, known, TableEntry.lock, if_neg allowed]
        have asked : answer = _ := gbmLock_of_disallowed registered allowed mapped x y w h
        rw [asked, refused]
        exact ⟨rfl, rfl, (write_of_same known).symm⟩
      obtain ⟨after, asked, written⟩ := gbmLock_record registered alive allowed mapped x y w h
      have sound : (lockRecord state bo).Sound := invariant.sound bo
      have locked : entry = (((lockRecord state bo).lock mapped usage).1,
          ((lockRecord state bo).lock mapped usage).2.1,
          .buffer ((lockRecord state bo).lock mapped usage).2.2.locks) := by
        simp only [entry, known, TableEntry.lock, if_pos allowed, locksOf_lock,
          sound.lock_locks mapped usage]
      rw [show answer = _ from asked, locked]
      exact ⟨rfl, rfl, invariant.entries.tableOf_record registered written⟩

/-- An unlock is one of the table. -/
theorem RecordsInvariant.unlock_entry (invariant : RecordsInvariant state)
    (handle : BufferHandle) :
    (gbmUnlock handle state).1 = (entryOf state handle).unlock.1 ∧
      tableOf (gbmUnlock handle state).2 =
        (tableOf state).write handle (entryOf state handle).unlock.2 := by
  cases invariant.entries.shape handle with
  | absent absent =>
      rw [gbmUnlock_of_absent absent, entryOf_of_absent absent]
      exact ⟨rfl, tableOf_assign_null⟩
  | null null =>
      rw [gbmUnlock_of_null null, entryOf_of_null null]
      exact ⟨rfl, (write_of_same (entryOf_of_null null)).symm⟩
  | live bo object registered alive =>
      have known := entryOf_of_live registered
      have outcome := gbmUnlock_outcome registered alive
      generalize gbmUnlock handle state = answer at outcome ⊢
      cases outcome with
      | fault unattached =>
          have untouched : entryOf state handle = .buffer .untouched := by
            rw [known, locksOf, unattached]
          rw [untouched]
          exact ⟨rfl, (write_of_same untouched).symm⟩
      | @idle data attached unlocked =>
          have idle : entryOf state handle = .buffer .unlocked := by
            rw [known, locksOf, attached]
            exact congrArg TableEntry.buffer (BoData.locks_unlocked unlocked)
          rw [idle]
          exact ⟨rfl, (write_of_same idle).symm⟩
      | @released data after attached locked written =>
          have sound : data.Sound := by
            have recorded := invariant.sound bo
            rwa [RecordSound, lockRecord, attached] at recorded
          have unlocks : (entryOf state handle).unlock = (.code 0, .buffer data.released.locks) := by
            rw [known, locksOf, attached]
            simp only [TableEntry.unlock, sound.unlock_locks locked]
          rw [unlocks]
          exact ⟨rfl, invariant.entries.tableOf_record registered written⟩

/-- A free is one of the table. -/
theorem RecordsInvariant.free_entry (invariant : RecordsInvariant state)
    (handle : BufferHandle) :
    tableOf (gbmFree handle state) =
      (tableOf state).write handle (entryOf state handle).forget := by
  cases invariant.entries.shape handle with
  | absent absent =>
      rw [gbmFree_of_absent absent, entryOf_of_absent absent]
      exact tableOf_assign_null
  | null null =>
      rw [gbmFree_of_null null, entryOf_of_null null]
      exact (write_of_same (entryOf_of_null null)).symm
  | live bo object registered alive =>
      rw [gbmFree_of_live registered, entryOf_of_live registered]
      apply tableOf_write
      · rfl
      · apply entryOf_of_absent
        exact UnorderedMap.find_erase_self
      · intro other different
        exact invariant.entries.entryOf_others registered different
          (UnorderedMap.find_erase_of_ne different) fun held other =>
            Store.destroy_cells_of_ne other

/-- The conditions of an import are observable. -/
theorem importable_iff {handle : BufferHandle} {accepted : Bool} :
    (handle ≠ 0 ∧ (tableOf state).entries handle = .absent ∧
        (tableOf state).described handle = true ∧ accepted = true) ↔
      handle ≠ 0 ∧ state.gbmBoHandleMap.find handle = none ∧
        ImportSucceeds accepted handle state := by
  simp only [tableOf, entryOf_eq_absent_iff, decide_eq_true_eq, ImportSucceeds]

/-- A new object under an unknown handle is a buffer that was never locked. -/
theorem RecordsInvariant.create_entry {after : GrallocState} (invariant : RecordsInvariant state)
    {handle : BufferHandle} {object : Bo} (unattached : object.userData = none)
    (holds : Holds after (state.gbmBoHandleMap.emplace handle (some state.bos.next))
      (state.bos.create object)) :
    entryOf after = Function.update (entryOf state) handle (entryOf state handle).enter := by
  have kept : ∀ other, after.gbmBoHandleMap.find other = state.gbmBoHandleMap.find other →
      entryOf after other = entryOf state other := by
    intro other entry
    refine entryOf_congr entry fun held found => ?_
    obtain ⟨live, alive⟩ := invariant.entries.live other held found
    have older : held ≠ state.bos.next := by
      rintro rfl
      rw [state.bos.next_cell] at alive
      cases alive
    rw [holds.bos, Store.create_cells_of_ne older]
  funext other
  by_cases same : other = handle
  case neg =>
    rw [Function.update_of_ne same]
    apply kept
    rw [holds.entries]
    by_cases absent : state.gbmBoHandleMap.find handle = none
    · rw [UnorderedMap.emplace_of_absent absent, UnorderedMap.find_assign_of_ne same]
    · rw [UnorderedMap.emplace_of_present absent]
  subst same
  rw [Function.update_self]
  by_cases absent : state.gbmBoHandleMap.find other = none
  · have registered : after.gbmBoHandleMap.find other = some (some state.bos.next) := by
      rw [holds.entries, UnorderedMap.emplace_of_absent absent, UnorderedMap.find_assign_self]
    rw [entryOf_of_live registered, locksOf, gbmBoData, holds.bos, Store.create_cells_next,
      Option.bind_some, unattached, entryOf_of_absent absent]
    rfl
  · have known : entryOf state other ≠ .absent := fun unknown =>
      absent (entryOf_eq_absent_iff.mp unknown)
    rw [TableEntry.enter_of_ne known]
    apply kept
    rw [holds.entries, UnorderedMap.emplace_of_present absent]

/-- Writing a handle anew describes it anew. -/
theorem tableOf_describe {after : GrallocState} {address : BufferHandle} {contents : PrivateHandle}
    (memory : after.memory = Function.update state.memory address contents)
    {entries : BufferHandle → TableEntry} (same : entryOf after = entries) :
    tableOf after =
      ⟨Function.update (tableOf state).usage address contents.usage,
        Function.update (tableOf state).described address (decide (0 ≤ contents.fd)), entries⟩ := by
  subst same
  refine BufferTable.ext (funext fun other => ?_) (funext fun other => ?_) rfl
  · by_cases here : other = address
    · subst here
      simp [tableOf, memory]
    · simp [tableOf, memory, here]
  · by_cases here : other = address
    · subst here
      simp [tableOf, memory]
    · simp [tableOf, memory, here]

/-- The driver makes no object: the handle is written nevertheless. -/
theorem gbmAlloc_refused (address : BufferHandle) (errno : Int) (width height : U32)
    {format : U32} (known : grallocGbmGetBpp format ≠ 0) (usage : U64) :
    ∃ contents after,
      gbmAlloc address none errno width height format usage state = (-errno, none, after) ∧
      contents.usage = usage ∧ contents.fd = -1 ∧
      after.memory = Function.update state.memory address contents ∧
      Holds after state.gbmBoHandleMap state.bos := by
  let contents := PrivateHandle.new (state.memory address).stride width height format usage
  refine ⟨contents, { state with memory := Function.update state.memory address contents }, ?_,
    rfl, rfl, rfl, ⟨rfl, rfl⟩⟩
  rw [gbmAlloc, if_neg known]
  rfl

/-- The driver makes an object: the handle names it unless it has an entry already. -/
theorem gbmAlloc_created (address : BufferHandle) (bo : CreatedBo) (errno : Int)
    (width height : U32) {format : U32} (known : grallocGbmGetBpp format ≠ 0) (usage : U64) :
    ∃ contents object after,
      gbmAlloc address (some bo) errno width height format usage state =
        (0, some (address, bo.stride / grallocGbmGetBpp format), after) ∧
      contents.usage = usage ∧ contents.fd = bo.fd ∧ object.userData = none ∧
      after.memory = Function.update state.memory address contents ∧
      Holds after (state.gbmBoHandleMap.emplace address (some state.bos.next))
        (state.bos.create object) := by
  let contents : PrivateHandle :=
    { PrivateHandle.new (state.memory address).stride width height format usage with
      fd := bo.fd, stride := bo.stride }
  let object : Bo :=
    ⟨boWidth contents, boHeight contents, getGbmFormat format, getPipeBind usage, bo.stride, none, []⟩
  refine ⟨contents, object, ?after, ?_, rfl, rfl, rfl, ?_, ?_⟩
  case after =>
    exact
      { state with
        memory := Function.update state.memory address contents
        gbmBoHandleMap := state.gbmBoHandleMap.emplace address (some state.bos.next)
        bos := state.bos.create object }
  · rw [gbmAlloc, if_neg known]
    simp only [grallocGbmBoCreate, gbmAllocBo, Function.update_self, Function.update_idem]
    rfl
  · rfl
  · exact ⟨rfl, rfl⟩

/-- An allocation is one of the table. -/
theorem RecordsInvariant.alloc_step (invariant : RecordsInvariant state) (address : BufferHandle)
    (created : Option CreatedBo) (errno : Int) (width height format : U32) (usage : U64) :
    tableMachine.step (tableOf state) (.alloc address created errno width height format usage) =
      (.allocated (gbmAlloc address created errno width height format usage state).1
          (gbmAlloc address created errno width height format usage state).2.1,
        tableOf (gbmAlloc address created errno width height format usage state).2.2) := by
  simp only [tableMachine]
  by_cases unknown : grallocGbmGetBpp format = 0
  · rw [if_pos unknown, gbmAlloc, if_pos unknown]
  rw [if_neg unknown]
  cases created with
  | none =>
      obtain ⟨contents, after, answer, rfl, descriptor, memory, holds⟩ :=
        gbmAlloc_refused address errno width height unknown usage
      have entries : entryOf after = entryOf state :=
        funext fun other => entryOf_congr (by rw [holds.entries]) fun bo _ => by rw [holds.bos]
      rw [answer, tableOf_describe memory entries, descriptor]
      rfl
  | some bo =>
      obtain ⟨contents, object, after, answer, rfl, descriptor, unattached, memory, holds⟩ :=
        gbmAlloc_created address bo errno width height unknown usage
      rw [answer, tableOf_describe memory (invariant.create_entry unattached holds), descriptor]
      rfl

/-- A registration is one of the table. -/
theorem RecordsInvariant.register_step (invariant : RecordsInvariant state)
    (handle : BufferHandle) (accepted : Bool) :
    tableMachine.step (tableOf state) (.register handle accepted) =
      (.returned (.code (gbmRegister accepted handle state).1),
        tableOf (gbmRegister accepted handle state).2) := by
  simp only [tableMachine]
  rcases gbmRegister_outcome accepted handle state with ⟨refused, fails⟩ | ⟨imports, registered⟩
  · rw [if_neg (fun observed => fails (importable_iff.mp observed)), refused]
  have absent := imports.2.1
  rw [if_pos (importable_iff.mpr imports), registered]
  have untouched : (entryOf state handle).enter = .buffer .untouched := by
    rw [entryOf_of_absent absent]
    rfl
  refine congrArg (Prod.mk (RegistryAnswer.returned (.code 0))) (Eq.symm ?_)
  rw [← untouched]
  apply tableOf_write
  · rfl
  · rw [invariant.create_entry rfl ⟨(UnorderedMap.emplace_of_absent absent).symm, rfl⟩,
      Function.update_self]
  · intro other different
    rw [invariant.create_entry rfl ⟨(UnorderedMap.emplace_of_absent absent).symm, rfl⟩,
      Function.update_of_ne different]

/-- The registry refines the table. -/
theorem registry_refines : registryService.Refines tableMachine tableOf RecordsInvariant where
  preserved state call invariant := by
    have kept := RecordsInvariant.next state call invariant
    rw [← registryService_observing] at kept
    exact kept
  step state call invariant := by
    cases call with
    | alloc address created errno width height format usage =>
        exact invariant.alloc_step address created errno width height format usage
    | register handle accepted => exact invariant.register_step handle accepted
    | unregister handle =>
        exact congrArg (Prod.mk (RegistryAnswer.returned (.code 0)))
          (invariant.free_entry handle).symm
    | free handle =>
        exact congrArg (Prod.mk (RegistryAnswer.returned (.code 0)))
          (invariant.free_entry handle).symm
    | lock handle usage x y w h mapped =>
        obtain ⟨code, address, written⟩ := invariant.lock_entry handle mapped usage x y w h
        exact Prod.ext (congrArg₂ RegistryAnswer.locked code.symm address.symm) written.symm
    | unlock handle =>
        obtain ⟨code, written⟩ := invariant.unlock_entry handle
        exact Prod.ext (congrArg RegistryAnswer.returned code.symm) written.symm

end Calls

/-- The table of a process in which nothing was allocated or registered yet. -/
def BufferTable.start (memory : BufferHandle → PrivateHandle) : BufferTable :=
  ⟨fun handle => (memory handle).usage, fun handle => decide (0 ≤ (memory handle).fd),
    fun _ => .absent⟩

/-- Whatever is called, with whatever handles, usages and rectangles, and whatever the driver
answers: the registry gives the answers of the table, the handles, strides and addresses in
them included, and ends in a state that the table describes. -/
theorem registry_refines_table (memory : BufferHandle → PrivateHandle)
    (calls : List RegistryCall) :
    registryService.trace (.fresh memory) calls = tableMachine.trace (.start memory) calls ∧
      tableOf (registryService.run (.fresh memory) calls) =
        tableMachine.run (.start memory) calls := by
  have invariant := RecordsInvariant.fresh memory
  exact ⟨(registry_refines.trace invariant calls).symm,
    (registry_refines.run invariant calls).symm⟩

end Arpi.Gralloc
