import Arpi.Gralloc.GbmGralloc

/-!
# What each registry call can do

One specification lemma for each entry point of `gbm_gralloc.cpp`, stated for the
three shapes of a registry entry: a live object, a null entry, no entry. Callers
reason with these lemmas and do not unfold the calls again.
-/

namespace Arpi.Gralloc

open Arpi.Semantics

/-- Two states with the same entries and the same live objects. -/
structure SameRegistry (before after : GrallocState) : Prop where
  entries : after.gbmBoHandleMap = before.gbmBoHandleMap
  alive : ∀ bo, (after.bos.cells bo).isSome = (before.bos.cells bo).isSome

namespace SameRegistry

theorem refl (state : GrallocState) : SameRegistry state state := ⟨rfl, fun _ => rfl⟩

theorem trans {first second third : GrallocState} (left : SameRegistry first second)
    (right : SameRegistry second third) : SameRegistry first third :=
  ⟨right.entries.trans left.entries, fun bo => (right.alive bo).trans (left.alive bo)⟩

end SameRegistry

variable {state : GrallocState} {handle : BufferHandle} {bo : BoId} {object : Bo}

/-- An object that is the same counts as having the same lock record. -/
theorem lockRecord_congr {before after : GrallocState}
    (same : after.bos.cells bo = before.bos.cells bo) :
    lockRecord after bo = lockRecord before bo := by
  rw [lockRecord, gbmBoData, same, ← gbmBoData, ← lockRecord]

/-! ## Looking a handle up -/

theorem fromHandle_of_present {entry : Option BoId}
    (present : state.gbmBoHandleMap.find handle = some entry) :
    grallocGbmBoFromHandle handle state = (entry, state) := by
  simp [grallocGbmBoFromHandle, UnorderedMap.subscript_of_present present]

/-- Looking up an unknown handle leaves a null entry behind. -/
theorem fromHandle_of_absent (absent : state.gbmBoHandleMap.find handle = none) :
    grallocGbmBoFromHandle handle state =
      (none, { state with gbmBoHandleMap := state.gbmBoHandleMap.assign handle none }) := by
  simp [grallocGbmBoFromHandle, UnorderedMap.subscript_of_absent absent]

/-! ## Writing a lock record -/

theorem setBoData_sameRegistry {data : BoData} :
    SameRegistry state (setBoData state bo data) := by
  constructor
  · rfl
  · intro other
    simp [setBoData]

theorem setBoData_cells_of_ne {data : BoData} {other : BoId} (different : other ≠ bo) :
    (setBoData state bo data).bos.cells other = state.bos.cells other := by
  simp [setBoData, different]

theorem setBoData_cells (alive : state.bos.cells bo = some object) (data : BoData) :
    (setBoData state bo data).bos.cells bo = some { object with userData := some data } := by
  simp [setBoData, alive]

/-- A state that differs from `before` in the object `bo` only, which keeps the
storage it had and now carries the lock record `data`. -/
structure RecordWritten (before after : GrallocState) (bo : BoId) (data : BoData) : Prop where
  registry : SameRegistry before after
  memory : after.memory = before.memory
  others : ∀ other, other ≠ bo → after.bos.cells other = before.bos.cells other
  geometry : (after.bos.cells bo).map Bo.geometry = (before.bos.cells bo).map Bo.geometry
  record : gbmBoData after bo = some data

theorem RecordWritten.trans {first second third : GrallocState} {earlier later : BoData}
    (left : RecordWritten first second bo earlier)
    (right : RecordWritten second third bo later) : RecordWritten first third bo later where
  registry := left.registry.trans right.registry
  memory := right.memory.trans left.memory
  others := fun other different =>
    (right.others other different).trans (left.others other different)
  geometry := right.geometry.trans left.geometry
  record := right.record

theorem RecordWritten.lockRecord_eq {before after : GrallocState} {data : BoData}
    (written : RecordWritten before after bo data) : lockRecord after bo = data := by
  simp [lockRecord, written.record]

/-- A record that was written is on a live object. -/
theorem RecordWritten.alive {before after : GrallocState} {data : BoData}
    (written : RecordWritten before after bo data) :
    ∃ object, after.bos.cells bo = some object := by
  have record := written.record
  unfold gbmBoData at record
  obtain ⟨object, found, _⟩ := Option.bind_eq_some_iff.mp record
  exact ⟨object, found⟩

theorem setBoData_written (alive : state.bos.cells bo = some object) (data : BoData) :
    RecordWritten state (setBoData state bo data) bo data where
  registry := setBoData_sameRegistry
  memory := rfl
  others := fun _ different => setBoData_cells_of_ne different
  geometry := by
    rw [setBoData_cells alive data, alive]
    rfl
  record := by simp [gbmBoData, setBoData_cells alive data]

/-- Replacing a live object by one with another record is such a write. -/
theorem modify_written (alive : state.bos.cells bo = some object) (change : Bo → Bo)
    (data : BoData) (recorded : (change object).userData = some data)
    (kept : (change object).geometry = object.geometry) (calls : List GbmCall) :
    RecordWritten state { state with bos := state.bos.modify bo change, calls := calls } bo data where
  registry := ⟨rfl, fun other => by simp⟩
  memory := rfl
  others := fun _ different => by simp [different]
  geometry := by simp [alive, kept]
  record := by simp [gbmBoData, alive, recorded]

/-! ## Mapping -/

section Mapping

variable {data : BoData} {x y w h : Int} {write : Bool}

/-- An object that is mapped already is not mapped again. -/
theorem gbmMap_busy (mapped : Option Mapping) (busy : data.mapData ≠ none) :
    gbmMap mapped handle bo data x y w h write state = (-einval, 0, state) := by
  simp [gbmMap, Option.isSome_iff_ne_none, busy]

/-- The driver refuses: the record is as before, the call was made. -/
theorem gbmMap_refused (alive : state.bos.cells bo = some object)
    (recorded : object.userData = some data) (free : data.mapData = none) :
    ∃ after, gbmMap none handle bo data x y w h write state = (-enomem, 0, after) ∧
      RecordWritten state after bo data := by
  have kept : gbmBoData state bo = some data := by simp [gbmBoData, alive, recorded]
  simp only [gbmMap, free, Option.isSome_none, Bool.false_eq_true, if_false]
  exact ⟨_, rfl, ⟨⟨rfl, fun _ => rfl⟩, rfl, fun _ _ => rfl, rfl, kept⟩⟩

/-- The driver maps: the token goes into the record, the mapping to the object. -/
theorem gbmMap_mapped (alive : state.bos.cells bo = some object) (mapping : Mapping)
    (free : data.mapData = none) :
    ∃ after next, gbmMap (some mapping) handle bo data x y w h write state =
        (0, mapping.address, after) ∧
      RecordWritten state after bo { data with mapData := some mapping.mapData } ∧
      after.bos.cells bo = some next ∧ mapping ∈ next.mappings ∧
      next.userData = some { data with mapData := some mapping.mapData } := by
  simp only [gbmMap, free, Option.isSome_none, Bool.false_eq_true, if_false]
  let next : Bo :=
    { object with
      userData := some { data with mapData := some mapping.mapData }
      mappings := mapping :: object.mappings }
  refine ⟨_, next, rfl, modify_written alive _ _ rfl rfl _, ?_, List.mem_cons_self, rfl⟩
  simp only [Store.modify_cells_self, alive, Option.map_some]
  rfl

end Mapping

/-! ## Locking -/

/-- The record after a granted lock whose mapping step left `mapData`. -/
def BoData.granted (data : BoData) (usage : U64) (mapData : Option Nat) : BoData :=
  { mapData := mapData
    lockCount := data.lockCount + 1
    lockedFor := (data.lockedUsage ||| (usage ||| data.lockedUsage)).setWidth 32 }

/-- Counting a lock writes the granted record and keeps the mappings. -/
theorem countLock_written {data : BoData} (alive : state.bos.cells bo = some object)
    (recorded : object.userData = some data) (usage : U64) :
    RecordWritten state (countLock bo (usage ||| data.lockedUsage) state) bo
        (data.granted usage data.mapData) ∧
      ∃ next, (countLock bo (usage ||| data.lockedUsage) state).bos.cells bo = some next ∧
        next.mappings = object.mappings := by
  constructor
  · exact modify_written alive _ _ (by simp [recorded, BoData.granted]) rfl state.calls
  · simp only [countLock, Store.modify_cells_self, alive, Option.map_some]
    exact ⟨_, rfl, rfl⟩

/-- What a lock request on a live object meets: whether the handle admits the
usage, the record admits it, and a mapping that is needed can be made. -/
structure LockAdmitted (contents : PrivateHandle) (data : BoData) (usage : U64)
    (mapped : Option Mapping) : Prop where
  allowed : usageAllowed contents.usage usage = true
  fits : ¬ data.Clashes usage
  mappable : WantsMapping (usage ||| data.lockedUsage) → data.mapData = none ∧ mapped ≠ none

/-- The two ways in which a granted lock leaves `*addr` and the mapping token. -/
inductive LockedAt (data : BoData) (usage : U64) (mapped : Option Mapping) :
    Address → Option Nat → Bo → Prop where
  | mapped {object : Bo} (wanted : WantsMapping (usage ||| data.lockedUsage)) (mapping : Mapping)
      (answer : mapped = some mapping) (live : mapping ∈ object.mappings) :
      LockedAt data usage mapped mapping.address (some mapping.mapData) object
  | unmapped {object : Bo} (unwanted : ¬ WantsMapping (usage ||| data.lockedUsage)) :
      LockedAt data usage mapped 0 data.mapData object

/-- What `gbm_lock` can do to a handle registered for a live object: refuse with
the record as it found it, or grant with one lock more. -/
inductive LockOutcome (state : GrallocState) (handle : BufferHandle) (bo : BoId)
    (usage : U64) (mapped : Option Mapping) : Int × Address × GrallocState → Prop where
  | refused {code : Int} {after : GrallocState}
      (why : ¬ LockAdmitted (state.memory handle) (lockRecord state bo) usage mapped)
      (nonzero : code ≠ 0)
      (invalid : code = -einval ∨ code = -enomem ∧
        usageAllowed (state.memory handle).usage usage = true ∧
        ¬ (lockRecord state bo).Clashes usage)
      (unchanged : after = state ∨ RecordWritten state after bo (lockRecord state bo)) :
      LockOutcome state handle bo usage mapped (code, 0, after)
  | granted {address : Address} {mapData : Option Nat} {after : GrallocState} {object : Bo}
      (why : LockAdmitted (state.memory handle) (lockRecord state bo) usage mapped)
      (written : RecordWritten state after bo ((lockRecord state bo).granted usage mapData))
      (alive : after.bos.cells bo = some object)
      (locked : LockedAt (lockRecord state bo) usage mapped address mapData object) :
      LockOutcome state handle bo usage mapped (0, address, after)

/-- The specification of `gbm_lock` on a live object. -/
theorem gbmLock_outcome (registered : state.gbmBoHandleMap.find handle = some (some bo))
    (alive : state.bos.cells bo = some object) (mapped : Option Mapping) (usage : U64)
    (x y w h : Int) :
    LockOutcome state handle bo usage mapped (gbmLock mapped handle usage x y w h state) := by
  unfold gbmLock
  rw [fromHandle_of_present registered]
  dsimp only
  by_cases allowed : usageAllowed (state.memory handle).usage usage = true
  case neg =>
    rw [if_neg allowed]
    exact .refused (fun admitted => allowed admitted.allowed) (by decide) (.inl rfl) (.inl rfl)
  rw [if_pos allowed]
  -- From here on the object carries a lock record, new or old.
  have attached := setBoData_cells alive (lockRecord state bo)
  have written := setBoData_written alive (lockRecord state bo)
  unfold lockRecorded
  by_cases clash : (lockRecord state bo).Clashes usage
  case pos =>
    rw [if_pos clash]
    exact .refused (fun admitted => admitted.fits clash) (by decide) (.inl rfl) (.inr written)
  rw [if_neg clash]
  by_cases wanted : WantsMapping (usage ||| (lockRecord state bo).lockedUsage)
  case neg =>
    simp only [if_neg wanted]
    obtain ⟨counted, next, found, _⟩ := countLock_written attached rfl usage
    exact .granted ⟨allowed, clash, fun contrary => absurd contrary wanted⟩
      (written.trans counted) found (.unmapped wanted)
  simp only [if_pos wanted]
  by_cases free : (lockRecord state bo).mapData = none
  case neg =>
    rw [gbmMap_busy mapped free, if_pos (show (-einval : Int) ≠ 0 by decide)]
    exact .refused (fun admitted => free (admitted.mappable wanted).1) (by decide) (.inl rfl)
      (.inr written)
  cases mapped with
  | none =>
      obtain ⟨after, answer, kept⟩ := gbmMap_refused attached rfl free
      rw [answer, if_pos (show (-enomem : Int) ≠ 0 by decide)]
      exact .refused (fun admitted => (admitted.mappable wanted).2 rfl) (by decide)
        (.inr ⟨rfl, allowed, clash⟩) (.inr (written.trans kept))
  | some mapping =>
      obtain ⟨after, object, answer, kept, found, live, recorded⟩ :=
        gbmMap_mapped attached mapping free
      rw [answer, if_neg (by simp)]
      obtain ⟨counted, next, foundNext, same⟩ := countLock_written found recorded usage
      exact .granted ⟨allowed, clash, fun _ => ⟨free, by simp⟩⟩
        (written.trans (kept.trans counted)) foundNext
        (.mapped wanted mapping rfl (same ▸ live))

/-- A lock touches no other object. -/
theorem LockOutcome.others {usage : U64} {mapped : Option Mapping}
    {answer : Int × Address × GrallocState}
    (outcome : LockOutcome state handle bo usage mapped answer) (other : BoId)
    (different : other ≠ bo) : answer.2.2.bos.cells other = state.bos.cells other := by
  cases outcome with
  | refused _ _ _ unchanged =>
      rcases unchanged with rfl | written
      · rfl
      · exact written.others other different
  | granted _ written _ _ => exact written.others other different

/-- A lock that is refused leaves the record it found. -/
theorem LockOutcome.lockRecord_of_failed {usage : U64} {mapped : Option Mapping}
    {answer : Int × Address × GrallocState}
    (outcome : LockOutcome state handle bo usage mapped answer) (failed : answer.1 ≠ 0) :
    lockRecord answer.2.2 bo = lockRecord state bo := by
  cases outcome with
  | refused _ _ _ unchanged =>
      rcases unchanged with rfl | written
      · rfl
      · exact written.lockRecord_eq
  | granted _ _ _ _ => exact absurd rfl failed

/-- A lock of a handle with an object changes neither entries nor which objects are live,
even if the object is dead. -/
theorem gbmLock_sameRegistry (registered : state.gbmBoHandleMap.find handle = some (some bo))
    (mapped : Option Mapping) (usage : U64) (x y w h : Int) :
    SameRegistry state (gbmLock mapped handle usage x y w h state).2.2 := by
  have counts : ∀ before usage, SameRegistry before (countLock bo usage before) :=
    fun before usage => ⟨rfl, fun other => by simp [countLock]⟩
  have maps : ∀ before data x y w h write,
      SameRegistry before (gbmMap mapped handle bo data x y w h write before).2.2 := by
    intro before data x y w h write
    unfold gbmMap
    split
    · exact .refl before
    · cases mapped with
      | none => exact ⟨rfl, fun _ => rfl⟩
      | some mapping => exact ⟨rfl, fun other => by simp⟩
  have mapsAndCounts : ∀ before data x y w h write usage,
      let answer := gbmMap mapped handle bo data x y w h write before
      SameRegistry before
        (if answer.1 ≠ 0 then answer else (0, answer.2.1, countLock bo usage answer.2.2)).2.2 := by
    intro before data x y w h write usage answer
    by_cases failed : answer.1 ≠ 0
    · rw [if_pos failed]
      exact maps before data x y w h write
    · rw [if_neg failed]
      exact (maps before data x y w h write).trans (counts answer.2.2 usage)
  unfold gbmLock
  rw [fromHandle_of_present registered]
  dsimp only
  by_cases allowed : usageAllowed (state.memory handle).usage usage = true
  case neg =>
    rw [if_neg allowed]
    exact .refl state
  rw [if_pos allowed]
  have recorded : SameRegistry state (setBoData state bo (lockRecord state bo)) :=
    setBoData_sameRegistry
  apply recorded.trans
  unfold lockRecorded
  by_cases clash : (lockRecord state bo).Clashes usage
  case pos =>
    rw [if_pos clash]
    exact .refl _
  rw [if_neg clash]
  by_cases wanted : WantsMapping (usage ||| (lockRecord state bo).lockedUsage)
  · simp only [if_pos wanted]
    exact mapsAndCounts _ _ _ _ _ _ _ _
  · simp only [if_neg wanted]
    exact counts _ _

/-! ## Locking plane by plane -/

/-- The formats for which `gbm_lock_ycbcr` has a layout. -/
def YcbcrSupported (format : U32) : Prop :=
  format = halPixelFormatYCbCr420888 ∨ format = halPixelFormatImplementationDefined ∨
    format = halPixelFormatYCrCb420Sp ∨ format = halPixelFormatYv12

instance (format : U32) : Decidable (YcbcrSupported format) :=
  inferInstanceAs (Decidable (_ ∨ _))

theorem ycbcrLayout_isSome (contents : PrivateHandle) (address : Address) :
    (ycbcrLayout contents address).isSome = true ↔ YcbcrSupported contents.format := by
  unfold ycbcrLayout YcbcrSupported
  dsimp only
  by_cases flexible : contents.format = halPixelFormatYCbCr420888 ∨
      contents.format = halPixelFormatImplementationDefined
  · rw [if_pos flexible, ← or_assoc]
    exact iff_of_true rfl (.inl flexible)
  by_cases semi : contents.format = halPixelFormatYCrCb420Sp
  · rw [if_neg flexible, if_pos semi]
    exact iff_of_true rfl (.inr (.inr (.inl semi)))
  by_cases yv12 : contents.format = halPixelFormatYv12
  · rw [if_neg flexible, if_neg semi, if_pos yv12]
    exact iff_of_true rfl (.inr (.inr (.inr yv12)))
  · rw [if_neg flexible, if_neg semi, if_neg yv12, ← or_assoc]
    exact iff_of_false (by decide) (by tauto)

/-- `gbm_lock_ycbcr` answers zero exactly when the lock is granted and the format has a
layout, and it leaves what `gbm_lock` leaves. -/
theorem gbmLockYcbcr_eq (mapped : Option Mapping) (handle : BufferHandle) (usage : U64)
    (x y w h : Int) (state : GrallocState) :
    (gbmLockYcbcr mapped handle usage x y w h state).2.2 =
        (gbmLock mapped handle usage x y w h state).2.2 ∧
      ((gbmLockYcbcr mapped handle usage x y w h state).1 = 0 ↔
        (gbmLock mapped handle usage x y w h state).1 = 0 ∧
          YcbcrSupported (state.memory handle).format) := by
  unfold gbmLockYcbcr
  rw [← ycbcrLayout_isSome _ (gbmLock mapped handle usage x y w h state).2.1]
  dsimp only
  by_cases failed : (gbmLock mapped handle usage x y w h state).1 = 0
  · rw [if_neg (not_not.mpr failed)]
    cases ycbcrLayout (state.memory handle) (gbmLock mapped handle usage x y w h state).2.1 with
    | some ycbcr => exact ⟨rfl, by simp [failed]⟩
    | none => exact ⟨rfl, by simp [einval]⟩
  · rw [if_pos failed]
    exact ⟨rfl, by simp [failed]⟩

/-! ## Unlocking -/

/-- The record after an unlock that found it locked. -/
def BoData.released (data : BoData) : BoData :=
  if data.Mapped then { data with mapData := none }.dropLock else data.dropLock

@[simp] theorem dropLock_lockCount (data : BoData) :
    data.dropLock.lockCount = data.lockCount - 1 := by
  dsimp only [BoData.dropLock]
  split <;> rfl

@[simp] theorem released_lockCount (data : BoData) :
    data.released.lockCount = data.lockCount - 1 := by
  unfold BoData.released
  split <;> simp

/-- What `gbm_unlock` can do to a handle registered for a live object. -/
inductive UnlockOutcome (state : GrallocState) (bo : BoId) : Returned × GrallocState → Prop where
  | fault (unattached : gbmBoData state bo = none) : UnlockOutcome state bo (.fault, state)
  | idle {data : BoData} (attached : gbmBoData state bo = some data)
      (unlocked : data.lockCount = 0) : UnlockOutcome state bo (.code 0, state)
  | released {data : BoData} {after : GrallocState}
      (attached : gbmBoData state bo = some data) (locked : data.lockCount ≠ 0)
      (written : RecordWritten state after bo data.released) :
      UnlockOutcome state bo (.code 0, after)

/-- An unlock touches no other object. -/
theorem UnlockOutcome.others {answer : Returned × GrallocState}
    (outcome : UnlockOutcome state bo answer) (other : BoId) (different : other ≠ bo) :
    answer.2.bos.cells other = state.bos.cells other := by
  cases outcome with
  | fault _ => rfl
  | idle _ _ => rfl
  | released _ _ written => exact written.others other different

/-- The specification of `gbm_unlock` on a live object. -/
theorem gbmUnlock_outcome (registered : state.gbmBoHandleMap.find handle = some (some bo))
    (alive : state.bos.cells bo = some object) :
    UnlockOutcome state bo (gbmUnlock handle state) := by
  unfold gbmUnlock
  rw [fromHandle_of_present registered]
  dsimp only
  cases attached : gbmBoData state bo with
  | none => exact .fault attached
  | some data =>
      dsimp only
      by_cases unlocked : data.lockCount = 0
      · rw [if_pos unlocked]
        exact .idle attached unlocked
      rw [if_neg unlocked]
      by_cases mapped : data.Mapped
      · rw [if_pos mapped]
        have unmapped : RecordWritten state (gbmUnmap bo data state) bo
            { data with mapData := none } := modify_written alive _ _ rfl rfl _
        obtain ⟨next, found⟩ := unmapped.alive
        refine .released attached unlocked ?_
        rw [BoData.released, if_pos mapped]
        exact unmapped.trans (setBoData_written found _)
      · rw [if_neg mapped]
        refine .released attached unlocked ?_
        rw [BoData.released, if_neg mapped]
        exact setBoData_written alive _

/-! ## Entering and leaving the registry -/

/-- A state that differs from `before` in entries and objects only as far as the
given map and store say. -/
structure Holds (after : GrallocState) (entries : UnorderedMap BufferHandle (Option BoId))
    (bos : Store Bo) : Prop where
  entries : after.gbmBoHandleMap = entries
  bos : after.bos = bos

theorem gbmFree_of_live (registered : state.gbmBoHandleMap.find handle = some (some bo)) :
    gbmFree handle state =
      { state with
        gbmBoHandleMap := state.gbmBoHandleMap.erase handle
        bos := state.bos.destroy bo } := by
  simp [gbmFree, fromHandle_of_present registered]

theorem gbmFree_of_absent (absent : state.gbmBoHandleMap.find handle = none) :
    gbmFree handle state =
      { state with gbmBoHandleMap := state.gbmBoHandleMap.assign handle none } := by
  simp [gbmFree, fromHandle_of_absent absent]

theorem gbmFree_of_null (entry : state.gbmBoHandleMap.find handle = some none) :
    gbmFree handle state = state := by
  simp [gbmFree, fromHandle_of_present entry]

/-- A lock of an unknown handle fails, and leaves a null entry under it. -/
theorem gbmLock_of_absent (absent : state.gbmBoHandleMap.find handle = none)
    (mapped : Option Mapping) (usage : U64) (x y w h : Int) :
    gbmLock mapped handle usage x y w h state =
      (-einval, 0, { state with gbmBoHandleMap := state.gbmBoHandleMap.assign handle none }) := by
  simp [gbmLock, fromHandle_of_absent absent]

theorem gbmLock_of_null (entry : state.gbmBoHandleMap.find handle = some none)
    (mapped : Option Mapping) (usage : U64) (x y w h : Int) :
    gbmLock mapped handle usage x y w h state = (-einval, 0, state) := by
  simp [gbmLock, fromHandle_of_present entry]

/-- So does an unlock. -/
theorem gbmUnlock_of_absent (absent : state.gbmBoHandleMap.find handle = none) :
    gbmUnlock handle state = (.code (-einval),
      { state with gbmBoHandleMap := state.gbmBoHandleMap.assign handle none }) := by
  simp [gbmUnlock, fromHandle_of_absent absent]

theorem gbmUnlock_of_null (entry : state.gbmBoHandleMap.find handle = some none) :
    gbmUnlock handle state = (.code (-einval), state) := by
  simp [gbmUnlock, fromHandle_of_present entry]

/-- The object an accepted import creates. -/
def importedBo (contents : PrivateHandle) : Bo where
  width := if contents.format = halPixelFormatYv12 then contents.width / 2 else contents.width
  height := if contents.format = halPixelFormatYv12
    then contents.height + contents.height / 2 else contents.height
  format := getGbmFormat contents.format
  flags := 0
  stride := contents.stride
  userData := none
  mappings := []

/-- An import succeeds exactly when the handle has a descriptor and the driver accepts it. -/
def ImportSucceeds (accepted : Bool) (handle : BufferHandle) (state : GrallocState) : Prop :=
  0 ≤ (state.memory handle).fd ∧ accepted = true

instance (accepted : Bool) : Decidable (ImportSucceeds accepted handle state) :=
  inferInstanceAs (Decidable (_ ∧ _))

theorem gbmImport_of_succeeds {accepted : Bool}
    (succeeds : ImportSucceeds accepted handle state) :
    gbmImport accepted handle state = (some state.bos.next,
      { state with bos := state.bos.create (importedBo (state.memory handle)) }) := by
  obtain ⟨descriptor, rfl⟩ := succeeds
  have nonneg : ¬ (state.memory handle).fd < 0 := by omega
  simp [gbmImport, nonneg, importedBo]

theorem gbmImport_of_fails {accepted : Bool}
    (fails : ¬ ImportSucceeds accepted handle state) :
    gbmImport accepted handle state = (none, state) := by
  unfold gbmImport
  by_cases negative : (state.memory handle).fd < 0
  · simp [negative]
  · have refused : accepted = false := by
      simpa using fun accept => fails ⟨by omega, accept⟩
    simp [refused]

/-- Registering a handle that has an entry, or the null handle, is refused. -/
theorem gbmRegister_of_present {accepted : Bool}
    (present : handle = 0 ∨ state.gbmBoHandleMap.find handle ≠ none) :
    gbmRegister accepted handle state = (-einval, state) := by
  unfold gbmRegister
  by_cases null : handle = 0
  · simp [null]
  · have entry : state.gbmBoHandleMap.find handle ≠ none := present.resolve_left null
    simp [null, entry]

theorem gbmRegister_of_fails {accepted : Bool}
    (fails : ¬ ImportSucceeds accepted handle state) :
    gbmRegister accepted handle state = (-einval, state) := by
  simp [gbmRegister, gbmImport_of_fails fails]

theorem gbmRegister_of_succeeds {accepted : Bool} (nonnull : handle ≠ 0)
    (absent : state.gbmBoHandleMap.find handle = none)
    (succeeds : ImportSucceeds accepted handle state) :
    gbmRegister accepted handle state = (0,
      { state with
        gbmBoHandleMap := state.gbmBoHandleMap.assign handle (some state.bos.next)
        bos := state.bos.create (importedBo (state.memory handle)) }) := by
  have uncounted : state.gbmBoHandleMap.count handle = false := by
    simp [UnorderedMap.count, absent]
  simp [gbmRegister, nonnull, uncounted, gbmImport_of_succeeds succeeds,
    UnorderedMap.emplace_of_absent absent]

/-- A registration goes through for a new handle that can be imported; any other is refused
and changes nothing. -/
theorem gbmRegister_outcome (accepted : Bool) (handle : BufferHandle) (state : GrallocState) :
    (gbmRegister accepted handle state = (-einval, state) ∧
        ¬ (handle ≠ 0 ∧ state.gbmBoHandleMap.find handle = none ∧
          ImportSucceeds accepted handle state)) ∨
      ((handle ≠ 0 ∧ state.gbmBoHandleMap.find handle = none ∧
          ImportSucceeds accepted handle state) ∧
        gbmRegister accepted handle state = (0,
          { state with
            gbmBoHandleMap := state.gbmBoHandleMap.assign handle (some state.bos.next)
            bos := state.bos.create (importedBo (state.memory handle)) })) := by
  by_cases present : handle = 0 ∨ state.gbmBoHandleMap.find handle ≠ none
  · refine .inl ⟨gbmRegister_of_present present, ?_⟩
    rintro ⟨nonnull, absent, -⟩
    exact present.elim nonnull fun entry => entry absent
  obtain ⟨nonnull, entry⟩ := not_or.mp present
  have absent := not_not.mp entry
  by_cases succeeds : ImportSucceeds accepted handle state
  · exact .inr ⟨⟨nonnull, absent, succeeds⟩, gbmRegister_of_succeeds nonnull absent succeeds⟩
  · exact .inl ⟨gbmRegister_of_fails succeeds, fun registers => succeeds registers.2.2⟩

/-- What the exported `gbm_alloc` can do: create nothing, or one object without a lock
record and without mappings, whose entry is emplaced under the new handle. -/
theorem gbmAlloc_outcome (address : BufferHandle) (created : Option CreatedBo) (errno : Int)
    (width height format : U32) (usage : U64) :
    let answer := gbmAlloc address created errno width height format usage state
    (answer.2.1 = none ∧ Holds answer.2.2 state.gbmBoHandleMap state.bos) ∨
    (answer.1 = 0 ∧ ∃ object : Bo, object.userData = none ∧ object.mappings = [] ∧
      Holds answer.2.2 (state.gbmBoHandleMap.emplace address (some state.bos.next))
        (state.bos.create object)) := by
  intro answer
  by_cases unknown : grallocGbmGetBpp format = 0
  · left
    simp only [answer, gbmAlloc, unknown, if_true]
    exact ⟨trivial, rfl, rfl⟩
  · cases created with
    | none =>
        left
        simp only [answer, gbmAlloc, unknown, if_false, grallocGbmBoCreate, gbmAllocBo]
        exact ⟨trivial, rfl, rfl⟩
    | some bo =>
        right
        simp only [answer, gbmAlloc, unknown, if_false, grallocGbmBoCreate, gbmAllocBo]
        exact ⟨trivial, _, rfl, rfl, rfl, rfl⟩

/-- A free makes no mapping call. -/
theorem gbmFree_calls (handle : BufferHandle) (state : GrallocState) :
    (gbmFree handle state).calls = state.calls := by
  cases found : state.gbmBoHandleMap.find handle with
  | none => rw [gbmFree_of_absent found]
  | some entry =>
      cases entry with
      | none => rw [gbmFree_of_null found]
      | some bo => rw [gbmFree_of_live found]

/-- A registration makes no mapping call. -/
theorem gbmRegister_calls (accepted : Bool) (handle : BufferHandle) (state : GrallocState) :
    (gbmRegister accepted handle state).2.calls = state.calls := by
  rcases gbmRegister_outcome accepted handle state with ⟨refused, -⟩ | ⟨-, registered⟩
  · rw [refused]
  · rw [registered]

/-- An allocation makes no mapping call. -/
theorem gbmAlloc_calls (address : BufferHandle) (created : Option CreatedBo) (errno : Int)
    (width height format : U32) (usage : U64) :
    (gbmAlloc address created errno width height format usage state).2.2.calls =
      state.calls := by
  unfold gbmAlloc
  split
  · rfl
  · cases created <;> rfl

end Arpi.Gralloc
