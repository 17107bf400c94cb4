import Arpi.Gralloc.LockRecord

/-!
# What locks and unlocks ask of the driver

A lock makes at most one mapping call and an unlock at most one unmapping call. The
outcomes here say which call was made, and what it left of the lock record's token and
of the mappings of the object.
-/

namespace Arpi.Gralloc

open Arpi.Semantics

/-- The mappings of an object; an object that does not exist has none. -/
def mappingsOf (state : GrallocState) (bo : BoId) : List Mapping :=
  ((state.bos.cells bo).map Bo.mappings).getD []

/-- The mapping token in an object's lock record. -/
def mapDataOf (state : GrallocState) (bo : BoId) : Option Nat := (lockRecord state bo).mapData

/-- Between the two states neither the token nor the mappings of the object have changed. -/
structure SameMapping (before after : GrallocState) (bo : BoId) : Prop where
  token : mapDataOf after bo = mapDataOf before bo
  mappings : mappingsOf after bo = mappingsOf before bo

namespace SameMapping

variable {before after : GrallocState} {bo : BoId}

theorem refl (state : GrallocState) (bo : BoId) : SameMapping state state bo := ⟨rfl, rfl⟩

theorem trans {middle : GrallocState} (left : SameMapping before middle bo)
    (right : SameMapping middle after bo) : SameMapping before after bo :=
  ⟨right.token.trans left.token, right.mappings.trans left.mappings⟩

/-- An object that is the same has the same mapping. -/
theorem of_cells (same : after.bos.cells bo = before.bos.cells bo) :
    SameMapping before after bo where
  token := by rw [mapDataOf, lockRecord_congr same, ← mapDataOf]
  mappings := by rw [mappingsOf, same, ← mappingsOf]

end SameMapping

/-- What a lock of an object asked of the driver, by the code it returned. -/
inductive MapRequest (before after : GrallocState) (bo : BoId) (mapped : Option Mapping)
    (code : Int) : Prop where
  | unasked (calls : after.calls = before.calls) (same : SameMapping before after bo) :
      MapRequest before after bo mapped code
  | refused (width height flags : U32) (failed : code = -enomem) (answer : mapped = none)
      (calls : after.calls = .map bo width height flags :: before.calls)
      (same : SameMapping before after bo) : MapRequest before after bo mapped code
  | made (width height flags : U32) (mapping : Mapping) (succeeded : code = 0)
      (answer : mapped = some mapping)
      (calls : after.calls = .map bo width height flags :: before.calls)
      (free : mapDataOf before bo = none) (token : mapDataOf after bo = some mapping.mapData)
      (mappings : mappingsOf after bo = mapping :: mappingsOf before bo) :
      MapRequest before after bo mapped code

/-- Steps around the mapping step that ask nothing and keep the mapping do not show. -/
theorem MapRequest.around {first second third fourth : GrallocState} {bo : BoId}
    {mapped : Option Mapping} {code : Int} (request : MapRequest second third bo mapped code)
    (before : SameMapping first second bo) (callsBefore : second.calls = first.calls)
    (after : SameMapping third fourth bo) (callsAfter : fourth.calls = third.calls) :
    MapRequest first fourth bo mapped code := by
  cases request with
  | unasked calls same =>
      exact .unasked (by rw [callsAfter, calls, callsBefore]) ((before.trans same).trans after)
  | refused width height flags failed answer calls same =>
      refine .refused width height flags failed answer ?_ ((before.trans same).trans after)
      rw [callsAfter, calls, callsBefore]
  | made width height flags mapping succeeded answer calls free token mappings =>
      refine .made width height flags mapping succeeded answer ?_ ?_ ?_ ?_
      · rw [callsAfter, calls, callsBefore]
      · rw [← before.token, free]
      · rw [after.token, token]
      · rw [after.mappings, mappings, before.mappings]

/-- What an unlock of an object asked of the driver. -/
inductive UnmapRequest (before after : GrallocState) (bo : BoId) : Prop where
  | unasked (calls : after.calls = before.calls) (same : SameMapping before after bo) :
      UnmapRequest before after bo
  | unmapped {data : BoData} (attached : gbmBoData before bo = some data)
      (locked : data.lockCount ≠ 0) (mapped : data.Mapped)
      (calls : after.calls = .unmap bo data.mapData :: before.calls)
      (token : mapDataOf after bo = none)
      (mappings : mappingsOf after bo = (mappingsOf before bo).eraseP
        fun mapping => data.mapData = some mapping.mapData) : UnmapRequest before after bo

section Requests

variable {state : GrallocState} {handle : BufferHandle} {bo : BoId} {object : Bo}

/-- Attaching the record that an object already counts as having changes no mapping. -/
theorem setBoData_sameMapping (alive : state.bos.cells bo = some object) :
    SameMapping state (setBoData state bo (lockRecord state bo)) bo where
  token := by rw [mapDataOf, (setBoData_written alive _).lockRecord_eq, ← mapDataOf]
  mappings := by simp [mappingsOf, setBoData_cells alive, alive]

/-- Counting a lock changes no mapping. -/
theorem countLock_sameMapping {data : BoData} (alive : state.bos.cells bo = some object)
    (recorded : object.userData = some data) (usage : U64) :
    SameMapping state (countLock bo usage state) bo where
  token := by simp [mapDataOf, lockRecord, gbmBoData, countLock, alive, recorded]
  mappings := by simp [mappingsOf, countLock, alive]

/-- The mapping step of a lock, on an object that carries the record `data`. -/
theorem gbmMap_request (handle : BufferHandle) {data : BoData}
    (alive : state.bos.cells bo = some object)
    (recorded : object.userData = some data) (mapped : Option Mapping) (x y w h : Int)
    (write : Bool) :
    let answer := gbmMap mapped handle bo data x y w h write state
    MapRequest state answer.2.2 bo mapped answer.1 ∧
      ∃ next, answer.2.2.bos.cells bo = some next ∧ next.userData.isSome := by
  intro answer
  have current : mapDataOf state bo = data.mapData := by
    simp [mapDataOf, lockRecord, gbmBoData, alive, recorded]
  have attached : object.userData.isSome := by rw [recorded]; rfl
  by_cases busy : data.mapData = none
  case neg =>
    have refused : answer = (-einval, 0, state) := gbmMap_busy mapped busy
    rw [refused]
    exact ⟨.unasked rfl (.refl state bo), object, alive, attached⟩
  have free : data.mapData.isSome = false := by rw [busy]; rfl
  cases mapped with
  | none =>
      simp only [answer, gbmMap, free, Bool.false_eq_true, if_false]
      exact ⟨.refused _ _ _ rfl rfl rfl (.of_cells rfl), object, alive, attached⟩
  | some mapping =>
      simp only [answer, gbmMap, free, Bool.false_eq_true, if_false, Store.modify_cells_self,
        alive, Option.map_some]
      refine ⟨.made _ _ _ mapping rfl rfl rfl (current.trans busy) ?_ ?_, _, rfl, rfl⟩
      · simp [mapDataOf, lockRecord, gbmBoData, alive]
      · simp [mappingsOf, alive]

/-- The mapping step together with the counting of the lock that it was made for. -/
theorem mapAndCount_request {data : BoData} (alive : state.bos.cells bo = some object)
    (recorded : object.userData = some data) (mapped : Option Mapping) (x y w h : Int)
    (write : Bool) (usage : U64) :
    let answer := gbmMap mapped handle bo data x y w h write state
    let locked := if answer.1 ≠ 0 then answer
      else (0, answer.2.1, countLock bo usage answer.2.2)
    MapRequest state locked.2.2 bo mapped locked.1 := by
  intro answer locked
  obtain ⟨request, next, found, carries⟩ :=
    gbmMap_request handle alive recorded mapped x y w h write
  by_cases failed : answer.1 ≠ 0
  · have same : locked = answer := if_pos failed
    rw [same]
    exact request
  · have counted : locked = (0, answer.2.1, countLock bo usage answer.2.2) := if_neg failed
    rw [not_not.mp failed] at request
    obtain ⟨data, carried⟩ := Option.isSome_iff_exists.mp carries
    rw [counted]
    exact request.around (.refl state bo) rfl (countLock_sameMapping found carried _) rfl

/-- The request behind `gbm_lock` on a live object. -/
theorem gbmLock_request (registered : state.gbmBoHandleMap.find handle = some (some bo))
    (alive : state.bos.cells bo = some object) (mapped : Option Mapping) (usage : U64)
    (x y w h : Int) :
    let answer := gbmLock mapped handle usage x y w h state
    MapRequest state answer.2.2 bo mapped answer.1 := by
  intro answer
  have attached := setBoData_cells alive (lockRecord state bo)
  have recorded := setBoData_sameMapping alive
  simp only [answer, gbmLock, fromHandle_of_present registered]
  by_cases allowed : usageAllowed (state.memory handle).usage usage = true
  case neg =>
    rw [if_neg allowed]
    exact .unasked rfl (.refl state bo)
  rw [if_pos allowed]
  unfold lockRecorded
  by_cases clash : (lockRecord state bo).Clashes usage
  case pos =>
    rw [if_pos clash]
    exact .unasked rfl recorded
  rw [if_neg clash]
  by_cases wanted : WantsMapping (usage ||| (lockRecord state bo).lockedUsage)
  case neg =>
    simp only [if_neg wanted]
    exact .unasked rfl (recorded.trans (countLock_sameMapping attached rfl _))
  simp only [if_pos wanted]
  exact (mapAndCount_request attached rfl mapped x y _ _ _ _).around recorded rfl (.refl _ bo) rfl

/-- The request behind `gbm_unlock` on a live object. -/
theorem gbmUnlock_request (registered : state.gbmBoHandleMap.find handle = some (some bo))
    (alive : state.bos.cells bo = some object) :
    UnmapRequest state (gbmUnlock handle state).2 bo := by
  unfold gbmUnlock
  rw [fromHandle_of_present registered]
  dsimp only
  cases attached : gbmBoData state bo with
  | none => exact .unasked rfl (.refl state bo)
  | some data =>
      dsimp only
      have current : lockRecord state bo = data := by rw [lockRecord, attached, Option.getD_some]
      by_cases unlocked : data.lockCount = 0
      · rw [if_pos unlocked]
        exact .unasked rfl (.refl state bo)
      rw [if_neg unlocked]
      by_cases mapped : data.Mapped
      · rw [if_pos mapped]
        refine .unmapped attached unlocked mapped rfl ?_ ?_
        · simp [mapDataOf, lockRecord, gbmBoData, setBoData, gbmUnmap, alive, BoData.dropLock_mapData]
        · simp [mappingsOf, setBoData, gbmUnmap, alive]
      · rw [if_neg mapped]
        refine .unasked rfl ⟨?_, ?_⟩
        · rw [mapDataOf, (setBoData_written alive _).lockRecord_eq, BoData.dropLock_mapData,
            mapDataOf, current]
        · simp [mappingsOf, setBoData, alive]

end Requests

end Arpi.Gralloc
