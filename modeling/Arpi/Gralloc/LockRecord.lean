import Arpi.Gralloc.Effects
import Arpi.Semantics.Bits

/-!
# The lock record

`gbm_lock` and `gbm_unlock` keep three fields in step: the count, the usage the
buffer is locked for, and the token of the mapping. `BoData.Sound` says how they fit
together, and every outcome of the two calls keeps it.
-/

namespace Arpi.Gralloc

open Arpi.Semantics

/-- The CPU bits are all below bit 31, so `locked_for` holds them unchanged. -/
theorem cpuUsageMask_fits : cpuUsageMask.toNat < 2 ^ 32 := by decide

/-- The fields of a lock record fit together. -/
structure BoData.Sound (data : BoData) : Prop where
  counted : 0 ≤ data.lockCount
  idle : data.lockCount = 0 → data.lockedFor = 0
  mapped : data.mapData ≠ none ↔ WantsMapping data.lockedUsage
  once : data.mapData ≠ none → data.lockCount = 1

theorem BoData.sound_new : BoData.new.Sound where
  counted := Int.le_refl 0
  idle := fun _ => rfl
  mapped := by decide
  once := fun mapped => absurd rfl mapped

/-- `gbm_unlock` unmaps exactly when the record is locked for the CPU. -/
theorem BoData.mapped_iff (data : BoData) : data.Mapped ↔ WantsMapping data.lockedUsage :=
  not_congr (Bits.setWidth_and_eq_zero cpuUsageMask_fits)

/-- The CPU needs a mapping for two usages together exactly when it does for one of them. -/
theorem wantsMapping_or (usage other : U64) :
    WantsMapping (usage ||| other) ↔ WantsMapping usage ∨ WantsMapping other := by
  simp only [WantsMapping, ne_eq, Bits.or_and_eq_zero, not_and_or]

/-- The CPU bits of a granted record are those of the usage and those it had. -/
theorem BoData.granted_wantsMapping (data : BoData) (usage : U64) (mapData : Option Nat) :
    WantsMapping (data.granted usage mapData).lockedUsage ↔
      WantsMapping (usage ||| data.lockedUsage) := by
  have same : (data.granted usage mapData).lockedUsage &&& cpuUsageMask =
      (data.lockedUsage ||| (usage ||| data.lockedUsage)) &&& cpuUsageMask :=
    Bits.signExtend_setWidth_and 32 cpuUsageMask_fits _
  rw [WantsMapping, same, ← WantsMapping, wantsMapping_or, wantsMapping_or]
  tauto

/-- A record that is locked for the CPU admits no other lock for the CPU: the
compatible usages would map the buffer a second time. -/
theorem BoData.Sound.not_wantsMapping (data : BoData) {usage : U64} (sound : data.Sound)
    (fits : ¬ data.Clashes usage) (free : data.mapData = none) (locked : data.lockCount ≠ 0) :
    ¬ WantsMapping (usage ||| data.lockedUsage) := by
  have none : ¬ WantsMapping data.lockedUsage := fun wanted => sound.mapped.mpr wanted free
  have subset : data.lockedUsage &&& usage = usage := by
    by_contra outside
    exact fits ⟨locked, outside⟩
  have unwanted : ¬ WantsMapping usage :=
    not_not.mpr (Bits.and_eq_zero_of_subset subset (not_not.mp none))
  rw [wantsMapping_or]
  tauto

/-- A granted lock keeps the record sound. -/
theorem BoData.Sound.granted {data : BoData} {usage : U64} {mapped : Option Mapping}
    {address : Address} {mapData : Option Nat} {object : Bo} {contents : PrivateHandle}
    (sound : data.Sound) (admitted : LockAdmitted contents data usage mapped)
    (locked : LockedAt data usage mapped address mapData object) :
    (data.granted usage mapData).Sound where
  counted := by
    have counted := sound.counted
    simp only [BoData.granted]
    omega
  idle := by
    have counted := sound.counted
    intro idle
    simp only [BoData.granted] at idle
    omega
  mapped := by
    rw [data.granted_wantsMapping]
    cases locked with
    | mapped wanted mapping _ _ =>
        exact iff_of_true (Option.some_ne_none _) wanted
    | unmapped unwanted =>
        have free : ¬ WantsMapping data.lockedUsage := by
          rw [wantsMapping_or] at unwanted
          tauto
        exact iff_of_false (fun mapped => free (sound.mapped.mp mapped)) unwanted
  once := by
    cases locked with
    | mapped wanted mapping _ _ =>
        intro _
        have unlocked : data.lockCount = 0 := by
          by_contra locked
          exact sound.not_wantsMapping data admitted.fits (admitted.mappable wanted).1 locked wanted
        simp [BoData.granted, unlocked]
    | unmapped unwanted =>
        intro mapped
        rw [wantsMapping_or] at unwanted
        exact absurd (sound.mapped.mp mapped) (fun wanted => unwanted (.inr wanted))

/-- Dropping the last lock of a record forgets its usage, dropping another keeps it. -/
theorem BoData.dropLock_lockedFor (data : BoData) :
    data.dropLock.lockedFor = if data.lockCount = 1 then 0 else data.lockedFor := by
  have last : data.lockCount - 1 = 0 ↔ data.lockCount = 1 := by omega
  dsimp only [BoData.dropLock]
  simp only [last]
  split <;> rfl

@[simp] theorem BoData.dropLock_mapData (data : BoData) :
    data.dropLock.mapData = data.mapData := by
  dsimp only [BoData.dropLock]
  split <;> rfl

/-- A released record has no mapping left. -/
theorem BoData.Sound.released_mapData {data : BoData} (sound : data.Sound) :
    data.released.mapData = none := by
  unfold BoData.released
  by_cases mapped : data.Mapped
  · rw [if_pos mapped, BoData.dropLock_mapData]
  · rw [if_neg mapped, BoData.dropLock_mapData]
    by_contra present
    exact mapped (data.mapped_iff.mpr (sound.mapped.mp present))

/-- The usage of a released record is forgotten with the last lock. -/
theorem BoData.released_lockedFor (data : BoData) :
    data.released.lockedFor = if data.lockCount = 1 then 0 else data.lockedFor := by
  unfold BoData.released
  split <;> rw [BoData.dropLock_lockedFor]

/-- An unlock of a locked record keeps it sound. -/
theorem BoData.Sound.released {data : BoData} (sound : data.Sound)
    (locked : data.lockCount ≠ 0) : data.released.Sound where
  counted := by
    have counted := sound.counted
    rw [released_lockCount]
    omega
  idle := by
    rw [released_lockCount, data.released_lockedFor]
    intro last
    rw [if_pos (by omega)]
  mapped := by
    refine iff_of_false (not_not.mpr sound.released_mapData) ?_
    rw [BoData.lockedUsage, data.released_lockedFor]
    by_cases last : data.lockCount = 1
    · rw [if_pos last]
      decide
    · rw [if_neg last]
      intro wanted
      exact last (sound.once (sound.mapped.mpr wanted))
  once := fun mapped => absurd sound.released_mapData mapped

/-- The record of a live object, when it has one, is sound. -/
def RecordSound (state : GrallocState) (bo : BoId) : Prop := (lockRecord state bo).Sound

variable {state : GrallocState} {handle : BufferHandle} {bo : BoId}

/-- An object without a record counts as having a new one. -/
theorem recordSound_of_unattached (unattached : gbmBoData state bo = none) :
    RecordSound state bo := by
  rw [RecordSound, lockRecord, unattached]
  exact BoData.sound_new

/-- An object that is the same has as sound a record. -/
theorem RecordSound.congr {after : GrallocState} (sound : RecordSound state bo)
    (same : after.bos.cells bo = state.bos.cells bo) : RecordSound after bo := by
  rw [RecordSound, lockRecord_congr same]
  exact sound

/-- Every outcome of a lock keeps the record sound. -/
theorem LockOutcome.recordSound {usage : U64} {mapped : Option Mapping}
    {answer : Int × Address × GrallocState}
    (outcome : LockOutcome state handle bo usage mapped answer) (sound : RecordSound state bo) :
    RecordSound answer.2.2 bo := by
  cases outcome with
  | refused _ _ _ unchanged =>
      rcases unchanged with rfl | written
      · exact sound
      · rw [RecordSound, written.lockRecord_eq]
        exact sound
  | granted admitted written _ locked =>
      rw [RecordSound, written.lockRecord_eq]
      exact sound.granted admitted locked

/-- Every outcome of an unlock keeps the record sound. -/
theorem UnlockOutcome.recordSound {answer : Returned × GrallocState}
    (outcome : UnlockOutcome state bo answer) (sound : RecordSound state bo) :
    RecordSound answer.2 bo := by
  cases outcome with
  | fault _ => exact sound
  | idle _ _ => exact sound
  | released attached locked written =>
      rw [RecordSound, lockRecord, attached] at sound
      rw [RecordSound, written.lockRecord_eq]
      exact sound.released locked

/-- A granted lock of a sound record maps exactly when its own usage has a CPU bit. -/
theorem RecordSound.wantsMapping_iff {usage : U64} {mapped : Option Mapping}
    {contents : PrivateHandle} (sound : RecordSound state bo)
    (admitted : LockAdmitted contents (lockRecord state bo) usage mapped) :
    WantsMapping (usage ||| (lockRecord state bo).lockedUsage) ↔ WantsMapping usage := by
  constructor
  · intro wanted
    have free : ¬ WantsMapping (lockRecord state bo).lockedUsage :=
      fun locked => sound.mapped.mpr locked (admitted.mappable wanted).1
    exact ((wantsMapping_or _ _).mp wanted).resolve_right free
  · exact fun wanted => (wantsMapping_or _ _).mpr (.inl wanted)

end Arpi.Gralloc
