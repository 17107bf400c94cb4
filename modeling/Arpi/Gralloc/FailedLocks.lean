import Arpi.Gralloc.AutoRegistration
import Arpi.Gralloc.DriverCalls

/-!
# What a failing plane-by-plane lock leaves behind

`gbm_lock_ycbcr` notices an unsupported format only once the lock is held, and the
module's `lock_ycbcr` registers a new handle before it locks. Neither undoes its first
step, and these are the only two ways in which a failure leaves something behind.
-/

namespace Arpi.Gralloc

open Arpi.Semantics

/-- The lock record and the mappings of the object that a handle is registered for. -/
def lockStateOf (state : GrallocState) (handle : BufferHandle) :
    Option (BoData × List Mapping) :=
  match state.gbmBoHandleMap.find handle with
  | some (some bo) =>
      (state.bos.cells bo).map fun object => (object.userData.getD BoData.new, object.mappings)
  | some none | none => none

/-- A `gbm_lock_ycbcr` that fails leaves the lock state of its handle as it was. -/
def GbmLockYcbcrClean (mapped : Option Mapping) (handle : BufferHandle) (usage : U64)
    (x y w h : Int) (state : GrallocState) : Prop :=
  let answer := gbmLockYcbcr mapped handle usage x y w h state
  answer.1 ≠ 0 → lockStateOf answer.2.2 handle = lockStateOf state handle

/-- A `lock_ycbcr` of the module that fails also leaves the same handles registered. -/
def LockYcbcrClean (device accepted : Bool) (mapped : Option Mapping) (handle : BufferHandle)
    (usage : U32) (x y w h : Int) (state : ModuleState) : Prop :=
  let answer := lockYcbcr device accepted mapped handle usage x y w h state
  answer.1 ≠ 0 →
    lockStateOf answer.2.2.gralloc handle = lockStateOf state.gralloc handle ∧
      ∀ other, Registered answer.2.2.gralloc other ↔ Registered state.gralloc other

/-- A lock that is granted on an object whose format has no layout. -/
def LocksUnsupported (state : GrallocState) (handle : BufferHandle) (usage : U64)
    (mapped : Option Mapping) : Prop :=
  ∃ bo, state.gbmBoHandleMap.find handle = some (some bo) ∧ (state.bos.cells bo).isSome ∧
    LockAdmitted (state.memory handle) (lockRecord state bo) usage mapped ∧
    ¬ YcbcrSupported (state.memory handle).format

/-- A lock through the module that fails after its first step: the handle was registered
for it, or the lock was taken. -/
def StrandsModuleLock (state : ModuleState) (device accepted : Bool) (mapped : Option Mapping)
    (handle : BufferHandle) (usage : U32) : Prop :=
  (Registers state device accepted handle ∧
      ¬ FirstLockSucceeds (state.gralloc.memory handle) (legacyLockUsage usage) mapped) ∨
    LocksUnsupported state.gralloc handle (legacyLockUsage usage) mapped

section Frames

variable {state after : GrallocState} {handle : BufferHandle} {bo : BoId} {object : Bo}

theorem lockStateOf_of_live (registered : state.gbmBoHandleMap.find handle = some (some bo))
    (alive : state.bos.cells bo = some object) :
    lockStateOf state handle = some (lockRecord state bo, mappingsOf state bo) := by
  simp [lockStateOf, registered, alive, lockRecord, gbmBoData, mappingsOf]

/-- A handle without an object has no lock state. -/
theorem lockStateOf_of_unregistered
    (unregistered : ∀ bo, state.gbmBoHandleMap.find handle = some (some bo) →
      state.bos.cells bo = none) : lockStateOf state handle = none := by
  unfold lockStateOf
  split
  · rename_i bo found
    rw [unregistered bo found]
    rfl
  · rfl
  · rfl

/-- States with the same entries and live objects register the same handles. -/
theorem Registered.congr (same : SameRegistry state after) (handle : BufferHandle) :
    Registered after handle ↔ Registered state handle := by
  simp only [Registered, same.entries, same.alive]

/-- A null entry under a new handle registers nothing. -/
theorem Registered.assignNull (absent : state.gbmBoHandleMap.find handle = none)
    (holds : Holds after (state.gbmBoHandleMap.assign handle none) state.bos)
    (other : BufferHandle) : Registered after other ↔ Registered state other := by
  simp only [Registered, holds.entries, holds.bos]
  by_cases same : other = handle
  · subst same
    simp [absent]
  · rw [UnorderedMap.find_assign_of_ne same]

/-- A lock registers and unregisters nothing, whatever the entry of its handle. -/
theorem gbmLock_registered (mapped : Option Mapping) (usage : U64) (x y w h : Int)
    (other : BufferHandle) :
    Registered (gbmLock mapped handle usage x y w h state).2.2 other ↔ Registered state other := by
  cases found : state.gbmBoHandleMap.find handle with
  | none =>
      rw [gbmLock_of_absent found]
      refine Registered.assignNull found ?_ other
      exact ⟨rfl, rfl⟩
  | some entry =>
      cases entry with
      | none => rw [gbmLock_of_null found]
      | some bo => exact Registered.congr (gbmLock_sameRegistry found mapped usage x y w h) other

/-- A lock of a handle without an object leaves it without one. -/
theorem gbmLock_unregistered
    (unregistered : ∀ bo, state.gbmBoHandleMap.find handle = some (some bo) →
      state.bos.cells bo = none) (mapped : Option Mapping) (usage : U64) (x y w h : Int) :
    lockStateOf (gbmLock mapped handle usage x y w h state).2.2 handle = none := by
  apply lockStateOf_of_unregistered
  cases found : state.gbmBoHandleMap.find handle with
  | none =>
      rw [gbmLock_of_absent found]
      intro bo entry
      rw [UnorderedMap.find_assign_self] at entry
      cases entry
  | some entry =>
      cases entry with
      | none =>
          rw [gbmLock_of_null found]
          exact unregistered
      | some bo =>
          have same := gbmLock_sameRegistry found mapped usage x y w h
          rw [same.entries]
          intro held entry
          have dead := same.alive held
          rw [unregistered held entry] at dead
          exact Option.not_isSome_iff_eq_none.mp (by rw [dead]; decide)

/-- A lock that fails leaves the lock state of its handle as it was. -/
theorem gbmLock_failed (mapped : Option Mapping) (usage : U64) (x y w h : Int)
    (failed : (gbmLock mapped handle usage x y w h state).1 ≠ 0) :
    lockStateOf (gbmLock mapped handle usage x y w h state).2.2 handle =
      lockStateOf state handle := by
  by_cases live : ∃ bo, state.gbmBoHandleMap.find handle = some (some bo) ∧
      (state.bos.cells bo).isSome
  case neg =>
    have unregistered : ∀ bo, state.gbmBoHandleMap.find handle = some (some bo) →
        state.bos.cells bo = none := by
      intro bo entry
      by_contra present
      exact live ⟨bo, entry, Option.isSome_iff_ne_none.mpr present⟩
    rw [gbmLock_unregistered unregistered, lockStateOf_of_unregistered unregistered]
  obtain ⟨bo, registered, present⟩ := live
  obtain ⟨object, alive⟩ := Option.isSome_iff_exists.mp present
  have outcome := gbmLock_outcome registered alive mapped usage x y w h
  have record := outcome.lockRecord_of_failed failed
  have entry : (gbmLock mapped handle usage x y w h state).2.2.gbmBoHandleMap.find handle =
      some (some bo) := by rw [outcome.sameRegistry.entries, registered]
  obtain ⟨after, found⟩ : ∃ after,
      (gbmLock mapped handle usage x y w h state).2.2.bos.cells bo = some after := by
    rw [← Option.isSome_iff_exists, outcome.sameRegistry.alive bo, present]
  have mappings : mappingsOf (gbmLock mapped handle usage x y w h state).2.2 bo =
      mappingsOf state bo := by
    cases gbmLock_request registered alive mapped usage x y w h with
    | unasked _ same => exact same.mappings
    | refused _ _ _ _ _ _ same => exact same.mappings
    | made _ _ _ _ succeeded _ _ _ _ _ => exact absurd succeeded failed
  rw [lockStateOf_of_live entry found, lockStateOf_of_live registered alive, record, mappings]

end Frames

/-! ## The two calls -/

section Calls

variable {state : GrallocState} {handle : BufferHandle}

/-- A failing `gbm_lock_ycbcr` leaves the lock state of its handle as it was unless the
lock was granted before the format was found to have no layout. -/
theorem gbmLockYcbcr_failed_iff (mapped : Option Mapping) (usage : U64) (x y w h : Int) :
    GbmLockYcbcrClean mapped handle usage x y w h state ↔
      ¬ LocksUnsupported state handle usage mapped := by
  obtain ⟨same, zero⟩ := gbmLockYcbcr_eq mapped handle usage x y w h state
  simp only [GbmLockYcbcrClean, same, ne_eq, zero]
  constructor
  · rintro keeps ⟨bo, registered, present, admitted, unsupported⟩
    obtain ⟨object, alive⟩ := Option.isSome_iff_exists.mp present
    have kept := keeps fun success => unsupported success.2
    have outcome := gbmLock_outcome registered alive mapped usage x y w h
    generalize gbmLock mapped handle usage x y w h state = answer at outcome kept
    cases outcome with
    | refused why _ _ _ => exact why admitted
    | granted _ written found _ =>
        have entry : _ = some (some bo) := (congrArg (·.find handle) written.registry.entries).trans
          registered
        rw [lockStateOf_of_live entry found, lockStateOf_of_live registered alive,
          written.lockRecord_eq] at kept
        injection kept with kept
        injection kept with record
        have count := congrArg BoData.lockCount record
        simp only [BoData.granted] at count
        omega
  · intro clean failed
    by_cases granted : (gbmLock mapped handle usage x y w h state).1 = 0
    case neg => exact gbmLock_failed mapped usage x y w h granted
    have unsupported : ¬ YcbcrSupported (state.memory handle).format :=
      fun supported => failed ⟨granted, supported⟩
    have unregistered : ∀ bo, state.gbmBoHandleMap.find handle = some (some bo) →
        state.bos.cells bo = none := by
      intro bo registered
      by_contra present
      obtain ⟨object, alive⟩ := Option.ne_none_iff_exists'.mp present
      have outcome := gbmLock_outcome registered alive mapped usage x y w h
      generalize gbmLock mapped handle usage x y w h state = answer at outcome granted
      cases outcome with
      | refused _ nonzero _ _ => exact nonzero granted
      | granted admitted _ _ _ =>
          exact clean ⟨bo, registered, by rw [alive]; rfl, admitted, unsupported⟩
    rw [gbmLock_unregistered unregistered, lockStateOf_of_unregistered unregistered]

/-- A failing lock through the module leaves the lock state and the registered handles as
they were unless it fails after its first step. -/
theorem lockYcbcr_failed_iff (state : ModuleState) (device accepted : Bool)
    (mapped : Option Mapping) (usage : U32) (x y w h : Int) :
    LockYcbcrClean device accepted mapped handle usage x y w h state ↔
      ¬ StrandsModuleLock state device accepted mapped handle usage := by
  by_cases registers : Registers state device accepted handle
  · obtain ⟨zero, same, _⟩ := lock_registering registers mapped usage x y w h
    have absent : state.gralloc.gbmBoHandleMap.find handle = none := registers.2.2.1
    constructor
    · rintro keeps (⟨-, fails⟩ | ⟨bo, registered, -⟩)
      · have before := (keeps (fun success => fails (zero.mp success))).2 handle
        refine not_registered_of_absent absent (before.mp ?_)
        rw [Registered.congr same]
        exact ⟨state.gralloc.bos.next, UnorderedMap.find_assign_self, by simp [registeredState]⟩
      · rw [absent] at registered
        cases registered
    · intro clean failed
      by_cases succeeds : FirstLockSucceeds (state.gralloc.memory handle)
          (legacyLockUsage usage) mapped
      · exact absurd (zero.mpr succeeds) failed
      · exact absurd (.inl ⟨registers, succeeds⟩) clean
  · obtain ⟨gbm, -, locked⟩ := lockYcbcr_of_fails registers mapped usage x y w h
    have strands : StrandsModuleLock state device accepted mapped handle usage ↔
        LocksUnsupported state.gralloc handle (legacyLockUsage usage) mapped :=
      or_iff_right fun stranded => registers stranded.1
    have left := (gbmLockYcbcr_eq mapped handle (legacyLockUsage usage) x y w h state.gralloc).1
    rw [strands, ← gbmLockYcbcr_failed_iff mapped (legacyLockUsage usage) x y w h]
    simp only [LockYcbcrClean, locked]
    refine imp_congr_right fun _ => and_iff_left fun other => ?_
    simp only [left]
    exact gbmLock_registered mapped (legacyLockUsage usage) x y w h other

end Calls

/-- A failing `gbm_lock_ycbcr` leaves the lock state of its handle as it was exactly when it
was not granted, and a failing `lock_ycbcr` of the module leaves in addition the set of
registered handles as it was exactly when it did not register the handle first. -/
theorem failed_lockYcbcr_iff (state : ModuleState) (device accepted : Bool)
    (mapped : Option Mapping) (handle : BufferHandle) (usage : U64) (legacyUsage : U32)
    (x y w h : Int) :
    (GbmLockYcbcrClean mapped handle usage x y w h state.gralloc ↔
        ¬ LocksUnsupported state.gralloc handle usage mapped) ∧
      (LockYcbcrClean device accepted mapped handle legacyUsage x y w h state ↔
        ¬ StrandsModuleLock state device accepted mapped handle legacyUsage) :=
  ⟨gbmLockYcbcr_failed_iff mapped usage x y w h,
    lockYcbcr_failed_iff state device accepted mapped legacyUsage x y w h⟩

/-- A buffer in RGBA, which has no plane layout, locked plane by plane: the lock fails and
stays, and the module keeps the handle registered. -/
theorem failed_lockYcbcr_not_always_clean :
    let handle : PrivateHandle := { exampleHandle halPixelFormatRgba8888 0x66 with fd := 5 }
    let mapping : Mapping := ⟨4096, 7, by decide⟩
    let state := ModuleState.loaded fun _ => handle
    ¬ GbmLockYcbcrClean (some mapping) 1 0x66 0 0 16 16 (gbmRegister true 1 state.gralloc).2 ∧
      ¬ LockYcbcrClean true true (some mapping) 1 0x33 0 0 16 16 state := by
  refine ⟨fun clean => absurd (clean (by decide)) (by decide), fun clean => ?_⟩
  have before := (clean (by decide)).2 1
  exact not_registered_of_absent rfl (before.mp ⟨0, by decide, by decide⟩)

end Arpi.Gralloc
