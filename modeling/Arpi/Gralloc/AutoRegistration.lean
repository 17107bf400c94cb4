import Arpi.Gralloc.GbmModule
import Arpi.Gralloc.Registry

/-!
# Automatic registration in the legacy module

`lock_ycbcr` registers a handle that is new to the registry, and `unlock` is to
unregister it when its lock is given back. The only memory of what was registered is
one global. A ledger counts the locks that were granted and not yet given back; the
module keeps its registry in step with the ledger along a run exactly when every call
of the run is one that a single global can account for.
-/

namespace Arpi.Gralloc

open Arpi.Semantics

/-- The module together with the number of locks outstanding on each handle. -/
structure TrackedModule where
  state : ModuleState
  outstanding : BufferHandle → Nat

/-- The calls of the module interface, with the answers of the device and the driver. -/
inductive ModuleCall where
  | lockYcbcr (device accepted : Bool) (mapped : Option Mapping) (handle : BufferHandle)
      (usage : U32) (x y w h : Int)
  | unlock (handle : BufferHandle)

/-- A lock that is answered with zero is outstanding until an unlock of its handle. -/
def moduleMachine : Machine TrackedModule ModuleCall Returned where
  step tracked
    | .lockYcbcr device accepted mapped handle usage x y w h =>
        let answer := lockYcbcr device accepted mapped handle usage x y w h tracked.state
        (.code answer.1,
          { state := answer.2.2
            outstanding :=
              if answer.1 = 0 then
                Function.update tracked.outstanding handle (tracked.outstanding handle + 1)
              else tracked.outstanding })
    | .unlock handle =>
        let answer := unlock handle tracked.state
        (answer.1,
          { state := answer.2
            outstanding :=
              Function.update tracked.outstanding handle (tracked.outstanding handle - 1) })

/-- The module as it is loaded, with no lock outstanding. -/
def TrackedModule.loaded (memory : BufferHandle → PrivateHandle) : TrackedModule :=
  ⟨.loaded memory, fun _ => 0⟩

namespace TrackedModule

/-- The entry of a handle. -/
def entry (tracked : TrackedModule) (handle : BufferHandle) : Option (Option BoId) :=
  tracked.state.gralloc.gbmBoHandleMap.find handle

/-- No lock is outstanding on any handle. -/
def Released (tracked : TrackedModule) : Prop := ∀ handle, tracked.outstanding handle = 0

/-- The registry agrees with the ledger: a handle is registered for a live object exactly
when a lock on it is outstanding, and the registry is empty once all locks are given back. -/
structure InStep (tracked : TrackedModule) : Prop where
  registered : ∀ handle,
    Registered tracked.state.gralloc handle ↔ 0 < tracked.outstanding handle
  emptied : tracked.Released → ∀ handle, tracked.entry handle = none

end TrackedModule

/-- A first lock of a new object is granted and its format has a layout. -/
def FirstLockSucceeds (contents : PrivateHandle) (usage : U64) (mapped : Option Mapping) : Prop :=
  usageAllowed contents.usage usage = true ∧ (WantsMapping usage → mapped ≠ none) ∧
    YcbcrSupported contents.format

/-- The calls that one global can account for. A handle without an entry is locked only if
that registers it and the lock then succeeds; one whose registration fails, and the unlock
of a handle without an entry, leave a null entry behind, so some lock must be outstanding.
An unlock of a locked handle is its last one exactly when the global names the handle, and
the very last unlock of all finds no null entry. -/
def Accountable (tracked : TrackedModule) : ModuleCall → Prop
  | .lockYcbcr device accepted mapped handle usage _ _ _ _ =>
      (Registers tracked.state device accepted handle →
        FirstLockSucceeds (tracked.state.gralloc.memory handle) (legacyLockUsage usage) mapped) ∧
      (tracked.entry handle = none → ¬ Registers tracked.state device accepted handle →
        ¬ tracked.Released)
  | .unlock handle =>
      tracked.state.gbm = true →
        (tracked.outstanding handle = 0 → tracked.entry handle = none → ¬ tracked.Released) ∧
        (tracked.outstanding handle ≠ 0 →
          (tracked.state.rhandle = handle ↔ tracked.outstanding handle = 1) ∧
          (tracked.outstanding handle = 1 →
            (∀ other, other ≠ handle → tracked.outstanding other = 0) →
            ∀ other, tracked.entry other ≠ some none))

/-! ## What the module calls do -/

/-- The handle is registered for an object with this many locks, in a format with a layout. -/
structure HeldBy (state : GrallocState) (handle : BufferHandle) (bo : BoId) (locks : Int) :
    Prop where
  registered : state.gbmBoHandleMap.find handle = some (some bo)
  record : ∃ data, gbmBoData state bo = some data ∧ data.lockCount = locks
  supported : YcbcrSupported (state.memory handle).format

namespace HeldBy

variable {state after : GrallocState} {handle other : BufferHandle} {bo written : BoId}
  {locks : Int} {data : BoData}

/-- An object with a lock record is live. -/
theorem alive (held : HeldBy state handle bo locks) :
    ∃ object, state.bos.cells bo = some object := by
  obtain ⟨data, attached, _⟩ := held.record
  obtain ⟨object, found, _⟩ := Option.bind_eq_some_iff.mp attached
  exact ⟨object, found⟩

theorem lockRecord_count (held : HeldBy state handle bo locks) :
    (lockRecord state bo).lockCount = locks := by
  obtain ⟨data, attached, count⟩ := held.record
  rw [lockRecord, attached]
  exact count

/-- Writing the record of the object changes the number of locks. -/
theorem write (held : HeldBy state handle bo locks) (wrote : RecordWritten state after bo data) :
    HeldBy after handle bo data.lockCount where
  registered := by rw [wrote.registry.entries, held.registered]
  record := ⟨data, wrote.record, rfl⟩
  supported := by
    rw [wrote.memory]
    exact held.supported

/-- Writing the record of another object changes nothing. -/
theorem write_other (held : HeldBy state handle bo locks)
    (wrote : RecordWritten state after written data) (different : bo ≠ written) :
    HeldBy after handle bo locks where
  registered := by rw [wrote.registry.entries, held.registered]
  record := by
    rw [gbmBoData, wrote.others bo different]
    exact held.record
  supported := by
    rw [wrote.memory]
    exact held.supported

end HeldBy

/-- What `gbm_lock_ycbcr` does to a handle registered for a live object. -/
theorem gbmLockYcbcr_outcome {state : GrallocState} {handle : BufferHandle} {bo : BoId}
    {object : Bo} (registered : state.gbmBoHandleMap.find handle = some (some bo))
    (alive : state.bos.cells bo = some object) (mapped : Option Mapping) (usage : U64)
    (x y w h : Int) :
    let answer := gbmLockYcbcr mapped handle usage x y w h state
    let admitted := LockAdmitted (state.memory handle) (lockRecord state bo) usage mapped
    (¬ admitted ∧ answer.1 ≠ 0 ∧
        (answer.2.2 = state ∨ RecordWritten state answer.2.2 bo (lockRecord state bo))) ∨
      (admitted ∧ (answer.1 = 0 ↔ YcbcrSupported (state.memory handle).format) ∧
        ∃ data, data.lockCount = (lockRecord state bo).lockCount + 1 ∧
          RecordWritten state answer.2.2 bo data) := by
  intro answer admitted
  obtain ⟨same, zero⟩ := gbmLockYcbcr_eq mapped handle usage x y w h state
  have outcome := gbmLock_outcome registered alive mapped usage x y w h
  rw [show answer.2.2 = _ from same, show answer.1 = 0 ↔ _ from zero]
  generalize gbmLock mapped handle usage x y w h state = locked at outcome zero ⊢
  cases outcome with
  | refused why nonzero _ unchanged =>
      exact .inl ⟨why, fun success => nonzero (zero.mp success).1, unchanged⟩
  | granted why written _ _ =>
      exact .inr ⟨why, by simp, _, rfl, written⟩

/-- On a new object the lock succeeds exactly when its usage is allowed, a mapping that it
needs can be made, and the format has a layout. -/
theorem firstLockSucceeds_iff (contents : PrivateHandle) (usage : U64)
    (mapped : Option Mapping) :
    FirstLockSucceeds contents usage mapped ↔
      LockAdmitted contents BoData.new usage mapped ∧ YcbcrSupported contents.format := by
  have same : usage ||| BoData.new.lockedUsage = usage := by
    rw [show BoData.new.lockedUsage = 0 from rfl]
    simp
  constructor
  · rintro ⟨allowed, mappable, supported⟩
    refine ⟨⟨allowed, fun clash => clash.1 rfl, ?_⟩, supported⟩
    rw [same]
    exact fun wanted => ⟨rfl, mappable wanted⟩
  · rintro ⟨⟨allowed, _, mappable⟩, supported⟩
    rw [same] at mappable
    exact ⟨allowed, fun wanted => (mappable wanted).2, supported⟩

/-- The bookkeeping that a run of accountable calls keeps: every outstanding lock is in the
record of the object that its handle is registered for, and other handles have no object. -/
structure Accounted (tracked : TrackedModule) : Prop where
  held : ∀ handle, 0 < tracked.outstanding handle →
    ∃ bo, HeldBy tracked.state.gralloc handle bo (tracked.outstanding handle)
  idle : ∀ handle, tracked.outstanding handle = 0 →
    tracked.entry handle = none ∨ tracked.entry handle = some none
  apart : ∀ handle other bo, tracked.entry handle = some (some bo) →
    tracked.entry other = some (some bo) → handle = other
  clean : tracked.Released → ∀ handle, tracked.entry handle ≠ some none
  opened : tracked.state.gbm = false → tracked.Released

namespace Accounted

variable {tracked : TrackedModule} {handle : BufferHandle} {bo : BoId} {after : GrallocState}
  {data : BoData}

theorem loaded (memory : BufferHandle → PrivateHandle) : Accounted (.loaded memory) where
  held := fun _ positive => absurd positive (Nat.lt_irrefl 0)
  idle := fun _ _ => .inl rfl
  apart := fun _ _ _ impossible => by cases impossible
  clean := fun _ _ impossible => by cases impossible
  opened := fun _ _ => rfl

/-- Accounted registries are in step with the ledger. -/
theorem inStep (accounted : Accounted tracked) : tracked.InStep where
  registered := by
    intro handle
    constructor
    · rintro ⟨bo, found, _⟩
      by_contra none
      rcases accounted.idle handle (by omega) with absent | null
      · rw [TrackedModule.entry, found] at absent
        cases absent
      · rw [TrackedModule.entry, found] at null
        cases null
    · intro positive
      obtain ⟨bo, held⟩ := accounted.held handle positive
      obtain ⟨object, alive⟩ := held.alive
      exact ⟨bo, held.registered, by rw [alive]; rfl⟩
  emptied := fun released handle =>
    (accounted.idle handle (released handle)).resolve_right (accounted.clean released handle)

/-- An entry with an object has a lock outstanding on it. -/
theorem positive_of_registered (accounted : Accounted tracked)
    (registered : tracked.entry handle = some (some bo)) : 0 < tracked.outstanding handle := by
  by_contra none
  rcases accounted.idle handle (by omega) with absent | null
  · rw [registered] at absent
    cases absent
  · rw [registered] at null
    cases null

/-- The locks on a registered object are in its record. -/
theorem held_of_registered (accounted : Accounted tracked)
    (registered : tracked.entry handle = some (some bo)) :
    HeldBy tracked.state.gralloc handle bo (tracked.outstanding handle) := by
  obtain ⟨holder, held⟩ := accounted.held handle (accounted.positive_of_registered registered)
  have found := held.registered
  rw [← TrackedModule.entry, registered] at found
  cases found
  exact held

/-- The device is open, and stays so, while an object is registered. -/
theorem open_of_registered (accounted : Accounted tracked)
    (registered : tracked.entry handle = some (some bo)) {gbm : Bool}
    (stays : tracked.state.gbm = true → gbm = true) : gbm = true := by
  apply stays
  by_contra closed
  have positive := accounted.positive_of_registered registered
  have released := accounted.opened (by simpa using closed) handle
  omega

/-- Where the device is closed after a call that never closes it, nothing is outstanding. -/
theorem released_of_closed (accounted : Accounted tracked) {gbm : Bool}
    (stays : tracked.state.gbm = true → gbm = true) (closed : gbm = false) :
    tracked.Released := by
  apply accounted.opened
  by_contra opened
  have still := stays (by simpa using opened)
  rw [closed] at still
  cases still

/-- Writing a positive number of locks into the record of a registered object, and into the
ledger, keeps the bookkeeping. -/
theorem write (accounted : Accounted tracked)
    (registered : tracked.entry handle = some (some bo))
    (wrote : RecordWritten tracked.state.gralloc after bo data) {locks : Nat}
    (positive : 0 < locks) (count : data.lockCount = locks) (gbm : Bool)
    (stays : tracked.state.gbm = true → gbm = true) (rhandle : BufferHandle) :
    Accounted ⟨⟨after, gbm, rhandle⟩, Function.update tracked.outstanding handle locks⟩ where
  held := by
    intro other
    by_cases same : other = handle
    · subst same
      intro _
      refine ⟨bo, ?_⟩
      simp only [Function.update_self, ← count]
      exact (accounted.held_of_registered registered).write wrote
    · simp only [Function.update_of_ne same]
      intro more
      obtain ⟨held, was⟩ := accounted.held other more
      refine ⟨held, was.write_other wrote ?_⟩
      rintro rfl
      exact same (accounted.apart other handle held was.registered registered)
  idle := by
    intro other
    rw [TrackedModule.entry, wrote.registry.entries]
    by_cases same : other = handle
    · subst same
      simp only [Function.update_self]
      omega
    · simp only [Function.update_of_ne same]
      exact accounted.idle other
  apart := by
    intro first second held
    simp only [TrackedModule.entry, wrote.registry.entries]
    exact accounted.apart first second held
  clean := by
    intro released
    have none := released handle
    simp only [Function.update_self] at none
    omega
  opened closed := by
    rw [accounted.open_of_registered registered stays] at closed
    cases closed

/-- A null entry under a new handle does no harm while a lock is outstanding. -/
theorem assignNull (accounted : Accounted tracked) (absent : tracked.entry handle = none)
    (unreleased : ¬ tracked.Released) (gbm : Bool)
    (stays : tracked.state.gbm = true → gbm = true) (rhandle : BufferHandle) :
    Accounted
      ⟨⟨{ tracked.state.gralloc with
            gbmBoHandleMap := tracked.state.gralloc.gbmBoHandleMap.assign handle none }, gbm,
          rhandle⟩, tracked.outstanding⟩ where
  held := by
    intro other more
    obtain ⟨bo, held⟩ := accounted.held other more
    have different : other ≠ handle := by
      rintro rfl
      have found := held.registered
      rw [← TrackedModule.entry, absent] at found
      cases found
    refine ⟨bo, ?_, held.record, held.supported⟩
    simp only [UnorderedMap.find_assign_of_ne different]
    exact held.registered
  idle := by
    intro other unlocked
    simp only [TrackedModule.entry]
    by_cases same : other = handle
    · subst same
      exact .inr UnorderedMap.find_assign_self
    · rw [UnorderedMap.find_assign_of_ne same]
      exact accounted.idle other unlocked
  apart := by
    intro first second held
    simp only [TrackedModule.entry]
    by_cases left : first = handle
    · subst left
      simp
    · by_cases right : second = handle
      · subst right
        simp
      · rw [UnorderedMap.find_assign_of_ne left, UnorderedMap.find_assign_of_ne right]
        exact accounted.apart first second held
  clean := fun released => absurd released unreleased
  opened := accounted.released_of_closed stays

/-- Opening the device keeps the bookkeeping. -/
theorem reopen (accounted : Accounted tracked) (gbm : Bool)
    (stays : tracked.state.gbm = true → gbm = true) :
    Accounted { tracked with state := { tracked.state with gbm := gbm } } where
  held := accounted.held
  idle := accounted.idle
  apart := accounted.apart
  clean := accounted.clean
  opened := accounted.released_of_closed stays

/-- A handle without an object has no lock outstanding. -/
theorem zero_of_unregistered (accounted : Accounted tracked)
    (unregistered : ∀ bo, tracked.entry handle ≠ some (some bo)) :
    tracked.outstanding handle = 0 := by
  by_contra locked
  obtain ⟨bo, held⟩ := accounted.held handle (by omega)
  exact unregistered bo held.registered

/-- A registered object existed before the next one is created. -/
theorem ne_next (accounted : Accounted tracked)
    (registered : tracked.entry handle = some (some bo)) : bo ≠ tracked.state.gralloc.bos.next := by
  obtain ⟨object, alive⟩ := (accounted.held_of_registered registered).alive
  exact Nat.ne_of_lt (Store.lt_next_of_live alive)

/-- A registration whose lock is granted keeps the bookkeeping. -/
theorem register (accounted : Accounted tracked) (absent : tracked.entry handle = none)
    (supported : YcbcrSupported (tracked.state.gralloc.memory handle).format)
    (wrote : RecordWritten (registeredState handle tracked.state.gralloc) after
      tracked.state.gralloc.bos.next data)
    (count : data.lockCount = 1) :
    Accounted ⟨⟨after, true, handle⟩, Function.update tracked.outstanding handle 1⟩ where
  held := by
    intro other
    by_cases same : other = handle
    · subst same
      intro _
      refine ⟨tracked.state.gralloc.bos.next, ?_, ⟨data, wrote.record, ?_⟩, ?_⟩
      · rw [wrote.registry.entries]
        exact UnorderedMap.find_assign_self
      · simp only [Function.update_self, count]
        rfl
      · rw [wrote.memory]
        exact supported
    · simp only [Function.update_of_ne same]
      intro more
      obtain ⟨bo, held⟩ := accounted.held other more
      have older := accounted.ne_next held.registered
      have kept : HeldBy (registeredState handle tracked.state.gralloc) other bo
          (tracked.outstanding other) :=
        { registered := by
            simp only [registeredState, UnorderedMap.find_assign_of_ne same]
            exact held.registered
          record := by
            simp only [gbmBoData, registeredState, Store.create_cells_of_ne older]
            exact held.record
          supported := held.supported }
      exact ⟨bo, kept.write_other wrote older⟩
  idle := by
    intro other
    rw [TrackedModule.entry, wrote.registry.entries]
    by_cases same : other = handle
    · subst same
      simp only [Function.update_self]
      omega
    · simp only [Function.update_of_ne same, registeredState, UnorderedMap.find_assign_of_ne same]
      exact accounted.idle other
  apart := by
    intro first second held
    simp only [TrackedModule.entry, wrote.registry.entries, registeredState]
    by_cases left : first = handle
    · by_cases right : second = handle
      · intro _ _
        rw [left, right]
      · subst left
        rw [UnorderedMap.find_assign_self, UnorderedMap.find_assign_of_ne right]
        intro new old
        cases new
        exact absurd rfl (accounted.ne_next old)
    · by_cases right : second = handle
      · subst right
        rw [UnorderedMap.find_assign_self, UnorderedMap.find_assign_of_ne left]
        intro old new
        cases new
        exact absurd rfl (accounted.ne_next old)
      · rw [UnorderedMap.find_assign_of_ne left, UnorderedMap.find_assign_of_ne right]
        exact accounted.apart first second held
  clean := by
    intro released
    have none := released handle
    simp only [Function.update_self] at none
    omega
  opened := by
    intro closed
    cases closed

/-- Giving back the last lock of a handle and unregistering it keeps the bookkeeping, if no
null entry is left when that was the last lock of all. -/
theorem unregister (accounted : Accounted tracked)
    (registered : tracked.entry handle = some (some bo))
    (wrote : RecordWritten tracked.state.gralloc after bo data)
    (clean : (∀ other, other ≠ handle → tracked.outstanding other = 0) →
      ∀ other, tracked.entry other ≠ some none) (gbm : Bool)
    (stays : tracked.state.gbm = true → gbm = true) :
    Accounted ⟨⟨gbmFree handle after, gbm, 0⟩, Function.update tracked.outstanding handle 0⟩ := by
  have entry : after.gbmBoHandleMap.find handle = some (some bo) := by
    rw [wrote.registry.entries]
    exact registered
  rw [gbmFree_of_live entry]
  have others : ∀ other, other ≠ handle →
      (after.gbmBoHandleMap.erase handle).find other = tracked.entry other := by
    intro other different
    rw [UnorderedMap.find_erase_of_ne different, wrote.registry.entries]
    rfl
  constructor
  · intro other
    by_cases same : other = handle
    · subst same
      simp only [Function.update_self]
      omega
    · simp only [Function.update_of_ne same]
      intro more
      obtain ⟨held, was⟩ := accounted.held other more
      have different : held ≠ bo := by
        rintro rfl
        exact same (accounted.apart other handle held was.registered registered)
      have kept := was.write_other wrote different
      refine ⟨held, (others other same).trans was.registered, ?_, kept.supported⟩
      simp only [gbmBoData, Store.destroy_cells_of_ne different]
      exact kept.record
  · intro other
    by_cases same : other = handle
    · subst same
      intro _
      exact .inl UnorderedMap.find_erase_self
    · simp only [Function.update_of_ne same, TrackedModule.entry, others other same]
      exact accounted.idle other
  · intro first second held
    simp only [TrackedModule.entry]
    by_cases left : first = handle
    · subst left
      simp
    · by_cases right : second = handle
      · subst right
        simp
      · rw [others first left, others second right]
        exact accounted.apart first second held
  · intro released other
    simp only [TrackedModule.entry]
    by_cases same : other = handle
    · subst same
      simp
    · rw [others other same]
      refine clean (fun rest different => ?_) other
      have none := released rest
      simpa only [Function.update_of_ne different] using none
  · intro closed
    rw [accounted.open_of_registered registered stays] at closed
    cases closed

end Accounted

/-! ## The steps -/

/-- A handle without an entry is not locked; a null entry is left behind. -/
theorem gbmLockYcbcr_of_absent {state : GrallocState} {handle : BufferHandle}
    (absent : state.gbmBoHandleMap.find handle = none) (mapped : Option Mapping) (usage : U64)
    (x y w h : Int) :
    (gbmLockYcbcr mapped handle usage x y w h state).1 ≠ 0 ∧
      (gbmLockYcbcr mapped handle usage x y w h state).2.2 =
        { state with gbmBoHandleMap := state.gbmBoHandleMap.assign handle none } := by
  obtain ⟨same, zero⟩ := gbmLockYcbcr_eq mapped handle usage x y w h state
  rw [gbmLock_of_absent absent] at same zero
  exact ⟨fun success => absurd (zero.mp success).1 (show (-einval : Int) ≠ 0 by decide), same⟩

/-- A handle with a null entry is not locked either. -/
theorem gbmLockYcbcr_of_null {state : GrallocState} {handle : BufferHandle}
    (null : state.gbmBoHandleMap.find handle = some none) (mapped : Option Mapping) (usage : U64)
    (x y w h : Int) :
    (gbmLockYcbcr mapped handle usage x y w h state).1 ≠ 0 ∧
      (gbmLockYcbcr mapped handle usage x y w h state).2.2 = state := by
  obtain ⟨same, zero⟩ := gbmLockYcbcr_eq mapped handle usage x y w h state
  rw [gbmLock_of_null null] at same zero
  exact ⟨fun success => absurd (zero.mp success).1 (show (-einval : Int) ≠ 0 by decide), same⟩

/-- An unlock of a locked object gives one lock back. -/
theorem HeldBy.unlock {state : GrallocState} {handle : BufferHandle} {bo : BoId} {locks : Int}
    (held : HeldBy state handle bo locks) (locked : locks ≠ 0) :
    ∃ after data, gbmUnlock handle state = (.code 0, after) ∧
      RecordWritten state after bo data ∧ data.lockCount = locks - 1 := by
  obtain ⟨object, alive⟩ := held.alive
  obtain ⟨data, attached, count⟩ := held.record
  have outcome := gbmUnlock_outcome held.registered alive
  generalize gbmUnlock handle state = answer at outcome ⊢
  cases outcome with
  | fault unattached =>
      rw [attached] at unattached
      cases unattached
  | idle found unlocked =>
      rw [attached] at found
      cases found
      exact absurd (count.symm.trans unlocked) locked
  | @released data' after found _ written =>
      rw [attached] at found
      cases found
      exact ⟨after, data.released, rfl, written, by rw [released_lockCount, count]⟩

section Steps

variable {tracked : TrackedModule} {handle : BufferHandle} {device accepted : Bool}

theorem next_lockYcbcr (mapped : Option Mapping) (usage : U32) (x y w h : Int) :
    moduleMachine.next tracked (.lockYcbcr device accepted mapped handle usage x y w h) =
      let answer := lockYcbcr device accepted mapped handle usage x y w h tracked.state
      { state := answer.2.2
        outstanding :=
          if answer.1 = 0 then
            Function.update tracked.outstanding handle (tracked.outstanding handle + 1)
          else tracked.outstanding } := rfl

theorem next_unlock :
    moduleMachine.next tracked (.unlock handle) =
      { state := (unlock handle tracked.state).2
        outstanding :=
          Function.update tracked.outstanding handle (tracked.outstanding handle - 1) } := rfl

/-- An unlock of a handle without outstanding locks leaves the ledger as it is. -/
theorem outstanding_of_none (none : tracked.outstanding handle = 0) :
    Function.update tracked.outstanding handle (tracked.outstanding handle - 1) =
      tracked.outstanding := by
  rw [Function.update_eq_self_iff]
  omega

/-- What a lock that registers the handle leaves: the handle is registered, and the lock is
granted exactly when a first lock succeeds. -/
theorem lock_registering {state : ModuleState} (registers : Registers state device accepted handle)
    (mapped : Option Mapping) (usage : U32) (x y w h : Int) :
    let answer := lockYcbcr device accepted mapped handle usage x y w h state
    let succeeds := FirstLockSucceeds (state.gralloc.memory handle)
      (legacyLockUsage usage) mapped
    (answer.1 = 0 ↔ succeeds) ∧
      SameRegistry (registeredState handle state.gralloc) answer.2.2.gralloc ∧
      (succeeds → ∃ after data, answer.2.2 = ⟨after, true, handle⟩ ∧ data.lockCount = 1 ∧
        RecordWritten (registeredState handle state.gralloc) after
          state.gralloc.bos.next data) := by
  intro answer succeeds
  let fresh := registeredState handle state.gralloc
  have entry : fresh.gbmBoHandleMap.find handle = some (some state.gralloc.bos.next) :=
    UnorderedMap.find_assign_self
  have alive : fresh.bos.cells state.gralloc.bos.next =
      some (importedBo (state.gralloc.memory handle)) := Store.create_cells_next
  have record : lockRecord fresh state.gralloc.bos.next = BoData.new := by
    simp [lockRecord, gbmBoData, alive, importedBo]
  have outcome := gbmLockYcbcr_outcome entry alive mapped (legacyLockUsage usage) x y w h
  have locked := lockYcbcr_of_succeeds registers mapped usage x y w h
  rw [show answer = _ from locked]
  simp only [record] at outcome
  rw [show succeeds ↔ _ from firstLockSucceeds_iff _ _ _]
  rcases outcome with ⟨why, failed, unchanged⟩ | ⟨admitted, zero, data, count, written⟩
  · refine ⟨iff_of_false failed fun success => why success.1, ?_,
      fun success => absurd success.1 why⟩
    rcases unchanged with same | written
    · rw [show (gbmLockYcbcr mapped handle (legacyLockUsage usage) x y w h fresh).2.2 = fresh
        from same]
      exact .refl fresh
    · exact written.registry
  · exact ⟨zero.trans (and_iff_right admitted).symm, written.registry,
      fun _ => ⟨_, data, rfl, count, written⟩⟩

/-- An accountable lock keeps the bookkeeping. -/
theorem lock_preserves (accounted : Accounted tracked) (mapped : Option Mapping) (usage : U32)
    (x y w h : Int)
    (accountable : Accountable tracked
      (.lockYcbcr device accepted mapped handle usage x y w h)) :
    Accounted (moduleMachine.next tracked
      (.lockYcbcr device accepted mapped handle usage x y w h)) := by
  obtain ⟨first, unreleased⟩ := accountable
  rw [next_lockYcbcr]
  by_cases registers : Registers tracked.state device accepted handle
  · have absent : tracked.entry handle = none := registers.2.2.1
    have none : tracked.outstanding handle = 0 :=
      accounted.zero_of_unregistered fun bo found => by rw [absent] at found; cases found
    obtain ⟨zero, _, granted⟩ := lock_registering registers mapped usage x y w h
    obtain ⟨after, data, state, count, written⟩ := granted (first registers)
    simp only [if_pos (zero.mpr (first registers)), state, none]
    exact accounted.register absent (first registers).2.2 written count
  · obtain ⟨gbm, stays, locked⟩ := lockYcbcr_of_fails registers mapped usage x y w h
    rw [locked]
    dsimp only
    cases entry : tracked.entry handle with
    | none =>
        obtain ⟨failed, left⟩ := gbmLockYcbcr_of_absent entry mapped (legacyLockUsage usage) x y w h
        rw [if_neg failed, left]
        exact accounted.assignNull entry (unreleased entry registers) gbm stays _
    | some held =>
        cases held with
        | none =>
            obtain ⟨failed, left⟩ :=
              gbmLockYcbcr_of_null entry mapped (legacyLockUsage usage) x y w h
            rw [if_neg failed, left]
            exact accounted.reopen gbm stays
        | some bo =>
            have positive := accounted.positive_of_registered entry
            have held := accounted.held_of_registered entry
            obtain ⟨object, alive⟩ := held.alive
            rcases gbmLockYcbcr_outcome entry alive mapped (legacyLockUsage usage) x y w h with
              ⟨_, failed, unchanged⟩ | ⟨_, zero, data, count, written⟩
            · rw [if_neg failed]
              rcases unchanged with same | written
              · rw [same]
                exact accounted.reopen gbm stays
              · have kept := accounted.write entry written positive held.lockRecord_count gbm stays
                  tracked.state.rhandle
                rwa [Function.update_eq_self] at kept
            · rw [if_pos (zero.mpr held.supported)]
              refine accounted.write entry written (Nat.succ_pos _) ?_ gbm stays _
              rw [count, held.lockRecord_count]
              rfl

/-- An accountable unlock keeps the bookkeeping. -/
theorem unlock_preserves (accounted : Accounted tracked)
    (accountable : Accountable tracked (.unlock handle)) :
    Accounted (moduleMachine.next tracked (.unlock handle)) := by
  rw [next_unlock]
  by_cases closed : tracked.state.gbm = false
  · rw [unlock_of_closed closed, outstanding_of_none (accounted.opened closed handle)]
    exact accounted
  have opened : tracked.state.gbm = true := by simpa using closed
  obtain ⟨idle, locked⟩ := accountable opened
  by_cases none : tracked.outstanding handle = 0
  · rw [outstanding_of_none none]
    rcases accounted.idle handle none with absent | null
    · rw [unlock_of_refused opened (gbmUnlock_of_absent absent)]
      exact accounted.assignNull absent (idle none absent) _ id _
    · rw [unlock_of_refused opened (gbmUnlock_of_null null)]
      exact accounted
  · obtain ⟨bo, held⟩ := accounted.held handle (by omega)
    obtain ⟨after, data, granted, written, count⟩ := held.unlock (by omega)
    obtain ⟨last, clean⟩ := locked none
    rw [unlock_of_granted opened granted]
    by_cases remembered : tracked.state.rhandle = handle
    · have one := last.mp remembered
      rw [if_pos remembered, one]
      exact accounted.unregister held.registered written (clean one) _ id
    · have more : tracked.outstanding handle ≠ 1 := fun one => remembered (last.mpr one)
      rw [if_neg remembered]
      exact accounted.write held.registered written (by omega) (by omega) _ id _

/-- A lock after which registry and ledger are in step was accountable. -/
theorem lock_breaks (accounted : Accounted tracked) (mapped : Option Mapping) (usage : U32)
    (x y w h : Int)
    (inStep : (moduleMachine.next tracked
      (.lockYcbcr device accepted mapped handle usage x y w h)).InStep) :
    Accountable tracked (.lockYcbcr device accepted mapped handle usage x y w h) := by
  rw [next_lockYcbcr] at inStep
  constructor
  · intro registers
    by_contra fails
    have absent : tracked.entry handle = none := registers.2.2.1
    have none : tracked.outstanding handle = 0 :=
      accounted.zero_of_unregistered fun bo found => by rw [absent] at found; cases found
    obtain ⟨zero, registry, _⟩ := lock_registering registers mapped usage x y w h
    have registered := inStep.registered handle
    simp only [if_neg (fun success => fails (zero.mp success)), none] at registered
    refine absurd (registered.mp ⟨tracked.state.gralloc.bos.next, ?_, ?_⟩) (Nat.lt_irrefl 0)
    · rw [registry.entries]
      exact UnorderedMap.find_assign_self
    · rw [registry.alive]
      simp [registeredState]
  · intro absent fails released
    obtain ⟨gbm, _, locked⟩ := lockYcbcr_of_fails fails mapped usage x y w h
    obtain ⟨failed, left⟩ := gbmLockYcbcr_of_absent absent mapped (legacyLockUsage usage) x y w h
    rw [locked] at inStep
    simp only [if_neg failed, left] at inStep
    have empty := inStep.emptied released handle
    simp [TrackedModule.entry] at empty

/-- An unlock after which registry and ledger are in step was accountable. -/
theorem unlock_breaks (accounted : Accounted tracked)
    (inStep : (moduleMachine.next tracked (.unlock handle)).InStep) :
    Accountable tracked (.unlock handle) := by
  rw [next_unlock] at inStep
  intro opened
  constructor
  · intro none absent released
    rw [unlock_of_refused opened (gbmUnlock_of_absent absent), outstanding_of_none none] at inStep
    have empty := inStep.emptied released handle
    simp [TrackedModule.entry] at empty
  · intro positive
    obtain ⟨bo, held⟩ := accounted.held handle (by omega)
    obtain ⟨after, data, granted, written, count⟩ := held.unlock (by omega)
    have entry : after.gbmBoHandleMap.find handle = some (some bo) := by
      rw [written.registry.entries]
      exact held.registered
    rw [unlock_of_granted opened granted] at inStep
    have last : tracked.state.rhandle = handle ↔ tracked.outstanding handle = 1 := by
      have registered := inStep.registered handle
      simp only [Function.update_self] at registered
      by_cases remembered : tracked.state.rhandle = handle
      · rw [if_pos remembered, gbmFree_of_live entry] at registered
        have gone : ¬ Registered { after with
            gbmBoHandleMap := after.gbmBoHandleMap.erase handle
            bos := after.bos.destroy bo } handle :=
          not_registered_of_absent UnorderedMap.find_erase_self
        have fewer := mt registered.mpr gone
        exact iff_of_true remembered (by omega)
      · rw [if_neg remembered] at registered
        obtain ⟨object, alive⟩ := written.alive
        have more := registered.mp ⟨bo, entry, by rw [alive]; rfl⟩
        exact iff_of_false remembered (by omega)
    refine ⟨last, fun one rest other null => ?_⟩
    rw [if_pos (last.mpr one), gbmFree_of_live entry] at inStep
    have different : other ≠ handle := by
      rintro rfl
      rw [TrackedModule.entry, held.registered] at null
      cases null
    have none : ∀ other, Function.update tracked.outstanding handle
        (tracked.outstanding handle - 1) other = 0 := by
      intro other
      rw [one, Function.update_apply]
      split
      · rfl
      · exact rest other ‹_›
    have empty := inStep.emptied none other
    simp only [TrackedModule.entry, UnorderedMap.find_erase_of_ne different,
      written.registry.entries] at empty
    rw [TrackedModule.entry, empty] at null
    cases null

end Steps

/-- The registry is in step with the locks outstanding along a run exactly when every call
of the run is one that the single global can account for. -/
theorem registry_inStep_iff (memory : BufferHandle → PrivateHandle) (calls : List ModuleCall) :
    moduleMachine.Always TrackedModule.InStep (.loaded memory) calls ↔
      moduleMachine.EachStep Accountable (.loaded memory) calls := by
  refine moduleMachine.always_iff_eachStep
    (fun _ accounted => Accounted.inStep accounted) ?_ ?_ (Accounted.loaded memory)
    (moduleMachine.eachStep_of_forall (fun _ _ => trivial) _ _)
  · intro tracked call accounted _ accountable
    cases call with
    | lockYcbcr device accepted mapped handle usage x y w h =>
        exact lock_preserves accounted mapped usage x y w h accountable
    | unlock handle => exact unlock_preserves accounted accountable
  · intro tracked call accounted _ inStep
    cases call with
    | lockYcbcr device accepted mapped handle usage x y w h =>
        exact lock_breaks accounted mapped usage x y w h inStep
    | unlock handle => exact unlock_breaks accounted inStep

/-- Two buffers locked one after the other: the global forgets the first, whose unlock
then leaves it registered. -/
theorem registry_not_always_inStep :
    ¬ ∀ (memory : BufferHandle → PrivateHandle) (calls : List ModuleCall),
      moduleMachine.Always TrackedModule.InStep (.loaded memory) calls := by
  intro claim
  let handle : PrivateHandle := { exampleHandle halPixelFormatYCbCr420888 0x66 with fd := 5 }
  let lock (buffer : BufferHandle) : ModuleCall :=
    .lockYcbcr true true (some ⟨4096, 7, by decide⟩) buffer 0x33 0 0 16 16
  obtain ⟨_, _, _, inStep⟩ := claim (fun _ => handle) [lock 1, lock 2, .unlock 1]
  have registered := (inStep.registered 1).mp ⟨0, by decide, by decide⟩
  exact absurd registered (by decide)

end Arpi.Gralloc
