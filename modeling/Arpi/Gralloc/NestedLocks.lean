import Arpi.Gralloc.DriverCalls
import Arpi.Gralloc.LiveBuffer
import Arpi.Gralloc.ReachableRecords

/-!
# Nested locks

A locked buffer is meant to take further locks whose usage it is already locked for. The
usage of such a lock is joined with the one the buffer is locked for, so on a buffer that
is locked for the CPU every nested lock wants a mapping and finds the buffer mapped. Nested
locks work exactly on buffers that are locked without the CPU.
-/

namespace Arpi.Gralloc

open Arpi.Semantics

/-- A rectangle inside the buffer. -/
structure InsideBuffer (contents : PrivateHandle) (x y w h : Int) : Prop where
  left : 0 ≤ x
  top : 0 ≤ y
  width : 0 ≤ w
  height : 0 ≤ h
  right : x + w ≤ contents.width.toNat
  bottom : y + h ≤ contents.height.toNat

/-- Locks of the buffer that its handle allows and that it is already locked for, and
unlocks of the buffer. -/
def CompatibleCall (handle : BufferHandle) (bo : BoId) (state : GrallocState) :
    RegistryCall → Prop
  | .lock locked usage x y w h _ =>
      locked = handle ∧ usageAllowed (state.memory handle).usage usage = true ∧
        (lockRecord state bo).lockedUsage &&& usage = usage ∧
        InsideBuffer (state.memory handle) x y w h
  | .unlock unlocked => unlocked = handle
  | .alloc .. | .register .. | .unregister _ | .free _ => False

/-- A session of nested calls never gives back more locks than it has taken; `depth` of
them are open. -/
def Nested : Nat → List RegistryCall → Prop
  | _, [] => True
  | depth, .lock .. :: rest => Nested (depth + 1) rest
  | depth + 1, .unlock _ :: rest => Nested depth rest
  | _, _ :: _ => False

/-- A nested lock succeeds: it answers zero, with the address of the mapping that the
buffer is locked with, and the buffer has one lock more. -/
def NestedLockWorks (handle : BufferHandle) (bo : BoId) (state : GrallocState) :
    RegistryCall → Prop
  | .lock _ usage x y w h mapped =>
      let answer := gbmLock mapped handle usage x y w h state
      answer.1 = 0 ∧
        (∀ mapping ∈ mappingsOf state bo, mapDataOf state bo = some mapping.mapData →
          answer.2.1 = mapping.address) ∧
        (lockRecord answer.2.2 bo).lockCount = (lockRecord state bo).lockCount + 1
  | .alloc .. | .register .. | .unregister _ | .free _ | .unlock _ => True

section Steps

variable {state : GrallocState} {handle : BufferHandle} {contents : PrivateHandle}
  {geometry : U32 × U32 × U32} {bo : BoId} {usage : U64}

/-- A buffer that is locked without a mapping admits every compatible lock. -/
theorem LiveBuffer.admits (buffer : LiveBuffer state handle contents geometry bo)
    (locked : (lockRecord state bo).lockCount ≠ 0) (unmapped : mapDataOf state bo = none)
    (allowed : usageAllowed (state.memory handle).usage usage = true)
    (subset : (lockRecord state bo).lockedUsage &&& usage = usage) (mapped : Option Mapping) :
    LockAdmitted (state.memory handle) (lockRecord state bo) usage mapped := by
  have fits : ¬ (lockRecord state bo).Clashes usage := fun clash => clash.2 subset
  refine ⟨allowed, fits, fun wanted => ?_⟩
  exact absurd wanted (BoData.Sound.not_wantsMapping _ buffer.sound fits unmapped locked)

/-- A buffer that is locked with a mapping admits no lock at all. -/
theorem LiveBuffer.refuses (buffer : LiveBuffer state handle contents geometry bo)
    (held : mapDataOf state bo ≠ none) (mapped : Option Mapping) :
    ¬ LockAdmitted (state.memory handle) (lockRecord state bo) usage mapped := by
  intro admitted
  have wanted : WantsMapping (lockRecord state bo).lockedUsage := buffer.sound.mapped.mp held
  exact held (admitted.mappable ((wantsMapping_or _ _).mpr (.inr wanted))).1

/-- A compatible lock of a buffer that is locked without a mapping works, and leaves it so. -/
theorem LiveBuffer.nestedLock (buffer : LiveBuffer state handle contents geometry bo)
    (locked : (lockRecord state bo).lockCount ≠ 0) (unmapped : mapDataOf state bo = none)
    (allowed : usageAllowed (state.memory handle).usage usage = true)
    (subset : (lockRecord state bo).lockedUsage &&& usage = usage) (mapped : Option Mapping)
    (x y w h : Int) :
    let answer := gbmLock mapped handle usage x y w h state
    answer.1 = 0 ∧ mapDataOf answer.2.2 bo = none ∧
      (lockRecord answer.2.2 bo).lockCount = (lockRecord state bo).lockCount + 1 := by
  intro answer
  have admitted := buffer.admits locked unmapped allowed subset mapped
  have outcome := buffer.lockOutcome mapped usage x y w h
  rw [show gbmLock mapped handle usage x y w h state = answer from rfl] at outcome
  clear_value answer
  cases outcome with
  | refused why _ _ _ => exact absurd admitted why
  | granted _ written _ at' =>
      refine ⟨rfl, ?_, ?_⟩
      · rw [mapDataOf, written.lockRecord_eq]
        cases at' with
        | mapped wanted _ _ _ =>
            exact absurd wanted
              (BoData.Sound.not_wantsMapping _ buffer.sound admitted.fits unmapped locked)
        | unmapped _ => exact unmapped
      · rw [written.lockRecord_eq]
        rfl

/-- An unlock of a locked buffer gives one lock back and leaves no mapping. -/
theorem LiveBuffer.nestedUnlock (buffer : LiveBuffer state handle contents geometry bo)
    (locked : (lockRecord state bo).lockCount ≠ 0) :
    mapDataOf (gbmUnlock handle state).2 bo = none ∧
      (lockRecord (gbmUnlock handle state).2 bo).lockCount =
        (lockRecord state bo).lockCount - 1 := by
  have outcome := buffer.unlockOutcome
  have sound := buffer.sound
  generalize gbmUnlock handle state = answer at outcome ⊢
  cases outcome with
  | fault unattached =>
      rw [lockRecord, unattached] at locked
      exact absurd rfl locked
  | idle attached unlocked =>
      rw [lockRecord, attached] at locked
      exact absurd unlocked locked
  | @released data after attached _ written =>
      have current : lockRecord state bo = data := by rw [lockRecord, attached, Option.getD_some]
      rw [RecordSound, current] at sound
      rw [mapDataOf, written.lockRecord_eq, current]
      exact ⟨sound.released_mapData, released_lockCount data⟩

end Steps

/-- On a buffer locked without a mapping a whole session of compatible calls works and
never maps it. The induction keeps the number of locks above the depth of the session. -/
theorem LiveBuffer.session {handle : BufferHandle} {contents : PrivateHandle}
    {geometry : U32 × U32 × U32} {bo : BoId} {session : List RegistryCall} {depth : Nat}
    {state : GrallocState} (buffer : LiveBuffer state handle contents geometry bo)
    (locked : (depth : Int) < (lockRecord state bo).lockCount) (unmapped : mapDataOf state bo = none)
    (nested : Nested depth session)
    (compatible : registryMachine.EachStep (CompatibleCall handle bo) state session) :
    registryMachine.EachStep (NestedLockWorks handle bo) state session ∧
      registryMachine.Always (fun later => mapDataOf later bo = none) state session := by
  induction session generalizing state depth with
  | nil => exact ⟨trivial, unmapped⟩
  | cons call rest ih =>
      obtain ⟨here, later⟩ := compatible
      have positive : (lockRecord state bo).lockCount ≠ 0 := by omega
      cases call with
      | lock name usage x y w h mapped =>
          obtain ⟨rfl, allowed, subset, -⟩ := here
          obtain ⟨zero, still, count⟩ :=
            buffer.nestedLock positive unmapped allowed subset mapped x y w h
          have deeper : ((depth + 1 : Nat) : Int) <
              (lockRecord (gbmLock mapped name usage x y w h state).2.2 bo).lockCount := by
            rw [count]
            push_cast
            omega
          obtain ⟨works, always⟩ :=
            ih (buffer.lock mapped usage x y w h) deeper still nested later
          refine ⟨⟨⟨zero, fun mapping _ token => ?_, count⟩, works⟩, unmapped, always⟩
          rw [unmapped] at token
          cases token
      | unlock name =>
          obtain rfl : name = handle := here
          cases depth with
          | zero => exact nested.elim
          | succ depth =>
              obtain ⟨still, count⟩ := buffer.nestedUnlock positive
              have shallower : (depth : Int) <
                  (lockRecord (gbmUnlock name state).2 bo).lockCount := by
                rw [count]
                push_cast at locked
                omega
              obtain ⟨works, always⟩ := ih buffer.unlock shallower still nested later
              exact ⟨⟨trivial, works⟩, unmapped, always⟩
      | alloc => exact here.elim
      | register => exact here.elim
      | unregister => exact here.elim
      | free => exact here.elim

/-- On a buffer locked with a mapping the first call of a session already fails. -/
theorem LiveBuffer.session_fails {handle : BufferHandle} {contents : PrivateHandle}
    {geometry : U32 × U32 × U32} {bo : BoId} {session : List RegistryCall} {state : GrallocState}
    (buffer : LiveBuffer state handle contents geometry bo) (held : mapDataOf state bo ≠ none)
    (nonempty : session ≠ []) (nested : Nested 0 session) :
    ¬ registryMachine.EachStep (NestedLockWorks handle bo) state session := by
  intro works
  cases session with
  | nil => exact nonempty rfl
  | cons call rest =>
      cases call with
      | lock name usage x y w h mapped =>
          have outcome := buffer.lockOutcome mapped usage x y w h
          have zero := works.1.1
          generalize gbmLock mapped handle usage x y w h state = answer at outcome zero
          cases outcome with
          | refused _ nonzero _ _ => exact nonzero zero
          | granted admitted _ _ _ => exact buffer.refuses held mapped admitted
      | unlock => exact nested.elim
      | alloc => exact nested.elim
      | register => exact nested.elim
      | unregister => exact nested.elim
      | free => exact nested.elim

/-- In every state that registry calls can reach, on every locked buffer: all locks of a
session of compatible nested calls work, and the buffer keeps its mapping throughout the
session, exactly when it is not mapped or the session is empty. -/
theorem nested_locks_iff (memory : BufferHandle → PrivateHandle) (history : List RegistryCall)
    (handle : BufferHandle) (bo : BoId) (session : List RegistryCall)
    (registered : (registryMachine.run (.fresh memory) history).gbmBoHandleMap.find handle =
      some (some bo))
    (locked : 0 < (lockRecord (registryMachine.run (.fresh memory) history) bo).lockCount)
    (nested : Nested 0 session)
    (compatible : registryMachine.EachStep (CompatibleCall handle bo)
      (registryMachine.run (.fresh memory) history) session) :
    let state := registryMachine.run (.fresh memory) history
    (registryMachine.EachStep (NestedLockWorks handle bo) state session ∧
        registryMachine.Always (fun later => mapDataOf later bo = mapDataOf state bo) state
          session) ↔
      mapDataOf state bo = none ∨ session = [] := by
  intro state
  have invariant : RecordsInvariant state :=
    (registryMachine.always_of_invariant RecordsInvariant.next (.fresh memory) history).last
  obtain ⟨object, alive⟩ := invariant.entries.live handle bo registered
  have buffer : LiveBuffer state handle (state.memory handle) object.geometry bo :=
    ⟨rfl, registered, by rw [alive]; rfl, invariant.sound bo⟩
  constructor
  · rintro ⟨works, -⟩
    by_contra fails
    obtain ⟨held, nonempty⟩ := not_or.mp fails
    exact buffer.session_fails held nonempty nested works
  · rintro (unmapped | rfl)
    · rw [unmapped]
      exact buffer.session locked unmapped nested compatible
    · exact ⟨trivial, rfl⟩

/-- Two nested locks of a buffer that is locked for the GPU. -/
theorem nested_locks_example :
    let state := registryMachine.run (.fresh fun _ => exampleImported)
      [.register 1 true, .lock 1 0x200 0 0 16 16 none]
    registryMachine.EachStep (NestedLockWorks 1 0) state
      [.lock 1 0x200 0 0 8 8 none, .lock 1 0 0 0 4 4 none, .unlock 1, .unlock 1] :=
  ((nested_locks_iff (fun _ => exampleImported)
    [.register 1 true, .lock 1 0x200 0 0 16 16 none] 1 0
    [.lock 1 0x200 0 0 8 8 none, .lock 1 0 0 0 4 4 none, .unlock 1, .unlock 1]
    (by decide) (by decide) trivial
    ⟨⟨rfl, by decide, by decide, by constructor <;> decide⟩,
      ⟨rfl, by decide, by decide, by constructor <;> decide⟩,
      rfl, rfl, trivial⟩).mpr (.inl (by decide))).1

/-- A second lock for the CPU of a buffer that is locked for the CPU, with the same usage
and the same rectangle, fails. -/
theorem nested_locks_not_always_work :
    ¬ ∀ (memory : BufferHandle → PrivateHandle) (history : List RegistryCall)
      (handle : BufferHandle) (bo : BoId) (session : List RegistryCall),
      let state := registryMachine.run (.fresh memory) history
      state.gbmBoHandleMap.find handle = some (some bo) →
      0 < (lockRecord state bo).lockCount → Nested 0 session →
      registryMachine.EachStep (CompatibleCall handle bo) state session →
      registryMachine.EachStep (NestedLockWorks handle bo) state session := by
  intro claim
  let mapping : Mapping := ⟨4096, 7, by decide⟩
  have works := claim (fun _ => exampleImported)
    [.register 1 true, .lock 1 0x22 0 0 16 16 (some mapping)] 1 0
    [.lock 1 0x22 0 0 16 16 (some mapping)] (by decide) (by decide) trivial
    ⟨⟨rfl, by decide, by decide, by constructor <;> decide⟩,
      trivial⟩
  exact absurd works.1.1 (by decide)

end Arpi.Gralloc
