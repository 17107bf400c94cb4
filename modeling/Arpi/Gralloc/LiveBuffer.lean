import Arpi.Gralloc.LockRecord
import Arpi.Gralloc.Registry

/-!
# A registered buffer while it is used

Locks and unlocks of a registered buffer keep its handle, its entry, the geometry of
its object and a sound lock record. The other modules start from `LiveBuffer` and only
look at the one call they are about.
-/

namespace Arpi.Gralloc

open Arpi.Semantics

/-- A handle with these contents, registered for a live object of this geometry whose
lock record is sound. -/
structure LiveBuffer (state : GrallocState) (handle : BufferHandle) (contents : PrivateHandle)
    (geometry : U32 × U32 × U32) (bo : BoId) : Prop where
  memory : state.memory handle = contents
  registered : state.gbmBoHandleMap.find handle = some (some bo)
  shape : (state.bos.cells bo).map Bo.geometry = some geometry
  sound : RecordSound state bo

namespace LiveBuffer

variable {state after : GrallocState} {handle : BufferHandle} {contents : PrivateHandle}
  {geometry : U32 × U32 × U32} {bo : BoId}

/-- The object of a live buffer. -/
theorem alive (buffer : LiveBuffer state handle contents geometry bo) :
    ∃ object, state.bos.cells bo = some object := by
  obtain ⟨object, alive, _⟩ := Option.map_eq_some_iff.mp buffer.shape
  exact ⟨object, alive⟩

/-- Writing a sound lock record keeps the buffer. -/
theorem write {data : BoData} (written : RecordWritten state after bo data) (sound : data.Sound)
    (buffer : LiveBuffer state handle contents geometry bo) :
    LiveBuffer after handle contents geometry bo where
  memory := by rw [written.memory, buffer.memory]
  registered := by rw [written.registry.entries, buffer.registered]
  shape := by rw [written.geometry, buffer.shape]
  sound := by rwa [RecordSound, written.lockRecord_eq]

/-- What a lock of a live buffer does. -/
theorem lockOutcome (buffer : LiveBuffer state handle contents geometry bo)
    (mapped : Option Mapping) (usage : U64) (x y w h : Int) :
    LockOutcome state handle bo usage mapped (gbmLock mapped handle usage x y w h state) := by
  obtain ⟨object, alive⟩ := buffer.alive
  exact gbmLock_outcome buffer.registered alive mapped usage x y w h

/-- What an unlock of a live buffer does. -/
theorem unlockOutcome (buffer : LiveBuffer state handle contents geometry bo) :
    UnlockOutcome state bo (gbmUnlock handle state) := by
  obtain ⟨object, alive⟩ := buffer.alive
  exact gbmUnlock_outcome buffer.registered alive

/-- A lock of the buffer keeps it. -/
theorem lock (buffer : LiveBuffer state handle contents geometry bo) (mapped : Option Mapping)
    (usage : U64) (x y w h : Int) :
    LiveBuffer (gbmLock mapped handle usage x y w h state).2.2 handle contents geometry bo := by
  have outcome := buffer.lockOutcome mapped usage x y w h
  have sound := buffer.sound
  generalize gbmLock mapped handle usage x y w h state = answer at outcome ⊢
  cases outcome with
  | refused _ _ _ unchanged =>
      rcases unchanged with rfl | written
      · exact buffer
      · exact buffer.write written sound
  | granted admitted written _ locked => exact buffer.write written (sound.granted admitted locked)

/-- An unlock of the buffer keeps it. -/
theorem unlock (buffer : LiveBuffer state handle contents geometry bo) :
    LiveBuffer (gbmUnlock handle state).2 handle contents geometry bo := by
  have outcome := buffer.unlockOutcome
  have sound := buffer.sound
  generalize gbmUnlock handle state = answer at outcome ⊢
  cases outcome with
  | fault _ => exact buffer
  | idle _ _ => exact buffer
  | released attached locked written =>
      rw [RecordSound, lockRecord, attached] at sound
      exact buffer.write written (sound.released locked)

end LiveBuffer

/-- A lock or an unlock of the handle. -/
def RegistryCall.LocksOrUnlocks (handle : BufferHandle) : RegistryCall → Prop
  | .lock locked .. => locked = handle
  | .unlock unlocked => unlocked = handle
  | _ => False

/-- A property that locks and unlocks of one handle keep holds after any number of them. -/
theorem run_of_locksOrUnlocks (property : GrallocState → Prop) {handle : BufferHandle}
    (lock : ∀ state mapped usage x y w h, property state →
      property (gbmLock mapped handle usage x y w h state).2.2)
    (unlock : ∀ state, property state → property (gbmUnlock handle state).2)
    {state : GrallocState} {calls : List RegistryCall} (start : property state)
    (own : ∀ call ∈ calls, call.LocksOrUnlocks handle) :
    property (registryMachine.run state calls) := by
  induction calls generalizing state with
  | nil => exact start
  | cons call rest ih =>
      have here := own call List.mem_cons_self
      have later := fun other member => own other (List.mem_cons_of_mem call member)
      cases call with
      | lock locked usage x y w h mapped =>
          obtain rfl : locked = handle := here
          exact ih (lock state mapped usage x y w h start) later
      | unlock unlocked =>
          obtain rfl : unlocked = handle := here
          exact ih (unlock state start) later
      | alloc => exact here.elim
      | register => exact here.elim
      | unregister => exact here.elim
      | free => exact here.elim

/-- Locks and unlocks of a buffer, however many, keep it. -/
theorem LiveBuffer.run {state : GrallocState} {handle : BufferHandle} {contents : PrivateHandle}
    {geometry : U32 × U32 × U32} {bo : BoId}
    (buffer : LiveBuffer state handle contents geometry bo) {calls : List RegistryCall}
    (own : ∀ call ∈ calls, call.LocksOrUnlocks handle) :
    LiveBuffer (registryMachine.run state calls) handle contents geometry bo :=
  run_of_locksOrUnlocks (fun state => LiveBuffer state handle contents geometry bo)
    (fun _ mapped usage x y w h held => held.lock mapped usage x y w h)
    (fun _ held => held.unlock) buffer own

/-- An entry that is null stays null under locks and unlocks of its handle. -/
theorem run_of_null {state : GrallocState} {handle : BufferHandle}
    (null : state.gbmBoHandleMap.find handle = some none) {calls : List RegistryCall}
    (own : ∀ call ∈ calls, call.LocksOrUnlocks handle) :
    (registryMachine.run state calls).gbmBoHandleMap.find handle = some none := by
  refine run_of_locksOrUnlocks (fun state => state.gbmBoHandleMap.find handle = some none)
    ?_ ?_ null own
  · intro state mapped usage x y w h null
    rw [gbmLock_of_null null]
    exact null
  · intro state null
    rw [gbmUnlock_of_null null]
    exact null

end Arpi.Gralloc
