import Arpi.Gralloc.DriverCalls
import Arpi.Gralloc.Registry
import Arpi.Semantics.Holdings

/-!
# Lock records in every reachable state

Whatever the registry calls name, an entry never holds a dead object and no two entries
hold the same one, and every lock record is sound. `lockRecords_sound` collects what this
means for the three fields of a record over any run.
-/

namespace Arpi.Gralloc

open Arpi.Semantics

/-- Entries hold live objects, and no object is in two of them. -/
structure EntriesLive (state : GrallocState) : Prop where
  live : ∀ handle bo, state.gbmBoHandleMap.find handle = some (some bo) →
    ∃ object, state.bos.cells bo = some object
  sole : Sole none state.gbmBoHandleMap.find

/-- The three shapes of a handle's entry. -/
inductive EntryShape (state : GrallocState) (handle : BufferHandle) : Prop where
  | absent (absent : state.gbmBoHandleMap.find handle = none)
  | null (null : state.gbmBoHandleMap.find handle = some none)
  | live (bo : BoId) (object : Bo) (registered : state.gbmBoHandleMap.find handle = some (some bo))
      (alive : state.bos.cells bo = some object)

namespace EntriesLive

variable {state after : GrallocState} {handle : BufferHandle} {bo : BoId}

theorem shape (entries : EntriesLive state) (handle : BufferHandle) : EntryShape state handle := by
  cases found : state.gbmBoHandleMap.find handle with
  | none => exact .absent found
  | some entry =>
      cases entry with
      | none => exact .null found
      | some bo =>
          obtain ⟨object, alive⟩ := entries.live handle bo found
          exact .live bo object found alive

theorem fresh (memory : BufferHandle → PrivateHandle) : EntriesLive (.fresh memory) where
  live := by
    intro handle bo found
    cases found
  sole := by
    intro entry _ first second found
    cases found

theorem congr (entries : EntriesLive state) (same : SameRegistry state after) :
    EntriesLive after where
  live := by
    intro handle bo found
    rw [same.entries] at found
    obtain ⟨object, before⟩ := entries.live handle bo found
    have alive := same.alive bo
    rw [before] at alive
    exact Option.isSome_iff_exists.mp alive
  sole := by
    rw [same.entries]
    exact entries.sole

/-- A null entry under any key. -/
theorem assignNull (entries : EntriesLive state) (holds : Holds after
    (state.gbmBoHandleMap.assign handle none) state.bos) : EntriesLive after := by
  have old : ∀ entry, entry ≠ none → ∀ other, after.gbmBoHandleMap.find other = some entry →
      state.gbmBoHandleMap.find other = some entry := by
    intro entry proper other found
    rw [holds.entries] at found
    by_cases same : other = handle
    · subst same
      rw [UnorderedMap.find_assign_self] at found
      exact absurd (Option.some.inj found).symm proper
    · rwa [UnorderedMap.find_assign_of_ne same] at found
  refine ⟨?_, entries.sole.shrink old⟩
  intro other bo found
  rw [holds.bos]
  exact entries.live other bo (old (some bo) (by simp) other found)

/-- An emplaced entry for a new object; the entry is lost when the key has one already. -/
theorem create (entries : EntriesLive state) {object : Bo} (holds : Holds after
    (state.gbmBoHandleMap.emplace handle (some state.bos.next)) (state.bos.create object)) :
    EntriesLive after := by
  have older : ∀ other bo, state.gbmBoHandleMap.find other = some (some bo) →
      bo ≠ state.bos.next := by
    rintro other bo found rfl
    obtain ⟨object, alive⟩ := entries.live other _ found
    simp at alive
  have origin : ∀ entry, entry ≠ none → ∀ other, after.gbmBoHandleMap.find other = some entry →
      state.gbmBoHandleMap.find other = some entry ∨ other = handle ∧ entry = some state.bos.next := by
    intro entry proper other found
    rw [holds.entries] at found
    by_cases absent : state.gbmBoHandleMap.find handle = none
    · rw [UnorderedMap.emplace_of_absent absent] at found
      by_cases same : other = handle
      · subst same
        rw [UnorderedMap.find_assign_self] at found
        exact .inr ⟨rfl, (Option.some.inj found).symm⟩
      · rw [UnorderedMap.find_assign_of_ne same] at found
        exact .inl found
    · rw [UnorderedMap.emplace_of_present absent] at found
      exact .inl found
  constructor
  · intro other bo found
    rw [holds.bos]
    rcases origin (some bo) (by simp) other found with before | ⟨-, new⟩
    · rw [Store.create_cells_of_ne (older other bo before)]
      exact entries.live other bo before
    · cases new
      exact ⟨object, Store.create_cells_next⟩
  · apply entries.sole.change handle
    intro entry proper other found
    rcases origin entry proper other found with before | ⟨place, rfl⟩
    · exact .inl before
    · exact .inr ⟨place, fun anywhere held => older anywhere _ held rfl⟩

/-- An entry is erased together with its object. -/
theorem destroy (entries : EntriesLive state)
    (registered : state.gbmBoHandleMap.find handle = some (some bo))
    (holds : Holds after (state.gbmBoHandleMap.erase handle) (state.bos.destroy bo)) :
    EntriesLive after := by
  have old : ∀ entry other, after.gbmBoHandleMap.find other = some entry →
      other ≠ handle ∧ state.gbmBoHandleMap.find other = some entry := by
    intro entry other found
    rw [holds.entries] at found
    by_cases same : other = handle
    · subst same
      simp at found
    · rw [UnorderedMap.find_erase_of_ne same] at found
      exact ⟨same, found⟩
  refine ⟨?_, entries.sole.shrink fun entry _ other found => (old entry other found).2⟩
  intro other held found
  obtain ⟨different, before⟩ := old (some held) other found
  have kept : held ≠ bo := by
    rintro rfl
    exact different (entries.sole (some held) (by simp) other handle before registered)
  rw [holds.bos, Store.destroy_cells_of_ne kept]
  exact entries.live other held before

end EntriesLive

/-! ## The invariant and the five calls -/

/-- Entries hold live objects, and every object that has a lock record has a sound one. -/
structure RecordsInvariant (state : GrallocState) : Prop where
  entries : EntriesLive state
  sound : ∀ bo, RecordSound state bo

namespace RecordsInvariant

variable {state after : GrallocState}

theorem fresh (memory : BufferHandle → PrivateHandle) : RecordsInvariant (.fresh memory) :=
  ⟨.fresh memory, fun _ => recordSound_of_unattached rfl⟩

/-- A null entry under any key. -/
theorem assignNull (invariant : RecordsInvariant state) {handle : BufferHandle}
    (holds : Holds after (state.gbmBoHandleMap.assign handle none) state.bos) :
    RecordsInvariant after := by
  refine ⟨invariant.entries.assignNull holds, fun bo => ?_⟩
  exact (invariant.sound bo).congr (by rw [holds.bos])

/-- A new object has no lock record. -/
theorem create (invariant : RecordsInvariant state) {handle : BufferHandle} {object : Bo}
    (unattached : object.userData = none)
    (holds : Holds after (state.gbmBoHandleMap.emplace handle (some state.bos.next))
      (state.bos.create object)) : RecordsInvariant after := by
  refine ⟨invariant.entries.create holds, fun bo => ?_⟩
  by_cases new : bo = state.bos.next
  · subst new
    apply recordSound_of_unattached
    rw [gbmBoData, holds.bos, Store.create_cells_next, Option.bind_some, unattached]
  · exact (invariant.sound bo).congr (by rw [holds.bos, Store.create_cells_of_ne new])

/-- The other objects keep their records when one record is written. -/
theorem write (invariant : RecordsInvariant state) {bo : BoId} (same : SameRegistry state after)
    (others : ∀ other, other ≠ bo → after.bos.cells other = state.bos.cells other)
    (sound : RecordSound after bo) : RecordsInvariant after := by
  refine ⟨invariant.entries.congr same, fun other => ?_⟩
  by_cases here : other = bo
  · rw [here]
    exact sound
  · exact (invariant.sound other).congr (others other here)

/-- A lock of any handle. -/
theorem lock (invariant : RecordsInvariant state) (handle : BufferHandle)
    (mapped : Option Mapping) (usage : U64) (x y w h : Int) :
    RecordsInvariant (gbmLock mapped handle usage x y w h state).2.2 := by
  cases invariant.entries.shape handle with
  | absent absent =>
      rw [gbmLock_of_absent absent]
      exact invariant.assignNull ⟨rfl, rfl⟩
  | null null =>
      rw [gbmLock_of_null null]
      exact invariant
  | live bo object registered alive =>
      have outcome := gbmLock_outcome registered alive mapped usage x y w h
      exact invariant.write outcome.sameRegistry outcome.others
        (outcome.recordSound (invariant.sound bo))

/-- An unlock of any handle. -/
theorem unlock (invariant : RecordsInvariant state) (handle : BufferHandle) :
    RecordsInvariant (gbmUnlock handle state).2 := by
  cases invariant.entries.shape handle with
  | absent absent =>
      rw [gbmUnlock_of_absent absent]
      exact invariant.assignNull ⟨rfl, rfl⟩
  | null null =>
      rw [gbmUnlock_of_null null]
      exact invariant
  | live bo object registered alive =>
      have outcome := gbmUnlock_outcome registered alive
      exact invariant.write outcome.sameRegistry outcome.others
        (outcome.recordSound (invariant.sound bo))

/-- A free of any handle. -/
theorem free (invariant : RecordsInvariant state) (handle : BufferHandle) :
    RecordsInvariant (gbmFree handle state) := by
  cases invariant.entries.shape handle with
  | absent absent =>
      rw [gbmFree_of_absent absent]
      exact invariant.assignNull ⟨rfl, rfl⟩
  | null null =>
      rw [gbmFree_of_null null]
      exact invariant
  | live bo object registered alive =>
      rw [gbmFree_of_live registered]
      refine ⟨invariant.entries.destroy registered ⟨rfl, rfl⟩, fun other => ?_⟩
      by_cases dead : other = bo
      · subst dead
        apply recordSound_of_unattached
        simp [gbmBoData]
      · exact (invariant.sound other).congr (Store.destroy_cells_of_ne dead)

/-- A registration of any handle. -/
theorem register (invariant : RecordsInvariant state) (handle : BufferHandle)
    (accepted : Bool) : RecordsInvariant (gbmRegister accepted handle state).2 := by
  rcases gbmRegister_outcome accepted handle state with
    ⟨refused, -⟩ | ⟨⟨-, absent, -⟩, registered⟩
  · rw [refused]
    exact invariant
  · rw [registered]
    exact invariant.create rfl ⟨(UnorderedMap.emplace_of_absent absent).symm, rfl⟩

/-- An allocation at any address. -/
theorem alloc (invariant : RecordsInvariant state) (address : BufferHandle)
    (created : Option CreatedBo) (errno : Int) (width height format : U32) (usage : U64) :
    RecordsInvariant (gbmAlloc address created errno width height format usage state).2.2 := by
  rcases gbmAlloc_outcome address created errno width height format usage with
    ⟨-, entries, bos⟩ | ⟨-, object, unattached, -, holds⟩
  · refine ⟨invariant.entries.congr ⟨entries, fun bo => by rw [bos]⟩, fun bo => ?_⟩
    exact (invariant.sound bo).congr (by rw [bos])
  · exact invariant.create unattached holds

/-- Every registry call keeps the invariant, whatever it names. -/
theorem next (state : GrallocState) (call : RegistryCall) (invariant : RecordsInvariant state) :
    RecordsInvariant (registryMachine.next state call) := by
  cases call with
  | alloc address created errno width height format usage =>
      exact invariant.alloc address created errno width height format usage
  | register handle accepted => exact invariant.register handle accepted
  | unregister handle => exact invariant.free handle
  | free handle => exact invariant.free handle
  | lock handle usage x y w h mapped => exact invariant.lock handle mapped usage x y w h
  | unlock handle => exact invariant.unlock handle

end RecordsInvariant

/-! ## The three fields over any run -/

/-- A lock that fails leaves the fields of every lock record as they were. -/
def FailedLockKeeps (state : GrallocState) : RegistryCall → Prop
  | .lock handle usage x y w h mapped =>
      let answer := gbmLock mapped handle usage x y w h state
      answer.1 ≠ 0 → ∀ bo, lockRecord answer.2.2 bo = lockRecord state bo
  | _ => True

/-- The driver calls that a step makes unmap nothing without a token. -/
def UnmapsMapped (state : GrallocState) (call : RegistryCall) : Prop :=
  ∃ made, (registryMachine.next state call).calls = made ++ state.calls ∧
    ∀ bo, GbmCall.unmap bo none ∉ made

namespace RecordsInvariant

variable {state : GrallocState}

theorem failedLockKeeps (invariant : RecordsInvariant state) (call : RegistryCall) :
    FailedLockKeeps state call := by
  cases call with
  | lock handle usage x y w h mapped =>
      intro failed other
      cases invariant.entries.shape handle with
      | absent absent =>
          simp only [gbmLock_of_absent absent]
          exact lockRecord_congr rfl
      | null null => simp only [gbmLock_of_null null]
      | live bo object registered alive =>
          have outcome := gbmLock_outcome registered alive mapped usage x y w h
          by_cases here : other = bo
          · subst here
            exact outcome.lockRecord_of_failed failed
          · exact lockRecord_congr (outcome.others other here)
  | alloc => trivial
  | register => trivial
  | unregister => trivial
  | free => trivial
  | unlock => trivial

/-- What an unlock unmaps has a token. -/
theorem token_of_mapped (invariant : RecordsInvariant state) {bo : BoId} {data : BoData}
    (attached : gbmBoData state bo = some data) (mapped : data.Mapped) :
    mapDataOf state bo ≠ none := by
  have recorded := invariant.sound bo
  rw [RecordSound, lockRecord, attached] at recorded
  rw [mapDataOf, lockRecord, attached]
  exact recorded.mapped.mpr (data.mapped_iff.mp mapped)

theorem unmapsMapped (invariant : RecordsInvariant state) (call : RegistryCall) :
    UnmapsMapped state call := by
  have silent : (registryMachine.next state call).calls = state.calls → UnmapsMapped state call :=
    fun same => ⟨[], same, by simp⟩
  cases call with
  | alloc address created errno width height format usage =>
      exact silent (gbmAlloc_calls address created errno width height format usage)
  | register handle accepted => exact silent (gbmRegister_calls accepted handle state)
  | unregister handle => exact silent (gbmFree_calls handle state)
  | free handle => exact silent (gbmFree_calls handle state)
  | lock handle usage x y w h mapped =>
      cases invariant.entries.shape handle with
      | absent absent =>
          apply silent
          simp only [Machine.next, registryMachine, gbmLock_of_absent absent]
      | null null =>
          apply silent
          simp only [Machine.next, registryMachine, gbmLock_of_null null]
      | live bo object registered alive =>
          cases gbmLock_request registered alive mapped usage x y w h with
          | unasked calls _ => exact silent calls
          | refused width height flags _ _ calls _ =>
              exact ⟨[.map bo width height flags], calls, by simp⟩
          | made width height flags _ _ _ calls _ _ _ =>
              exact ⟨[.map bo width height flags], calls, by simp⟩
  | unlock handle =>
      cases invariant.entries.shape handle with
      | absent absent =>
          apply silent
          simp only [Machine.next, registryMachine, gbmUnlock_of_absent absent]
      | null null =>
          apply silent
          simp only [Machine.next, registryMachine, gbmUnlock_of_null null]
      | live bo object registered alive =>
          cases gbmUnlock_request registered alive with
          | unasked calls _ => exact silent calls
          | @unmapped data attached _ mapped calls _ _ =>
              have token : data.mapData ≠ none := by
                have held := invariant.token_of_mapped attached mapped
                rwa [mapDataOf, lockRecord, attached] at held
              refine ⟨[.unmap bo data.mapData], calls, fun other member => ?_⟩
              injection List.mem_singleton.mp member with _ empty
              exact token empty.symm

end RecordsInvariant

/-- In every state that registry calls can reach, the three fields of every lock record
fit together: the count is not negative; without a lock there is no usage and no mapping;
there is a mapping exactly when the usage has a CPU bit, and then a single lock. A lock
that fails changes none of the fields, and nothing is unmapped without a token. -/
theorem lockRecords_sound (memory : BufferHandle → PrivateHandle) (calls : List RegistryCall) :
    registryMachine.Always
        (fun state => ∀ bo, (lockRecord state bo).Sound ∧
          ((lockRecord state bo).lockCount = 0 → (lockRecord state bo).mapData = none))
        (.fresh memory) calls ∧
      registryMachine.EachStep
        (fun state call => FailedLockKeeps state call ∧ UnmapsMapped state call)
        (.fresh memory) calls := by
  have start := RecordsInvariant.fresh memory
  constructor
  · apply Machine.Always.mono _ (registryMachine.always_of_invariant RecordsInvariant.next start calls)
    intro state invariant bo
    have sound : (lockRecord state bo).Sound := invariant.sound bo
    refine ⟨sound, fun unlocked => ?_⟩
    by_contra mapped
    rw [sound.once mapped] at unlocked
    exact absurd unlocked (by decide)
  · apply registryMachine.eachStep_of_invariant RecordsInvariant.next _ start calls
    intro state call invariant
    exact ⟨invariant.failedLockKeeps call, invariant.unmapsMapped call⟩

end Arpi.Gralloc
