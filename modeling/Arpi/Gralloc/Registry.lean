import Arpi.Gralloc.Effects
import Arpi.Semantics.Machine

/-!
# The registry and the live buffer objects

The registry is meant to be a one-to-one table of the live buffer objects. Every
entry point looks handles up through the map's subscript, so looking up an unknown
handle writes a null entry. `registry_bijective_iff` shows that this is the only way
in which the table goes wrong: along any run it stays one-to-one exactly when every
look-up names a handle that is in it.
-/

namespace Arpi.Gralloc

open Arpi.Semantics

/-- The calls that read or write the registry, with the driver's answers. -/
inductive RegistryCall where
  | alloc (address : BufferHandle) (created : Option CreatedBo) (errno : Int)
      (width height format : U32) (usage : U64)
  | register (handle : BufferHandle) (accepted : Bool)
  | unregister (handle : BufferHandle)
  | free (handle : BufferHandle)
  | lock (handle : BufferHandle) (usage : U64) (x y w h : Int) (mapped : Option Mapping)
  | unlock (handle : BufferHandle)

/-- The process that makes these calls one after the other. -/
def registryMachine : Machine GrallocState RegistryCall Returned where
  step state
    | .alloc address created errno width height format usage =>
        let answer := gbmAlloc address created errno width height format usage state
        (.code answer.1, answer.2.2)
    | .register handle accepted =>
        let answer := gbmRegister accepted handle state
        (.code answer.1, answer.2)
    | .unregister handle =>
        let answer := gbmUnregister handle state
        (.code answer.1, answer.2)
    | .free handle => (.code 0, gbmFree handle state)
    | .lock handle usage x y w h mapped =>
        let answer := gbmLock mapped handle usage x y w h state
        (.code answer.1, answer.2.2)
    | .unlock handle => gbmUnlock handle state

/-- Every entry holds a live object and every live object is in exactly one entry. -/
structure Bijective (entries : UnorderedMap BufferHandle (Option BoId)) (bos : Store Bo) :
    Prop where
  live : ∀ handle entry, entries.find handle = some entry →
    ∃ bo, entry = some bo ∧ (bos.cells bo).isSome
  once : ∀ bo, (bos.cells bo).isSome → ∃! handle, entries.find handle = some (some bo)

/-- The registry of a process is in bijection with its live objects. -/
def RegistryBijective (state : GrallocState) : Prop :=
  Bijective state.gbmBoHandleMap state.bos

/-- A handle is registered when its entry holds a live object. -/
def Registered (state : GrallocState) (handle : BufferHandle) : Prop :=
  ∃ bo, state.gbmBoHandleMap.find handle = some (some bo) ∧ (state.bos.cells bo).isSome

/-- The handle a call looks up. -/
def RegistryCall.lookup : RegistryCall → Option BufferHandle
  | .unregister handle | .free handle | .lock handle .. | .unlock handle => some handle
  | .alloc .. | .register .. => none

/-- What the bijection is for: a look-up of a handle that is not registered leaves
the registry alone, and only a failing import keeps such a handle out of it. -/
def ServesUnregistered (state : GrallocState) (call : RegistryCall) : Prop :=
  (∀ handle, call.lookup = some handle → ¬ Registered state handle →
    (registryMachine.next state call).gbmBoHandleMap = state.gbmBoHandleMap) ∧
  (∀ handle accepted, call = .register handle accepted → ¬ Registered state handle →
    registryMachine.answer state call ≠ .code 0 → ¬ ImportSucceeds accepted handle state)

/-- `new` hands out neither null nor the address of a handle whose object is still
live; it may hand out any other address again. -/
def AllocatorContract (state : GrallocState) : RegistryCall → Prop
  | .alloc address .. => address ≠ 0 ∧ ¬ Registered state address
  | _ => True

/-- The call looks up handles that are in the registry only, and does not offer the
null pointer as a handle to import. -/
def NamesRegistered (state : GrallocState) : RegistryCall → Prop
  | .alloc .. => True
  | .register handle accepted => handle ≠ 0 ∨ ¬ ImportSucceeds accepted handle state
  | .unregister handle | .free handle | .lock handle .. | .unlock handle =>
      state.gbmBoHandleMap.find handle ≠ none

instance (state : GrallocState) (call : RegistryCall) : Decidable (NamesRegistered state call) :=
  match call with
  | .alloc .. => inferInstanceAs (Decidable True)
  | .register handle accepted =>
      inferInstanceAs (Decidable (handle ≠ 0 ∨ ¬ ImportSucceeds accepted handle state))
  | .unregister handle | .free handle | .lock handle .. | .unlock handle =>
      inferInstanceAs (Decidable (state.gbmBoHandleMap.find handle ≠ none))

namespace Bijective

variable {entries : UnorderedMap BufferHandle (Option BoId)} {bos : Store Bo}
  {handle : BufferHandle} {bo : BoId}

theorem empty : Bijective UnorderedMap.empty Store.empty where
  live := by simp
  once := by simp [Store.empty]

/-- An object is live when an entry holds it. -/
theorem live_of_entry (bijective : Bijective entries bos)
    (registered : entries.find handle = some (some bo)) : ∃ object, bos.cells bo = some object := by
  obtain ⟨held, same, alive⟩ := bijective.live handle (some bo) registered
  cases same
  exact Option.isSome_iff_exists.mp alive

/-- In a bijection every entry is a registration. -/
theorem registered_of_present (bijective : Bijective entries bos)
    (present : entries.find handle ≠ none) :
    ∃ bo object, entries.find handle = some (some bo) ∧ bos.cells bo = some object := by
  obtain ⟨entry, found⟩ := Option.ne_none_iff_exists'.mp present
  obtain ⟨bo, rfl, _⟩ := bijective.live handle entry found
  obtain ⟨object, alive⟩ := bijective.live_of_entry found
  exact ⟨bo, object, found, alive⟩

/-- A new object under an unused handle keeps the bijection. -/
theorem create (bijective : Bijective entries bos) (absent : entries.find handle = none)
    (object : Bo) : Bijective (entries.assign handle (some bos.next)) (bos.create object) where
  live := by
    intro other entry found
    by_cases same : other = handle
    · subst same
      rw [UnorderedMap.find_assign_self] at found
      cases found
      exact ⟨bos.next, rfl, by simp⟩
    · rw [UnorderedMap.find_assign_of_ne same] at found
      obtain ⟨bo, rfl, alive⟩ := bijective.live other entry found
      have old : bo ≠ bos.next := by
        rintro rfl
        simp at alive
      exact ⟨bo, rfl, by rwa [Store.create_cells_of_ne old]⟩
  once := by
    intro bo alive
    by_cases new : bo = bos.next
    · subst new
      refine ⟨handle, by simp, fun other found => ?_⟩
      by_contra different
      simp only [UnorderedMap.find_assign_of_ne different] at found
      obtain ⟨object, contrary⟩ := bijective.live_of_entry found
      simp at contrary
    · rw [Store.create_cells_of_ne new] at alive
      obtain ⟨owner, owned, unique⟩ := bijective.once bo alive
      have other : owner ≠ handle := by
        rintro rfl
        rw [absent] at owned
        cases owned
      refine ⟨owner, by simpa [other] using owned, fun candidate found => ?_⟩
      by_cases same : candidate = handle
      · subst same
        simp only [UnorderedMap.find_assign_self] at found
        cases found
        exact absurd rfl new
      · simp only [UnorderedMap.find_assign_of_ne same] at found
        exact unique candidate found

/-- Erasing an entry together with its object keeps the bijection. -/
theorem destroy (bijective : Bijective entries bos)
    (registered : entries.find handle = some (some bo)) :
    Bijective (entries.erase handle) (bos.destroy bo) where
  live := by
    intro other entry found
    by_cases same : other = handle
    · subst same
      simp at found
    · rw [UnorderedMap.find_erase_of_ne same] at found
      obtain ⟨held, rfl, alive⟩ := bijective.live other entry found
      have kept : held ≠ bo := by
        rintro rfl
        exact same ((bijective.once held alive).unique found registered)
      exact ⟨held, rfl, by rwa [Store.destroy_cells_of_ne kept]⟩
  once := by
    intro held alive
    have kept : held ≠ bo := by
      rintro rfl
      simp at alive
    rw [Store.destroy_cells_of_ne kept] at alive
    obtain ⟨owner, owned, unique⟩ := bijective.once held alive
    have other : owner ≠ handle := by
      rintro rfl
      rw [registered] at owned
      cases owned
      exact kept rfl
    refine ⟨owner, by simpa [other] using owned, fun candidate found => ?_⟩
    by_cases same : candidate = handle
    · subst same
      simp at found
    · simp only [UnorderedMap.find_erase_of_ne same] at found
      exact unique candidate found

/-- A null entry is not part of a bijection. -/
theorem not_assign_null : ¬ Bijective (entries.assign handle none) bos := by
  intro bijective
  obtain ⟨bo, impossible, _⟩ := bijective.live handle none (by simp)
  cases impossible

end Bijective

/-- States with the same entries and live objects share the bijection. -/
theorem RegistryBijective.congr {before after : GrallocState} (same : SameRegistry before after)
    (bijective : RegistryBijective before) : RegistryBijective after where
  live := by
    intro handle entry found
    rw [same.entries] at found
    obtain ⟨bo, rfl, alive⟩ := bijective.live handle entry found
    exact ⟨bo, rfl, by rwa [same.alive bo]⟩
  once := by
    intro bo alive
    rw [same.alive bo] at alive
    rw [same.entries]
    exact bijective.once bo alive

theorem LockOutcome.sameRegistry {state : GrallocState} {handle : BufferHandle} {bo : BoId}
    {usage : U64} {mapped : Option Mapping} {answer : Int × Address × GrallocState}
    (outcome : LockOutcome state handle bo usage mapped answer) :
    SameRegistry state answer.2.2 := by
  cases outcome with
  | refused _ _ _ unchanged =>
      rcases unchanged with rfl | written
      · exact .refl _
      · exact written.registry
  | granted _ written _ _ => exact written.registry

theorem UnlockOutcome.sameRegistry {state : GrallocState} {bo : BoId}
    {answer : Returned × GrallocState} (outcome : UnlockOutcome state bo answer) :
    SameRegistry state answer.2 := by
  cases outcome with
  | fault _ => exact .refl state
  | idle _ _ => exact .refl state
  | released _ _ written => exact written.registry

section Steps

variable {state : GrallocState} {handle : BufferHandle}

/-- A handle without an entry is not registered. -/
theorem not_registered_of_absent (absent : state.gbmBoHandleMap.find handle = none) :
    ¬ Registered state handle := by
  rintro ⟨bo, found, _⟩
  rw [absent] at found
  cases found

/-- In a bijection the handles with an entry are the registered ones. -/
theorem RegistryBijective.absent_of_unregistered (bijective : RegistryBijective state)
    (unregistered : ¬ Registered state handle) : state.gbmBoHandleMap.find handle = none := by
  by_contra present
  obtain ⟨bo, object, found, alive⟩ := bijective.registered_of_present present
  exact unregistered ⟨bo, found, by simp [alive]⟩

/-- Looking up a handle without an entry writes a null entry, whatever the call. -/
theorem lookup_of_absent {call : RegistryCall} (looks : call.lookup = some handle)
    (absent : state.gbmBoHandleMap.find handle = none) :
    (registryMachine.next state call).gbmBoHandleMap =
      state.gbmBoHandleMap.assign handle none := by
  cases call with
  | alloc => cases looks
  | register => cases looks
  | unregister =>
      cases looks
      simp [Machine.next, registryMachine, gbmUnregister, gbmFree_of_absent absent]
  | free =>
      cases looks
      simp [Machine.next, registryMachine, gbmFree_of_absent absent]
  | lock =>
      cases looks
      simp [Machine.next, registryMachine, gbmLock_of_absent absent]
  | unlock =>
      cases looks
      simp [Machine.next, registryMachine, gbmUnlock_of_absent absent]

/-- The invariant of a run: a bijection without an entry for the null pointer. -/
structure RegistryInvariant (state : GrallocState) : Prop where
  bijective : RegistryBijective state
  nullAbsent : state.gbmBoHandleMap.find 0 = none

/-- Nothing is registered in a new process. -/
theorem RegistryInvariant.fresh (memory : BufferHandle → PrivateHandle) :
    RegistryInvariant (.fresh memory) :=
  ⟨Bijective.empty, rfl⟩

/-- A look-up of a handle with an entry keeps the invariant. -/
theorem lookup_preserves (invariant : RegistryInvariant state) {call : RegistryCall}
    (looks : call.lookup = some handle) (present : state.gbmBoHandleMap.find handle ≠ none) :
    RegistryInvariant (registryMachine.next state call) := by
  obtain ⟨bijective, nullAbsent⟩ := invariant
  obtain ⟨bo, object, found, alive⟩ := bijective.registered_of_present present
  have unchanged : ∀ {after}, SameRegistry state after → RegistryInvariant after :=
    fun same => ⟨bijective.congr same, by rw [same.entries, nullAbsent]⟩
  have freed : RegistryInvariant (gbmFree handle state) := by
    have nonnull : (0 : BufferHandle) ≠ handle := by
      rintro rfl
      exact present nullAbsent
    rw [gbmFree_of_live found]
    exact ⟨Bijective.destroy bijective found, by simpa [nonnull] using nullAbsent⟩
  cases call with
  | alloc => cases looks
  | register => cases looks
  | unregister => cases looks; exact freed
  | free => cases looks; exact freed
  | lock _ usage x y w h mapped =>
      cases looks
      exact unchanged (gbmLock_outcome found alive mapped usage x y w h).sameRegistry
  | unlock =>
      cases looks
      exact unchanged (gbmUnlock_outcome found alive).sameRegistry

/-- An entry for a new object under an unused address keeps the invariant. -/
theorem RegistryInvariant.create (invariant : RegistryInvariant state) {address : BufferHandle}
    (nonnull : address ≠ 0) (absent : state.gbmBoHandleMap.find address = none) (object : Bo)
    {after : GrallocState} (holds : Holds after
      (state.gbmBoHandleMap.assign address (some state.bos.next)) (state.bos.create object)) :
    RegistryInvariant after where
  bijective := by
    rw [RegistryBijective, holds.entries, holds.bos]
    exact Bijective.create invariant.bijective absent object
  nullAbsent := by
    rw [holds.entries, UnorderedMap.find_assign_of_ne nonnull.symm, invariant.nullAbsent]

/-- An allocation at an address the allocator was free to choose keeps the invariant. -/
theorem alloc_preserves (invariant : RegistryInvariant state) {address : BufferHandle}
    (nonnull : address ≠ 0) (unused : ¬ Registered state address) (created : Option CreatedBo)
    (errno : Int) (width height format : U32) (usage : U64) :
    RegistryInvariant
      (gbmAlloc address created errno width height format usage state).2.2 := by
  rcases gbmAlloc_outcome address created errno width height format usage with
    ⟨_, entries, bos⟩ | ⟨_, object, _, _, entries, bos⟩
  · exact ⟨by rw [RegistryBijective, entries, bos]; exact invariant.bijective,
      by rw [entries, invariant.nullAbsent]⟩
  · have absent := invariant.bijective.absent_of_unregistered unused
    exact invariant.create nonnull absent object
      ⟨by rw [entries, UnorderedMap.emplace_of_absent absent], bos⟩

/-- Registration keeps the invariant, whether it succeeds or not. -/
theorem register_preserves (invariant : RegistryInvariant state) (handle : BufferHandle)
    (accepted : Bool) : RegistryInvariant (gbmRegister accepted handle state).2 := by
  rcases gbmRegister_outcome accepted handle state with
    ⟨refused, -⟩ | ⟨⟨nonnull, absent, -⟩, registered⟩
  · rw [refused]
    exact invariant
  · rw [registered]
    exact invariant.create nonnull absent _ ⟨rfl, rfl⟩

/-- What one step preserves: a call that names registered handles keeps the invariant. -/
theorem step_preserves (state : GrallocState) (call : RegistryCall)
    (invariant : RegistryInvariant state) (contract : AllocatorContract state call)
    (names : NamesRegistered state call) :
    RegistryInvariant (registryMachine.next state call) := by
  cases call with
  | alloc address created errno width height format usage =>
      exact alloc_preserves invariant contract.1 contract.2 created errno width height format usage
  | register handle accepted => exact register_preserves invariant handle accepted
  | unregister => exact lookup_preserves invariant rfl names
  | free => exact lookup_preserves invariant rfl names
  | lock => exact lookup_preserves invariant rfl names
  | unlock => exact lookup_preserves invariant rfl names

/-- A look-up from the invariant is sound exactly when the handle has an entry. -/
theorem lookup_sound_iff (invariant : RegistryInvariant state) {call : RegistryCall}
    (looks : call.lookup = some handle) :
    (RegistryBijective (registryMachine.next state call) ∧ ServesUnregistered state call) ↔
      state.gbmBoHandleMap.find handle ≠ none := by
  constructor
  · rintro ⟨after, _⟩ absent
    rw [RegistryBijective, lookup_of_absent looks absent] at after
    exact Bijective.not_assign_null after
  · intro present
    refine ⟨(lookup_preserves invariant looks present).bijective, ?_, ?_⟩
    · intro other same unregistered
      cases looks.symm.trans same
      exact absurd (invariant.bijective.absent_of_unregistered unregistered) present
    · rintro other accepted rfl
      cases looks

/-- A registration from the invariant is sound unless it offers the null pointer. -/
theorem register_sound_iff (invariant : RegistryInvariant state) (accepted : Bool) :
    (RegistryBijective (registryMachine.next state (.register handle accepted)) ∧
        ServesUnregistered state (.register handle accepted)) ↔
      handle ≠ 0 ∨ ¬ ImportSucceeds accepted handle state := by
  constructor
  · rintro ⟨_, _, serves⟩
    by_contra refused
    obtain ⟨null, succeeds⟩ := not_or.mp refused
    have null : handle = 0 := not_not.mp null
    have unregistered : ¬ Registered state handle :=
      not_registered_of_absent (null ▸ invariant.nullAbsent)
    have answer : registryMachine.answer state (.register handle accepted) ≠ .code 0 := by
      simp only [Machine.answer, registryMachine, gbmRegister_of_present (.inl null)]
      decide
    exact serves handle accepted rfl unregistered answer (not_not.mp succeeds)
  · intro names
    refine ⟨(register_preserves invariant handle accepted).bijective, ?_, ?_⟩
    · intro other looks
      cases looks
    · intro other offered same unregistered failed succeeds
      cases same
      have nonnull := names.resolve_right (not_not.mpr succeeds)
      have absent := invariant.bijective.absent_of_unregistered unregistered
      apply failed
      simp [Machine.answer, registryMachine, gbmRegister_of_succeeds nonnull absent succeeds]

/-- A step from the invariant is sound exactly when the call names registered handles. -/
theorem step_sound_iff (state : GrallocState) (call : RegistryCall)
    (invariant : RegistryInvariant state) (contract : AllocatorContract state call) :
    (RegistryBijective (registryMachine.next state call) ∧ ServesUnregistered state call) ↔
      NamesRegistered state call := by
  cases call with
  | alloc address created errno width height format usage =>
      refine iff_of_true ⟨(step_preserves _ _ invariant contract trivial).bijective, ?_, ?_⟩ trivial
      · intro handle looks
        cases looks
      · intro handle accepted impossible
        cases impossible
  | register handle accepted => exact register_sound_iff invariant accepted
  | unregister handle => exact lookup_sound_iff invariant rfl
  | free handle => exact lookup_sound_iff invariant rfl
  | lock handle => exact lookup_sound_iff invariant rfl
  | unlock handle => exact lookup_sound_iff invariant rfl

end Steps

/-- Along every run the registry is in bijection with the live objects and serves
unregistered handles as it should, exactly when every look-up names a handle that
has an entry (and no call offers the null pointer for import). -/
theorem registry_bijective_iff (memory : BufferHandle → PrivateHandle)
    (calls : List RegistryCall)
    (allocator : registryMachine.EachStep AllocatorContract (.fresh memory) calls) :
    (registryMachine.Always RegistryBijective (.fresh memory) calls ∧
        registryMachine.EachStep ServesUnregistered (.fresh memory) calls) ↔
      registryMachine.EachStep NamesRegistered (.fresh memory) calls := by
  have start := RegistryInvariant.fresh memory
  rw [Machine.always_iff_eachStep_next, and_assoc, ← Machine.eachStep_and,
    and_iff_right start.bijective]
  exact registryMachine.eachStep_iff_eachStep step_preserves step_sound_iff start allocator

/-- A handle as the allocator makes it, for the runs below. -/
def exampleHandle (format : U32) (usage : U64) : PrivateHandle :=
  PrivateHandle.new 64 16 16 format usage

/-- A handle of a buffer for the CPU and the GPU, as it was imported. -/
def exampleImported : PrivateHandle :=
  { exampleHandle halPixelFormatRgba8888 0x266 with fd := 5 }

/-- Allocation, a lock and its unlock, and a free whose address is then used again. -/
theorem registry_bijective_example :
    registryMachine.Always RegistryBijective
      (.fresh fun _ => exampleHandle halPixelFormatRgba8888 0x66)
      [.alloc 1 (some ⟨3, 64⟩) 0 16 16 halPixelFormatRgba8888 0x66,
        .lock 1 0x66 0 0 16 16 (some ⟨4096, 7, by decide⟩), .unlock 1, .free 1,
        .alloc 1 (some ⟨4, 64⟩) 0 16 16 halPixelFormatRgba8888 0x66] :=
  ((registry_bijective_iff (fun _ => exampleHandle halPixelFormatRgba8888 0x66)
    [.alloc 1 (some ⟨3, 64⟩) 0 16 16 halPixelFormatRgba8888 0x66,
      .lock 1 0x66 0 0 16 16 (some ⟨4096, 7, by decide⟩), .unlock 1, .free 1,
      .alloc 1 (some ⟨4, 64⟩) 0 16 16 halPixelFormatRgba8888 0x66]
    ⟨⟨by decide, not_registered_of_absent rfl⟩, trivial, trivial, trivial,
      ⟨by decide, not_registered_of_absent rfl⟩, trivial⟩).mpr
    ⟨trivial, by decide, by decide, by decide, trivial, trivial⟩).1

/-- An unlock of a handle that was never registered leaves a null entry behind, and the
handle can then not be registered although its import would succeed. -/
theorem registry_not_always_bijective :
    ¬ ∀ (memory : BufferHandle → PrivateHandle) (calls : List RegistryCall),
      registryMachine.EachStep AllocatorContract (.fresh memory) calls →
      registryMachine.Always RegistryBijective (.fresh memory) calls ∧
        registryMachine.EachStep ServesUnregistered (.fresh memory) calls := by
  intro claim
  let handle : PrivateHandle := { exampleHandle halPixelFormatRgba8888 0x66 with fd := 5 }
  obtain ⟨_, _, ⟨_, serves⟩, _⟩ :=
    claim (fun _ => handle) [.unlock 1, .register 1 true] ⟨trivial, trivial, trivial⟩
  refine serves 1 true rfl ?_ (by decide) ⟨by decide, rfl⟩
  rintro ⟨bo, found, _⟩
  cases found

end Arpi.Gralloc
