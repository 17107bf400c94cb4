import Arpi.Gralloc.ReachableRecords
import Arpi.Semantics.Interleaving

/-!
# Maps and unmaps of every object

`calls` lists the calls to the driver but not which of the mapping calls succeeded, so
the successful ones are counted beside the run. Their number less that of the unmapping
calls is one while the lock record holds a token and zero otherwise, until an object is
destroyed while it is mapped: neither `gbm_free` nor `gbm_unregister` looks at the record.
-/

namespace Arpi.Gralloc

open Arpi.Semantics

/-- A call that maps the object. -/
def GbmCall.Maps (bo : BoId) : GbmCall → Bool
  | .map mapped .. => mapped == bo
  | .unmap .. => false

/-- A call that unmaps the object. -/
def GbmCall.Unmaps (bo : BoId) : GbmCall → Bool
  | .unmap unmapped _ => unmapped == bo
  | .map .. => false

def mapCalls (state : GrallocState) (bo : BoId) : Nat := state.calls.countP (GbmCall.Maps bo)

def unmapCalls (state : GrallocState) (bo : BoId) : Nat := state.calls.countP (GbmCall.Unmaps bo)

/-- Counts the mapping calls that the driver granted: those of a step in which it maps. -/
def countMaps (state : GrallocState) (maps : BoId → Nat) (call : RegistryCall) : BoId → Nat :=
  match call with
  | .lock _ _ _ _ _ _ (some _) => fun bo =>
      maps bo + (mapCalls (registryMachine.next state call) bo - mapCalls state bo)
  | _ => maps

/-- Successful mapping calls of an object less its unmapping calls. -/
def mapBalance (ledger : GrallocState × (BoId → Nat)) (bo : BoId) : Int :=
  ledger.2 bo - unmapCalls ledger.1 bo

/-- No object is mapped twice or unmapped too often, a live object is mapped exactly while
its record holds a token, and an object that does not exist is not mapped. -/
structure MappingsBalanced (ledger : GrallocState × (BoId → Nat)) : Prop where
  bounded : ∀ bo, mapBalance ledger bo = 0 ∨ mapBalance ledger bo = 1
  mapped : ∀ bo, (ledger.1.bos.cells bo).isSome →
    (mapBalance ledger bo = 1 ↔ mapDataOf ledger.1 bo ≠ none)
  destroyed : ∀ bo, ledger.1.bos.cells bo = none → mapBalance ledger bo = 0

/-- The handle whose object a call destroys. -/
def RegistryCall.destroys : RegistryCall → Option BufferHandle
  | .unregister handle | .free handle => some handle
  | .alloc .. | .register .. | .lock .. | .unlock .. => none

/-- The call does not destroy an object whose lock record holds a mapping token. -/
def DestroysUnmapped (state : GrallocState) (call : RegistryCall) : Prop :=
  ∀ handle bo, call.destroys = some handle →
    state.gbmBoHandleMap.find handle = some (some bo) → mapDataOf state bo = none

/-! ## The ledger follows the tokens -/

/-- The maps of an object are its unmaps and the mapping that its token stands for. -/
def FollowsTokens (state : GrallocState) (maps : BoId → Nat) : Prop :=
  ∀ bo, maps bo = unmapCalls state bo + (mapDataOf state bo).isSome.toNat

variable {state after : GrallocState} {maps : BoId → Nat} {bo : BoId}

/-- An object that does not exist has no token. -/
theorem mapDataOf_of_dead (dead : state.bos.cells bo = none) : mapDataOf state bo = none := by
  rw [mapDataOf, lockRecord, gbmBoData, dead]
  rfl

namespace FollowsTokens

theorem balanced (follows : FollowsTokens state maps) : MappingsBalanced (state, maps) := by
  have balance : ∀ bo, mapBalance (state, maps) bo = (mapDataOf state bo).isSome.toNat := by
    intro bo
    simp only [mapBalance, follows bo]
    omega
  refine ⟨fun bo => ?_, fun bo _ => ?_, fun bo dead => ?_⟩
  · rw [balance bo]
    cases mapDataOf state bo <;> simp
  · rw [balance bo]
    cases mapDataOf state bo <;> simp
  · rw [balance bo, mapDataOf_of_dead dead]
    rfl

/-- A step without a driver call that keeps every token. -/
theorem keep (follows : FollowsTokens state maps) (calls : after.calls = state.calls)
    (tokens : ∀ bo, mapDataOf after bo = mapDataOf state bo) : FollowsTokens after maps := by
  intro bo
  rw [follows bo, unmapCalls, unmapCalls, calls, tokens bo]

/-- A mapping call of one object that yields a token. -/
theorem map (follows : FollowsTokens state maps) {width height flags : U32}
    (calls : after.calls = .map bo width height flags :: state.calls)
    (free : mapDataOf state bo = none) (token : mapDataOf after bo ≠ none)
    (others : ∀ other, other ≠ bo → mapDataOf after other = mapDataOf state other) :
    FollowsTokens after fun other => maps other + (mapCalls after other - mapCalls state other) := by
  intro other
  dsimp only
  have unmaps : unmapCalls after other = unmapCalls state other := by
    rw [unmapCalls, calls, List.countP_cons_of_neg (by simp [GbmCall.Unmaps]), ← unmapCalls]
  by_cases here : other = bo
  · subst here
    have made : mapCalls after other = mapCalls state other + 1 := by
      rw [mapCalls, calls, List.countP_cons_of_pos (by simp [GbmCall.Maps]), ← mapCalls]
    have held : (mapDataOf after other).isSome = true := Option.isSome_iff_ne_none.mpr token
    rw [follows other, unmaps, made, held, free]
    simp only [Option.isSome_none, Bool.toNat_false, Bool.toNat_true]
    omega
  · have made : mapCalls after other = mapCalls state other := by
      rw [mapCalls, calls, List.countP_cons_of_neg (by simp [GbmCall.Maps, Ne.symm here]),
        ← mapCalls]
    rw [follows other, unmaps, made, others other here]
    omega

/-- An unmapping call of one object that gives its token back. -/
theorem unmap (follows : FollowsTokens state maps) {mapData : Option Nat}
    (calls : after.calls = .unmap bo mapData :: state.calls)
    (held : mapDataOf state bo ≠ none) (token : mapDataOf after bo = none)
    (others : ∀ other, other ≠ bo → mapDataOf after other = mapDataOf state other) :
    FollowsTokens after maps := by
  intro other
  by_cases here : other = bo
  · subst here
    have made : unmapCalls after other = unmapCalls state other + 1 := by
      rw [unmapCalls, calls, List.countP_cons_of_pos (by simp [GbmCall.Unmaps]), ← unmapCalls]
    have present : (mapDataOf state other).isSome = true := Option.isSome_iff_ne_none.mpr held
    rw [follows other, made, present, token]
    rfl
  · have made : unmapCalls after other = unmapCalls state other := by
      rw [unmapCalls, calls, List.countP_cons_of_neg (by simp [GbmCall.Unmaps, Ne.symm here]),
        ← unmapCalls]
    rw [follows other, made, others other here]

end FollowsTokens

/-! ## One step -/

/-- Creating an object without a lock record gives no object a token. -/
theorem mapDataOf_create {object : Bo} (unattached : object.userData = none)
    (created : after.bos = state.bos.create object) (bo : BoId) :
    mapDataOf after bo = mapDataOf state bo := by
  by_cases new : bo = state.bos.next
  · subst new
    rw [mapDataOf_of_dead Store.next_cell, mapDataOf, lockRecord, gbmBoData, created,
      Store.create_cells_next, Option.bind_some, unattached]
    rfl
  · exact (SameMapping.of_cells (by rw [created, Store.create_cells_of_ne new])).token

/-- A step without a driver call counts no map. -/
theorem countMaps_of_silent {call : RegistryCall}
    (silent : (registryMachine.next state call).calls = state.calls) :
    countMaps state maps call = maps := by
  cases call with
  | lock handle usage x y w h mapped =>
      cases mapped with
      | none => rfl
      | some mapping =>
          ext bo
          simp only [countMaps, mapCalls, silent, Nat.sub_self, Nat.add_zero]
  | alloc => rfl
  | register => rfl
  | unregister => rfl
  | free => rfl
  | unlock => rfl

/-- A step that calls the driver for nothing and keeps every token. -/
theorem FollowsTokens.silent (follows : FollowsTokens state maps) {call : RegistryCall}
    (calls : (registryMachine.next state call).calls = state.calls)
    (tokens : ∀ bo, mapDataOf (registryMachine.next state call) bo = mapDataOf state bo) :
    FollowsTokens (registryMachine.next state call) (countMaps state maps call) := by
  rw [countMaps_of_silent calls]
  exact follows.keep calls tokens

/-- A free of a handle whose object holds no token takes no token away. -/
theorem mapDataOf_free (entries : EntriesLive state) (handle : BufferHandle)
    (unmapped : ∀ bo, state.gbmBoHandleMap.find handle = some (some bo) →
      mapDataOf state bo = none) (bo : BoId) :
    mapDataOf (gbmFree handle state) bo = mapDataOf state bo := by
  cases entries.shape handle with
  | absent absent =>
      rw [gbmFree_of_absent absent]
      exact (SameMapping.of_cells rfl).token
  | null null => rw [gbmFree_of_null null]
  | live freed object registered alive =>
      rw [gbmFree_of_live registered]
      by_cases dead : bo = freed
      · subst dead
        rw [unmapped bo registered, mapDataOf_of_dead Store.destroy_cells_self]
      · exact (SameMapping.of_cells (Store.destroy_cells_of_ne dead)).token

/-- A registration gives no object a token. -/
theorem mapDataOf_register (handle : BufferHandle) (accepted : Bool) (bo : BoId) :
    mapDataOf (gbmRegister accepted handle state).2 bo = mapDataOf state bo := by
  rcases gbmRegister_outcome accepted handle state with ⟨refused, -⟩ | ⟨-, registered⟩
  · rw [refused]
  · rw [registered]
    exact mapDataOf_create rfl rfl bo

/-- Nor does an allocation. -/
theorem mapDataOf_alloc (address : BufferHandle) (created : Option CreatedBo) (errno : Int)
    (width height format : U32) (usage : U64) (bo : BoId) :
    mapDataOf (gbmAlloc address created errno width height format usage state).2.2 bo =
      mapDataOf state bo := by
  rcases gbmAlloc_outcome address created errno width height format usage with
    ⟨-, -, bos⟩ | ⟨-, object, unattached, -, -, bos⟩
  · exact (SameMapping.of_cells (by rw [bos])).token
  · exact mapDataOf_create unattached bos bo

/-- A lock of any handle is counted as its token shows. -/
theorem FollowsTokens.lock (entries : EntriesLive state) (follows : FollowsTokens state maps)
    (handle : BufferHandle) (usage : U64) (x y w h : Int) (mapped : Option Mapping) :
    let call := RegistryCall.lock handle usage x y w h mapped
    FollowsTokens (registryMachine.next state call) (countMaps state maps call) := by
  intro call
  cases entries.shape handle with
  | absent absent =>
      have answer := gbmLock_of_absent absent mapped usage x y w h
      apply follows.silent
      · simp only [call, Machine.next, registryMachine, answer]
      · intro bo
        simp only [call, Machine.next, registryMachine, answer]
        exact (SameMapping.of_cells rfl).token
  | null null =>
      have answer := gbmLock_of_null null mapped usage x y w h
      apply follows.silent
      · simp only [call, Machine.next, registryMachine, answer]
      · intro bo
        simp only [call, Machine.next, registryMachine, answer]
  | live bo object registered alive =>
      have outcome := gbmLock_outcome registered alive mapped usage x y w h
      have others : ∀ other, other ≠ bo → mapDataOf (registryMachine.next state call) other =
          mapDataOf state other :=
        fun other different => (SameMapping.of_cells (outcome.others other different)).token
      have kept : SameMapping state (registryMachine.next state call) bo → ∀ other,
          mapDataOf (registryMachine.next state call) other = mapDataOf state other := by
        intro same other
        by_cases here : other = bo
        · rw [here, same.token]
        · exact others other here
      cases gbmLock_request registered alive mapped usage x y w h with
      | unasked calls same => exact follows.silent calls (kept same)
      | refused width height flags _ answer calls same =>
          subst answer
          intro other
          have unmaps : unmapCalls (registryMachine.next state call) other =
              unmapCalls state other := by
            rw [unmapCalls, show (registryMachine.next state call).calls = _ from calls,
              List.countP_cons_of_neg (by simp [GbmCall.Unmaps]), ← unmapCalls]
          rw [unmaps, kept same other]
          exact follows other
      | made width height flags mapping _ answer calls free token _ =>
          subst answer
          have held : mapDataOf (registryMachine.next state call) bo = some mapping.mapData := token
          exact follows.map calls free (by rw [held]; simp) others

/-- So is an unlock. -/
theorem FollowsTokens.unlock (invariant : RecordsInvariant state)
    (follows : FollowsTokens state maps) (handle : BufferHandle) :
    FollowsTokens (gbmUnlock handle state).2 maps := by
  cases invariant.entries.shape handle with
  | absent absent =>
      rw [gbmUnlock_of_absent absent]
      exact follows.keep rfl fun bo => (SameMapping.of_cells rfl).token
  | null null =>
      rw [gbmUnlock_of_null null]
      exact follows
  | live bo object registered alive =>
      have outcome := gbmUnlock_outcome registered alive
      have others : ∀ other, other ≠ bo → mapDataOf (gbmUnlock handle state).2 other =
          mapDataOf state other :=
        fun other different => (SameMapping.of_cells (outcome.others other different)).token
      cases gbmUnlock_request registered alive with
      | unasked calls same =>
          apply follows.keep calls
          intro other
          by_cases here : other = bo
          · rw [here, same.token]
          · exact others other here
      | unmapped attached _ mapped calls token _ =>
          exact follows.unmap calls (invariant.token_of_mapped attached mapped) token others

/-- Every call that destroys no mapped object is counted as the tokens show. -/
theorem FollowsTokens.next (invariant : RecordsInvariant state)
    (follows : FollowsTokens state maps) (call : RegistryCall)
    (unmapped : DestroysUnmapped state call) :
    FollowsTokens (registryMachine.next state call) (countMaps state maps call) := by
  cases call with
  | alloc address created errno width height format usage =>
      exact follows.silent (gbmAlloc_calls address created errno width height format usage)
        (mapDataOf_alloc address created errno width height format usage)
  | register handle accepted =>
      exact follows.silent (gbmRegister_calls accepted handle state)
        (mapDataOf_register handle accepted)
  | unregister handle =>
      exact follows.silent (gbmFree_calls handle state)
        (mapDataOf_free invariant.entries handle fun bo => unmapped handle bo rfl)
  | free handle =>
      exact follows.silent (gbmFree_calls handle state)
        (mapDataOf_free invariant.entries handle fun bo => unmapped handle bo rfl)
  | lock handle usage x y w h mapped =>
      exact follows.lock invariant.entries handle usage x y w h mapped
  | unlock handle => exact follows.unlock invariant handle

/-- A destroyed object that was mapped stays mapped. -/
theorem destroysUnmapped_of_balanced (follows : FollowsTokens state maps) (call : RegistryCall)
    (balanced : MappingsBalanced (registryMachine.next state call, countMaps state maps call)) :
    DestroysUnmapped state call := by
  intro handle bo destroys registered
  have freed : registryMachine.next state call = gbmFree handle state ∧
      countMaps state maps call = maps := by
    cases call with
    | unregister => cases destroys; exact ⟨rfl, rfl⟩
    | free => cases destroys; exact ⟨rfl, rfl⟩
    | alloc => cases destroys
    | register => cases destroys
    | lock => cases destroys
    | unlock => cases destroys
  rw [freed.1, freed.2] at balanced
  have dead : (gbmFree handle state).bos.cells bo = none := by
    rw [gbmFree_of_live registered]
    exact Store.destroy_cells_self
  have balance : mapBalance (gbmFree handle state, maps) bo = 0 := balanced.destroyed bo dead
  have unmaps : unmapCalls (gbmFree handle state) bo = unmapCalls state bo := by
    rw [unmapCalls, gbmFree_calls, ← unmapCalls]
  simp only [mapBalance, unmaps, follows bo] at balance
  cases token : mapDataOf state bo with
  | none => rfl
  | some mapData =>
      rw [token, Option.isSome_some, Bool.toNat_true] at balance
      omega

/-! ## Every run -/

/-- Along every run of registry calls, over any handles and with any answers of the driver,
the maps and unmaps of every object balance in every state, exactly when no
`gbm_unregister` and no `gbm_free` names a handle whose lock record holds a token. -/
theorem mappings_balanced_iff (memory : BufferHandle → PrivateHandle)
    (calls : List RegistryCall) :
    (registryMachine.monitored countMaps).Always MappingsBalanced (.fresh memory, fun _ => 0) calls ↔
      registryMachine.EachStep DestroysUnmapped (.fresh memory) calls := by
  let counted := registryMachine.monitored countMaps
  let start : GrallocState × (BoId → Nat) := (.fresh memory, fun _ => 0)
  let invariant (ledger : GrallocState × (BoId → Nat)) : Prop :=
    RecordsInvariant ledger.1 ∧ FollowsTokens ledger.1 ledger.2
  have preserved : ∀ ledger call, invariant ledger → True → DestroysUnmapped ledger.1 call →
      invariant (counted.next ledger call) := fun ledger call held _ unmapped =>
    ⟨.next ledger.1 call held.1, held.2.next held.1 call unmapped⟩
  have breaks : ∀ ledger call, invariant ledger → True →
      MappingsBalanced (counted.next ledger call) → DestroysUnmapped ledger.1 call :=
    fun ledger call held _ balanced => destroysUnmapped_of_balanced held.2 call balanced
  have initial : invariant start := by
    refine ⟨.fresh memory, fun bo => ?_⟩
    rw [mapDataOf_of_dead rfl]
    rfl
  rw [counted.always_iff_eachStep (fun _ held => held.2.balanced) preserved breaks initial
    (counted.eachStep_of_forall (fun _ _ => trivial) start calls)]
  exact registryMachine.monitored_eachStep countMaps DestroysUnmapped start calls

/-- A buffer that is registered, locked for the CPU and freed without an unlock: its
object is destroyed while it is mapped. -/
theorem mappings_not_always_balanced :
    ¬ ∀ (memory : BufferHandle → PrivateHandle) (calls : List RegistryCall),
      (registryMachine.monitored countMaps).Always MappingsBalanced
        (.fresh memory, fun _ => 0) calls := by
  intro claim
  let handle : PrivateHandle := { exampleHandle halPixelFormatRgba8888 0x66 with fd := 5 }
  let calls : List RegistryCall :=
    [.register 1 true, .lock 1 0x22 0 0 16 16 (some ⟨4096, 7, by decide⟩), .free 1]
  have balanced := (claim (fun _ => handle) calls).last
  exact absurd (balanced.destroyed 0 (by decide)) (by decide)

end Arpi.Gralloc
