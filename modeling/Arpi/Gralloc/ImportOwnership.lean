import Arpi.Gralloc.MapperService
import Arpi.Gralloc.Registry

/-!
# Who owns a cloned handle

`importBuffer` clones the handle it is given; the clone belongs to the client until its
`freeBuffer` closes and deletes it. `freeBuffer` relies on `gbm_unregister` to tell
imported buffers from other pointers, but `gbm_unregister` never fails, so every pointer
that is not null is closed and deleted.
-/

namespace Arpi.Gralloc.Mapper

open Arpi.Semantics

/-- The mapper with the buffers that are imported at the moment. -/
abbrev ImportLedger := MapperState × Finset BufferHandle

/-- Every clone that is not imported any more was ended once in this way, and one that still
is was not. The null pointer is nobody's handle. -/
def Balances (ending : BufferHandle → HandleCall) (ledger : ImportLedger) : Prop :=
  ∀ handle, handle ≠ 0 →
    ledger.1.handleCalls.count (.clone handle) =
      ledger.1.handleCalls.count (ending handle) + if handle ∈ ledger.2 then 1 else 0

/-- The descriptor of every clone is closed once and its memory deleted once, when the import
fails or when the buffer is freed. -/
structure HandlesBalanced (ledger : ImportLedger) : Prop where
  closed : Balances .close ledger
  deleted : Balances .delete ledger

/-- A free of a pointer that is not an imported buffer is answered with an error and closes
and deletes nothing. -/
def RefusesForeign (ledger : ImportLedger) : MapperCall → Prop
  | .freeBuffer buffer => buffer ∉ ledger.2 →
      (freeBuffer buffer ledger.1).1 ≠ .none ∧
        (freeBuffer buffer ledger.1).2.handleCalls = ledger.1.handleCalls
  | .importBuffer .. | .lock .. | .unlock _ | .flushLockedBuffer _ | .rereadLockedBuffer _ => True

/-- Every pointer that is freed is null or an imported buffer. -/
def FreesImported (ledger : ImportLedger) : MapperCall → Prop
  | .freeBuffer buffer => buffer = 0 ∨ buffer ∈ ledger.2
  | .importBuffer .. | .lock .. | .unlock _ | .flushLockedBuffer _ | .rereadLockedBuffer _ => True

instance (ledger : ImportLedger) (call : MapperCall) : Decidable (FreesImported ledger call) :=
  match call with
  | .freeBuffer buffer => inferInstanceAs (Decidable (buffer = 0 ∨ buffer ∈ ledger.2))
  | .importBuffer .. | .lock .. | .unlock _ | .flushLockedBuffer _ | .rereadLockedBuffer _ =>
      inferInstanceAs (Decidable True)

section Steps

variable {state after : MapperState} {imported held : Finset BufferHandle}

/-- What a step adds to the calls has to match what it changes about the imported buffers. -/
theorem Balances.extend {ending : BufferHandle → HandleCall}
    (balances : Balances ending (state, imported)) (made : List HandleCall)
    (calls : after.handleCalls = made ++ state.handleCalls)
    (change : ∀ handle, handle ≠ 0 →
      (made.count (.clone handle) + if handle ∈ imported then 1 else 0) =
        made.count (ending handle) + if handle ∈ held then 1 else 0) :
    Balances ending (after, held) := by
  intro handle proper
  have before := balances handle proper
  have step := change handle proper
  simp only [calls, List.count_append] at before ⊢
  omega

/-- The handles are balanced, and the null pointer is not imported. -/
structure Owned (ledger : ImportLedger) : Prop where
  balanced : HandlesBalanced ledger
  nonnull : 0 ∉ ledger.2

namespace Owned

theorem fresh (memory : BufferHandle → PrivateHandle) : Owned (.fresh memory, ∅) :=
  ⟨⟨fun _ _ => rfl, fun _ _ => rfl⟩, Finset.notMem_empty 0⟩

/-- A step that makes no handle calls keeps the balance. -/
theorem idle (owned : Owned (state, imported)) (calls : after.handleCalls = state.handleCalls) :
    Owned (after, imported) :=
  ⟨⟨owned.balanced.closed.extend [] calls fun _ _ => by simp,
    owned.balanced.deleted.extend [] calls fun _ _ => by simp⟩, owned.nonnull⟩

/-- An import keeps the balance: a clone is closed and deleted again, or imported. -/
theorem importBuffer (owned : Owned (state, imported))
    (duplicate : Option (BufferHandle × Int)) (accepted : Bool)
    (rawHandle : Option PrivateHandle)
    (contract : CloneContract imported (.importBuffer duplicate accepted rawHandle)) :
    let answer := Mapper.importBuffer duplicate accepted rawHandle state
    Owned (answer.2, if answer.1.1 = .none then insert answer.1.2 imported else imported) := by
  intro answer
  obtain ⟨⟨closed, deleted⟩, nonnull⟩ := owned
  have outcome : ImportOutcome state duplicate answer :=
    importBuffer_outcome duplicate accepted rawHandle
  clear_value answer
  cases outcome with
  | rejected => exact ⟨⟨closed, deleted⟩, nonnull⟩
  | exhausted =>
      refine ⟨⟨closed.extend [.delete 0, .close 0] rfl ?_,
        deleted.extend [.delete 0, .close 0] rfl ?_⟩, nonnull⟩
      · intro handle proper
        simp [Ne.symm proper]
      · intro handle proper
        simp [Ne.symm proper]
  | @refused copy raw cloned =>
      refine ⟨⟨closed.extend [.delete copy.1, .close copy.1, .clone copy.1] rfl ?_,
        deleted.extend [.delete copy.1, .close copy.1, .clone copy.1] rfl ?_⟩, nonnull⟩
      · intro handle _
        simp [List.count_cons]
      · intro handle _
        simp [List.count_cons]
  | @registered copy raw cloned proper =>
      subst cloned
      have fresh : copy.1 ∉ imported := contract.2
      have change : ∀ handle, handle ≠ 0 →
          (([.clone copy.1] : List HandleCall).count (.clone handle) +
              if handle ∈ imported then 1 else 0) =
            if handle ∈ insert copy.1 imported then 1 else 0 := by
        intro handle _
        by_cases same : handle = copy.1
        · subst same
          simp [fresh]
        · simp [same, Ne.symm same]
      refine ⟨⟨closed.extend [.clone copy.1] rfl ?_, deleted.extend [.clone copy.1] rfl ?_⟩, ?_⟩
      · intro handle proper
        rw [change handle proper]
        simp
      · intro handle proper
        rw [change handle proper]
        simp
      · simp [nonnull, Ne.symm proper]

/-- A free of null or of an imported buffer keeps the balance. -/
theorem freeBuffer (owned : Owned (state, imported)) {buffer : BufferHandle}
    (frees : buffer = 0 ∨ buffer ∈ imported) :
    Owned ((Mapper.freeBuffer buffer state).2, imported.erase buffer) := by
  obtain ⟨⟨closed, deleted⟩, nonnull⟩ := owned
  by_cases null : buffer = 0
  · subst null
    rw [freeBuffer_null, Finset.erase_eq_of_notMem nonnull]
    exact ⟨⟨closed, deleted⟩, nonnull⟩
  have member : buffer ∈ imported := frees.resolve_left null
  rw [freeBuffer_of_nonnull null]
  have change : ∀ handle, handle ≠ 0 →
      (if handle ∈ imported then 1 else 0) =
        (if buffer = handle then 1 else 0) + if handle ∈ imported.erase buffer then 1 else 0 := by
    intro handle _
    by_cases same : buffer = handle
    · subst same
      simp [member]
    · simp [same, Ne.symm same]
  refine ⟨⟨closed.extend [.delete buffer, .close buffer] rfl ?_,
    deleted.extend [.delete buffer, .close buffer] rfl ?_⟩, ?_⟩
  · intro handle proper
    rw [change handle proper]
    simp [List.count_cons]
  · intro handle proper
    rw [change handle proper]
    simp [List.count_cons]
  · simp [nonnull]

/-- A step that frees nothing foreign keeps the balance. -/
theorem next (owned : Owned (state, imported)) (call : MapperCall)
    (contract : CloneContract imported call) (frees : FreesImported (state, imported) call) :
    Owned ((mapperMachine.monitored trackImports).next (state, imported) call) := by
  cases call with
  | importBuffer duplicate accepted rawHandle =>
      exact owned.importBuffer duplicate accepted rawHandle contract
  | freeBuffer buffer => exact owned.freeBuffer frees
  | lock => exact owned.idle rfl
  | unlock => exact owned.idle rfl
  | flushLockedBuffer => exact owned.idle rfl
  | rereadLockedBuffer => exact owned

end Owned

/-- A free refuses a foreign pointer exactly when it is null. -/
theorem refusesForeign_iff (call : MapperCall) :
    RefusesForeign (state, imported) call ↔ FreesImported (state, imported) call := by
  cases call with
  | freeBuffer buffer =>
      simp only [RefusesForeign, FreesImported]
      by_cases null : buffer = 0
      · subst null
        rw [freeBuffer_null]
        refine iff_of_true (fun _ => ⟨?_, rfl⟩) (.inl rfl)
        intro same
        cases same
      · rw [freeBuffer_of_nonnull null, or_iff_right null]
        constructor
        · intro refuses
          by_contra foreign
          exact (refuses foreign).1 rfl
        · exact fun member foreign => absurd member foreign
  | importBuffer => exact Iff.rfl
  | lock => exact Iff.rfl
  | unlock => exact Iff.rfl
  | flushLockedBuffer => exact Iff.rfl
  | rereadLockedBuffer => exact Iff.rfl

end Steps

/-- Along every run of mapper calls, in every state the clones are balanced, and every free
of a pointer that is not an imported buffer is refused, exactly when every pointer that is
freed is null or an imported buffer. -/
theorem import_ownership_iff (memory : BufferHandle → PrivateHandle) (calls : List MapperCall)
    (contract : (mapperMachine.monitored trackImports).EachStep
      (fun ledger call => CloneContract ledger.2 call) (.fresh memory, ∅) calls) :
    ((mapperMachine.monitored trackImports).Always HandlesBalanced (.fresh memory, ∅) calls ∧
        (mapperMachine.monitored trackImports).EachStep RefusesForeign (.fresh memory, ∅) calls) ↔
      (mapperMachine.monitored trackImports).EachStep FreesImported (.fresh memory, ∅) calls := by
  let tracked := mapperMachine.monitored trackImports
  have start : Owned (.fresh memory, ∅) := .fresh memory
  have preserved : ∀ ledger call, Owned ledger → CloneContract ledger.2 call →
      FreesImported ledger call → Owned (tracked.next ledger call) :=
    fun ledger call owned fresh frees => owned.next call fresh frees
  have exactly : ∀ ledger call, Owned ledger → CloneContract ledger.2 call →
      (RefusesForeign ledger call ↔ FreesImported ledger call) :=
    fun _ call _ _ => refusesForeign_iff call
  rw [tracked.eachStep_iff_eachStep preserved exactly start contract]
  refine and_iff_right_of_imp fun frees => ?_
  have both := (tracked.eachStep_and _ _ _ _).mpr ⟨contract, frees⟩
  have owned := tracked.always_of_eachStep
    (fun ledger call owned met => preserved ledger call owned met.1 met.2) start both
  exact owned.mono fun _ held => held.balanced

/-- A buffer that is imported, freed and imported again at the same address, and a handle
whose import fails. -/
theorem import_ownership_example :
    let raw : PrivateHandle := exampleImported
    let calls : List MapperCall :=
      [.importBuffer (some (1, 5)) true (some raw), .freeBuffer 1, .freeBuffer 0,
        .importBuffer (some (2, 6)) false (some raw), .importBuffer (some (1, 7)) true (some raw)]
    (mapperMachine.monitored trackImports).Always HandlesBalanced (.fresh fun _ => raw, ∅) calls ∧
      (mapperMachine.monitored trackImports).EachStep RefusesForeign (.fresh fun _ => raw, ∅)
        calls := by
  intro raw calls
  have contract : (mapperMachine.monitored trackImports).EachStep
      (fun ledger call => CloneContract ledger.2 call) (.fresh fun _ => raw, ∅) calls := by
    refine ⟨?_, ?_, ?_, ?_, ?_, trivial⟩ <;> decide
  exact (import_ownership_iff (fun _ => raw) calls contract).mpr
    (by refine ⟨?_, ?_, ?_, ?_, ?_, trivial⟩ <;> decide)

/-- A buffer that is freed twice: the second free is answered without an error, and it
closes and deletes the handle once more. -/
theorem import_ownership_not_always :
    ¬ ∀ (memory : BufferHandle → PrivateHandle) (calls : List MapperCall),
      (mapperMachine.monitored trackImports).EachStep
        (fun ledger call => CloneContract ledger.2 call) (.fresh memory, ∅) calls →
      (mapperMachine.monitored trackImports).Always HandlesBalanced (.fresh memory, ∅) calls ∧
        (mapperMachine.monitored trackImports).EachStep RefusesForeign (.fresh memory, ∅)
          calls := by
  intro claim
  have both := claim (fun _ => exampleImported)
    [.importBuffer (some (1, 5)) true (some exampleImported), .freeBuffer 1, .freeBuffer 1]
    (by refine ⟨?_, ?_, ?_, trivial⟩ <;> decide)
  exact absurd (both.1.last.closed 1 (by decide)) (by decide)

end Arpi.Gralloc.Mapper
