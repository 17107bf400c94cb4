import Arpi.Gralloc.BufferTable

/-!
# Who holds a lock

Callers count the locks that they were granted and have not given back. The table says what
such a count can be: a caller that has a buffer mapped for the CPU is the only one that holds
it, and the others share it for usages without CPU bits.
-/

namespace Arpi.Gralloc

open Arpi.Semantics

/-- The usages for which a handle is locked after a call, the latest first: of the locks that
are granted, less one for each unlock, until the handle is freed. -/
def locksHeld (handle : BufferHandle) (held : List U64) (entry : RegistryCall × Returned) :
    List U64 :=
  match entry.1 with
  | .lock locked usage .. => if locked = handle ∧ entry.2 = .code 0 then usage :: held else held
  | .unlock unlocked => if unlocked = handle ∧ entry.2 = .code 0 then held.tail else held
  | .unregister freed | .free freed => if freed = handle then [] else held
  | .alloc .. | .register .. => held

theorem locksHeld_lock {handle locked : BufferHandle} {held : List U64} {usage : U64}
    {x y w h : Int} {mapped : Option Mapping} {returned : Returned} :
    locksHeld handle held (.lock locked usage x y w h mapped, returned) =
      if locked = handle ∧ returned = .code 0 then usage :: held else held := rfl

theorem locksHeld_unlock {handle unlocked : BufferHandle} {held : List U64} {returned : Returned} :
    locksHeld handle held (.unlock unlocked, returned) =
      if unlocked = handle ∧ returned = .code 0 then held.tail else held := rfl

/-- The locks that are held at the end of a trace. -/
def outstandingLocks (handle : BufferHandle) (trace : List (RegistryCall × Returned)) : List U64 :=
  trace.foldl (locksHeld handle) []

/-- The locks that callers hold are those that an entry stands for. -/
inductive EntryHolds : TableEntry → List U64 → Prop where
  | absent : EntryHolds .absent []
  | lost : EntryHolds .lost []
  | untouched : EntryHolds (.buffer .untouched) []
  | unlocked : EntryHolds (.buffer .unlocked) []
  | mapped (mapData : Nat) (kept usage : U64) : EntryHolds (.buffer (.mapped mapData kept)) [usage]
  | shared {others : Nat} {usage : U64} {held : List U64} (count : held.length = others + 1)
      (unmapped : ¬ WantsMapping usage) (each : ∀ usage ∈ held, ¬ WantsMapping usage) :
      EntryHolds (.buffer (.shared others usage)) held

/-- Cutting a usage to 32 bits adds no CPU bit. -/
theorem not_wantsMapping_keptUsage {usage : U64} (unmapped : ¬ WantsMapping usage) :
    ¬ WantsMapping (keptUsage usage) := by
  rwa [WantsMapping, keptUsage, Bits.signExtend_setWidth_and 32 cpuUsageMask_fits, ← WantsMapping]

namespace EntryHolds

variable {entry : TableEntry} {held : List U64} {handle : BufferHandle}

/-- A caller that maps the buffer is the only one that holds it. -/
theorem alone (holds : EntryHolds entry held) :
    held.length ≤ 1 ∨ ∀ usage ∈ held, ¬ WantsMapping usage := by
  cases holds with
  | absent => exact .inl (Nat.zero_le 1)
  | lost => exact .inl (Nat.zero_le 1)
  | untouched => exact .inl (Nat.zero_le 1)
  | unlocked => exact .inl (Nat.zero_le 1)
  | mapped mapData kept usage => exact .inl (Nat.le_refl 1)
  | shared count unmapped each => exact .inr each

/-- The first lock of a buffer. -/
theorem first (mapped : Option Mapping) (usage : U64) :
    ((BufferLock.first mapped usage).1 = 0 →
        EntryHolds (.buffer (BufferLock.first mapped usage).2.2) [usage]) ∧
      ((BufferLock.first mapped usage).1 ≠ 0 →
        EntryHolds (.buffer (BufferLock.first mapped usage).2.2) []) := by
  unfold BufferLock.first
  by_cases wanted : WantsMapping usage
  · rw [if_pos wanted]
    cases mapped with
    | some mapping =>
        exact ⟨fun _ => .mapped mapping.mapData (keptUsage usage) usage,
          fun failed => absurd rfl failed⟩
    | none =>
        have refused : (-enomem : Int) ≠ 0 := by decide
        exact ⟨fun granted => absurd granted refused, fun _ => .unlocked⟩
  · rw [if_neg wanted]
    refine ⟨fun _ => .shared rfl (not_wantsMapping_keptUsage wanted) ?_,
      fun failed => absurd rfl failed⟩
    exact List.forall_mem_singleton.mpr wanted

/-- A lock. -/
theorem lock (holds : EntryHolds entry held) (allowed : Bool) (mapped : Option Mapping)
    (usage : U64) :
    ((entry.lock allowed mapped usage).1 = 0 →
        EntryHolds (entry.lock allowed mapped usage).2.2 (usage :: held)) ∧
      ((entry.lock allowed mapped usage).1 ≠ 0 →
        EntryHolds (entry.lock allowed mapped usage).2.2 held) := by
  have refused : ∀ {after : TableEntry}, EntryHolds after held →
      ((-einval : Int) = 0 → EntryHolds after (usage :: held)) ∧
        ((-einval : Int) ≠ 0 → EntryHolds after held) :=
    fun kept => ⟨fun granted => absurd granted (by decide), fun _ => kept⟩
  cases allowed with
  | false =>
      cases holds with
      | absent => exact refused .lost
      | lost => exact refused .lost
      | untouched => exact refused .untouched
      | unlocked => exact refused .unlocked
      | mapped mapData kept usage => exact refused (.mapped mapData kept usage)
      | shared count unmapped each => exact refused (.shared count unmapped each)
  | true =>
      cases holds with
      | absent => exact refused .lost
      | lost => exact refused .lost
      | untouched => exact first mapped usage
      | unlocked => exact first mapped usage
      | mapped mapData kept usage => exact refused (.mapped mapData kept usage)
      | @shared others kept held count unmapped each =>
          simp only [TableEntry.lock, if_true, BufferLock.lock]
          by_cases subset : kept &&& usage = usage
          case neg =>
            rw [if_neg subset]
            exact refused (.shared count unmapped each)
          rw [if_pos subset]
          have added : ¬ WantsMapping usage :=
            not_not.mpr (Bits.and_eq_zero_of_subset subset (not_not.mp unmapped))
          refine ⟨fun _ => .shared ?_ unmapped ?_, fun failed => absurd rfl failed⟩
          · rw [List.length_cons, count]
          · exact List.forall_mem_cons.mpr ⟨added, each⟩

/-- An unlock. -/
theorem unlock (holds : EntryHolds entry held) :
    (entry.unlock.1 = .code 0 → EntryHolds entry.unlock.2 held.tail) ∧
      (entry.unlock.1 ≠ .code 0 → EntryHolds entry.unlock.2 held) := by
  cases holds with
  | absent => exact ⟨fun unlocked => absurd unlocked (by decide), fun _ => .lost⟩
  | lost => exact ⟨fun unlocked => absurd unlocked (by decide), fun _ => .lost⟩
  | untouched => exact ⟨fun unlocked => absurd unlocked (by decide), fun _ => .untouched⟩
  | unlocked => exact ⟨fun _ => .unlocked, fun failed => absurd rfl failed⟩
  | mapped mapData kept usage => exact ⟨fun _ => .unlocked, fun failed => absurd rfl failed⟩
  | @shared others kept held count unmapped each =>
      cases others with
      | zero =>
          obtain ⟨usage, rfl⟩ := List.length_eq_one_iff.mp count
          exact ⟨fun _ => .unlocked, fun failed => absurd rfl failed⟩
      | succ others =>
          refine ⟨fun _ => .shared ?_ unmapped fun usage member => ?_,
            fun failed => absurd rfl failed⟩
          · rw [List.length_tail, count]
            rfl
          · exact each usage (List.mem_of_mem_tail member)

/-- A free. -/
theorem forget (holds : EntryHolds entry held) : EntryHolds entry.forget [] := by
  cases holds with
  | absent => exact .lost
  | lost => exact .lost
  | untouched => exact .absent
  | unlocked => exact .absent
  | mapped mapData kept usage => exact .absent
  | shared count unmapped each => exact .absent

/-- An allocation. -/
theorem enter (holds : EntryHolds entry held) : EntryHolds entry.enter held := by
  cases holds with
  | absent => exact .untouched
  | lost => exact .lost
  | untouched => exact .untouched
  | unlocked => exact .unlocked
  | mapped mapData kept usage => exact .mapped mapData kept usage
  | shared count unmapped each => exact .shared count unmapped each

/-- A call writes the entry of the handle it names, and no other. -/
theorem written {table : BufferTable} {other : BufferHandle} {after : List U64}
    (update : TableEntry → TableEntry) (holds : EntryHolds (table.entries handle) held)
    (here : other = handle → EntryHolds (update (table.entries handle)) after)
    (elsewhere : other ≠ handle → after = held) :
    EntryHolds ((table.write other (update (table.entries other))).entries handle) after := by
  by_cases same : other = handle
  · subst same
    rw [BufferTable.write_self]
    exact here rfl
  · rw [BufferTable.write_of_ne (Ne.symm same), elsewhere same]
    exact holds

/-- A free of any handle. -/
theorem free {table : BufferTable} (holds : EntryHolds (table.entries handle) held)
    (other : BufferHandle) :
    EntryHolds ((table.write other (table.entries other).forget).entries handle)
      (if other = handle then [] else held) := by
  refine written TableEntry.forget holds (fun same => ?_) (if_neg ·)
  rw [if_pos same]
  exact holds.forget

/-- Every call. -/
theorem next {table : BufferTable} (holds : EntryHolds (table.entries handle) held)
    (call : RegistryCall) :
    EntryHolds ((tableMachine.next table call).entries handle)
      (locksHeld handle held (call, (tableMachine.answer table call).code)) := by
  cases call with
  | alloc address created errno width height format usage =>
      simp only [Machine.next, tableMachine, locksHeld]
      by_cases unknown : grallocGbmGetBpp format = 0
      · rw [if_pos unknown]
        exact holds
      rw [if_neg unknown]
      cases created with
      | none => exact holds
      | some bo =>
          have described : EntryHolds ((table.describe address usage (decide (0 ≤ bo.fd))).entries
              handle) held := holds
          exact written TableEntry.enter described (fun _ => holds.enter) fun _ => rfl
  | register other accepted =>
      simp only [Machine.next, tableMachine, locksHeld]
      split
      case isFalse => exact holds
      case isTrue imports =>
        refine written (fun _ => .buffer .untouched) holds (fun same => ?_) fun _ => rfl
        rw [← same, imports.2.1] at holds
        exact holds.enter
  | unregister other => exact holds.free other
  | free other => exact holds.free other
  | lock other usage x y w h mapped =>
      rw [locksHeld_lock]
      refine written (fun entry => (entry.lock (usageAllowed (table.usage other) usage)
        mapped usage).2.2) holds (fun same => ?_) fun different => ?_
      · subst same
        obtain ⟨granted, refused⟩ := holds.lock (usageAllowed (table.usage other) usage)
          mapped usage
        by_cases succeeds : ((table.entries other).lock (usageAllowed (table.usage other) usage)
            mapped usage).1 = 0
        · rw [if_pos ⟨rfl, congrArg Returned.code succeeds⟩]
          exact granted succeeds
        · rw [if_neg (fun both => succeeds (Returned.code.inj both.2))]
          exact refused succeeds
      · exact if_neg fun granted => different granted.1
  | unlock other =>
      rw [locksHeld_unlock]
      refine written (fun entry => entry.unlock.2) holds (fun same => ?_) fun different => ?_
      · subst same
        obtain ⟨released, kept⟩ := holds.unlock
        by_cases succeeds : (table.entries other).unlock.1 = .code 0
        · rw [if_pos ⟨rfl, succeeds⟩]
          exact released succeeds
        · rw [if_neg (fun both => succeeds both.2)]
          exact kept succeeds
      · exact if_neg fun released => different released.1

end EntryHolds

/-- Over every run of registry calls, whatever they name and whatever the driver answers: when
more than one lock of a handle is held, none of them is for the CPU. -/
theorem cpu_holds_alone (memory : BufferHandle → PrivateHandle) (calls : List RegistryCall)
    (handle : BufferHandle) :
    let held := outstandingLocks handle (registryMachine.trace (.fresh memory) calls)
    held.length ≤ 1 ∨ ∀ usage ∈ held, ¬ WantsMapping usage := by
  have invariant := RecordsInvariant.fresh memory
  have seen := registry_refines.observing RegistryAnswer.code
  rw [registryService_observing] at seen
  rw [← seen.trace invariant calls]
  have start : EntryHolds ((tableOf (.fresh memory)).entries handle) (outstandingLocks handle []) :=
    .absent
  refine EntryHolds.alone ((tableMachine.observing RegistryAnswer.code).history_of_invariant
    (fun table history => EntryHolds (table.entries handle) (outstandingLocks handle history))
    ?_ start calls)
  intro table history call holds
  rw [outstandingLocks, List.foldl_append]
  exact holds.next call

end Arpi.Gralloc
