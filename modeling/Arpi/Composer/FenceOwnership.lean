import Arpi.Composer.AcquireFences
import Mathlib.Algebra.Order.Group.Multiset

/-!
# Every fence is closed once

The commands of a batch own the descriptors of their fences. Each handler closes a descriptor
that it has taken out of its command, so that at any moment a descriptor is either closed or
still owned by a command, and never both.
-/

namespace Arpi.Composer

open Arpi.Gralloc Arpi.Semantics

/-- The descriptors that are owned. -/
def ownedDescriptors (fences : List ScopedFileDescriptor) : Multiset Int :=
  ↑((fences.map ScopedFileDescriptor.fd).filter fun fd => fd ≠ -1)

/-- The client target that the device has after a history. -/
def lastTarget (first : BufferHandle) (history : List FenceEvent) : BufferHandle :=
  history.foldl (fun current event =>
    match event with
    | .target buffer _ => buffer
    | _ => current) first

/-- What makes an event proper: no descriptor is used after it was closed, the device takes a
client target whose fence was waited for, and posts the one that it took last. -/
def FenceEvent.Proper (first : BufferHandle) (before : List FenceEvent) : FenceEvent → Prop
  | .syncWait fd => .close fd ∉ before
  | .close fd => .close fd ∉ before
  | .target _ acquireFence => 0 ≤ acquireFence → .syncWait acquireFence ∈ before
  | .post buffer => buffer = lastTarget first before

/-- Each of the fences is closed exactly once, no other descriptor is closed, and everything that
happens to them is proper. -/
structure FencesConsumed (first : BufferHandle) (fences : List ScopedFileDescriptor)
    (events : List FenceEvent) : Prop where
  closed : ∀ fence ∈ fences, fence.fd ≠ -1 → events.count (.close fence.fd) = 1
  others : ∀ fd, (∀ fence ∈ fences, fence.fd ≠ fd) → .close fd ∉ events
  proper : Justified (FenceEvent.Proper first) events

section Owned

variable {fence : ScopedFileDescriptor} {fences others : List ScopedFileDescriptor}

theorem ownedDescriptors_append : ownedDescriptors (fences ++ others) =
    ownedDescriptors fences + ownedDescriptors others := by
  rw [ownedDescriptors, List.map_append, List.filter_append, ← Multiset.coe_add]
  rfl

theorem ownedDescriptors_cons : ownedDescriptors (fence :: fences) =
    ownedDescriptors [fence] + ownedDescriptors fences := by
  rw [← ownedDescriptors_append, List.singleton_append]

theorem ownedDescriptors_singleton (some : fence.fd ≠ -1) :
    ownedDescriptors [fence] = {fence.fd} := by
  simp [ownedDescriptors, some]

theorem ownedDescriptors_singleton_of_none (none : fence.fd = -1) :
    ownedDescriptors [fence] = 0 := by
  simp [ownedDescriptors, none]

theorem ownedDescriptors_flatMap {Element : Type} (fencesOf : Element → List ScopedFileDescriptor)
    (list : List Element) : ownedDescriptors (list.flatMap fencesOf) =
      (list.map fun element => ownedDescriptors (fencesOf element)).sum := by
  induction list with
  | nil => rfl
  | cons element rest ih =>
      rw [List.flatMap_cons, ownedDescriptors_append, ih, List.map_cons, List.sum_cons]

theorem ownedDescriptors_toList {Element : Type} (fenceOf : Element → ScopedFileDescriptor)
    (element : Option Element) : ownedDescriptors (element.toList.map fenceOf) =
      element.elim 0 fun element => ownedDescriptors [fenceOf element] := by
  cases element <;> rfl

/-- A fence that is owned is a descriptor. -/
theorem ScopedFileDescriptor.nonneg_iff (fence : ScopedFileDescriptor) :
    0 ≤ fence.fd ↔ fence.fd ≠ -1 := by
  have valid := fence.valid
  omega

end Owned

/-- What is known while a batch is executed: each of all descriptors is closed or outstanding,
and the device has the last client target. -/
structure FenceLedger (all : Multiset Int) (first : BufferHandle) (outstanding : Multiset Int)
    (current : BufferHandle) (events : List FenceEvent) : Prop where
  balance : ∀ fd, events.count (.close fd) + outstanding.count fd = all.count fd
  proper : Justified (FenceEvent.Proper first) events
  current : current = lastTarget first events

namespace FenceLedger

variable {all outstanding : Multiset Int} {first current : BufferHandle}
  {events : List FenceEvent} {fd : Int} {fence : ScopedFileDescriptor}

theorem start (all : Multiset Int) (first : BufferHandle) : FenceLedger all first all first [] where
  balance _ := Nat.zero_add _
  proper := .nil
  current := rfl

/-- A descriptor that is outstanding is not closed. -/
theorem not_closed (distinct : all.Nodup)
    (ledger : FenceLedger all first ({fd} + outstanding) current events) :
    .close fd ∉ events := by
  have balance := ledger.balance fd
  have once := Multiset.nodup_iff_count_le_one.mp distinct fd
  rw [Multiset.count_add, Multiset.count_singleton_self] at balance
  rw [← List.count_eq_zero]
  omega

/-- An event that neither closes a descriptor nor sets a client target. -/
theorem append (ledger : FenceLedger all first outstanding current events) {event : FenceEvent}
    (proper : event.Proper first events) (open_ : ∀ fd, event ≠ .close fd)
    (same : lastTarget first (events ++ [event]) = lastTarget first events) :
    FenceLedger all first outstanding current (events ++ [event]) where
  balance fd := by
    rw [List.count_append, List.count_singleton, if_neg (by simpa using open_ fd), Nat.add_zero]
    exact ledger.balance fd
  proper := ledger.proper.append proper
  current := ledger.current.trans same.symm

theorem syncWait (distinct : all.Nodup)
    (ledger : FenceLedger all first ({fd} + outstanding) current events) :
    FenceLedger all first ({fd} + outstanding) current (events ++ [.syncWait fd]) := by
  have proper : FenceEvent.Proper first events (.syncWait fd) := ledger.not_closed distinct
  exact ledger.append proper (by simp) (by simp [lastTarget])

/-- A descriptor that is closed is outstanding no longer. -/
theorem close (distinct : all.Nodup)
    (ledger : FenceLedger all first ({fd} + outstanding) current events) :
    FenceLedger all first outstanding current (events ++ [.close fd]) where
  balance other := by
    have balance := ledger.balance other
    rw [Multiset.count_add, Multiset.count_singleton] at balance
    rw [← balance, List.count_append, List.count_singleton]
    by_cases same : other = fd
    · subst same
      simp only [BEq.rfl, if_true]
      omega
    · have different : FenceEvent.close fd ≠ .close other := by
        simpa using fun equal => same equal.symm
      rw [if_neg (by simpa using different), if_neg same]
      omega
  proper := by
    have proper : FenceEvent.Proper first events (.close fd) := ledger.not_closed distinct
    exact ledger.proper.append proper
  current := by simpa [lastTarget] using ledger.current

/-- The device takes a client target. -/
theorem target (ledger : FenceLedger all first outstanding current events)
    (buffer : BufferHandle) (waited : 0 ≤ fd → .syncWait fd ∈ events) :
    FenceLedger all first outstanding buffer (events ++ [.target buffer fd]) where
  balance other := by
    rw [List.count_append, List.count_singleton, if_neg (by simp), Nat.add_zero]
    exact ledger.balance other
  proper := by
    have proper : FenceEvent.Proper first events (.target buffer fd) := waited
    exact ledger.proper.append proper
  current := by simp [lastTarget]

/-- The device posts its client target. -/
theorem post (ledger : FenceLedger all first outstanding current events) :
    FenceLedger all first outstanding current (events ++ [.post current]) := by
  have proper : FenceEvent.Proper first events (.post current) := ledger.current
  exact ledger.append proper (by simp) (by simp [lastTarget])

/-- Waiting for a fence and closing it. -/
theorem waitAndClose (distinct : all.Nodup)
    (ledger : FenceLedger all first (ownedDescriptors [fence] + outstanding) current events) :
    FenceLedger all first outstanding current (events ++ Composer.waitAndClose fence.fd) := by
  by_cases some : fence.fd = -1
  · rw [ownedDescriptors_singleton_of_none some, zero_add] at ledger
    rw [Composer.waitAndClose, if_neg (by omega), List.append_nil]
    exact ledger
  · rw [ownedDescriptors_singleton some] at ledger
    rw [Composer.waitAndClose, if_pos (fence.nonneg_iff.mpr some), List.append_cons]
    exact (ledger.syncWait distinct).close distinct

/-- What `close` does to a fence that may be none, in a handler or in a destructor. -/
theorem closeFence (distinct : all.Nodup)
    (ledger : FenceLedger all first (ownedDescriptors [fence] + outstanding) current events) :
    FenceLedger all first outstanding current
      (events ++ if 0 ≤ fence.fd then [.close fence.fd] else []) := by
  by_cases some : fence.fd = -1
  · rw [ownedDescriptors_singleton_of_none some, zero_add] at ledger
    rw [if_neg (by omega), List.append_nil]
    exact ledger
  · rw [ownedDescriptors_singleton some] at ledger
    rw [if_pos (fence.nonneg_iff.mpr some)]
    exact ledger.close distinct

theorem destroyed (distinct : all.Nodup)
    (ledger : FenceLedger all first (ownedDescriptors [fence] + outstanding) current events) :
    FenceLedger all first outstanding current (events ++ fence.destroyed) := by
  have closes := ledger.closeFence distinct
  simpa only [ScopedFileDescriptor.destroyed, fence.nonneg_iff] using closes

theorem flatMap_destroyed (distinct : all.Nodup) {fences : List ScopedFileDescriptor}
    (ledger : FenceLedger all first (ownedDescriptors fences) current events) :
    FenceLedger all first 0 current (events ++ fences.flatMap ScopedFileDescriptor.destroyed) := by
  induction fences generalizing events with
  | nil =>
      rw [List.flatMap_nil, List.append_nil]
      exact ledger
  | cons fence rest ih =>
      rw [ownedDescriptors_cons] at ledger
      rw [List.flatMap_cons, ← List.append_assoc]
      exact ih (ledger.destroyed distinct)

/-- With nothing outstanding, every fence was consumed. -/
theorem consumed {fences : List ScopedFileDescriptor} (distinct : (ownedDescriptors fences).Nodup)
    (ledger : FenceLedger (ownedDescriptors fences) first 0 current events) :
    FencesConsumed first fences events where
  closed fence member some := by
    have balance := ledger.balance fence.fd
    have owned : fence.fd ∈ ownedDescriptors fences := by
      rw [ownedDescriptors, Multiset.mem_coe, List.mem_filter]
      exact ⟨List.mem_map_of_mem member, by simpa using some⟩
    rw [Multiset.count_eq_one_of_mem distinct owned, Multiset.count_zero] at balance
    exact balance
  others fd noFence := by
    have balance := ledger.balance fd
    have notOwned : fd ∉ ownedDescriptors fences := by
      rw [ownedDescriptors, Multiset.mem_coe, List.mem_filter, List.mem_map]
      rintro ⟨⟨fence, member, same⟩, -⟩
      exact noFence fence member same
    rw [Multiset.count_eq_zero_of_notMem notOwned, Multiset.count_zero] at balance
    rw [← List.count_eq_zero]
    exact balance
  proper := ledger.proper

end FenceLedger

end Arpi.Composer
