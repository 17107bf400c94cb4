import Mathlib.Data.List.Nodup
import Mathlib.Data.List.Dedup
import Mathlib.Logic.Function.Basic

/-!
# Containers with the behaviour of the C++ library

`UnorderedMap` and `UnorderedSet` keep what the programs observe of
`std::unordered_map` and `std::unordered_set`. The subscript of a map is not a
look-up: it inserts the default value under an absent key. The iteration order of a
set is the order of its list; no lemma here tells two orders apart beyond their
length and members.

`Store` hands out object identities that are never used twice.
-/

namespace Arpi.Semantics

universe u v

/-- The contents of a map with at most one value under each key. -/
@[ext] structure UnorderedMap (Key : Type u) (Value : Type v) where
  find : Key → Option Value

namespace UnorderedMap

variable {Key : Type u} {Value : Type v} [DecidableEq Key]

/-- The map without entries. -/
def empty : UnorderedMap Key Value := ⟨fun _ => none⟩

/-- Whether the map has an entry under the key. -/
def count (map : UnorderedMap Key Value) (key : Key) : Bool := (map.find key).isSome

/-- Assign the value under the key, replacing any earlier entry. -/
def assign (map : UnorderedMap Key Value) (key : Key) (value : Value) :
    UnorderedMap Key Value :=
  ⟨Function.update map.find key (some value)⟩

/-- Insert an entry unless the key already has one. -/
def emplace (map : UnorderedMap Key Value) (key : Key) (value : Value) :
    UnorderedMap Key Value :=
  if map.count key then map else map.assign key value

/-- Remove the entry under the key, if there is one. -/
def erase (map : UnorderedMap Key Value) (key : Key) : UnorderedMap Key Value :=
  ⟨Function.update map.find key none⟩

/-- `map[key]`: the value under the key, which is first set to the default when absent. -/
def subscript (map : UnorderedMap Key Value) (default : Value) (key : Key) :
    Value × UnorderedMap Key Value :=
  match map.find key with
  | some value => (value, map)
  | none => (default, map.assign key default)

variable {map : UnorderedMap Key Value} {key other : Key} {value default : Value}

omit [DecidableEq Key] in
@[simp] theorem find_empty : (empty : UnorderedMap Key Value).find key = none := rfl

omit [DecidableEq Key] in
@[simp] theorem count_eq_true : map.count key = true ↔ map.find key ≠ none := by
  simp [count, Option.isSome_iff_ne_none]

@[simp] theorem find_assign_self : (map.assign key value).find key = some value := by
  simp [assign]

@[simp] theorem find_assign_of_ne (different : other ≠ key) :
    (map.assign key value).find other = map.find other := by
  simp [assign, different]

@[simp] theorem find_erase_self : (map.erase key).find key = none := by
  simp [erase]

@[simp] theorem find_erase_of_ne (different : other ≠ key) :
    (map.erase key).find other = map.find other := by
  simp [erase, different]

/-- `emplace` under an absent key assigns. -/
theorem emplace_of_absent (absent : map.find key = none) :
    map.emplace key value = map.assign key value := by
  simp [emplace, absent]

/-- `emplace` under a present key does nothing, whatever the entry holds. -/
theorem emplace_of_present (present : map.find key ≠ none) :
    map.emplace key value = map := by
  simp [emplace, present]

/-- On a present key the subscript is a look-up. -/
theorem subscript_of_present (present : map.find key = some value) :
    map.subscript default key = (value, map) := by
  simp [subscript, present]

/-- On an absent key the subscript inserts the default. -/
theorem subscript_of_absent (absent : map.find key = none) :
    map.subscript default key = (default, map.assign key default) := by
  simp [subscript, absent]

end UnorderedMap

/-- A finite set together with its iteration order. -/
structure UnorderedSet (α : Type u) where
  elements : List α
  nodup : elements.Nodup

namespace UnorderedSet

variable {α : Type u} [DecidableEq α]

instance : Membership α (UnorderedSet α) := ⟨fun set element => element ∈ set.elements⟩

/-- The set without elements. -/
def empty : UnorderedSet α := ⟨[], List.nodup_nil⟩

/-- Whether the set has the element. -/
def count (set : UnorderedSet α) (element : α) : Bool := decide (element ∈ set.elements)

/-- Number of elements. -/
def size (set : UnorderedSet α) : Nat := set.elements.length

/-- Add an element; nothing changes when it is already there. -/
def insert (set : UnorderedSet α) (element : α) : UnorderedSet α :=
  ⟨set.elements.insert element, set.nodup.insert⟩

/-- Remove an element; nothing changes when it is not there. -/
def erase (set : UnorderedSet α) (element : α) : UnorderedSet α :=
  ⟨set.elements.erase element, set.nodup.erase element⟩

variable {set : UnorderedSet α} {element other : α}

omit [DecidableEq α] in
theorem mem_def : element ∈ set ↔ element ∈ set.elements := Iff.rfl

omit [DecidableEq α] in
@[simp] theorem not_mem_empty : element ∉ (empty : UnorderedSet α) := by
  simp [empty, mem_def]

@[simp] theorem count_eq_true : set.count element = true ↔ element ∈ set := by
  simp [count, mem_def]

@[simp] theorem count_eq_false : set.count element = false ↔ element ∉ set := by
  simp [count, mem_def]

@[simp] theorem mem_insert : other ∈ set.insert element ↔ other = element ∨ other ∈ set := by
  simp [insert, mem_def]

@[simp] theorem mem_erase : other ∈ set.erase element ↔ other ≠ element ∧ other ∈ set := by
  simp [erase, mem_def, set.nodup.mem_erase_iff]

@[simp] theorem count_insert_self : (set.insert element).count element = true := by
  rw [count_eq_true, mem_insert]
  exact .inl rfl

omit [DecidableEq α] in
@[simp] theorem size_empty : (empty : UnorderedSet α).size = 0 := rfl

omit [DecidableEq α] in
/-- A set of size zero has no element. -/
theorem size_eq_zero : set.size = 0 ↔ ∀ element, element ∉ set := by
  simp [size, mem_def, List.eq_nil_iff_forall_not_mem]

/-- Inserting a new element grows the set by one. -/
theorem size_insert_of_not_mem (absent : element ∉ set) :
    (set.insert element).size = set.size + 1 := by
  simp [insert, size, List.length_insert_of_not_mem absent]

/-- Erasing an absent element changes nothing. -/
theorem erase_of_not_mem (absent : element ∉ set) : set.erase element = set := by
  cases set
  simp only [erase, mk.injEq]
  exact List.erase_of_not_mem absent

/-- Which elements of a list the set has. -/
def among (set : UnorderedSet α) (list : List α) : List Bool := list.map set.count

variable {list : List α}

@[simp] theorem length_among : (set.among list).length = list.length := by simp [among]

@[simp] theorem among_append :
    set.among (list ++ [element]) = set.among list ++ [set.count element] := by
  simp [among]

@[simp] theorem getElem?_among (index : Nat) :
    (set.among list)[index]? = list[index]?.map set.count := by
  simp [among]

/-- Two sets that agree on the elements of a list. -/
theorem among_congr {changed : UnorderedSet α}
    (agree : ∀ other ∈ list, other ∈ changed ↔ other ∈ set) :
    changed.among list = set.among list := by
  apply List.map_congr_left
  intro other member
  rw [Bool.eq_iff_iff, count_eq_true, count_eq_true]
  exact agree other member

/-- Two sets that agree on the elements of a list but for one. -/
theorem among_of_agree {changed : UnorderedSet α} (nodup : list.Nodup) {index : Nat}
    (bound : index < list.length)
    (agree : ∀ other, other ≠ list[index] → (other ∈ changed ↔ other ∈ set)) :
    changed.among list = (set.among list).set index (changed.count list[index]) := by
  apply List.ext_getElem?
  intro other
  rw [List.getElem?_set, getElem?_among, length_among, if_pos bound]
  by_cases same : index = other
  · subst same
    simp [List.getElem?_eq_getElem bound]
  · rw [if_neg same, getElem?_among]
    by_cases inside : other < list.length
    · have different : list[other] ≠ list[index] := fun equal =>
        same (nodup.getElem_inj_iff.mp equal).symm
      rw [List.getElem?_eq_getElem inside, Option.map_some, Option.map_some, Option.some_inj,
        Bool.eq_iff_iff, count_eq_true, count_eq_true]
      exact agree _ different
    · simp [List.getElem?_eq_none (Nat.le_of_not_lt inside)]

/-- Inserting an element that is not in the list does not show there. -/
theorem among_insert_of_not_mem (absent : element ∉ list) :
    (set.insert element).among list = set.among list := by
  apply among_congr
  intro other member
  rw [mem_insert]
  exact or_iff_right fun same => absent (same ▸ member)

/-- Erasing an element that is not in the list does not show there. -/
theorem among_erase_of_not_mem (absent : element ∉ list) :
    (set.erase element).among list = set.among list := by
  apply among_congr
  intro other member
  rw [mem_erase]
  exact and_iff_right fun same => absent (same ▸ member)

/-- Inserting an element of the list sets its flag. -/
theorem among_insert_getElem (nodup : list.Nodup) {index : Nat} (bound : index < list.length) :
    (set.insert list[index]).among list = (set.among list).set index true := by
  rw [among_of_agree nodup bound, count_insert_self]
  intro other different
  rw [mem_insert]
  exact or_iff_right different

/-- Erasing an element of the list clears its flag. -/
theorem among_erase_getElem (nodup : list.Nodup) {index : Nat} (bound : index < list.length) :
    (set.erase list[index]).among list = (set.among list).set index false := by
  have erased : (set.erase list[index]).count list[index] = false := by simp
  rw [among_of_agree nodup bound, erased]
  intro other different
  rw [mem_erase]
  exact and_iff_right different

/-- The places of a list of flags at which the flag is set. -/
def places (flags : List Bool) : List Nat :=
  (List.range flags.length).filter fun index => flags[index]? = some true

/-- Up to their order, the elements of a set that lies in a list stand at the places that
the list flags. -/
theorem elements_idxOf_perm (nodup : list.Nodup) (inside : ∀ element ∈ set, element ∈ list) :
    (set.elements.map list.idxOf).Perm (places (set.among list)) := by
  have injective : (set.elements.map list.idxOf).Nodup := by
    apply set.nodup.map_on
    intro left leftMember right rightMember same
    exact (List.idxOf_inj (inside left leftMember)).mp same
  have distinct : (places (set.among list)).Nodup := List.nodup_range.filter _
  refine (List.perm_ext_iff_of_nodup injective distinct).mpr fun index => ?_
  simp only [places, List.mem_map, List.mem_filter, List.mem_range, length_among,
    getElem?_among, decide_eq_true_eq]
  constructor
  · rintro ⟨element, member, rfl⟩
    have bound := List.idxOf_lt_length_of_mem (inside element member)
    refine ⟨bound, ?_⟩
    rw [List.getElem?_eq_getElem bound, List.getElem_idxOf, Option.map_some, Option.some_inj,
      count_eq_true]
    exact member
  · rintro ⟨bound, flagged⟩
    rw [List.getElem?_eq_getElem bound, Option.map_some, Option.some_inj, count_eq_true] at flagged
    exact ⟨list[index], flagged, nodup.idxOf_getElem index bound⟩

end UnorderedSet

/-- Live objects under identities that are handed out in order and never reused. -/
structure Store (α : Type u) where
  cells : Nat → Option α
  next : Nat
  fresh : ∀ identity, next ≤ identity → cells identity = none

namespace Store

variable {α : Type u}

/-- The store in which nothing was ever created. -/
def empty : Store α := ⟨fun _ => none, 0, fun _ _ => rfl⟩

/-- Create an object; its identity is `store.next`. -/
def create (store : Store α) (object : α) : Store α where
  cells := Function.update store.cells store.next (some object)
  next := store.next + 1
  fresh := by
    intro identity later
    rw [Function.update_of_ne (by omega)]
    exact store.fresh identity (by omega)

/-- Destroy an object. -/
def destroy (store : Store α) (identity : Nat) : Store α where
  cells := Function.update store.cells identity none
  next := store.next
  fresh := by
    intro other later
    by_cases same : other = identity
    · simp [same]
    · rw [Function.update_of_ne same]
      exact store.fresh other later

/-- Change a live object in place. -/
def modify (store : Store α) (identity : Nat) (change : α → α) : Store α where
  cells := Function.update store.cells identity ((store.cells identity).map change)
  next := store.next
  fresh := by
    intro other later
    by_cases same : other = identity
    · subst same
      simp [store.fresh other later]
    · rw [Function.update_of_ne same]
      exact store.fresh other later

variable {store : Store α} {identity other : Nat} {object : α} {change : α → α}

@[simp] theorem next_cell : store.cells store.next = none :=
  store.fresh store.next (Nat.le_refl _)

@[simp] theorem create_cells_next : (store.create object).cells store.next = some object := by
  simp [create]

@[simp] theorem create_cells_of_ne (different : other ≠ store.next) :
    (store.create object).cells other = store.cells other := by
  simp [create, different]

@[simp] theorem destroy_cells_self : (store.destroy identity).cells identity = none := by
  simp [destroy]

@[simp] theorem destroy_cells_of_ne (different : other ≠ identity) :
    (store.destroy identity).cells other = store.cells other := by
  simp [destroy, different]

@[simp] theorem modify_cells_self :
    (store.modify identity change).cells identity = (store.cells identity).map change := by
  simp [modify]

@[simp] theorem modify_cells_of_ne (different : other ≠ identity) :
    (store.modify identity change).cells other = store.cells other := by
  simp [modify, different]

/-- A live identity was handed out before. -/
theorem lt_next_of_live (live : store.cells identity = some object) : identity < store.next := by
  by_contra later
  rw [store.fresh identity (by omega)] at live
  cases live

/-- Changing objects in place neither creates nor destroys any. -/
@[simp] theorem modify_cells_isSome :
    ((store.modify identity change).cells other).isSome = (store.cells other).isSome := by
  by_cases same : other = identity
  · subst same; simp
  · simp [same]

end Store

end Arpi.Semantics
