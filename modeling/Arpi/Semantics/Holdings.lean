import Mathlib.Data.Set.Lattice
import Mathlib.Logic.Function.Basic

/-!
# Things and their holders

Several holders each hold a set of things, and `held` is what any of them holds. The
lemmas say what is held after a single holder has changed what it holds.

`Sole` is about things in places: apart from a null thing, nothing lies in two of them.
`AgreeOff` compares what places hold now with what they held before some of them were
taken; what is taken and given back leaves no trace.
-/

namespace Arpi.Semantics

universe u v

section Held

variable {Holder : Type u} {Thing : Type v}

/-- What any holder holds. -/
def held (holdings : Holder → Set Thing) : Set Thing := ⋃ holder, holdings holder

theorem mem_held {holdings : Holder → Set Thing} {thing : Thing} :
    thing ∈ held holdings ↔ ∃ holder, thing ∈ holdings holder :=
  Set.mem_iUnion

/-- Nothing is held when no holder holds anything. -/
@[simp] theorem held_empty : held (fun _ : Holder => (∅ : Set Thing)) = ∅ :=
  Set.iUnion_empty

variable [DecidableEq Holder] {holdings : Holder → Set Thing} {holder : Holder}
  {things : Set Thing} {thing : Thing}

/-- What is held after one holder has changed what it holds. -/
theorem mem_held_update :
    thing ∈ held (Function.update holdings holder things) ↔
      thing ∈ things ∨ ∃ other, other ≠ holder ∧ thing ∈ holdings other := by
  rw [mem_held]
  constructor
  · rintro ⟨other, member⟩
    by_cases same : other = holder
    · subst same
      rw [Function.update_self] at member
      exact .inl member
    · rw [Function.update_of_ne same] at member
      exact .inr ⟨other, same, member⟩
  · rintro (member | ⟨other, different, member⟩)
    · refine ⟨holder, ?_⟩
      rwa [Function.update_self]
    · refine ⟨other, ?_⟩
      rwa [Function.update_of_ne different]

/-- A holder that takes a thing adds it to what is held. -/
theorem held_update_insert :
    held (Function.update holdings holder (insert thing (holdings holder))) =
      insert thing (held holdings) := by
  ext other
  rw [mem_held_update, Set.mem_insert_iff, Set.mem_insert_iff, mem_held, or_assoc]
  refine or_congr_right ⟨?_, ?_⟩
  · rintro (member | ⟨keeper, -, member⟩)
    · exact ⟨holder, member⟩
    · exact ⟨keeper, member⟩
  · rintro ⟨keeper, member⟩
    by_cases same : keeper = holder
    · exact .inl (same ▸ member)
    · exact .inr ⟨keeper, same, member⟩

/-- A holder that gives a thing up takes it out of what is held exactly when no other holder
holds it. -/
theorem held_update_diff_iff (holdings : Holder → Set Thing) (holder : Holder) (thing : Thing) :
    held (Function.update holdings holder (holdings holder \ {thing})) =
        held holdings \ {thing} ↔
      ∀ other, other ≠ holder → thing ∉ holdings other := by
  constructor
  · intro gone other different member
    have kept : thing ∈ held (Function.update holdings holder (holdings holder \ {thing})) :=
      mem_held_update.mpr (.inr ⟨other, different, member⟩)
    rw [gone] at kept
    exact kept.2 rfl
  · intro sole
    ext other
    rw [mem_held_update, Set.mem_sdiff, Set.mem_sdiff, mem_held, Set.mem_singleton_iff]
    constructor
    · rintro (⟨member, different⟩ | ⟨keeper, apart, member⟩)
      · exact ⟨⟨holder, member⟩, different⟩
      · refine ⟨⟨keeper, member⟩, ?_⟩
        rintro rfl
        exact sole keeper apart member
    · rintro ⟨⟨keeper, member⟩, different⟩
      by_cases same : keeper = holder
      · exact .inl ⟨same ▸ member, different⟩
      · exact .inr ⟨keeper, same, member⟩

/-- A holder that gives everything up changes nothing about what is held exactly when all of
it has another holder. -/
theorem held_update_empty_iff (holdings : Holder → Set Thing) (holder : Holder) :
    held (Function.update holdings holder ∅) = held holdings ↔
      ∀ thing ∈ holdings holder, ∃ other, other ≠ holder ∧ thing ∈ holdings other := by
  constructor
  · intro same thing member
    have kept : thing ∈ held holdings := mem_held.mpr ⟨holder, member⟩
    rw [← same, mem_held_update] at kept
    exact kept.resolve_left (Set.notMem_empty thing)
  · intro shared
    ext thing
    rw [mem_held_update, mem_held]
    constructor
    · rintro (member | ⟨other, -, member⟩)
      · exact absurd member (Set.notMem_empty thing)
      · exact ⟨other, member⟩
    · rintro ⟨keeper, member⟩
      by_cases same : keeper = holder
      · exact .inr (shared thing (same ▸ member))
      · exact .inr ⟨keeper, same, member⟩

end Held

section Places

variable {Place : Type u} {Thing : Type v}

/-- Apart from the null thing, nothing lies in two places. -/
def Sole (null : Thing) (contents : Place → Option Thing) : Prop :=
  ∀ thing, thing ≠ null → ∀ first second,
    contents first = some thing → contents second = some thing → first = second

variable {null : Thing} {contents after : Place → Option Thing}

/-- A change that puts new things into a single place only. -/
theorem Sole.change (sole : Sole null contents) (place : Place)
    (origin : ∀ thing, thing ≠ null → ∀ other, after other = some thing →
      contents other = some thing ∨
        other = place ∧ ∀ anywhere, contents anywhere ≠ some thing) : Sole null after := by
  intro thing proper first second inFirst inSecond
  rcases origin thing proper first inFirst with firstOld | ⟨firstPlace, absent⟩
  · rcases origin thing proper second inSecond with secondOld | ⟨-, absent⟩
    · exact sole thing proper first second firstOld secondOld
    · exact absurd firstOld (absent first)
  · rcases origin thing proper second inSecond with secondOld | ⟨secondPlace, -⟩
    · exact absurd secondOld (absent second)
    · exact firstPlace.trans secondPlace.symm

/-- A change that only takes things away. -/
theorem Sole.shrink (sole : Sole null contents)
    (origin : ∀ thing, thing ≠ null → ∀ other, after other = some thing →
      contents other = some thing) : Sole null after := by
  intro thing proper first second inFirst inSecond
  exact sole thing proper first second (origin thing proper first inFirst)
    (origin thing proper second inSecond)

end Places

section Agreement

variable {Place : Type u} {Value : Type v} {base now after : Place → Value}
  {place : Place} {taken : List Place}

/-- The places that are not taken hold what they held before. -/
def AgreeOff (taken : List Place) (base now : Place → Value) : Prop :=
  ∀ place, place ∉ taken → now place = base place

theorem AgreeOff.refl (base : Place → Value) : AgreeOff [] base base := fun _ _ => rfl

/-- One more place is taken. -/
theorem AgreeOff.take (agree : AgreeOff taken base now)
    (others : ∀ other, other ≠ place → after other = now other) :
    AgreeOff (taken ++ [place]) base after := by
  intro other free
  obtain ⟨notTaken, different⟩ := not_or.mp fun either => free (List.mem_append.mpr either)
  rw [others other fun same => different (List.mem_singleton.mpr same)]
  exact agree other notTaken

/-- A place is given back as it was before. -/
theorem AgreeOff.giveBack (agree : AgreeOff (place :: taken) base now)
    (restored : after place = base place)
    (others : ∀ other, other ≠ place → after other = now other) :
    AgreeOff taken base after := by
  intro other free
  by_cases same : other = place
  · rw [same, restored]
  · rw [others other same]
    exact agree other fun member => (List.mem_cons.mp member).elim same free

/-- When nothing is taken any more, every place holds what it held before. -/
theorem AgreeOff.eq (agree : AgreeOff [] base now) : now = base := by
  ext place
  exact agree place List.not_mem_nil

end Agreement

end Arpi.Semantics
