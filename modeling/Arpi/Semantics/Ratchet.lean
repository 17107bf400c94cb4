import Mathlib.Algebra.Order.Group.Int
import Mathlib.Algebra.Order.Monoid.Unbundled.MinMax
import Mathlib.Data.List.Induction
import Mathlib.Order.Bounds.Basic

/-!
# Ratchets

Every turn of a ratchet moves its mark on by an amount, and up to a floor if the mark is still
below it. After any turns the mark is the greatest of finitely many sums: all amounts from the
first mark, or the floor of one of the turns and the amounts after it.
-/

namespace Arpi.Semantics.Ratchet

universe u

/-- A turn, with the amount that it adds and the floor that it does not stay below. -/
structure Turn (Time : Type u) where
  amount : Time
  floor : Time

variable {Time : Type u} [AddCommMonoid Time]

/-- All amounts together. -/
def total (turns : List (Turn Time)) : Time := (turns.map Turn.amount).sum

/-- The sums that the mark is the greatest of. -/
def Sums (mark : Time) (turns : List (Turn Time)) : Set Time :=
  {time | time = mark + total turns ∨
    ∃ before turn after, turns = before ++ turn :: after ∧ time = turn.floor + total after}

variable {mark : Time} {last : Turn Time} {list : List (Turn Time)}

@[simp] theorem total_nil : total ([] : List (Turn Time)) = 0 := rfl

theorem total_append : total (list ++ [last]) = total list + last.amount := by
  simp [total]

/-- The floor of the last turn stands for itself, and all other sums gain its amount. -/
theorem mem_sums_append {time : Time} :
    time ∈ Sums mark (list ++ [last]) ↔
      (∃ earlier ∈ Sums mark list, time = earlier + last.amount) ∨ time = last.floor := by
  constructor
  · rintro (rfl | ⟨before, turn, after, split, rfl⟩)
    · exact .inl ⟨mark + total list, .inl rfl, by rw [total_append, add_assoc]⟩
    · rcases List.eq_nil_or_concat after with rfl | ⟨front, final, rfl⟩
      · obtain ⟨-, same⟩ := List.append_inj' split rfl
        obtain rfl : last = turn := by simpa using same
        exact .inr (by rw [total_nil, add_zero])
      · rw [List.concat_eq_append, ← List.cons_append, ← List.append_assoc] at split
        obtain ⟨earlier, same⟩ := List.append_inj' split rfl
        obtain rfl : last = final := by simpa using same
        refine .inl ⟨turn.floor + total front, .inr ⟨before, turn, front, earlier, rfl⟩, ?_⟩
        rw [List.concat_eq_append, total_append, add_assoc]
  · rintro (⟨earlier, (rfl | ⟨before, turn, after, rfl, rfl⟩), rfl⟩ | rfl)
    · exact .inl (by rw [total_append, add_assoc])
    · refine .inr ⟨before, turn, after ++ [last], by simp, ?_⟩
      rw [total_append, add_assoc]
    · exact .inr ⟨list, last, [], rfl, by rw [total_nil, add_zero]⟩

variable [LinearOrder Time]

/-- A turn moves the mark. -/
def turn (mark : Time) (turn : Turn Time) : Time := max (mark + turn.amount) turn.floor

/-- The mark after all turns. -/
def turns (mark : Time) (turns : List (Turn Time)) : Time := turns.foldl turn mark

@[simp] theorem turns_nil : turns mark [] = mark := rfl

theorem turns_append : turns mark (list ++ [last]) = turn (turns mark list) last :=
  List.foldl_append

theorem floor_le_turns_append (mark : Time) (list : List (Turn Time)) (last : Turn Time) :
    last.floor ≤ turns mark (list ++ [last]) := by
  rw [turns_append]
  exact le_max_right _ _

variable [IsOrderedAddMonoid Time]

/-- The mark is the greatest of its sums. -/
theorem turns_isGreatest : IsGreatest (Sums mark list) (turns mark list) := by
  induction list using List.reverseRecOn with
  | nil =>
      refine ⟨.inl (by rw [turns_nil, total_nil, add_zero]), ?_⟩
      rintro time (rfl | ⟨before, turn, after, split, -⟩)
      · rw [turns_nil, total_nil, add_zero]
      · simp at split
  | append_singleton list last ih =>
      rw [turns_append, turn]
      refine ⟨?_, ?_⟩
      · rw [mem_sums_append]
        rcases max_choice (turns mark list + last.amount) last.floor with moved | lifted
        · exact .inl ⟨_, ih.1, moved⟩
        · exact .inr lifted
      · intro time member
        rcases mem_sums_append.mp member with ⟨earlier, sum, rfl⟩ | rfl
        · exact (add_le_add_left (ih.2 sum) _).trans (le_max_left _ _)
        · exact le_max_right _ _

/-- Nothing of the amounts is lost. -/
theorem add_total_le_turns : mark + total list ≤ turns mark list :=
  turns_isGreatest.2 (.inl rfl)

/-- A turn that adds nothing negative does not move the mark back. -/
theorem turns_le_turns_append (forward : 0 ≤ last.amount) :
    turns mark list ≤ turns mark (list ++ [last]) := by
  rw [turns_append]
  exact (le_add_of_nonneg_right forward).trans (le_max_left _ _)

end Arpi.Semantics.Ratchet
