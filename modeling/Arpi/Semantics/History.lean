import Mathlib.Data.List.Basic
import Mathlib.Data.List.Induction
import Mathlib.Tactic.Tauto

/-!
# What a history has seen

A history lists what happened, oldest first. `Since reset goal` says that some event met
its goal and that nothing has reset it since; the goal may look at what came after the
event. `Justified reason` says that every event had its reason in what came before it.
-/

namespace Arpi.Semantics

universe u

variable {Event : Type u}

/-- An event met the goal, given what came after it, and nothing after it was a reset. -/
def Since (reset : Event → Prop) (goal : Event → List Event → Prop)
    (history : List Event) : Prop :=
  ∃ before event after, history = before ++ event :: after ∧ goal event after ∧
    ∀ later ∈ after, ¬ reset later

namespace Since

variable {reset : Event → Prop} {goal weaker : Event → List Event → Prop}
  {history : List Event} {last : Event}

/-- Nothing has happened in an empty history. -/
theorem not_nil : ¬ Since reset goal [] := by
  rintro ⟨before, event, after, split, -⟩
  simp at split

/-- A history that gains an event: either this is the event, or it came earlier and the
new one is no reset. -/
theorem append_iff :
    Since reset goal (history ++ [last]) ↔
      goal last [] ∨
        ¬ reset last ∧ Since reset (fun event after => goal event (after ++ [last])) history := by
  constructor
  · rintro ⟨before, event, after, split, met, quiet⟩
    rcases List.eq_nil_or_concat after with rfl | ⟨front, final, rfl⟩
    · obtain ⟨-, same⟩ := List.append_inj' split rfl
      obtain rfl : last = event := by simpa using same
      exact .inl met
    · rw [List.concat_eq_append, ← List.cons_append, ← List.append_assoc] at split
      obtain ⟨earlier, same⟩ := List.append_inj' split rfl
      obtain rfl : last = final := by simpa using same
      refine .inr ⟨quiet last (by simp), before, event, front, earlier, ?_, ?_⟩
      · simpa using met
      · intro later member
        exact quiet later (by simp [member])
  · rintro (met | ⟨noReset, before, event, after, rfl, met, quiet⟩)
    · exact ⟨history, last, [], rfl, met, by simp⟩
    · refine ⟨before, event, after ++ [last], by simp, met, ?_⟩
      intro later member
      rcases List.mem_append.mp member with earlier | final
      · exact quiet later earlier
      · obtain rfl : later = last := by simpa using final
        exact noReset

/-- A goal that implies another one. -/
theorem mono (weaken : ∀ event after, goal event after → weaker event after)
    (since : Since reset goal history) : Since reset weaker history := by
  obtain ⟨before, event, after, split, met, quiet⟩ := since
  exact ⟨before, event, after, split, weaken event after met, quiet⟩

/-- A goal that survives the next event, which is no reset. -/
theorem append (noReset : ¬ reset last)
    (survives : ∀ event after, goal event after → weaker event (after ++ [last]))
    (since : Since reset goal history) : Since reset weaker (history ++ [last]) :=
  append_iff.mpr (.inr ⟨noReset, since.mono survives⟩)

end Since

/-- Every event had its reason in what came before it. -/
def Justified (reason : List Event → Event → Prop) (history : List Event) : Prop :=
  ∀ before event after, history = before ++ event :: after → reason before event

namespace Justified

variable {reason : List Event → Event → Prop} {history : List Event} {last : Event}

theorem nil : Justified reason [] := by
  intro before event after split
  simp at split

/-- A history that gains an event with a reason. -/
theorem append_iff :
    Justified reason (history ++ [last]) ↔ Justified reason history ∧ reason history last := by
  constructor
  · intro justified
    refine ⟨?_, justified history last [] rfl⟩
    rintro before event after rfl
    exact justified before event (after ++ [last]) (by simp)
  · rintro ⟨justified, here⟩ before event after split
    rcases List.eq_nil_or_concat after with rfl | ⟨front, final, rfl⟩
    · obtain ⟨rfl, same⟩ := List.append_inj' split rfl
      obtain rfl : last = event := by simpa using same
      exact here
    · rw [List.concat_eq_append, ← List.cons_append, ← List.append_assoc] at split
      exact justified before event front (List.append_inj' split rfl).1

theorem append (justified : Justified reason history) (here : reason history last) :
    Justified reason (history ++ [last]) :=
  append_iff.mpr ⟨justified, here⟩

/-- The first part of a history. -/
theorem initialPart {front : List Event} (justified : Justified reason history)
    (initial : front <+: history) : Justified reason front := by
  obtain ⟨back, rfl⟩ := initial
  rintro before event after rfl
  exact justified before event (after ++ back) (by simp)

/-- The events of a kind, if each of them has its reason among its kind. -/
theorem filter {kind : Event → Bool} {weaker : List Event → Event → Prop}
    (among : ∀ before event, kind event = true → reason before event →
      weaker (before.filter kind) event)
    (justified : Justified reason history) : Justified weaker (history.filter kind) := by
  induction history using List.reverseRecOn with
  | nil => exact nil
  | append_singleton front last ih =>
      obtain ⟨earlier, here⟩ := append_iff.mp justified
      rw [List.filter_append]
      cases kept : kind last with
      | false => simpa [kept] using ih earlier
      | true => simpa [kept] using (ih earlier).append (among front last kept here)

end Justified

end Arpi.Semantics
