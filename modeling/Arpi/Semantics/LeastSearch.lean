import Mathlib.Data.List.MinMax

/-!
# Scanning for a least element

A scan keeps the entry with the least measure so far, the earlier one of two that tie, and
stops at a measure of zero. With nonnegative measures it finds the first least entry.
Where measures can be negative it can stop too early; `Wins` says which entry it settles
on then.
-/

namespace Arpi.Semantics

universe u v

variable {α : Type u} {β : Type v} [LinearOrder β] [Zero β]

/-- The scan, from the best entry so far and its measure. -/
def searchLeast (measure : α → β) : (best : Option α) → (least : β) → List α → Option α
  | best, _, [] => best
  | best, least, entry :: rest =>
      if measure entry < least then
        if measure entry = 0 then some entry
        else searchLeast measure (some entry) (measure entry) rest
      else searchLeast measure best least rest

/-- The first entry of least measure. -/
def firstLeast (measure : α → β) (entries : List α) : Option α := entries.argmin measure

/-- An entry of measure zero comes after entries of positive measures only. -/
def StopsWithin (measure : α → β) (entries : List α) : Prop :=
  ∃ front stop back, entries = front ++ stop :: back ∧ measure stop = 0 ∧
    ∀ entry ∈ front, 0 < measure entry

/-- The scan settles on this entry: all entries before it measure more, none of them ends
the scan, and it ends the scan itself unless the entries after it measure no less. -/
def Wins (measure : α → β) (entries : List α) (winner : α) : Prop :=
  ∃ front back, entries = front ++ winner :: back ∧
    (∀ entry ∈ front, measure winner < measure entry) ∧
    (measure winner = 0 ∨ ∀ entry ∈ back, measure winner ≤ measure entry) ∧
    ¬ StopsWithin measure front

variable {measure : α → β}

/-- Where a scan has a stop, it is at the first entry or after a positive one. -/
theorem stopsWithin_cons {head : α} {rest : List α} :
    StopsWithin measure (head :: rest) ↔
      measure head = 0 ∨ 0 < measure head ∧ StopsWithin measure rest := by
  constructor
  · rintro ⟨front, stop, back, split, zero, positive⟩
    cases front with
    | nil =>
        obtain ⟨rfl, rfl⟩ := List.cons.inj split
        exact .inl zero
    | cons first front =>
        obtain ⟨rfl, rfl⟩ := List.cons.inj split
        exact .inr ⟨positive _ List.mem_cons_self, front, stop, back, rfl, zero,
          fun entry listed => positive entry (List.mem_cons_of_mem _ listed)⟩
  · rintro (zero | ⟨above, front, stop, back, rfl, zero, positive⟩)
    · exact ⟨[], head, rest, rfl, zero, by simp⟩
    · exact ⟨head :: front, stop, back, rfl, zero, List.forall_mem_cons.mpr ⟨above, positive⟩⟩

theorem not_stopsWithin_nil : ¬ StopsWithin measure [] := by
  rintro ⟨front, stop, back, split, -⟩
  simp at split

/-- Of two entries that win, neither is before the other. -/
theorem Wins.not_before {front between back : List α} {winner loser : α}
    (stops : measure winner = 0 ∨
      ∀ entry ∈ between ++ loser :: back, measure winner ≤ measure entry)
    (leads : ∀ entry ∈ front, measure winner < measure entry)
    (least : measure loser < measure winner)
    (unstopped : ¬ StopsWithin measure (front ++ winner :: between)) : False := by
  rcases stops with zero | smallest
  · exact unstopped ⟨front, winner, between, rfl, zero, fun entry listed =>
      zero ▸ leads entry listed⟩
  · exact (smallest loser (by simp)).not_gt least

/-- At most one entry wins. -/
theorem Wins.unique {entries : List α} {winner winner' : α} (first : Wins measure entries winner)
    (second : Wins measure entries winner') : winner = winner' := by
  obtain ⟨front, back, split, leads, stops, unstopped⟩ := first
  obtain ⟨front', back', split', leads', stops', unstopped'⟩ := second
  rcases List.append_eq_append_iff.mp (split.symm.trans split') with
    ⟨between, rfl, rest⟩ | ⟨between, rfl, rest⟩
  · cases between with
    | nil => exact (List.cons.inj rest).1
    | cons head between =>
        obtain ⟨rfl, rfl⟩ := List.cons.inj rest
        exact (Wins.not_before stops leads (leads' _ (by simp)) unstopped').elim
  · cases between with
    | nil => exact (List.cons.inj rest).1.symm
    | cons head between =>
        obtain ⟨rfl, rfl⟩ := List.cons.inj rest
        exact (Wins.not_before stops' leads' (leads _ (by simp)) unstopped).elim

/-- Who wins depends on the measures of the entries only. -/
theorem Wins.congr {measure' : α → β} {entries : List α} {winner : α}
    (wins : Wins measure entries winner)
    (same : ∀ entry ∈ entries, measure entry = measure' entry) : Wins measure' entries winner := by
  obtain ⟨front, back, rfl, leads, stops, unstopped⟩ := wins
  simp only [List.forall_mem_append, List.forall_mem_cons] at same
  obtain ⟨sameFront, sameWinner, sameBack⟩ := same
  refine ⟨front, back, rfl, fun entry listed => ?_, ?_, ?_⟩
  · rw [← sameWinner, ← sameFront entry listed]
    exact leads entry listed
  · rcases stops with zero | smallest
    · exact .inl (sameWinner ▸ zero)
    · refine .inr fun entry listed => ?_
      rw [← sameWinner, ← sameBack entry listed]
      exact smallest entry listed
  · rintro ⟨before, stop, after, rfl, zero, positive⟩
    refine unstopped ⟨before, stop, after, rfl, (sameFront stop (by simp)).trans zero,
      fun entry listed => ?_⟩
    rw [sameFront entry (by simp [listed])]
    exact positive entry listed

/-- A scan keeps what it has if no entry is below the bound. What it finds instead leads the
entries before it, and none of them ends a scan from a positive bound. -/
theorem searchLeast_cases (measure : α → β) (best : Option α) (least : β) (entries : List α) :
    (searchLeast measure best least entries = best ∧ ∀ entry ∈ entries, least ≤ measure entry) ∨
      ∃ front winner back, searchLeast measure best least entries = some winner ∧
        entries = front ++ winner :: back ∧ measure winner < least ∧
        (∀ entry ∈ front, measure winner < measure entry) ∧
        (measure winner = 0 ∨ ∀ entry ∈ back, measure winner ≤ measure entry) ∧
        (0 < least → ¬ StopsWithin measure front) := by
  induction entries generalizing best least with
  | nil => exact .inl ⟨rfl, by simp⟩
  | cons head rest ih =>
      by_cases closer : measure head < least
      · by_cases zero : measure head = 0
        · refine .inr ⟨[], head, rest, ?_, rfl, closer, by simp, .inl zero,
            fun _ => not_stopsWithin_nil⟩
          simp only [searchLeast, if_pos closer, if_pos zero]
        · have step : searchLeast measure best least (head :: rest) =
              searchLeast measure (some head) (measure head) rest := by
            simp only [searchLeast, if_pos closer, if_neg zero]
          rw [step]
          rcases ih (some head) (measure head) with
            ⟨kept, others⟩ | ⟨front, winner, back, found, rfl, below, leads, stops, unstopped⟩
          · exact .inr ⟨[], head, rest, kept, rfl, closer, by simp, .inr others,
              fun _ => not_stopsWithin_nil⟩
          · refine .inr ⟨head :: front, winner, back, found, rfl, below.trans closer,
              List.forall_mem_cons.mpr ⟨below, leads⟩, stops, fun _ stopped => ?_⟩
            rcases stopsWithin_cons.mp stopped with same | ⟨above, later⟩
            · exact zero same
            · exact unstopped above later
      · have step : searchLeast measure best least (head :: rest) =
            searchLeast measure best least rest := by
          simp only [searchLeast, if_neg closer]
        rw [step]
        rcases ih best least with
          ⟨kept, others⟩ | ⟨front, winner, back, found, rfl, below, leads, stops, unstopped⟩
        · exact .inl ⟨kept, List.forall_mem_cons.mpr ⟨not_lt.mp closer, others⟩⟩
        · have farther := not_lt.mp closer
          refine .inr ⟨head :: front, winner, back, found, rfl, below,
            List.forall_mem_cons.mpr ⟨below.trans_le farther, leads⟩, stops,
            fun positive stopped => ?_⟩
          rcases stopsWithin_cons.mp stopped with same | ⟨-, later⟩
          · exact (positive.trans_le farther).ne' same
          · exact unstopped positive later

/-- From a positive bound that no measure exceeds, the scan settles on the entry that wins; it
falls back to the first one. -/
theorem searchLeast_or_head_eq_some_iff {bound : β} {entries : List α} {winner : α}
    (positive : 0 < bound) (bounded : ∀ entry ∈ entries, measure entry ≤ bound) :
    (searchLeast measure none bound entries).or entries.head? = some winner ↔
      Wins measure entries winner := by
  have settles : ∀ settled, (searchLeast measure none bound entries).or entries.head? =
      some settled → Wins measure entries settled := by
    intro settled picked
    rcases searchLeast_cases measure none bound entries with
      ⟨kept, others⟩ | ⟨front, found, back, search, split, -, leads, stops, unstopped⟩
    · rw [kept, Option.none_or] at picked
      obtain ⟨rest, rfl⟩ := List.head?_eq_some_iff.mp picked
      refine ⟨[], rest, rfl, by simp, .inr fun entry listed => ?_, not_stopsWithin_nil⟩
      exact (bounded settled List.mem_cons_self).trans
        (others entry (List.mem_cons_of_mem _ listed))
    · rw [search, Option.some_or] at picked
      obtain rfl := Option.some.inj picked
      exact ⟨front, back, split, leads, stops, unstopped positive⟩
  refine ⟨settles winner, fun wins => ?_⟩
  cases picked : (searchLeast measure none bound entries).or entries.head? with
  | some settled => rw [Wins.unique (settles settled picked) wins]
  | none =>
      obtain ⟨front, back, rfl, -⟩ := wins
      cases front <;> simp at picked

omit [Zero β] in
theorem firstLeast_eq_none {entries : List α} :
    firstLeast measure entries = none ↔ entries = [] := List.argmin_eq_none

/-- With measures that are not negative, the entry that wins is the first of least measure. -/
theorem wins_of_firstLeast {entries : List α} {least : α}
    (nonnegative : ∀ entry ∈ entries, 0 ≤ measure entry)
    (smallest : firstLeast measure entries = some least) : Wins measure entries least := by
  unfold firstLeast at smallest
  induction entries generalizing least with
  | nil => simp at smallest
  | cons head rest ih =>
      obtain ⟨headNonnegative, restNonnegative⟩ := List.forall_mem_cons.mp nonnegative
      rw [List.argmin_cons] at smallest
      cases later : rest.argmin measure with
      | none =>
          obtain rfl := List.argmin_eq_none.mp later
          simp only [later] at smallest
          obtain rfl := Option.some.inj smallest
          exact ⟨[], [], rfl, by simp, by simp, not_stopsWithin_nil⟩
      | some next =>
          simp only [later] at smallest
          split at smallest
          next closer =>
            obtain rfl := Option.some.inj smallest
            obtain ⟨front, back, rfl, leads, stops, unstopped⟩ := ih restNonnegative later
            refine ⟨head :: front, back, rfl, List.forall_mem_cons.mpr ⟨closer, leads⟩, stops,
              fun stopped => ?_⟩
            rcases stopsWithin_cons.mp stopped with zero | ⟨-, within⟩
            · exact (restNonnegative _ (by simp)).not_gt (zero ▸ closer)
            · exact unstopped within
          next closest =>
            obtain rfl := Option.some.inj smallest
            refine ⟨[], rest, rfl, by simp, .inr fun entry listed => ?_, not_stopsWithin_nil⟩
            exact (not_lt.mp closest).trans (List.le_of_mem_argmin listed later)

/-- Of the entries with a property, the first one also leads those with a narrower one. -/
theorem find?_of_narrower {wide narrow : α → Prop} [DecidablePred wide]
    [DecidablePred narrow] {entries : List α} {first : α}
    (narrower : ∀ entry, narrow entry → wide entry)
    (found : entries.find? (fun entry => wide entry) = some first) (meets : narrow first) :
    entries.find? (fun entry => narrow entry) = some first := by
  obtain ⟨-, front, back, rfl, others⟩ := List.find?_eq_some_iff_append.mp found
  refine List.find?_eq_some_iff_append.mpr
    ⟨decide_eq_true meets, front, back, rfl, fun entry listed => ?_⟩
  have outside := others entry listed
  simp only [Bool.not_eq_true', decide_eq_false_iff_not] at outside ⊢
  exact fun inside => outside (narrower entry inside)

/-- Where a measure that is not negative is zero, it is least there first. -/
theorem firstLeast_eq_find? {entries : List α} [DecidableEq β]
    (nonnegative : ∀ entry ∈ entries, 0 ≤ measure entry)
    (zero : ∃ entry ∈ entries, measure entry = 0) :
    firstLeast measure entries = entries.find? fun entry => measure entry = 0 := by
  unfold firstLeast
  induction entries with
  | nil => simp at zero
  | cons head rest ih =>
      obtain ⟨headNonnegative, restNonnegative⟩ := List.forall_mem_cons.mp nonnegative
      rw [List.argmin_cons]
      by_cases headZero : measure head = 0
      · rw [List.find?_cons_of_pos (by simpa using headZero)]
        cases later : rest.argmin measure with
        | none => rfl
        | some next =>
            have nextNonnegative := restNonnegative next (List.argmin_mem later)
            exact if_neg (by rw [headZero]; exact not_lt.mpr nextNonnegative)
      · obtain ⟨entry, listed, entryZero⟩ := zero
        have listed : entry ∈ rest := by
          rcases List.mem_cons.mp listed with rfl | listed
          · exact absurd entryZero headZero
          · exact listed
        rw [List.find?_cons_of_neg (by simpa using headZero),
          ← ih restNonnegative ⟨entry, listed, entryZero⟩]
        cases later : rest.argmin measure with
        | none => simp [List.argmin_eq_none.mp later] at listed
        | some next =>
            have below : measure next ≤ 0 :=
              (List.le_of_mem_argmin listed later).trans_eq entryZero
            exact if_pos (below.trans_lt (headNonnegative.lt_of_ne' headZero))

end Arpi.Semantics
