import Mathlib.Algebra.Order.Ring.Int
import Mathlib.Order.Bounds.Basic
import Mathlib.Tactic.Linarith

/-!
# Periodic timers

The slots of a timer are the multiples of its period. A round reads the clock, takes the
least slot that is neither in the past nor used up, and sleeps until then; only a round that
fires uses up its slot. A timer that keeps the next slot and catches up by a division takes
just these slots, however the clock jumps and whichever sleeps fail.
-/

namespace Arpi.Semantics

universe u

/-- Each entry of a list is related to the one before it, the first one to what came before
the list. -/
def EachFrom {α : Type u} (relation : Option α → α → Prop) : Option α → List α → Prop
  | _, [] => True
  | previous, entry :: rest => relation previous entry ∧ EachFrom relation (some entry) rest

namespace PeriodicTimer

/-- A round of a timer. -/
structure Round where
  reading : Int
  deadline : Int
  fired : Bool
deriving DecidableEq

/-- The slots from a bound on. -/
def SlotsFrom (period bound : Int) : Set Int := {slot | period ∣ slot ∧ bound ≤ slot}

/-- The last round has not used up the slot, and did not leave it behind. -/
def Open (previous : Option Round) (slot : Int) : Prop :=
  ∀ last ∈ previous, if last.fired then last.deadline < slot else last.deadline ≤ slot

/-- The slots that a round may take after another one. -/
def Admissible (period : Int) (previous : Option Round) (reading : Int) : Set Int :=
  {slot | slot ∈ SlotsFrom period reading ∧ Open previous slot}

/-- A round takes the first admissible slot; the open slots before it are in the past. -/
structure Scheduled (period : Int) (previous : Option Round) (round : Round) : Prop where
  least : IsLeast (Admissible period previous round.reading) round.deadline
  unskipped : ∀ slot, period ∣ slot → Open previous slot → slot < round.deadline →
    slot < round.reading

/-- The next slot, moved on to the reading by as many periods as it takes, rounded up. -/
def catchUp (period slot reading : Int) : Int :=
  if slot < reading then slot + period * ((reading - slot + period - 1) / period) else slot

/-- The slot that a round leaves for the next one. -/
def following (period : Int) (round : Round) : Int :=
  if round.fired then round.deadline + period else round.deadline

/-- The rounds of a timer, from its next slot, for the readings of its clock and the outcomes
of its sleeps. -/
def rounds (period : Int) : (next : Int) → List (Int × Bool) → List Round
  | _, [] => []
  | next, (reading, fired) :: rest =>
      let round : Round := ⟨reading, catchUp period next reading, fired⟩
      round :: rounds period (following period round) rest

section Slots

variable {period slot other reading : Int}

/-- Of two slots less than a period apart, the first is not the later one. -/
theorem le_of_lt_add (aligned : period ∣ slot) (aligned' : period ∣ other)
    (close : slot < other + period) : slot ≤ other := by
  by_contra later
  have apart : period ≤ slot - other := Int.le_of_dvd (by omega) (Int.dvd_sub aligned aligned')
  omega

theorem dvd_catchUp (aligned : period ∣ slot) : period ∣ catchUp period slot reading := by
  unfold catchUp
  split
  · exact Int.dvd_add aligned (Int.dvd_mul_right _ _)
  · exact aligned

/-- Catching up goes less than a period beyond the reading. -/
theorem catchUp_bounds (positive : 0 < period) :
    slot ≤ catchUp period slot reading ∧ reading ≤ catchUp period slot reading ∧
      (catchUp period slot reading = slot ∨ catchUp period slot reading < reading + period) := by
  unfold catchUp
  split
  next behind =>
    have upper := Int.mul_ediv_self_le (x := reading - slot + period - 1) positive.ne'
    have lower := Int.lt_mul_ediv_self_add (x := reading - slot + period - 1) positive
    omega
  next ahead => omega

/-- Catching up ends at the first slot that is due no earlier than the slot and the reading. -/
theorem catchUp_isLeast (positive : 0 < period) (aligned : period ∣ slot) :
    IsLeast (SlotsFrom period (max slot reading)) (catchUp period slot reading) := by
  obtain ⟨fromSlot, fromReading, close⟩ : slot ≤ catchUp period slot reading ∧ _ ∧ _ :=
    catchUp_bounds positive
  refine ⟨⟨dvd_catchUp aligned, max_le fromSlot fromReading⟩, ?_⟩
  rintro candidate ⟨candidateAligned, bound⟩
  obtain ⟨afterSlot, afterReading⟩ := max_le_iff.mp bound
  rcases close with same | close
  · rw [same]
    exact afterSlot
  · exact le_of_lt_add (dvd_catchUp aligned) candidateAligned (by omega)

end Slots

section Rounds

variable {period : Int}

/-- The slot after a round is the first open one. -/
theorem open_iff {last : Round} {slot : Int} (positive : 0 < period)
    (lastAligned : period ∣ last.deadline) (aligned : period ∣ slot) :
    Open (some last) slot ↔ following period last ≤ slot := by
  simp only [Open, Option.mem_some_iff, forall_eq', following]
  split
  · constructor
    · intro after
      refine le_of_lt_add (Int.dvd_add lastAligned (Int.dvd_refl _)) aligned ?_
      omega
    · intro after
      omega
  · rfl

/-- The admissible slots are those from the next slot and from the reading on. -/
theorem admissible_eq {previous : Option Round} {reading next : Int}
    (opens : ∀ slot, period ∣ slot → reading ≤ slot → (Open previous slot ↔ next ≤ slot)) :
    Admissible period previous reading = SlotsFrom period (max next reading) := by
  ext slot
  constructor
  · rintro ⟨⟨aligned, afterReading⟩, isOpen⟩
    exact ⟨aligned, max_le ((opens slot aligned afterReading).mp isOpen) afterReading⟩
  · rintro ⟨aligned, bound⟩
    obtain ⟨afterNext, afterReading⟩ := max_le_iff.mp bound
    exact ⟨⟨aligned, afterReading⟩, (opens slot aligned afterReading).mpr afterNext⟩

/-- A round that catches up is scheduled. -/
theorem scheduled_catchUp {previous : Option Round} {reading next : Int} (positive : 0 < period)
    (aligned : period ∣ next)
    (opens : ∀ slot, period ∣ slot → reading ≤ slot → (Open previous slot ↔ next ≤ slot))
    (fired : Bool) : Scheduled period previous ⟨reading, catchUp period next reading, fired⟩ := by
  have least : IsLeast (SlotsFrom period (max next reading)) (catchUp period next reading) :=
    catchUp_isLeast positive aligned
  rw [← admissible_eq opens] at least
  refine ⟨least, fun slot slotAligned isOpen before => ?_⟩
  by_contra ahead
  exact (least.2 ⟨⟨slotAligned, not_lt.mp ahead⟩, isOpen⟩).not_gt before

/-- Every round of a timer is scheduled, after another round. -/
theorem scheduled_rounds_of_some {last : Round} (positive : 0 < period)
    (aligned : period ∣ last.deadline) (outcomes : List (Int × Bool)) :
    EachFrom (Scheduled period) (some last) (rounds period (following period last) outcomes) := by
  induction outcomes generalizing last with
  | nil => trivial
  | cons outcome rest ih =>
      obtain ⟨reading, fired⟩ := outcome
      have nextAligned : period ∣ following period last := by
        unfold following
        split
        · exact Int.dvd_add aligned (Int.dvd_refl _)
        · exact aligned
      exact ⟨scheduled_catchUp positive nextAligned
        (fun slot slotAligned _ => open_iff positive aligned slotAligned) fired,
        ih (dvd_catchUp nextAligned)⟩

/-- Every round of a timer is scheduled, if its clock starts at its first slot or later. -/
theorem scheduled_rounds (positive : 0 < period) {outcomes : List (Int × Bool)}
    (started : ∀ outcome ∈ outcomes, 0 ≤ outcome.1) :
    EachFrom (Scheduled period) none (rounds period 0 outcomes) := by
  cases outcomes with
  | nil => trivial
  | cons outcome rest =>
      obtain ⟨reading, fired⟩ := outcome
      have first : 0 ≤ reading := started _ List.mem_cons_self
      refine ⟨scheduled_catchUp positive (Int.dvd_zero _) (fun slot _ afterReading => ?_) fired,
        scheduled_rounds_of_some positive (dvd_catchUp (Int.dvd_zero _)) rest⟩
      simp only [Open, Option.not_mem_none, false_imp_iff, implies_true, true_iff]
      omega

/-- A later round has a later deadline, or the same one after a sleep that failed. -/
def Precedes (earlier later : Round) : Prop :=
  earlier.deadline ≤ later.deadline ∧ (earlier.fired = true → earlier.deadline < later.deadline)

theorem Scheduled.precedes {last round : Round} (scheduled : Scheduled period (some last) round) :
    Precedes last round := by
  have isOpen := scheduled.least.1.2 last rfl
  unfold Precedes
  split at isOpen
  next fired => exact ⟨isOpen.le, fun _ => isOpen⟩
  next failed => exact ⟨isOpen, fun fired => absurd fired failed⟩

/-- A round precedes everything that is scheduled after it. -/
theorem precedes_of_eachFrom {last : Round} {later : List Round}
    (scheduled : EachFrom (Scheduled period) (some last) later) :
    ∀ round ∈ later, Precedes last round := by
  induction later generalizing last with
  | nil => simp
  | cons head rest ih =>
      obtain ⟨here, after⟩ := scheduled
      have first := here.precedes
      refine List.forall_mem_cons.mpr ⟨first, fun round listed => ?_⟩
      have second := ih after round listed
      exact ⟨first.1.trans second.1, fun fired => (first.2 fired).trans_le second.1⟩

/-- The deadlines of a scheduled timer only grow, and those that fire grow strictly. -/
theorem pairwise_precedes {previous : Option Round} {list : List Round}
    (scheduled : EachFrom (Scheduled period) previous list) : list.Pairwise Precedes := by
  induction list generalizing previous with
  | nil => exact .nil
  | cons head rest ih =>
      obtain ⟨-, after⟩ := scheduled
      exact .cons (precedes_of_eachFrom after) (ih after)

end Rounds

end PeriodicTimer

end Arpi.Semantics
