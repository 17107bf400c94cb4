import Arpi.Semantics.PeriodicTimer

/-!
# How often a timer fires

A timer wakes at times of the clock, some time after the deadlines that it sleeps until. However
late it wakes, it does not make up for the slots that it has missed: a window of time holds at
most one slot a period, and besides these only the first wake in the window can be one for a
slot before it.
-/

namespace Arpi.Semantics.PeriodicTimer

/-- A round, with the time at which the timer was woken. -/
structure Wake where
  round : Round
  time : Int
deriving DecidableEq

/-- The clock does not go back: it is read, the timer sleeps and wakes, and then it is read
again. -/
structure Clocked (wakes : List Wake) : Prop where
  sleeps : ∀ wake ∈ wakes, wake.round.reading ≤ wake.time
  monotonic : wakes.Pairwise fun earlier later => earlier.time ≤ later.round.reading

/-- A sleep that fires has reached its deadline. -/
def Due (wake : Wake) : Prop := wake.round.fired = true → wake.round.deadline ≤ wake.time

section Slots

variable {period lower upper : Int}

/-- Different slots in a window are a period apart. -/
theorem length_slots_le (positive : 0 < period) {slots : List Int}
    (aligned : ∀ slot ∈ slots, period ∣ slot) (increasing : slots.Pairwise (· < ·))
    (inside : ∀ slot ∈ slots, lower ≤ slot ∧ slot ≤ upper) (window : lower ≤ upper) :
    slots.length * period ≤ upper - lower + period := by
  induction slots generalizing lower with
  | nil =>
      simp only [List.length_nil, Nat.cast_zero, Int.zero_mul]
      omega
  | cons slot rest ih =>
      obtain ⟨first, others⟩ := List.forall_mem_cons.mp inside
      obtain ⟨slotAligned, restAligned⟩ := List.forall_mem_cons.mp aligned
      obtain ⟨before, restIncreasing⟩ := List.pairwise_cons.mp increasing
      have apart : ∀ other ∈ rest, slot + period ≤ other := by
        intro other member
        refine le_of_lt_add (Int.dvd_add slotAligned (Int.dvd_refl _)) (restAligned other member) ?_
        have after := before other member
        omega
      have count : ((slot :: rest).length : Int) * period = rest.length * period + period := by
        rw [List.length_cons, Nat.cast_succ, Int.add_mul, Int.one_mul]
      rw [count]
      cases rest with
      | nil =>
          simp only [List.length_nil, Nat.cast_zero, Int.zero_mul]
          omega
      | cons second later =>
          have room : slot + period ≤ upper :=
            (apart second List.mem_cons_self).trans (others second List.mem_cons_self).2
          have bound := ih restAligned restIncreasing
            (fun other member => ⟨apart other member, (others other member).2⟩) room
          omega

end Slots

section Rates

variable {period : Int} {wakes : List Wake}

theorem aligned_of_eachFrom {previous : Option Round} {list : List Round}
    (scheduled : EachFrom (Scheduled period) previous list) :
    ∀ round ∈ list, period ∣ round.deadline ∧ round.reading ≤ round.deadline := by
  induction list generalizing previous with
  | nil => exact fun round member => absurd member List.not_mem_nil
  | cons head rest ih =>
      obtain ⟨here, later⟩ := scheduled
      exact List.forall_mem_cons.mpr ⟨here.least.1.1, ih later⟩

/-- A window holds at most a fire a period, and two more. -/
theorem length_fires_le (positive : 0 < period)
    (scheduled : EachFrom (Scheduled period) none (wakes.map Wake.round))
    (clocked : Clocked wakes) (due : ∀ wake ∈ wakes, Due wake) {fires : List Wake}
    (part : fires.Sublist wakes) (fired : ∀ wake ∈ fires, wake.round.fired = true)
    {lower upper : Int} (window : lower ≤ upper)
    (inside : ∀ wake ∈ fires, lower ≤ wake.time ∧ wake.time ≤ upper) :
    (fires.length : Int) ≤ (upper - lower) / period + 2 := by
  have precedes := (List.pairwise_map.mp (pairwise_precedes scheduled)).sublist part
  have monotonic := clocked.monotonic.sublist part
  have right : ∀ wake ∈ fires, period ∣ wake.round.deadline ∧
      wake.round.reading ≤ wake.round.deadline := fun wake member =>
    aligned_of_eachFrom scheduled wake.round (List.mem_map_of_mem (part.subset member))
  have reached : ∀ wake ∈ fires, wake.round.deadline ≤ wake.time := fun wake member =>
    due wake (part.subset member) (fired wake member)
  have quotient : 0 ≤ (upper - lower) / period := Int.ediv_nonneg (by omega) positive.le
  cases fires with
  | nil =>
      rw [List.length_nil, Nat.cast_zero]
      omega
  | cons first rest =>
      -- Only the deadline of the first wake can lie before the window.
      obtain ⟨-, increasing⟩ := List.pairwise_cons.mp precedes
      obtain ⟨after, -⟩ := List.pairwise_cons.mp monotonic
      obtain ⟨-, restFired⟩ := List.forall_mem_cons.mp fired
      obtain ⟨firstInside, restInside⟩ := List.forall_mem_cons.mp inside
      obtain ⟨-, restRight⟩ := List.forall_mem_cons.mp right
      obtain ⟨-, restReached⟩ := List.forall_mem_cons.mp reached
      have slots : ((rest.map fun wake => wake.round.deadline).length : Int) * period ≤
          upper - lower + period := by
        refine length_slots_le positive ?_ ?_ ?_ window
        · exact List.forall_mem_map.mpr fun wake member => (restRight wake member).1
        · refine List.pairwise_map.mpr (increasing.imp_of_mem fun member _ before => ?_)
          exact before.2 (restFired _ member)
        · refine List.forall_mem_map.mpr fun wake member => ⟨?_, ?_⟩
          · exact firstInside.1.trans ((after wake member).trans (restRight wake member).2)
          · exact (restReached wake member).trans (restInside wake member).2
      rw [List.length_map] at slots
      have bound : (rest.length : Int) - 1 ≤ (upper - lower) / period := by
        apply Int.le_ediv_of_mul_le positive
        rw [Int.sub_mul, Int.one_mul]
        omega
      rw [List.length_cons, Nat.cast_succ]
      omega

/-- A round takes a slot that is less than a period from its reading, or the next slot. -/
theorem Scheduled.deadline_le {previous : Option Round} {round : Round} {next : Int}
    (scheduled : Scheduled period previous round) (positive : 0 < period) (aligned : period ∣ next)
    (opens : ∀ slot, period ∣ slot → next ≤ slot → Open previous slot)
    (close : next ≤ round.reading + period) : round.deadline ≤ round.reading + period := by
  obtain ⟨fromNext, fromReading, near⟩ : next ≤ catchUp period next round.reading ∧ _ ∧ _ :=
    catchUp_bounds positive
  have slotAligned : period ∣ catchUp period next round.reading := dvd_catchUp aligned
  have least := scheduled.least.2 ⟨⟨slotAligned, fromReading⟩, opens _ slotAligned fromNext⟩
  rcases near with same | near
  · rw [same] at least
    exact least.trans close
  · exact least.trans near.le

/-- No round after another one waits for more than a period. -/
theorem deadline_le_of_some {last : Wake} (positive : 0 < period)
    (aligned : period ∣ last.round.deadline)
    (close : last.round.deadline ≤ last.round.reading + period)
    (scheduled : EachFrom (Scheduled period) (some last.round) (wakes.map Wake.round))
    (clocked : Clocked (last :: wakes)) (due : ∀ wake ∈ last :: wakes, Due wake) :
    ∀ wake ∈ wakes, wake.round.deadline ≤ wake.round.reading + period := by
  induction wakes generalizing last with
  | nil => exact fun wake member => absurd member List.not_mem_nil
  | cons head rest ih =>
      obtain ⟨here, later⟩ := scheduled
      obtain ⟨after, monotonic⟩ := List.pairwise_cons.mp clocked.monotonic
      obtain ⟨lastSleeps, sleeps⟩ := List.forall_mem_cons.mp clocked.sleeps
      obtain ⟨lastDue, restDue⟩ := List.forall_mem_cons.mp due
      have read := after head List.mem_cons_self
      have nextAligned : period ∣ following period last.round := by
        unfold following
        split
        · exact Int.dvd_add aligned (Int.dvd_refl _)
        · exact aligned
      have nextClose : following period last.round ≤ head.round.reading + period := by
        unfold following
        split
        next fired =>
          have reached := lastDue fired
          omega
        next => omega
      have near : head.round.deadline ≤ head.round.reading + period :=
        here.deadline_le positive nextAligned
          (fun slot slotAligned => (open_iff positive aligned slotAligned).mpr) nextClose
      exact List.forall_mem_cons.mpr
        ⟨near, ih here.least.1.1.1 near later ⟨sleeps, monotonic⟩ restDue⟩

/-- No round waits for more than a period, if the clock starts at the first slot or later. -/
theorem deadline_le (positive : 0 < period)
    (scheduled : EachFrom (Scheduled period) none (wakes.map Wake.round))
    (clocked : Clocked wakes) (due : ∀ wake ∈ wakes, Due wake)
    (started : ∀ wake ∈ wakes, 0 ≤ wake.round.reading) :
    ∀ wake ∈ wakes, wake.round.deadline ≤ wake.round.reading + period := by
  cases wakes with
  | nil => exact fun wake member => absurd member List.not_mem_nil
  | cons head rest =>
      obtain ⟨here, later⟩ := scheduled
      have first := started head List.mem_cons_self
      have near : head.round.deadline ≤ head.round.reading + period :=
        here.deadline_le positive (Int.dvd_zero _)
          (fun slot _ _ last none => absurd none (Option.not_mem_none last)) (by omega)
      exact List.forall_mem_cons.mpr
        ⟨near, deadline_le_of_some positive here.least.1.1.1 near later clocked due⟩

end Rates

end Arpi.Semantics.PeriodicTimer
