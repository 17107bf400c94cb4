import Arpi.Composer.StrayCallbacks
import Arpi.Semantics.PeriodicTimer
import Mathlib.Data.BitVec

/-!
# The times of the vsync thread

`vsyncLoop` sleeps until `mNextVsync`, which it moves on to the present before each sleep, in
64 bits. The clock may read anything, the sleeps may fail, and other threads may enable and
disable the callback. Where the arithmetic stays within 64 bits, the thread is a periodic
timer.
-/

namespace Arpi.Composer

open Arpi.Semantics Arpi.Semantics.PeriodicTimer

/-- The thread with the members that only its loop uses. -/
structure VsyncLoop where
  thread : VsyncThread
  nextVsync : BitVec 64
  period : BitVec 64
deriving DecidableEq

/-- The distance to the next vsync in periods, `n`. -/
def periodsBehind (nextVsync period t : BitVec 64) : BitVec 64 :=
  (t - nextVsync + period - 1).sdiv period

/-- `mNextVsync` once it is adjusted to the reading of the clock. -/
def adjustedVsync (nextVsync period t : BitVec 64) : BitVec 64 :=
  if nextVsync.slt t then nextVsync + period * periodsBehind nextVsync period t else nextVsync

/-- A round of the loop: what `now` returned, what it slept until, whether `sleepUntil` let it
fire, and whether it invoked the callback. -/
structure VsyncRound where
  reading : BitVec 64
  deadline : BitVec 64
  fired : Bool
  invoked : Bool
deriving DecidableEq

namespace VsyncLoop

/-- `start`. -/
def start (firstVsync period : BitVec 64) : VsyncLoop := ⟨.start, firstVsync, period⟩

/-- A round ends with the section after the sleep. Only this section touches the times. -/
def endRound (fire : Bool) (reading : BitVec 64) (loop : VsyncLoop) :
    VsyncRound × VsyncLoop :=
  let deadline := adjustedVsync loop.nextVsync loop.period reading
  let (invoked, thread) := loop.thread.endSleep fire
  (⟨reading, deadline, fire, invoked⟩,
    { loop with
      thread := thread
      nextVsync := if fire then deadline + loop.period else deadline })

/-- A section of the thread or of another one. A section that ends a sleep comes with the
reading of the clock before the sleep. -/
def step (loop : VsyncLoop) (input : VsyncStep × BitVec 64) : Option VsyncRound × VsyncLoop :=
  let others := { loop with thread := vsyncMachine.next loop.thread input.1 }
  match input.1 with
  | .endSleep fire =>
      if loop.thread.phase = .sleeping then
        let (round, loop) := loop.endRound fire input.2
        (some round, loop)
      else (none, others)
  | _ => (none, others)

end VsyncLoop

/-- The vsync thread with its times. -/
def timedMachine : Machine VsyncLoop (VsyncStep × BitVec 64) (Option VsyncRound) :=
  ⟨VsyncLoop.step⟩

/-- The rounds of a run. -/
def vsyncRounds (loop : VsyncLoop) (inputs : List (VsyncStep × BitVec 64)) : List VsyncRound :=
  (timedMachine.trace loop inputs).filterMap Prod.snd

/-- The timestamps that the callback is invoked with. -/
def timestamps (loop : VsyncLoop) (inputs : List (VsyncStep × BitVec 64)) : List (BitVec 64) :=
  ((vsyncRounds loop inputs).filter VsyncRound.invoked).map VsyncRound.deadline

/-- A signed operation of the catch-up leaves the 64 bits. -/
def CatchUpOverflows (nextVsync period t : BitVec 64) : Prop :=
  BitVec.ssubOverflow t nextVsync ∨
    BitVec.saddOverflow (t - nextVsync) period ∨
    BitVec.ssubOverflow (t - nextVsync + period) 1 ∨
    BitVec.sdivOverflow (t - nextVsync + period - 1) period ∨
    BitVec.smulOverflow period (periodsBehind nextVsync period t) ∨
    BitVec.saddOverflow nextVsync (period * periodsBehind nextVsync period t)

/-- A signed operation of the round leaves the 64 bits. -/
def RoundOverflows (nextVsync period reading : BitVec 64) (fire : Bool) : Prop :=
  nextVsync.slt reading ∧ CatchUpOverflows nextVsync period reading ∨
    fire ∧ BitVec.saddOverflow (adjustedVsync nextVsync period reading) period

/-- No round of the run overflows. -/
def NoOverflow (loop : VsyncLoop) (input : VsyncStep × BitVec 64) : Prop :=
  ∀ fire, input.1 = .endSleep fire → loop.thread.phase = .sleeping →
    ¬ RoundOverflows loop.nextVsync loop.period input.2 fire

/-- The times of a round as numbers. -/
def VsyncRound.round (round : VsyncRound) : Round :=
  ⟨round.reading.toInt, round.deadline.toInt, round.fired⟩

/-! ## One round -/

/-- What the clock owes to a round: it reads a time below `2 ^ 62`, and a sleep that fires has
reached its deadline at such a time. -/
structure ClockSane (round : VsyncRound) : Prop where
  nonnegative : 0 ≤ round.reading.toInt
  reading : round.reading.toInt < 2 ^ 62
  fired : round.fired = true → round.deadline.toInt < 2 ^ 62

/-- The next vsync is no further than a period from a time that the clock can read. -/
structure InRange (nextVsync period : BitVec 64) : Prop where
  positive : 0 < period.toInt
  short : period.toInt ≤ 2 ^ 62
  nonnegative : 0 ≤ nextVsync.toInt
  close : nextVsync.toInt < 2 ^ 62 + period.toInt

section Arithmetic

variable {nextVsync period reading : BitVec 64}

theorem not_saddOverflow (left right : BitVec 64) (lower : -(2 ^ 63) ≤ left.toInt + right.toInt)
    (upper : left.toInt + right.toInt < 2 ^ 63) :
    ¬ BitVec.saddOverflow left right ∧ (left + right).toInt = left.toInt + right.toInt := by
  have fits : ¬ BitVec.saddOverflow left right := by
    simp only [BitVec.saddOverflow, Bool.or_eq_true, decide_eq_true_eq]
    omega
  exact ⟨fits, BitVec.toInt_add_of_not_saddOverflow fits⟩

theorem not_ssubOverflow (left right : BitVec 64) (lower : -(2 ^ 63) ≤ left.toInt - right.toInt)
    (upper : left.toInt - right.toInt < 2 ^ 63) :
    ¬ BitVec.ssubOverflow left right ∧ (left - right).toInt = left.toInt - right.toInt := by
  have fits : ¬ BitVec.ssubOverflow left right := by
    simp only [BitVec.ssubOverflow, Bool.or_eq_true, decide_eq_true_eq]
    omega
  exact ⟨fits, BitVec.toInt_sub_of_not_ssubOverflow fits⟩

theorem not_smulOverflow (left right : BitVec 64) (lower : -(2 ^ 63) ≤ left.toInt * right.toInt)
    (upper : left.toInt * right.toInt < 2 ^ 63) :
    ¬ BitVec.smulOverflow left right ∧ (left * right).toInt = left.toInt * right.toInt := by
  have fits : ¬ BitVec.smulOverflow left right := by
    simp only [BitVec.smulOverflow, Bool.or_eq_true, decide_eq_true_eq]
    omega
  exact ⟨fits, BitVec.toInt_mul_of_not_smulOverflow fits⟩

/-- A quotient of numbers that are not negative is no larger than the dividend. -/
theorem not_sdivOverflow (left right : BitVec 64) (nonnegative : 0 ≤ left.toInt)
    (positive : 0 < right.toInt) :
    ¬ BitVec.sdivOverflow left right ∧ (left.sdiv right).toInt = left.toInt / right.toInt := by
  have smaller : left.toInt / right.toInt ≤ left.toInt := Int.ediv_le_self _ nonnegative
  have quotient : 0 ≤ left.toInt / right.toInt := Int.ediv_nonneg nonnegative positive.le
  have bound : left.toInt < 2 ^ 63 := left.toInt_lt
  have fits : ¬ BitVec.sdivOverflow left right := by
    simp only [BitVec.sdivOverflow, Bool.or_eq_true, decide_eq_true_eq]
    omega
  refine ⟨fits, ?_⟩
  rw [BitVec.toInt_sdiv, Int.tdiv_eq_ediv_of_nonneg nonnegative]
  exact Int.bmod_eq_of_le (by omega) (by omega)

/-- Without an overflow, a thread that is behind catches up as the timer does. -/
theorem catchUp_exact (positive : 0 < period.toInt) (behind : nextVsync.toInt < reading.toInt)
    (fits : ¬ CatchUpOverflows nextVsync period reading) :
    (nextVsync + period * periodsBehind nextVsync period reading).toInt =
      nextVsync.toInt + period.toInt *
        ((reading.toInt - nextVsync.toInt + period.toInt - 1) / period.toInt) := by
  simp only [CatchUpOverflows, not_or] at fits
  obtain ⟨distanceFits, sumFits, lessFits, -, productFits, nextFits⟩ := fits
  have less : (reading - nextVsync + period - 1).toInt =
      reading.toInt - nextVsync.toInt + period.toInt - 1 := by
    rw [BitVec.toInt_sub_of_not_ssubOverflow lessFits, BitVec.toInt_add_of_not_saddOverflow sumFits,
      BitVec.toInt_sub_of_not_ssubOverflow distanceFits, show (1 : BitVec 64).toInt = 1 by decide]
  have quotient := (not_sdivOverflow (reading - nextVsync + period - 1) period (by omega)
    positive).2
  rw [BitVec.toInt_add_of_not_saddOverflow nextFits,
    BitVec.toInt_mul_of_not_smulOverflow productFits, periodsBehind, quotient, less]

/-- Without an overflow, the adjusted time is that of the timer. -/
theorem adjustedVsync_toInt (positive : 0 < period.toInt) (fire : Bool)
    (fits : ¬ RoundOverflows nextVsync period reading fire) :
    (adjustedVsync nextVsync period reading).toInt =
      catchUp period.toInt nextVsync.toInt reading.toInt := by
  unfold adjustedVsync catchUp
  simp only [BitVec.slt_iff_toInt_lt]
  split
  next behind =>
    exact catchUp_exact positive behind fun overflows =>
      fits (.inl ⟨BitVec.slt_iff_toInt_lt.mpr behind, overflows⟩)
  next => rfl

/-- The next vsync after a round, as `vsyncLoop` computes it. -/
def followingVsync (nextVsync period reading : BitVec 64) (fire : Bool) : BitVec 64 :=
  if fire then adjustedVsync nextVsync period reading + period
  else adjustedVsync nextVsync period reading

/-- Without an overflow, the next vsync after a round is that of the timer. -/
theorem followingVsync_toInt {fire : Bool}
    (fits : ¬ RoundOverflows nextVsync period reading fire) :
    (followingVsync nextVsync period reading fire).toInt = following period.toInt
      ⟨reading.toInt, (adjustedVsync nextVsync period reading).toInt, fire⟩ := by
  cases fire with
  | false => rfl
  | true => exact BitVec.toInt_add_of_not_saddOverflow fun overflows => fits (.inr ⟨rfl, overflows⟩)

/-- A thread in range that is behind catches up without an overflow. -/
theorem InRange.not_catchUpOverflows (range : InRange nextVsync period)
    (behind : nextVsync.toInt < reading.toInt) (bound : reading.toInt < 2 ^ 62) :
    ¬ CatchUpOverflows nextVsync period reading := by
  obtain ⟨positive, short, nonnegative, close⟩ := range
  have one : (1 : BitVec 64).toInt = 1 := by decide
  obtain ⟨distanceFits, distance⟩ := not_ssubOverflow reading nextVsync (by omega) (by omega)
  obtain ⟨sumFits, sum⟩ := not_saddOverflow (reading - nextVsync) period (by omega) (by omega)
  obtain ⟨lessFits, less⟩ := not_ssubOverflow (reading - nextVsync + period) 1
    (by omega) (by omega)
  obtain ⟨quotientFits, quotient⟩ := not_sdivOverflow (reading - nextVsync + period - 1) period
    (by omega) positive
  have exact : (periodsBehind nextVsync period reading).toInt =
      (reading.toInt - nextVsync.toInt + period.toInt - 1) / period.toInt := by
    rw [periodsBehind, quotient, less, sum, distance, one]
  have upper := Int.mul_ediv_self_le (x := reading.toInt - nextVsync.toInt + period.toInt - 1)
    positive.ne'
  have lower := Int.lt_mul_ediv_self_add
    (x := reading.toInt - nextVsync.toInt + period.toInt - 1) positive
  rw [← exact] at upper lower
  obtain ⟨productFits, product⟩ := not_smulOverflow period (periodsBehind nextVsync period reading)
    (by omega) (by omega)
  obtain ⟨nextFits, -⟩ := not_saddOverflow nextVsync
    (period * periodsBehind nextVsync period reading) (by omega) (by omega)
  simp only [CatchUpOverflows, not_or]
  exact ⟨distanceFits, sumFits, lessFits, quotientFits, productFits, nextFits⟩

/-- A round of a sane clock does not overflow, and leaves a next vsync in range. -/
theorem InRange.round (range : InRange nextVsync period) {fire invoked : Bool}
    (clock : ClockSane ⟨reading, adjustedVsync nextVsync period reading, fire, invoked⟩) :
    ¬ RoundOverflows nextVsync period reading fire ∧
      InRange (followingVsync nextVsync period reading fire) period := by
  have caughtUp : ¬ (nextVsync.slt reading ∧ CatchUpOverflows nextVsync period reading) :=
    fun overflows => range.not_catchUpOverflows (BitVec.slt_iff_toInt_lt.mp overflows.1)
      clock.reading overflows.2
  have exact : (adjustedVsync nextVsync period reading).toInt =
      catchUp period.toInt nextVsync.toInt reading.toInt := by
    apply adjustedVsync_toInt range.positive false
    rintro (overflows | ⟨fires, -⟩)
    · exact caughtUp overflows
    · cases fires
  obtain ⟨positive, short, nonnegative, close⟩ := range
  have bound : reading.toInt < 2 ^ 62 := clock.reading
  obtain ⟨lower, -, upper⟩ : nextVsync.toInt ≤ catchUp period.toInt nextVsync.toInt reading.toInt ∧
    _ := catchUp_bounds positive
  cases fire with
  | false =>
      refine ⟨?_, positive, short, ?_, ?_⟩
      · rintro (overflows | ⟨fires, -⟩)
        · exact caughtUp overflows
        · cases fires
      · change 0 ≤ (adjustedVsync nextVsync period reading).toInt
        omega
      · change (adjustedVsync nextVsync period reading).toInt < _
        omega
  | true =>
      have reached : (adjustedVsync nextVsync period reading).toInt < 2 ^ 62 := clock.fired rfl
      obtain ⟨sumFits, sum⟩ := not_saddOverflow (adjustedVsync nextVsync period reading) period
        (by omega) (by omega)
      refine ⟨?_, positive, short, ?_, ?_⟩
      · rintro (overflows | ⟨-, overflows⟩)
        · exact caughtUp overflows
        · exact sumFits overflows
      · change 0 ≤ (adjustedVsync nextVsync period reading + period).toInt
        omega
      · change (adjustedVsync nextVsync period reading + period).toInt < _
        omega

end Arithmetic

/-! ## Runs -/

variable {loop : VsyncLoop}

/-- A section ends a round, or it leaves the times alone. -/
theorem timedMachine_cases (loop : VsyncLoop) (input : VsyncStep × BitVec 64) :
    (∃ fire, input.1 = .endSleep fire ∧ loop.thread.phase = .sleeping ∧
        timedMachine.answer loop input = some (loop.endRound fire input.2).1 ∧
        timedMachine.next loop input = (loop.endRound fire input.2).2) ∨
      (∀ fire, input.1 = .endSleep fire → loop.thread.phase ≠ .sleeping) ∧
        timedMachine.answer loop input = none ∧
        timedMachine.next loop input =
          { loop with thread := vsyncMachine.next loop.thread input.1 } := by
  obtain ⟨step, reading⟩ := input
  cases step with
  | stop | setCallback _ | enableCallback _ | endWait =>
      exact .inr ⟨fun _ same => (by cases same), rfl, rfl⟩
  | endSleep fire =>
      by_cases asleep : loop.thread.phase = .sleeping
      · refine .inl ⟨fire, rfl, asleep, ?_, ?_⟩
        · simp only [Machine.answer, timedMachine, VsyncLoop.step, if_pos asleep]
        · simp only [Machine.next, timedMachine, VsyncLoop.step, if_pos asleep]
      · refine .inr ⟨fun _ _ => asleep, ?_, ?_⟩
        · simp only [Machine.answer, timedMachine, VsyncLoop.step, if_neg asleep]
        · simp only [Machine.next, timedMachine, VsyncLoop.step, if_neg asleep]

/-- The times do not disturb the thread. -/
theorem timedMachine_next_thread (loop : VsyncLoop) (input : VsyncStep × BitVec 64) :
    (timedMachine.next loop input).thread = vsyncMachine.next loop.thread input.1 := by
  rcases timedMachine_cases loop input with ⟨fire, ends, -, -, next⟩ | ⟨-, -, next⟩
  · rw [next, ends]
    rfl
  · rw [next]

/-- The thread with times runs as the one without. -/
theorem timedMachine_run_thread (loop : VsyncLoop) (inputs : List (VsyncStep × BitVec 64)) :
    (timedMachine.run loop inputs).thread =
      vsyncMachine.run loop.thread (inputs.map Prod.fst) := by
  induction inputs generalizing loop with
  | nil => rfl
  | cons input rest ih =>
      rw [Machine.run_cons, ih, timedMachine_next_thread, List.map_cons, Machine.run_cons]

/-- Without an overflow, the rounds of the thread are those of a periodic timer with the same
readings and outcomes. -/
theorem vsyncRounds_refine (positive : 0 < loop.period.toInt)
    {inputs : List (VsyncStep × BitVec 64)} (fits : timedMachine.EachStep NoOverflow loop inputs) :
    (vsyncRounds loop inputs).map VsyncRound.round =
      rounds loop.period.toInt loop.nextVsync.toInt
        ((vsyncRounds loop inputs).map fun round => (round.reading.toInt, round.fired)) := by
  induction inputs generalizing loop with
  | nil => rfl
  | cons input rest ih =>
      obtain ⟨here, later⟩ := fits
      rw [vsyncRounds, Machine.trace_cons, List.filterMap_cons]
      rcases timedMachine_cases loop input with
        ⟨fire, ends, asleep, answer, next⟩ | ⟨-, answer, next⟩
      · rw [answer]
        have roundFits := here fire ends asleep
        have head : (loop.endRound fire input.2).1.round = ⟨input.2.toInt,
            catchUp loop.period.toInt loop.nextVsync.toInt input.2.toInt, fire⟩ :=
          congrArg (fun deadline => (⟨input.2.toInt, deadline, fire⟩ : Round))
            (adjustedVsync_toInt positive fire roundFits)
        have successor : (loop.endRound fire input.2).2.nextVsync.toInt =
            following loop.period.toInt (loop.endRound fire input.2).1.round :=
          followingVsync_toInt roundFits
        rw [next] at later ⊢
        have refined : (vsyncRounds (loop.endRound fire input.2).2 rest).map VsyncRound.round = _ :=
          ih positive later
        rw [successor, head] at refined
        rw [List.map_cons, head]
        exact congrArg (List.cons _) refined
      · rw [answer]
        rw [next] at later ⊢
        exact ih positive later

/-- With a sane clock, no arithmetic overflows. -/
theorem noOverflow_of_clockSane (range : InRange loop.nextVsync loop.period)
    {inputs : List (VsyncStep × BitVec 64)}
    (clock : ∀ round ∈ vsyncRounds loop inputs, ClockSane round) :
    timedMachine.EachStep NoOverflow loop inputs := by
  induction inputs generalizing loop with
  | nil => trivial
  | cons input rest ih =>
      rw [vsyncRounds, Machine.trace_cons, List.filterMap_cons] at clock
      rcases timedMachine_cases loop input with
        ⟨fire, ends, -, answer, next⟩ | ⟨awake, answer, next⟩
      · rw [answer] at clock
        obtain ⟨here, later⟩ := List.forall_mem_cons.mp clock
        obtain ⟨fits, kept⟩ := range.round here
        rw [Machine.eachStep_cons]
        rw [next] at later ⊢
        refine ⟨fun other ends' _ => ?_, ih kept later⟩
        obtain rfl : fire = other := VsyncStep.endSleep.inj (ends.symm.trans ends')
        exact fits
      · rw [answer] at clock
        rw [Machine.eachStep_cons]
        rw [next] at clock ⊢
        exact ⟨fun fire ends asleep => absurd asleep (awake fire ends), ih range clock⟩

/-- Every round sleeps until the least slot that is open and not in the past, and the
timestamps of the callback grow. -/
structure TimesRight (period : BitVec 64) (inputs : List (VsyncStep × BitVec 64)) : Prop where
  scheduled : EachFrom (Scheduled period.toInt) none
    ((vsyncRounds (.start 0 period) inputs).map VsyncRound.round)
  increasing : (timestamps (.start 0 period) inputs).Pairwise fun earlier later =>
    earlier.toInt < later.toInt

/-- A round that invokes the callback has fired. -/
theorem fired_of_invoked {loop : VsyncLoop} {inputs : List (VsyncStep × BitVec 64)} :
    ∀ round ∈ vsyncRounds loop inputs, round.invoked = true → round.fired = true := by
  induction inputs generalizing loop with
  | nil => simp [vsyncRounds]
  | cons input rest ih =>
      rw [vsyncRounds, Machine.trace_cons, List.filterMap_cons]
      rcases timedMachine_cases loop input with ⟨fire, -, -, answer, -⟩ | ⟨-, answer, -⟩
      · rw [answer]
        refine List.forall_mem_cons.mpr ⟨fun invoked => ?_, ih⟩
        simp only [VsyncLoop.endRound, VsyncThread.endSleep] at invoked ⊢
        split at invoked
        · exact (Bool.and_eq_true_iff.mp invoked).1
        · cases invoked
      · rw [answer]
        exact ih

/-- Without an overflow, the times are right. -/
theorem timesRight_of_noOverflow {period : BitVec 64} (positive : 0 < period.toInt)
    {inputs : List (VsyncStep × BitVec 64)}
    (nonnegative : ∀ round ∈ vsyncRounds (.start 0 period) inputs, 0 ≤ round.reading.toInt)
    (fits : timedMachine.EachStep NoOverflow (.start 0 period) inputs) :
    TimesRight period inputs := by
  have scheduled : EachFrom (Scheduled period.toInt) none
      ((vsyncRounds (.start 0 period) inputs).map VsyncRound.round) := by
    have refined : (vsyncRounds (.start 0 period) inputs).map VsyncRound.round =
        rounds period.toInt 0 _ := vsyncRounds_refine positive fits
    rw [refined]
    refine scheduled_rounds positive fun outcome listed => ?_
    obtain ⟨round, member, rfl⟩ := List.mem_map.mp listed
    exact nonnegative round member
  refine ⟨scheduled, ?_⟩
  rw [timestamps, List.pairwise_map]
  have precedes := (List.pairwise_map.mp (pairwise_precedes scheduled)).filter VsyncRound.invoked
  refine precedes.imp_of_mem fun {earlier later} listed _ before => ?_
  obtain ⟨member, invoked⟩ := List.mem_filter.mp listed
  exact before.2 (fired_of_invoked earlier member invoked)

/-- The times of the vsync thread are right as long as no arithmetic overflows. None does with a
period of at most `2 ^ 62`, if a sleep fires only at a time that the clock can read. -/
theorem vsyncLoop_times {period : BitVec 64} (positive : 0 < period.toInt)
    {inputs : List (VsyncStep × BitVec 64)}
    (readings : ∀ round ∈ vsyncRounds (.start 0 period) inputs,
      0 ≤ round.reading.toInt ∧ round.reading.toInt < 2 ^ 62) :
    (timedMachine.EachStep NoOverflow (.start 0 period) inputs → TimesRight period inputs) ∧
      (period.toInt ≤ 2 ^ 62 →
        (∀ round ∈ vsyncRounds (.start 0 period) inputs,
          round.fired = true → round.deadline.toInt < 2 ^ 62) →
        timedMachine.EachStep NoOverflow (.start 0 period) inputs ∧
          TimesRight period inputs) := by
  have right : timedMachine.EachStep NoOverflow (.start 0 period) inputs →
      TimesRight period inputs :=
    timesRight_of_noOverflow positive fun round listed => (readings round listed).1
  refine ⟨right, fun short reached => ?_⟩
  have range : InRange 0 period :=
    ⟨positive, short, by decide, by rw [show (0 : BitVec 64).toInt = 0 by decide]; omega⟩
  have fits : timedMachine.EachStep NoOverflow (.start 0 period) inputs :=
    noOverflow_of_clockSane range fun round listed =>
      ⟨(readings round listed).1, (readings round listed).2, reached round listed⟩
  exact ⟨fits, right fits⟩

/-- The thread is put to sleep with the callback enabled. -/
def exampleBegin : List (VsyncStep × BitVec 64) :=
  [(.setCallback true, 0), (.enableCallback true, 0), (.endWait, 0)]

theorem vsyncLoop_times_example :
    TimesRight 16 (exampleBegin ++ [(.endSleep false, 2), (.endSleep true, 2),
      (.endSleep true, 100)]) :=
  ((vsyncLoop_times (by decide) (by decide)).2 (by decide) (by decide)).2

/-- A sleep that fires at `2 ^ 62`, and a period that does not fit into an int64 together with a
reading. -/
theorem vsyncLoop_not_always_times :
    ¬ TimesRight 0x4000000000000000 (exampleBegin ++
        [(.endSleep true, 0), (.endSleep true, 0), (.endSleep true, 0)]) ∧
      ¬ TimesRight 0x7fffffffffffffff (exampleBegin ++ [(.endSleep false, 2)]) := by
  constructor
  · intro right
    have increasing := right.increasing
    revert increasing
    decide
  · intro right
    have due : (2 : Int) ≤ -9223372036854775807 := right.scheduled.1.least.1.1.2
    exact absurd due (by decide)

end Arpi.Composer
