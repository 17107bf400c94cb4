import Arpi.Composer.VsyncTimes
import Arpi.Semantics.TimerRate

/-!
# The vsync thread by the clock

`now` and `sleepUntil` are all that the vsync thread knows of the time. Given what the kernel
promises of the monotonic clock and of sleeping by it, a sleep that fires has reached its
deadline, so no arithmetic of the loop overflows, no callback comes early, and however the thread
is scheduled it never makes up for missed vsyncs by a burst.
-/

namespace Arpi.Composer

open Arpi.Semantics Arpi.Semantics.PeriodicTimer

/-! ## The clock -/

/-- `timespec`. -/
structure Timespec where
  tvSec : BitVec 64
  tvNsec : BitVec 64
deriving DecidableEq

namespace Timespec

/-- The time in nanoseconds. -/
def nanoseconds (ts : Timespec) : Int := ts.tvSec.toInt * 1000000000 + ts.tvNsec.toInt

/-- What `clock_gettime` stores, for some hundred years. -/
structure Normal (ts : Timespec) : Prop where
  nonnegative : 0 ≤ ts.tvSec.toInt
  fraction : 0 ≤ ts.tvNsec.toInt ∧ ts.tvNsec.toInt < 1000000000
  bound : ts.nanoseconds < 2 ^ 62

/-- `now`, from what `clock_gettime` has stored. -/
def now (ts : Timespec) : BitVec 64 := ts.tvSec * 1000000000 + ts.tvNsec

/-- The time that `sleepUntil` hands to `clock_nanosleep`. -/
def ofTime (t : BitVec 64) : Timespec := ⟨t.sdiv 1000000000, t.srem 1000000000⟩

variable {ts : Timespec}

theorem Normal.nanoseconds_nonneg (normal : ts.Normal) : 0 ≤ ts.nanoseconds := by
  have seconds : 0 ≤ ts.tvSec.toInt * 1000000000 :=
    Int.mul_nonneg normal.nonnegative (by decide)
  have fraction := normal.fraction
  unfold nanoseconds
  omega

/-- `now` does not overflow. -/
theorem Normal.now_toInt (normal : ts.Normal) : ts.now.toInt = ts.nanoseconds := by
  obtain ⟨nonnegative, fraction, bound⟩ := normal
  unfold nanoseconds at bound
  have billion : (1000000000 : BitVec 64).toInt = 1000000000 := by decide
  have seconds : 0 ≤ ts.tvSec.toInt * 1000000000 := Int.mul_nonneg nonnegative (by decide)
  obtain ⟨-, product⟩ := not_smulOverflow ts.tvSec 1000000000
    (by rw [billion]; omega) (by rw [billion]; omega)
  rw [billion] at product
  obtain ⟨-, sum⟩ := not_saddOverflow (ts.tvSec * 1000000000) ts.tvNsec
    (by rw [product]; omega) (by rw [product]; omega)
  rw [now, sum, product]
  rfl

/-- The parts of a time make up that time. -/
theorem ofTime_nanoseconds {t : BitVec 64} (nonnegative : 0 ≤ t.toInt) :
    (ofTime t).nanoseconds = t.toInt := by
  have billion : (1000000000 : BitVec 64).toInt = 1000000000 := by decide
  obtain ⟨-, quotient⟩ := not_sdivOverflow t 1000000000 nonnegative (by decide)
  have remainder : (t.srem 1000000000).toInt = t.toInt % 1000000000 := by
    rw [BitVec.toInt_srem, billion, Int.tmod_eq_emod_of_nonneg nonnegative]
  unfold nanoseconds ofTime
  rw [quotient, remainder, billion]
  omega

end Timespec

/-- `EINTR`. -/
def eintr : Int := 4

/-- A return of `clock_nanosleep`: its error, and the time of the clock then. -/
structure Nanosleep where
  error : Int
  time : Int
deriving DecidableEq

/-- `sleepUntil`, from the returns of `clock_nanosleep`; it sleeps on where there are no more. -/
def sleepUntil : List Nanosleep → Option Bool
  | [] => none
  | sleep :: rest =>
      if sleep.error ≠ 0 then
        if sleep.error = eintr then sleepUntil rest else some false
      else some true

/-- A sleep that fires has ended without an error. -/
theorem sleepUntil_fired {sleeps : List Nanosleep} (fired : sleepUntil sleeps = some true) :
    ∃ sleep ∈ sleeps, sleep.error = 0 := by
  induction sleeps with
  | nil => cases fired
  | cons sleep rest ih =>
      rw [sleepUntil] at fired
      split at fired
      · split at fired
        · obtain ⟨later, member, none⟩ := ih fired
          exact ⟨later, List.mem_cons_of_mem _ member, none⟩
        · cases fired
      next none => exact ⟨sleep, List.mem_cons_self, not_not.mp none⟩

/-! ## The thread by the clock -/

/-- A section, at a time of the clock. One that ends a sleep comes with what the clock read
before the sleep and with the returns of `clock_nanosleep`. -/
structure ClockedStep where
  step : VsyncStep
  reading : Timespec
  sleeps : List Nanosleep
  time : Int
deriving DecidableEq

/-- The vsync thread by the clock. -/
def clockedMachine : Machine VsyncLoop ClockedStep (Option VsyncRound) :=
  ⟨fun loop input => loop.step (input.step, input.reading.now)⟩

/-- The rounds of a run, each with the section that ends it. -/
def clockedRounds (loop : VsyncLoop) (inputs : List ClockedStep) :
    List (ClockedStep × VsyncRound) :=
  (clockedMachine.trace loop inputs).filterMap fun (input, round) => round.map (input, ·)

/-- What the kernel promises of a round: the clock is not set back while the thread sleeps, and
`clock_nanosleep` returns no 0 before the clock has reached the time that it was handed. -/
structure KeepsTime (entry : ClockedStep × VsyncRound) : Prop where
  normal : entry.1.reading.Normal
  later : entry.1.reading.nanoseconds ≤ entry.1.time
  bound : entry.1.time < 2 ^ 62
  returned : sleepUntil entry.1.sleeps = some entry.2.fired
  within : ∀ sleep ∈ entry.1.sleeps, sleep.time ≤ entry.1.time
  reached : ∀ sleep ∈ entry.1.sleeps, sleep.error = 0 →
    (Timespec.ofTime entry.2.deadline).nanoseconds ≤ sleep.time

/-- What the kernel promises of a run: the next round does not read an earlier time either. -/
structure ClockContract (rounds : List (ClockedStep × VsyncRound)) : Prop where
  keepsTime : ∀ entry ∈ rounds, KeepsTime entry
  monotonic : rounds.Pairwise fun earlier later =>
    earlier.1.time ≤ later.1.reading.nanoseconds

/-- The callbacks that are invoked in a window of time. -/
def callbacksWithin (lower upper : Int) (rounds : List (ClockedStep × VsyncRound)) :
    List (ClockedStep × VsyncRound) :=
  rounds.filter fun entry =>
    entry.2.invoked && decide (lower ≤ entry.1.time ∧ entry.1.time ≤ upper)

/-- No callback comes before its timestamp, no sleep is for more than a period, and no window of
time holds more than two callbacks beyond one a period. -/
structure VsyncPaced (period : Int) (rounds : List (ClockedStep × VsyncRound)) : Prop where
  due : ∀ entry ∈ rounds, entry.2.invoked = true → entry.2.deadline.toInt ≤ entry.1.time
  near : ∀ entry ∈ rounds, entry.1.reading.nanoseconds ≤ entry.2.deadline.toInt ∧
    entry.2.deadline.toInt ≤ entry.1.reading.nanoseconds + period
  rate : ∀ lower upper : Int, lower ≤ upper →
    ((callbacksWithin lower upper rounds).length : Int) ≤ (upper - lower) / period + 2

section Runs

variable {loop : VsyncLoop} {inputs : List ClockedStep}

/-- What the thread sees of a section. -/
def ClockedStep.seen (input : ClockedStep) : VsyncStep × BitVec 64 :=
  (input.step, input.reading.now)

theorem clockedRounds_snd :
    (clockedRounds loop inputs).map Prod.snd = vsyncRounds loop (inputs.map ClockedStep.seen) := by
  induction inputs generalizing loop with
  | nil => rfl
  | cons input rest ih =>
      rw [clockedRounds, vsyncRounds, List.map_cons, Machine.trace_cons, Machine.trace_cons,
        List.filterMap_cons, List.filterMap_cons]
      have answer : clockedMachine.answer loop input =
          timedMachine.answer loop input.seen := rfl
      have later : (clockedRounds (clockedMachine.next loop input) rest).map Prod.snd =
          vsyncRounds (timedMachine.next loop input.seen) (rest.map ClockedStep.seen) := ih
      rw [← answer]
      cases clockedMachine.answer loop input with
      | none => exact later
      | some round => exact congrArg (List.cons round) later

/-- A round has read what the clock was. -/
theorem reading_of_mem {entry : ClockedStep × VsyncRound}
    (member : entry ∈ clockedRounds loop inputs) : entry.2.reading = entry.1.reading.now := by
  induction inputs generalizing loop with
  | nil => exact absurd member List.not_mem_nil
  | cons input rest ih =>
      rw [clockedRounds, Machine.trace_cons, List.filterMap_cons] at member
      have answer : clockedMachine.answer loop input = timedMachine.answer loop input.seen := rfl
      rcases timedMachine_cases loop input.seen with ⟨fire, -, -, ended, -⟩ | ⟨-, silent, -⟩
      · rw [answer, ended] at member
        rcases List.mem_cons.mp member with rfl | later
        · rfl
        · exact ih later
      · rw [answer, silent] at member
        exact ih member

/-- Only a round whose sleep was not cut short makes a callback. -/
theorem fired_of_mem {entry : ClockedStep × VsyncRound}
    (member : entry ∈ clockedRounds loop inputs) (invoked : entry.2.invoked = true) :
    entry.2.fired = true := by
  have listed : entry.2 ∈ vsyncRounds loop (inputs.map ClockedStep.seen) := by
    rw [← clockedRounds_snd]
    exact List.mem_map_of_mem member
  exact fired_of_invoked entry.2 listed invoked

end Runs

section Pace

variable {period : BitVec 64} {inputs : List ClockedStep}

/-- A round as one of a timer that is woken. -/
def wake (entry : ClockedStep × VsyncRound) : Wake := ⟨entry.2.round, entry.1.time⟩

/-- A deadline that is reached is one that the clock can read. -/
theorem KeepsTime.deadline_le {entry : ClockedStep × VsyncRound} (keeps : KeepsTime entry)
    (fired : entry.2.fired = true) (nonnegative : 0 ≤ entry.2.deadline.toInt) :
    entry.2.deadline.toInt ≤ entry.1.time := by
  have returned := keeps.returned
  rw [fired] at returned
  obtain ⟨sleep, member, none⟩ := sleepUntil_fired returned
  have reached := keeps.reached sleep member none
  rw [Timespec.ofTime_nanoseconds nonnegative] at reached
  exact reached.trans (keeps.within sleep member)

/-- A round has read the time. -/
theorem KeepsTime.reading_toInt {entry : ClockedStep × VsyncRound} (keeps : KeepsTime entry)
    (reading : entry.2.reading = entry.1.reading.now) :
    entry.2.reading.toInt = entry.1.reading.nanoseconds := by
  rw [reading, keeps.normal.now_toInt]

theorem KeepsTime.clockSane {entry : ClockedStep × VsyncRound} (keeps : KeepsTime entry)
    (reading : entry.2.reading = entry.1.reading.now) : ClockSane entry.2 := by
  have exact := keeps.reading_toInt reading
  have nonnegative := keeps.normal.nanoseconds_nonneg
  have bound := keeps.normal.bound
  refine ⟨by omega, by omega, fun fired => ?_⟩
  by_cases positive : 0 ≤ entry.2.deadline.toInt
  · exact (keeps.deadline_le fired positive).trans_lt keeps.bound
  · omega

/-- With a clock that keeps its promises, the rounds are those of a periodic timer. -/
theorem scheduled_of_clock (positive : 0 < period.toInt) (short : period.toInt ≤ 2 ^ 62)
    (clock : ClockContract (clockedRounds (.start 0 period) inputs)) :
    EachFrom (Scheduled period.toInt) none
      (((clockedRounds (.start 0 period) inputs).map wake).map Wake.round) := by
  have sane : ∀ round ∈ vsyncRounds (.start 0 period) (inputs.map ClockedStep.seen),
      ClockSane round := by
    rw [← clockedRounds_snd]
    exact List.forall_mem_map.mpr fun entry member =>
      (clock.keepsTime entry member).clockSane (reading_of_mem member)
  have range : InRange 0 period :=
    ⟨positive, short, by decide, by rw [show (0 : BitVec 64).toInt = 0 by decide]; omega⟩
  have fits : timedMachine.EachStep NoOverflow (.start 0 period)
      (inputs.map ClockedStep.seen) := noOverflow_of_clockSane range sane
  have right := timesRight_of_noOverflow positive (fun round member => (sane round member).nonnegative)
    fits
  have rounds : ((clockedRounds (.start 0 period) inputs).map wake).map Wake.round =
      (vsyncRounds (.start 0 period) (inputs.map ClockedStep.seen)).map VsyncRound.round := by
    rw [← clockedRounds_snd, List.map_map, List.map_map]
    rfl
  rw [rounds]
  exact right.scheduled

/-- With such a clock no time goes back. -/
theorem clocked_of_clock (clock : ClockContract (clockedRounds (.start 0 period) inputs)) :
    Clocked ((clockedRounds (.start 0 period) inputs).map wake) := by
  refine ⟨List.forall_mem_map.mpr fun entry member => ?_, List.pairwise_map.mpr ?_⟩
  · have keeps := clock.keepsTime entry member
    change entry.2.reading.toInt ≤ entry.1.time
    rw [keeps.reading_toInt (reading_of_mem member)]
    exact keeps.later
  · refine clock.monotonic.imp_of_mem fun {earlier later} _ member before => ?_
    change earlier.1.time ≤ later.2.reading.toInt
    rwa [(clock.keepsTime later member).reading_toInt (reading_of_mem member)]

/-- The vsync thread keeps the pace, with any period that fits twice into the times that the
clock can read, however it is scheduled and whichever of its sleeps are interrupted or fail. -/
theorem vsync_paced (positive : 0 < period.toInt) (short : period.toInt ≤ 2 ^ 62)
    (clock : ClockContract (clockedRounds (.start 0 period) inputs)) :
    VsyncPaced period.toInt (clockedRounds (.start 0 period) inputs) := by
  have scheduled := scheduled_of_clock positive short clock
  have exact : ∀ entry ∈ clockedRounds (.start 0 period) inputs,
      entry.2.reading.toInt = entry.1.reading.nanoseconds := fun entry member =>
    (clock.keepsTime entry member).reading_toInt (reading_of_mem member)
  have read : ∀ entry ∈ clockedRounds (.start 0 period) inputs,
      entry.1.reading.nanoseconds ≤ entry.2.deadline.toInt := by
    intro entry member
    rw [← exact entry member]
    exact (aligned_of_eachFrom scheduled _ (List.mem_map_of_mem (List.mem_map_of_mem member))).2
  have reached : ∀ entry ∈ clockedRounds (.start 0 period) inputs, entry.2.fired = true →
      entry.2.deadline.toInt ≤ entry.1.time := by
    intro entry member fired
    have keeps := clock.keepsTime entry member
    exact keeps.deadline_le fired (keeps.normal.nanoseconds_nonneg.trans (read entry member))
  have clocked := clocked_of_clock clock
  have due : ∀ woken ∈ (clockedRounds (.start 0 period) inputs).map wake, Due woken :=
    List.forall_mem_map.mpr reached
  refine ⟨fun entry member invoked => reached entry member (fired_of_mem member invoked),
    fun entry member => ⟨read entry member, ?_⟩, fun lower upper window => ?_⟩
  · have started : ∀ woken ∈ (clockedRounds (.start 0 period) inputs).map wake,
        0 ≤ woken.round.reading := List.forall_mem_map.mpr fun entry member => by
      change 0 ≤ entry.2.reading.toInt
      rw [exact entry member]
      exact (clock.keepsTime entry member).normal.nanoseconds_nonneg
    have near := deadline_le positive scheduled clocked due started (wake entry)
      (List.mem_map_of_mem member)
    rw [← exact entry member]
    exact near
  · have part : ((callbacksWithin lower upper (clockedRounds (.start 0 period) inputs)).map
        wake).Sublist ((clockedRounds (.start 0 period) inputs).map wake) :=
      List.filter_sublist.map wake
    have count := length_fires_le positive scheduled clocked due part
      (List.forall_mem_map.mpr fun entry member => ?_) window
      (List.forall_mem_map.mpr fun entry member => ?_)
    · rwa [List.length_map] at count
    · obtain ⟨listed, holds⟩ := List.mem_filter.mp member
      exact fired_of_mem listed (Bool.and_eq_true_iff.mp holds).1
    · obtain ⟨-, holds⟩ := List.mem_filter.mp member
      exact of_decide_eq_true (Bool.and_eq_true_iff.mp holds).2

end Pace

/-- The end of a sleep that is interrupted once, and of one that comes late. -/
def exampleWakes : List ClockedStep :=
  [⟨.endSleep true, ⟨0, 2⟩, [⟨eintr, 5⟩, ⟨0, 17⟩], 18⟩,
    ⟨.endSleep true, ⟨0, 100⟩, [⟨0, 130⟩], 131⟩]

theorem vsync_paced_example :
    VsyncPaced (16 : BitVec 64).toInt (clockedRounds (.start 0 16)
      ([⟨.setCallback true, ⟨0, 0⟩, [], 0⟩, ⟨.enableCallback true, ⟨0, 0⟩, [], 0⟩,
        ⟨.endWait, ⟨0, 0⟩, [], 0⟩] ++ exampleWakes)) := by
  refine vsync_paced (by decide) (by decide) ⟨?_, by decide⟩
  have rounds : clockedRounds (.start 0 16)
      ([⟨.setCallback true, ⟨0, 0⟩, [], 0⟩, ⟨.enableCallback true, ⟨0, 0⟩, [], 0⟩,
        ⟨.endWait, ⟨0, 0⟩, [], 0⟩] ++ exampleWakes) =
      exampleWakes.zip [⟨2, 16, true, true⟩, ⟨100, 112, true, true⟩] := by decide
  rw [rounds]
  refine List.forall_mem_cons.mpr ⟨?_, List.forall_mem_singleton.mpr ?_⟩
  · exact ⟨⟨by decide, by decide, by decide⟩, by decide, by decide, by decide, by decide,
      by decide⟩
  · exact ⟨⟨by decide, by decide, by decide⟩, by decide, by decide, by decide, by decide,
      by decide⟩

end Arpi.Composer
