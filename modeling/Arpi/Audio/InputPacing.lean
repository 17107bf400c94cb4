import Arpi.Semantics.Bits
import Arpi.Semantics.Ratchet
import Arpi.Audio.InputBufferSize

/-!
# Pacing of reads

`in_read` fakes its timing: it sleeps until the frames that were read would have been recorded,
counted from the first read after a standby. The last read time is a ratchet, which each read
moves on by the duration of its frames, and up to the present.
-/

namespace Arpi.Audio

open Arpi.Semantics

namespace Read

/-- The microseconds that the frames of a read last. -/
def duration (frameSize : SizeT) (rate : BitVec 32) (read : Read) : Int :=
  (read.bytes.toNat * 1000000 / frameSize.toNat / rate.toNat : Nat)

/-- What a read does to the last read time. -/
def turn (frameSize : SizeT) (rate : BitVec 32) (read : Read) : Ratchet.Turn Int :=
  ⟨read.duration frameSize rate, read.now.toInt⟩

end Read

/-- The microseconds that `usleep` was asked for. -/
def InputAnswer.asked (answer : InputAnswer) : Nat := answer.slept.elim 0 BitVec.toNat

/-- The time at which all frames are recorded, counted from the first read and again from each
read that comes late. -/
def drainTime (frameSize : SizeT) (rate : BitVec 32) : List Read → Int
  | [] => 0
  | first :: rest =>
      Ratchet.turns (first.now.toInt + first.duration frameSize rate)
        (rest.map (Read.turn frameSize rate))

/-- The time at which all frames are recorded if no read comes late. -/
def earliest (frameSize : SizeT) (rate : BitVec 32) : List Read → Int
  | [] => 0
  | first :: rest =>
      first.now.toInt + first.duration frameSize rate +
        Ratchet.total (rest.map (Read.turn frameSize rate))

/-- A stream after a standby and some reads. -/
def StreamIn.afterReads (header : AudioHeader) (input : StreamIn) (reads : List Read) : StreamIn :=
  (inputMachine header).run input.inStandby.2 (reads.map .read)

/-- A read after some others returns its bytes, and if `usleep` sleeps as long as asked then it
does not return before its frames and those of the others are recorded. -/
def Punctual (header : AudioHeader) (input : StreamIn) (front : List Read) (read : Read) : Prop :=
  ∃ answer, (inputMachine header).answer (input.afterReads header front) (.read read) =
      some answer ∧
    answer.returned = read.bytes.toInt ∧
    ∀ returned : Int, read.now.toInt + answer.asked ≤ returned →
      earliest (audioStreamInFrameSize header input) input.sampleRate (front ++ [read]) ≤ returned

/-- What the pacing of reads promises. The last read time is the greatest of the sums of the
ratchet and never goes back, and every read is punctual. -/
structure Paced (header : AudioHeader) (input : StreamIn) (reads : List Read) : Prop where
  drained : ∀ first rest later, reads = first :: rest ++ later →
    IsGreatest
      (Ratchet.Sums
        (first.now.toInt +
          first.duration (audioStreamInFrameSize header input) input.sampleRate)
        (rest.map (Read.turn (audioStreamInFrameSize header input) input.sampleRate)))
      (input.afterReads header (first :: rest)).lastReadTimeUs.toInt
  forward : ∀ front read later, reads = front ++ read :: later →
    (input.afterReads header front).lastReadTimeUs.toInt ≤
      (input.afterReads header (front ++ [read])).lastReadTimeUs.toInt
  punctual : ∀ front read later, reads = front ++ read :: later → Punctual header input front read

/-- What the sleep that is due to a read loses to the 32 bits of `usleep` is time by which reads
have come late. -/
def SleepFits (frameSize : SizeT) (rate : BitVec 32) (front : List Read) (read : Read) : Prop :=
  2 ^ 32 * ((drainTime frameSize rate (front ++ [read]) - read.now.toInt) / 2 ^ 32) ≤
    drainTime frameSize rate (front ++ [read]) - earliest frameSize rate (front ++ [read])

/-- The sleeps of all reads fit. -/
def SleepsFit (frameSize : SizeT) (rate : BitVec 32) (reads : List Read) : Prop :=
  ∀ front read later, reads = front ++ read :: later → SleepFits frameSize rate front read

section Times

variable {frameSize : SizeT} {rate : BitVec 32} {front later : List Read} {read : Read}

theorem Read.duration_nonneg : 0 ≤ read.duration frameSize rate := Int.natCast_nonneg _

/-- The first read counts from the present, the others from the time before. -/
theorem drainTime_append : drainTime frameSize rate (front ++ [read]) =
    if front = [] then read.now.toInt + read.duration frameSize rate
    else max (drainTime frameSize rate front + read.duration frameSize rate) read.now.toInt := by
  cases front with
  | nil => rfl
  | cons first rest =>
      rw [if_neg (List.cons_ne_nil _ _)]
      simp only [drainTime, List.cons_append, List.map_append, List.map_cons, List.map_nil,
        Ratchet.turns_append]
      rfl

/-- A read is not drained before it comes. -/
theorem now_le_drainTime : read.now.toInt ≤ drainTime frameSize rate (front ++ [read]) := by
  cases front with
  | nil =>
      have forward : 0 ≤ read.duration frameSize rate := Read.duration_nonneg
      exact Int.le_add_of_nonneg_right forward
  | cons first rest =>
      simp only [drainTime, List.cons_append, List.map_append, List.map_cons, List.map_nil]
      exact Ratchet.floor_le_turns_append _ _ (read.turn frameSize rate)

theorem drainTime_pos (positive : ∀ read ∈ front, 0 < read.now.toInt) (some : front ≠ []) :
    0 < drainTime frameSize rate front := by
  obtain ⟨before, last, rfl⟩ := List.eq_nil_or_concat front |>.resolve_left some
  rw [List.concat_eq_append] at positive ⊢
  exact (positive last (by simp)).trans_le now_le_drainTime

theorem drainTime_nonneg (positive : ∀ read ∈ front, 0 < read.now.toInt) :
    0 ≤ drainTime frameSize rate front := by
  by_cases some : front = []
  · rw [some, drainTime]
  · exact (drainTime_pos positive some).le

/-- A read does not move the time back. -/
theorem drainTime_le_append_singleton (positive : ∀ given ∈ front ++ [read], 0 < given.now.toInt) :
    drainTime frameSize rate front ≤ drainTime frameSize rate (front ++ [read]) := by
  cases front with
  | nil => exact drainTime_nonneg positive
  | cons first rest =>
      simp only [drainTime, List.cons_append, List.map_append, List.map_cons, List.map_nil]
      exact Ratchet.turns_le_turns_append Read.duration_nonneg

theorem drainTime_le_append (positive : ∀ read ∈ front ++ later, 0 < read.now.toInt) :
    drainTime frameSize rate front ≤ drainTime frameSize rate (front ++ later) := by
  induction later using List.reverseRecOn with
  | nil => rw [List.append_nil]
  | append_singleton later last ih =>
      rw [← List.append_assoc] at positive ⊢
      have before : ∀ read ∈ front ++ later, 0 < read.now.toInt :=
        fun read member => positive read (List.mem_append_left _ member)
      exact (ih before).trans (drainTime_le_append_singleton positive)

/-- Reads that come late only delay the others. -/
theorem earliest_le_drainTime : earliest frameSize rate front ≤ drainTime frameSize rate front := by
  cases front with
  | nil => exact le_rfl
  | cons first rest => exact Ratchet.add_total_le_turns

/-- Nothing is lost of a sleep of less than 2 ^ 32 microseconds. -/
theorem sleepFits_of_short
    (short : drainTime frameSize rate (front ++ [read]) - read.now.toInt < 2 ^ 32) :
    SleepFits frameSize rate front read := by
  have due : read.now.toInt ≤ drainTime frameSize rate (front ++ [read]) := now_le_drainTime
  have late : earliest frameSize rate (front ++ [read]) ≤
      drainTime frameSize rate (front ++ [read]) := earliest_le_drainTime
  rw [SleepFits]
  omega

end Times

/-! ## What a read computes -/

/-- The stream with another last read time. -/
def StreamIn.readUntil (time : Int) (input : StreamIn) : StreamIn :=
  { input with lastReadTimeUs := .ofInt 64 time }

section Steps

variable {header : AudioHeader} {input : StreamIn} {read : Read}

/-- The duration that is computed without sign is the one in whole numbers. -/
theorem divide_duration (frame : audioStreamInFrameSize header input ≠ 0)
    (rate : input.sampleRate ≠ 0) (fits : read.bytes.toNat * 1000000 < 2 ^ 64) :
    ((divide (read.bytes * 1000000) (audioStreamInFrameSize header input)).bind
        fun duration => divide duration (input.sampleRate.setWidth 64)) =
      some (.ofInt 64 (read.duration (audioStreamInFrameSize header input) input.sampleRate)) := by
  have wide : (input.sampleRate.setWidth 64).toNat = input.sampleRate.toNat := by
    have bound := input.sampleRate.isLt
    rw [BitVec.toNat_setWidth, Nat.mod_eq_of_lt (by omega)]
  have rateWide : input.sampleRate.setWidth 64 ≠ 0 := by
    intro zero
    apply rate
    rw [← BitVec.toNat_inj, ← wide, zero]
    rfl
  have product : (read.bytes * 1000000).toNat = read.bytes.toNat * 1000000 := by
    rw [BitVec.toNat_mul]
    exact Nat.mod_eq_of_lt fits
  have small : read.bytes.toNat * 1000000 / (audioStreamInFrameSize header input).toNat /
      input.sampleRate.toNat ≤ read.bytes.toNat * 1000000 :=
    (Nat.div_le_self _ _).trans (Nat.div_le_self _ _)
  rw [divide, if_neg frame, Option.bind_some, divide, if_neg rateWide, Read.duration,
    BitVec.ofInt_natCast, Option.some.injEq, ← BitVec.toNat_inj, BitVec.toNat_udiv,
    BitVec.toNat_udiv, product, wide, BitVec.toNat_ofNat, Nat.mod_eq_of_lt (by omega)]

/-- The sleep that is due, taken without sign, is the one in whole numbers. -/
theorem sleepTime_eq (input : StreamIn) (read : Read) (amount : Int) {last : Int}
    (nonneg : 0 ≤ last) (room : last < 2 ^ 63) :
    .ofInt 64 amount - (if (input.readUntil last).lastReadTimeUs = 0 then 0
        else read.now - (input.readUntil last).lastReadTimeUs) =
      BitVec.ofInt 64 (amount - if last = 0 then 0 else read.now.toInt - last) := by
  have standby : (input.readUntil last).lastReadTimeUs = 0 ↔ last = 0 :=
    Bits.ofInt_eq_zero_iff (by decide) (by omega) (by omega)
  have word : (input.readUntil last).lastReadTimeUs = .ofInt 64 last := rfl
  simp only [standby, Bits.ofInt_sub]
  congr 1
  split
  · rfl
  · rw [word, Bits.ofInt_sub, BitVec.ofInt_toInt]

/-- The specification of a read: the sums and differences of the 64-bit words are the ones of
whole numbers, and only `usleep` takes less. -/
theorem inRead_eq (frame : audioStreamInFrameSize header input ≠ 0) (rate : input.sampleRate ≠ 0)
    (fits : read.bytes.toNat * 1000000 < 2 ^ 64) (positive : 0 < read.now.toInt) {last next : Int}
    (nonneg : 0 ≤ last)
    (moves : next =
      if last = 0 then
        read.now.toInt + read.duration (audioStreamInFrameSize header input) input.sampleRate
      else max (last + read.duration (audioStreamInFrameSize header input) input.sampleRate)
        read.now.toInt)
    (room : next < 2 ^ 63) :
    (input.readUntil last).inRead header read.bytes read.now =
      (some {
        returned := read.bytes.toInt
        slept := if read.now.toInt < next then some (.ofInt 32 (next - read.now.toInt)) else none },
        input.readUntil next) := by
  have forward : 0 ≤ read.duration (audioStreamInFrameSize header input) input.sampleRate :=
    Read.duration_nonneg
  have duration : (divide (read.bytes * 1000000)
      (audioStreamInFrameSize header (input.readUntil last))).bind
        (fun duration => divide duration ((input.readUntil last).sampleRate.setWidth 64)) =
      some (.ofInt 64 (read.duration (audioStreamInFrameSize header input) input.sampleRate)) :=
    divide_duration frame rate fits
  generalize read.duration (audioStreamInFrameSize header input) input.sampleRate = amount at *
  have lastRoom : last < 2 ^ 63 := by
    split at moves <;> omega
  have sleepTime := sleepTime_eq input read amount nonneg lastRoom
  generalize sleeps : (amount - if last = 0 then 0 else read.now.toInt - last) = sleep at sleepTime
  have moved : next = if 0 < sleep then read.now.toInt + sleep else read.now.toInt := by
    rw [moves, ← sleeps]
    split_ifs <;> omega
  have lower : -2 ^ 63 ≤ sleep := by
    rw [← sleeps]
    split <;> omega
  have awake : (0 : BitVec 64).slt (.ofInt 64 sleep) = true ↔ 0 < sleep := by
    apply Bits.zero_slt_ofInt_iff (by decide) lower
    split at moved <;> omega
  simp only [StreamIn.inRead, duration, sleepTime, awake]
  by_cases asleep : 0 < sleep
  · rw [if_pos asleep] at moved
    have due : next - read.now.toInt = sleep := by omega
    have moment : read.now + .ofInt 64 sleep = .ofInt 64 next := by
      rw [moved, BitVec.ofInt_add, BitVec.ofInt_toInt]
    rw [if_pos asleep, if_pos (show read.now.toInt < next by omega), due,
      Bits.setWidth_ofInt (by decide), moment]
    rfl
  · rw [if_neg asleep] at moved
    have moment : read.now + 0 = .ofInt 64 next := by
      rw [moved, BitVec.ofInt_toInt]
      exact BitVec.add_zero _
    rw [if_neg asleep, if_neg (show ¬ read.now.toInt < next by omega), moment]
    rfl

end Steps

/-! ## What a run of reads computes -/

/-- A run of reads within the range of its integers: there are frames and a rate, the clock has
started, and neither a product nor the last sum exceeds 64 bits. -/
structure ReadsInRange (header : AudioHeader) (input : StreamIn) (reads : List Read) : Prop where
  frame : audioStreamInFrameSize header input ≠ 0
  rate : input.sampleRate ≠ 0
  positive : ∀ read ∈ reads, 0 < read.now.toInt
  fits : ∀ read ∈ reads, read.bytes.toNat * 1000000 < 2 ^ 64
  room : drainTime (audioStreamInFrameSize header input) input.sampleRate reads < 2 ^ 63

section Runs

variable {header : AudioHeader} {input : StreamIn} {reads front later : List Read} {read : Read}

theorem ReadsInRange.ofAppend (inRange : ReadsInRange header input (front ++ later)) :
    ReadsInRange header input front where
  frame := inRange.frame
  rate := inRange.rate
  positive given member := inRange.positive given (List.mem_append_left _ member)
  fits given member := inRange.fits given (List.mem_append_left _ member)
  room := (drainTime_le_append inRange.positive).trans_lt inRange.room

theorem afterReads_append : input.afterReads header (front ++ [read]) =
    ((input.afterReads header front).inRead header read.bytes read.now).2 := by
  rw [StreamIn.afterReads, List.map_append, Machine.run_append]
  rfl

/-- The read after some others. -/
theorem inRead_of_afterReads (inRange : ReadsInRange header input (front ++ [read]))
    (before : input.afterReads header front = input.readUntil
      (drainTime (audioStreamInFrameSize header input) input.sampleRate front))
    {next : Int} (drained : next =
      drainTime (audioStreamInFrameSize header input) input.sampleRate (front ++ [read])) :
    (input.afterReads header front).inRead header read.bytes read.now =
      (some {
        returned := read.bytes.toInt
        slept := if read.now.toInt < next then some (.ofInt 32 (next - read.now.toInt)) else none },
        input.readUntil next) := by
  have last : read ∈ front ++ [read] := by simp
  have standby : drainTime (audioStreamInFrameSize header input) input.sampleRate front = 0 ↔
      front = [] := by
    constructor
    · intro zero
      by_contra some
      exact absurd zero (drainTime_pos inRange.ofAppend.positive some).ne'
    · rintro rfl
      rfl
  rw [before]
  refine inRead_eq inRange.frame inRange.rate (inRange.fits read last)
    (inRange.positive read last) (drainTime_nonneg inRange.ofAppend.positive) ?_
    (drained ▸ inRange.room)
  rw [drained, drainTime_append]
  simp only [standby]

/-- The last read time after a run is the time at which its frames are recorded. -/
theorem afterReads_eq (inRange : ReadsInRange header input reads) :
    input.afterReads header reads = input.readUntil
      (drainTime (audioStreamInFrameSize header input) input.sampleRate reads) := by
  induction reads using List.reverseRecOn with
  | nil => rfl
  | append_singleton front read ih =>
      rw [afterReads_append, inRead_of_afterReads inRange (ih inRange.ofAppend) rfl]

theorem lastReadTimeUs_afterReads (inRange : ReadsInRange header input reads) :
    (input.afterReads header reads).lastReadTimeUs.toInt =
      drainTime (audioStreamInFrameSize header input) input.sampleRate reads := by
  have nonneg : 0 ≤ drainTime (audioStreamInFrameSize header input) input.sampleRate reads :=
    drainTime_nonneg inRange.positive
  have room := inRange.room
  rw [afterReads_eq inRange]
  exact BitVec.toInt_ofInt_eq_self (by decide) (by omega) (by omega)

/-- What `usleep` is asked for: the sleep that is due, less what 32 bits do not hold. -/
theorem punctual_iff (inRange : ReadsInRange header input (front ++ [read])) :
    Punctual header input front read ↔
      SleepFits (audioStreamInFrameSize header input) input.sampleRate front read := by
  have due : read.now.toInt ≤
      drainTime (audioStreamInFrameSize header input) input.sampleRate (front ++ [read]) :=
    now_le_drainTime
  rw [Punctual, SleepFits]
  generalize drained : drainTime (audioStreamInFrameSize header input) input.sampleRate
    (front ++ [read]) = next at *
  generalize earliest (audioStreamInFrameSize header input) input.sampleRate
    (front ++ [read]) = start
  have step := inRead_of_afterReads inRange (afterReads_eq inRange.ofAppend) drained.symm
  have answers : (inputMachine header).answer (input.afterReads header front) (.read read) = some {
      returned := read.bytes.toInt
      slept := if read.now.toInt < next then some (.ofInt 32 (next - read.now.toInt)) else none } :=
    congrArg Prod.fst step
  have asked : ((InputAnswer.asked {
      returned := read.bytes.toInt
      slept := if read.now.toInt < next then some (.ofInt 32 (next - read.now.toInt))
        else none } : Nat) : Int) = (next - read.now.toInt) % 2 ^ 32 := by
    rw [InputAnswer.asked]
    split
    · rw [Option.elim_some, BitVec.toNat_ofInt]
      omega
    · rw [Option.elim_none]
      omega
  rw [answers]
  constructor
  · rintro ⟨answer, same, -, punctual⟩
    obtain rfl := Option.some.inj same
    have early := punctual _ le_rfl
    rw [asked] at early
    omega
  · intro fits
    refine ⟨_, rfl, rfl, fun returned slept => ?_⟩
    rw [asked] at slept
    omega

/-- The pacing of reads is kept exactly if nothing is lost of the sleeps. -/
theorem input_paced_iff (inRange : ReadsInRange header input reads) :
    Paced header input reads ↔
      SleepsFit (audioStreamInFrameSize header input) input.sampleRate reads := by
  constructor
  · rintro paced front read later rfl
    have upTo : ReadsInRange header input (front ++ [read]) := by
      rw [List.append_cons] at inRange
      exact inRange.ofAppend
    exact (punctual_iff upTo).mp (paced.punctual front read later rfl)
  · intro fit
    refine ⟨?_, ?_, ?_⟩
    · rintro first rest later rfl
      rw [lastReadTimeUs_afterReads inRange.ofAppend]
      exact Ratchet.turns_isGreatest
    · rintro front read later rfl
      rw [List.append_cons] at inRange
      rw [lastReadTimeUs_afterReads inRange.ofAppend.ofAppend,
        lastReadTimeUs_afterReads inRange.ofAppend]
      exact drainTime_le_append_singleton inRange.ofAppend.positive
    · intro front read later split
      have upTo : ReadsInRange header input (front ++ [read]) := by
        rw [split, List.append_cons] at inRange
        exact inRange.ofAppend
      exact (punctual_iff upTo).mpr (fit front read later split)

end Runs

/-- Three reads of 10 milliseconds each, of which the third one comes late. -/
theorem input_paced_example :
    Paced exampleHeader (exampleInput 44100) [⟨1764, 100⟩, ⟨1764, 200⟩, ⟨1764, 50000⟩] := by
  have inRange : ReadsInRange exampleHeader (exampleInput 44100)
      [⟨1764, 100⟩, ⟨1764, 200⟩, ⟨1764, 50000⟩] :=
    ⟨by decide, by decide, by decide, by decide, by decide⟩
  apply (input_paced_iff inRange).mpr
  intro front read later split
  apply sleepFits_of_short
  have started := inRange.positive read (split ▸ List.mem_append_right _ List.mem_cons_self)
  rw [List.append_cons] at split
  have total : drainTime (audioStreamInFrameSize exampleHeader (exampleInput 44100))
      (exampleInput 44100).sampleRate (front ++ [read]) ≤
        drainTime (audioStreamInFrameSize exampleHeader (exampleInput 44100))
          (exampleInput 44100).sampleRate (front ++ [read] ++ later) :=
    drainTime_le_append (split ▸ inRange.positive)
  rw [← split] at total
  have all : drainTime (audioStreamInFrameSize exampleHeader (exampleInput 44100))
      (exampleInput 44100).sampleRate [⟨1764, 100⟩, ⟨1764, 200⟩, ⟨1764, 50000⟩] < 2 ^ 32 := by
    decide
  omega

/-- A single read of 4295 seconds asks for a sleep of 32704 microseconds. -/
theorem input_not_always_paced :
    adevOpenInputStream true (exampleConfig 8000) = (0, some (exampleInput 8000)) ∧
      ReadsInRange exampleHeader (exampleInput 8000) [⟨137440000, 1⟩] ∧
      ((exampleInput 8000).inRead exampleHeader 137440000 1).1 =
        some { returned := 137440000, slept := some 32704 } ∧
      ¬ Paced exampleHeader (exampleInput 8000) [⟨137440000, 1⟩] := by
  refine ⟨by decide, ⟨by decide, by decide, by decide, by decide, by decide⟩, by decide,
    fun paced => ?_⟩
  obtain ⟨answer, answers, -, punctual⟩ := paced.punctual [] ⟨137440000, 1⟩ [] rfl
  obtain rfl : { returned := 137440000, slept := some 32704 } = answer :=
    Option.some.inj (answers.symm.trans (by decide)) |>.symm
  exact absurd (punctual 32705 (by decide)) (by decide)

end Arpi.Audio
