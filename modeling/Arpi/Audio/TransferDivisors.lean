import Arpi.Audio.InputBufferSize

/-!
# The divisors of transfers

`out_write` and `in_read` divide by the size of a frame and by the sample rate. A stream
starts with a rate, but the setters take any rate and any format, and nothing is checked
before a transfer.
-/

namespace Arpi.Audio

open Arpi.Semantics

/-- A linear PCM format whose samples have no known size. -/
def UnknownSample (header : AudioHeader) (format : AudioFormat) : Prop :=
  header.hasProportionalFrames format = true ∧ header.bytesPerSample format = 0

instance (header : AudioHeader) (format : AudioFormat) : Decidable (UnknownSample header format) :=
  inferInstanceAs (Decidable (_ ∧ _))

/-- A write fails: the stream cannot be started, or `pcm_write` returns an error that is no
underrun. -/
def WriteFails (standby : Bool) (opening : PcmOpening) (result : Int) : Prop :=
  if standby = true ∧ opening ≠ .ready then True else result ≠ 0 ∧ result ≠ -epipe

instance (standby : Bool) (opening : PcmOpening) (result : Int) :
    Decidable (WriteFails standby opening result) := inferInstanceAs (Decidable (ite _ _ _))

/-- A write comes while the samples have a known size, and if it fails while there is a rate. -/
def OutputDivisible (header : AudioHeader) (state : OutputState) : OutputCall → Prop
  | .write _ opening result =>
      ¬ UnknownSample header state.out.format ∧
        (WriteFails state.out.standby opening result → state.out.sampleRate ≠ 0)
  | _ => True

/-- A read comes while there are samples of a known size, channels and a rate. -/
def InputDivisible (header : AudioHeader) (input : StreamIn) : InputCall → Prop
  | .read _ =>
      ¬ UnknownSample header input.format ∧
        (header.hasProportionalFrames input.format = true →
          header.channelCountFromInMask input.channelMask ≠ 0) ∧
        input.sampleRate ≠ 0
  | _ => True

/-- A call divides by no zero: it has an answer. -/
def Divides {State Call Answer : Type} (machine : Machine State Call (Option Answer))
    (state : State) (call : Call) : Prop := machine.answer state call ≠ none

/-! ## Frames and quotients -/

theorem divide_eq_none_iff {dividend divisor : SizeT} :
    divide dividend divisor = none ↔ divisor = 0 := by
  unfold divide
  split <;> simp_all

/-- A duration is a quotient of a quotient. -/
theorem duration_eq_none_iff (dividend frameSize : SizeT) (rate : BitVec 32) :
    ((divide dividend frameSize).bind fun duration => divide duration (rate.setWidth 64)) =
        none ↔ frameSize = 0 ∨ rate = 0 := by
  have wide : rate.setWidth 64 = 0 ↔ rate = 0 := by
    rw [← BitVec.toNat_inj, ← BitVec.toNat_inj, BitVec.toNat_setWidth]
    have bound := rate.isLt
    simp only [BitVec.ofNat_eq_ofNat, BitVec.toNat_ofNat, Nat.zero_mod]
    omega
  cases quotient : divide dividend frameSize with
  | none => simp [divide_eq_none_iff.mp quotient]
  | some duration =>
      have divisible : frameSize ≠ 0 := by
        intro zero
        rw [divide_eq_none_iff.mpr zero] at quotient
        cases quotient
      rw [Option.bind_some, divide_eq_none_iff, wide, or_iff_right divisible]

section Frames

variable {header : AudioHeader}

/-- A frame is empty if its samples are, or if it has none. -/
theorem frameSize_eq_zero_iff (contract : HeaderContract header) {channels : BitVec 32}
    (few : channels.toNat ≤ 32) {format : AudioFormat} :
    header.frameSize channels format = 0 ↔
      UnknownSample header format ∨
        header.hasProportionalFrames format = true ∧ channels = 0 := by
  by_cases linear : header.hasProportionalFrames format = true
  · rw [← BitVec.toNat_inj, frameSize_toNat contract few linear, UnknownSample,
      ← BitVec.toNat_inj (x := header.bytesPerSample format),
      ← BitVec.toNat_inj (x := channels)]
    simp [linear, or_comm]
  · simp [AudioHeader.frameSize, UnknownSample, linear]

end Frames

/-! ## Output streams -/

namespace OutputState

/-- The fields of a stream that only the setters write. -/
def settings (state : OutputState) : AudioConfig :=
  ⟨state.out.sampleRate, state.out.channelMask, state.out.format⟩

variable {header : AudioHeader} (state : OutputState)

@[simp] theorem emit_out (event : AudioEvent) : (state.emit event).out = state.out := rfl

@[simp] theorem emit_settings (event : AudioEvent) :
    (state.emit event).settings = state.settings := rfl

@[simp] theorem setStandby_settings (standby : Bool) :
    (state.setStandby standby).settings = state.settings := rfl

@[simp] theorem addWritten_settings (frames : SizeT) :
    (state.addWritten frames).settings = state.settings := rfl

@[simp] theorem pcmOpen_settings (ready : Bool) :
    (state.pcmOpen ready).settings = state.settings := rfl

@[simp] theorem startOutputStream_settings (opening : PcmOpening) :
    (state.startOutputStream opening).2.settings = state.settings := by
  cases opening <;> rfl

theorem outStandby_settings : state.outStandby.2.settings = state.settings := by
  simp only [outStandby]
  split <;> rfl

/-- The frame size is one of the settings. -/
theorem frameSize_eq : audioStreamOutFrameSize header state.out =
    header.frameSize (header.channelCountFromOutMask state.settings.channelMask)
      state.settings.format := rfl

variable (header)

theorem exitWrite_settings (bytes : SizeT) (ret : Int) :
    (exitWrite header bytes ret state).2.settings = state.settings := by
  simp only [exitWrite]
  split
  · split <;> rfl
  · rfl

theorem writeStarted_settings (bytes inFrames frameSize : SizeT) (result : Int) :
    (writeStarted header bytes inFrames frameSize result state).2.settings = state.settings := by
  simp only [writeStarted]
  split
  · rfl
  · split <;> simp only [exitWrite_settings, addWritten_settings, emit_settings]

theorem outWrite_settings (bytes : SizeT) (opening : PcmOpening) (result : Int) :
    (outWrite header bytes opening result state).2.settings = state.settings := by
  simp only [outWrite]
  split
  · rfl
  · split
    · split <;> simp only [exitWrite_settings, writeStarted_settings, setStandby_settings,
        startOutputStream_settings, emit_settings]
    · simp only [writeStarted_settings, emit_settings]

/-- From the label on, a write divides only if it failed. -/
theorem exitWrite_eq_none_iff (bytes : SizeT) (ret : Int) :
    (exitWrite header bytes ret state).1 = none ↔
      ret ≠ 0 ∧ (audioStreamOutFrameSize header state.out = 0 ∨ state.settings.sampleRate = 0) := by
  by_cases failed : ret = 0
  · simp [exitWrite, failed]
  · have divides := duration_eq_none_iff (bytes * 1000000)
      (audioStreamOutFrameSize header state.out) state.out.sampleRate
    rw [and_iff_right failed, show state.settings.sampleRate = state.out.sampleRate from rfl,
      ← divides]
    simp only [exitWrite, if_pos failed, emit_out]
    generalize ((divide (bytes * 1000000) (audioStreamOutFrameSize header state.out)).bind
      fun duration => divide duration (state.out.sampleRate.setWidth 64)) = slept
    cases slept <;> simp

theorem writeStarted_eq_none_iff (bytes inFrames frameSize : SizeT) (result : Int) :
    (writeStarted header bytes inFrames frameSize result state).1 = none ↔
      (result ≠ 0 ∧ result ≠ -epipe) ∧
        (audioStreamOutFrameSize header state.out = 0 ∨ state.settings.sampleRate = 0) := by
  by_cases underrun : result = -epipe
  · simp [writeStarted, underrun]
  · by_cases succeeded : result = 0
    · rw [writeStarted, if_neg underrun, if_pos succeeded, exitWrite_eq_none_iff]
      exact iff_of_false (fun failed => failed.1 succeeded) (fun failed => failed.1.1 succeeded)
    · rw [writeStarted, if_neg underrun, if_neg succeeded, exitWrite_eq_none_iff, emit_settings,
        emit_settings, and_iff_right succeeded, and_iff_right ⟨succeeded, underrun⟩]
      rfl

/-- The specification of the divisions of `out_write`. -/
theorem outWrite_eq_none_iff (bytes : SizeT) (opening : PcmOpening) (result : Int) :
    (outWrite header bytes opening result state).1 = none ↔
      audioStreamOutFrameSize header state.out = 0 ∨
        WriteFails state.out.standby opening result ∧ state.settings.sampleRate = 0 := by
  cases frames : divide bytes (audioStreamOutFrameSize header state.out) with
  | none =>
      simp only [outWrite, frames, true_iff]
      exact .inl (divide_eq_none_iff.mp frames)
  | some inFrames =>
      have divisible : audioStreamOutFrameSize header state.out ≠ 0 := by
        intro zero
        rw [divide_eq_none_iff.mpr zero] at frames
        cases frames
      rw [or_iff_right divisible]
      cases standby : state.out.standby with
      | false =>
          rw [outWrite_of_running frames standby, writeStarted_eq_none_iff, emit_settings,
            emit_settings, WriteFails, if_neg (fun starting => absurd starting.1 (by decide)),
            emit_out, emit_out, or_iff_right divisible]
      | true =>
          by_cases ready : opening = .ready
          · subst ready
            rw [outWrite_of_ready frames standby, writeStarted_eq_none_iff, frameSize_eq,
              setStandby_settings, pcmOpen_settings, emit_settings, emit_settings,
              ← frameSize_eq, or_iff_right divisible, WriteFails,
              if_neg (fun failed => failed.2 rfl)]
          · rw [outWrite_of_notStarted frames standby ready, exitWrite_eq_none_iff,
              frameSize_eq, emit_settings, startOutputStream_settings, emit_settings,
              emit_settings, ← frameSize_eq, or_iff_right divisible, WriteFails,
              if_pos ⟨rfl, ready⟩, true_and, and_iff_right (by decide)]

end OutputState

section Streams

variable {header : AudioHeader}

/-- The only configuration that an output stream is opened with. -/
def defaultOutputConfig : AudioConfig :=
  ⟨stubDefaultSampleRate, stubOutputDefaultChannelMask, stubDefaultAudioFormat⟩

/-- The stream that is opened with it. -/
def defaultOutput : StreamOut where
  sampleRate := stubDefaultSampleRate
  channelMask := stubOutputDefaultChannelMask
  format := stubDefaultAudioFormat
  frameCount := samplesPerMilliseconds stubOutputBufferMilliseconds stubDefaultSampleRate 1
  pcm := none
  standby := true
  written := 0

/-- Only one configuration is accepted, so that every stream is opened alike. -/
theorem openedOutput_eq {allocated : Bool} {config : AudioConfig} {out : StreamOut}
    (opened : adevOpenOutputStream allocated config = (0, some out)) : out = defaultOutput := by
  unfold adevOpenOutputStream at opened
  by_cases checked : checkOutputConfig config = 0
  · cases allocated with
    | false => simp [checked] at opened
    | true =>
        have accepted : config = defaultOutputConfig := by
          unfold checkOutputConfig at checked
          split at checked
          next supported =>
            obtain ⟨rate, format, mask⟩ := supported
            exact (AudioConfig.mk.injEq ..).mpr ⟨rate, mask, format⟩
          next => exact absurd checked (by decide)
        simp only [checked, ne_eq, not_true, if_false] at opened
        rw [← Option.some.inj (Prod.mk.inj opened).2, accepted]
        decide
  · simp [checked] at opened

/-- Nothing changes the channels of an output stream. -/
theorem outputMachine_channelMask (state : OutputState) (call : OutputCall) :
    ((outputMachine header).next state call).out.channelMask = state.out.channelMask := by
  cases call with
  | setSampleRate rate => rfl
  | setFormat format => rfl
  | standby => exact congrArg AudioConfig.channelMask state.outStandby_settings
  | write bytes opening result =>
      exact congrArg AudioConfig.channelMask
        (state.outWrite_settings header bytes opening result)

/-- An output stream is opened for stereo, and a write then divides by the size of two
samples. -/
theorem output_divides_iff (contract : HeaderContract header) (state : OutputState)
    (stereo : state.out.channelMask = audioChannelOutStereo) (call : OutputCall) :
    Divides (outputMachine header) state call ↔ OutputDivisible header state call := by
  cases call with
  | setSampleRate rate => simp [Divides, OutputDivisible, Machine.answer, outputMachine]
  | setFormat format => simp [Divides, OutputDivisible, Machine.answer, outputMachine]
  | standby => simp [Divides, OutputDivisible, Machine.answer, outputMachine]
  | write bytes opening result =>
      have few := contract.outChannels audioChannelOutStereo
      have channels : header.channelCountFromOutMask audioChannelOutStereo ≠ 0 := by
        rw [contract.outStereo]
        decide
      have frame : audioStreamOutFrameSize header state.out = 0 ↔
          UnknownSample header state.out.format := by
        rw [audioStreamOutFrameSize, stereo, frameSize_eq_zero_iff contract few]
        exact or_iff_left fun empty => channels empty.2
      have answer : (outputMachine header).answer state (.write bytes opening result) =
          (state.outWrite header bytes opening result).1 := rfl
      rw [Divides, answer, ne_eq, OutputState.outWrite_eq_none_iff, frame, not_or, not_and]
      rfl

/-! ## Input streams -/

theorem input_divides_iff (contract : HeaderContract header) (input : StreamIn)
    (call : InputCall) :
    Divides (inputMachine header) input call ↔ InputDivisible header input call := by
  cases call with
  | setSampleRate rate => simp [Divides, InputDivisible, Machine.answer, inputMachine]
  | setFormat format => simp [Divides, InputDivisible, Machine.answer, inputMachine]
  | standby => simp [Divides, InputDivisible, Machine.answer, inputMachine]
  | read read =>
      have few := contract.inChannels input.channelMask
      have answer : (inputMachine header).answer input (.read read) = none ↔
          audioStreamInFrameSize header input = 0 ∨ input.sampleRate = 0 := by
        rw [← duration_eq_none_iff (read.bytes * 1000000)]
        simp only [Machine.answer, inputMachine, StreamIn.inRead]
        generalize ((divide (read.bytes * 1000000) (audioStreamInFrameSize header input)).bind
          fun duration => divide duration (input.sampleRate.setWidth 64)) = slept
        cases slept with
        | none => simp
        | some duration =>
            refine iff_of_false ?_ (by simp)
            dsimp only
            split_ifs <;> simp
      rw [Divides, ne_eq, answer, audioStreamInFrameSize, frameSize_eq_zero_iff contract few,
        InputDivisible, not_or, not_or, not_and, and_assoc]

/-- In every run of an output stream that was opened, and in every run of an input stream, no
call divides by zero exactly if every transfer comes while the settings allow it. -/
theorem transfers_divide_iff (contract : HeaderContract header) {allocated : Bool}
    {config : AudioConfig} {out : StreamOut}
    (opened : adevOpenOutputStream allocated config = (0, some out))
    (outputCalls : List OutputCall) (input : StreamIn) (inputCalls : List InputCall) :
    ((outputMachine header).EachStep (Divides (outputMachine header)) (.opened out) outputCalls ↔
      (outputMachine header).EachStep (OutputDivisible header) (.opened out) outputCalls) ∧
    ((inputMachine header).EachStep (Divides (inputMachine header)) input inputCalls ↔
      (inputMachine header).EachStep (InputDivisible header) input inputCalls) := by
  constructor
  · have stereo : (OutputState.opened out).out.channelMask = audioChannelOutStereo := by
      rw [openedOutput_eq opened]
      rfl
    have preserved : ∀ state call, state.out.channelMask = audioChannelOutStereo →
        True → OutputDivisible header state call →
        ((outputMachine header).next state call).out.channelMask = audioChannelOutStereo := by
      intro state call mask _ _
      rw [outputMachine_channelMask, mask]
    exact (outputMachine header).eachStep_iff_eachStep preserved
      (fun state call mask _ => output_divides_iff contract state mask call) stereo
      (Machine.eachStep_of_forall _ (fun _ _ => trivial) _ _)
  · exact Machine.eachStep_congr _ (input_divides_iff contract) _ _

end Streams

/-- Without a rate a write that succeeds or runs short of data divides once only. -/
theorem transfers_divide_example :
    (outputMachine exampleHeader).EachStep (Divides (outputMachine exampleHeader))
        (.opened defaultOutput)
        [.write 1764 .notReady 0, .setSampleRate 0, .write 1764 .ready 0, .setFormat 2,
          .write 1764 .null (-epipe)] ∧
      (inputMachine exampleHeader).EachStep (Divides (inputMachine exampleHeader))
        (exampleInput 44100) [.setFormat 2, .read ⟨3528, 1⟩, .standby, .read ⟨3528, 2⟩] := by
  have exact := transfers_divide_iff exampleHeader_contract
    (show adevOpenOutputStream true defaultOutputConfig = (0, some defaultOutput) by decide)
    [.write 1764 .notReady 0, .setSampleRate 0, .write 1764 .ready 0, .setFormat 2,
      .write 1764 .null (-epipe)]
    (exampleInput 44100) [.setFormat 2, .read ⟨3528, 1⟩, .standby, .read ⟨3528, 2⟩]
  refine ⟨exact.1.mpr ?_, exact.2.mpr ?_⟩
  · exact ⟨⟨by decide, by decide⟩, trivial, ⟨by decide, by decide⟩, trivial,
      ⟨by decide, by decide⟩, trivial⟩
  · exact ⟨trivial, ⟨by decide, by decide, by decide⟩, trivial,
      ⟨by decide, by decide, by decide⟩, trivial⟩

/-- The setters take a format of unknown samples, and no rate. -/
theorem transfers_not_always_divide :
    adevOpenOutputStream true defaultOutputConfig = (0, some defaultOutput) ∧
      ¬ (outputMachine exampleHeader).EachStep (Divides (outputMachine exampleHeader))
        (.opened defaultOutput) [.setFormat 7, .write 1764 .ready 0] ∧
      ¬ (outputMachine exampleHeader).EachStep (Divides (outputMachine exampleHeader))
        (.opened defaultOutput) [.setSampleRate 0, .write 1764 .null 0] ∧
      adevOpenInputStream true (exampleConfig 44100) = (0, some (exampleInput 44100)) ∧
      ¬ (inputMachine exampleHeader).EachStep (Divides (inputMachine exampleHeader))
        (exampleInput 44100) [.setSampleRate 0, .read ⟨3528, 1⟩] := by
  refine ⟨by decide, fun steps => ?_, fun steps => ?_, by decide, fun steps => ?_⟩
  · exact steps.2.1 (by decide)
  · exact steps.2.1 (by decide)
  · exact steps.2.1 (by decide)

end Arpi.Audio
