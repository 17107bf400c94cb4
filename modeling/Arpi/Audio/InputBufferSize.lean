import Arpi.Audio.AudioHw
import Mathlib.Tactic.Ring

/-!
# The size of input buffers

`adev_get_input_buffer_size` rounds the samples of a buffer down, `in_get_buffer_size` of an
opened stream its frames. The two differ by the samples of a frame that is not complete.
-/

namespace Arpi.Audio

/-- The bytes of a frame of a configuration, as a number. -/
def AudioConfig.frameBytes (header : AudioHeader) (config : AudioConfig) : Nat :=
  (header.channelCountFromInMask config.channelMask).toNat *
    (header.bytesPerSample config.format).toNat

/-- The advertised size is the one of the stream, and both are whole numbers of frames. -/
structure SizesAgree (header : AudioHeader) (config : AudioConfig) (input : StreamIn) : Prop where
  same : adevGetInputBufferSize header config = input.inGetBufferSize header
  advertised : config.frameBytes header ∣ (adevGetInputBufferSize header config).toNat
  actual : config.frameBytes header ∣ (input.inGetBufferSize header).toNat

/-- A factor may be taken out of a rounded quotient as long as it does not complete the
remainder. -/
theorem mul_div_eq_mul_div_iff {divisor : Nat} (positive : 0 < divisor) (number factor : Nat) :
    number * factor / divisor = factor * (number / divisor) ↔
      factor * (number % divisor) < divisor := by
  have split : number * factor =
      factor * (number % divisor) + divisor * (factor * (number / divisor)) := by
    calc number * factor
        = (number % divisor + divisor * (number / divisor)) * factor := by
          rw [Nat.mod_add_div]
      _ = factor * (number % divisor) + divisor * (factor * (number / divisor)) := by
          ring
  rw [split, Nat.add_mul_div_left _ _ positive, Nat.add_eq_right, Nat.div_eq_zero_iff]
  omega

section Sizes

variable {header : AudioHeader} {config : AudioConfig} {input : StreamIn}

/-- `samples_per_milliseconds` does not overflow for a buffer of 20 milliseconds. -/
theorem samplesPerMilliseconds_toNat (rate : BitVec 32) {channels : SizeT}
    (few : channels.toNat ≤ 32) :
    (samplesPerMilliseconds stubInputBufferMilliseconds rate channels).toNat =
      20 * rate.toNat * channels.toNat / 1000 := by
  have bound := rate.isLt
  have product : 20 * rate.toNat * channels.toNat ≤ 20 * rate.toNat * 32 :=
    Nat.mul_le_mul_left _ few
  simp only [samplesPerMilliseconds, stubInputBufferMilliseconds, BitVec.toNat_udiv,
    BitVec.toNat_mul, BitVec.toNat_setWidth, BitVec.toNat_ofNat, BitVec.ofNat_eq_ofNat,
    Nat.reducePow, Nat.reduceMod]
  rw [Nat.mod_eq_of_lt (show rate.toNat < 18446744073709551616 by omega),
    Nat.mod_eq_of_lt (show 20 * rate.toNat < 18446744073709551616 by omega),
    Nat.mod_eq_of_lt (show 20 * rate.toNat * channels.toNat < 18446744073709551616 by omega)]

/-- The frame size of a linear PCM format does not overflow. -/
theorem frameSize_toNat (contract : HeaderContract header) {channels : BitVec 32}
    (few : channels.toNat ≤ 32) {format : AudioFormat}
    (linear : header.hasProportionalFrames format = true) :
    (header.frameSize channels format).toNat =
      channels.toNat * (header.bytesPerSample format).toNat := by
  have small := contract.sampleBytes format
  have product : channels.toNat * (header.bytesPerSample format).toNat ≤ 32 * 8 :=
    Nat.mul_le_mul few small
  rw [AudioHeader.frameSize, if_pos linear, BitVec.toNat_mul, BitVec.toNat_setWidth,
    Nat.mod_eq_of_lt (show channels.toNat < 2 ^ 64 by omega), Nat.mod_eq_of_lt (by omega)]

/-- What is advertised: the samples of 20 milliseconds, rounded down, times their size. -/
theorem adevGetInputBufferSize_toNat (contract : HeaderContract header)
    (linear : header.hasProportionalFrames config.format = true) :
    (adevGetInputBufferSize header config).toNat =
      20 * config.sampleRate.toNat * (header.channelCountFromInMask config.channelMask).toNat /
        1000 * (header.bytesPerSample config.format).toNat := by
  have few := contract.inChannels config.channelMask
  have small := contract.sampleBytes config.format
  have rate := config.sampleRate.isLt
  have wide : ((header.channelCountFromInMask config.channelMask).setWidth 64).toNat =
      (header.channelCountFromInMask config.channelMask).toNat := by
    rw [BitVec.toNat_setWidth, Nat.mod_eq_of_lt (by omega)]
  have samples := samplesPerMilliseconds_toNat config.sampleRate (by rw [wide]; exact few)
  rw [wide] at samples
  have most : 20 * config.sampleRate.toNat *
      (header.channelCountFromInMask config.channelMask).toNat ≤
        20 * config.sampleRate.toNat * 32 := Nat.mul_le_mul_left _ few
  have bytes : 20 * config.sampleRate.toNat *
      (header.channelCountFromInMask config.channelMask).toNat / 1000 *
        (header.bytesPerSample config.format).toNat ≤ 2 ^ 32 * 8 :=
    Nat.mul_le_mul (by omega) small
  rw [adevGetInputBufferSize, if_neg (by simp [linear]), BitVec.toNat_mul, samples,
    Nat.mod_eq_of_lt (by omega)]

/-- A stream that is opened with a rate, channels and a format has what it is opened with. -/
theorem openedInput_of_specified (rate : config.sampleRate ≠ 0)
    (channels : config.channelMask ≠ audioChannelNone)
    (format : config.format ≠ audioFormatDefault) {allocated : Bool}
    (opened : adevOpenInputStream allocated config = (0, some input)) :
    input = {
      lastReadTimeUs := 0
      sampleRate := config.sampleRate
      channelMask := config.channelMask
      format := config.format
      frameCount :=
        samplesPerMilliseconds stubInputBufferMilliseconds config.sampleRate 1 } := by
  cases allocated with
  | false => cases (Prod.mk.inj opened).2
  | true =>
      have stream := Option.some.inj (Prod.mk.inj opened).2
      simp only [if_neg rate, if_neg channels, if_neg format] at stream
      exact stream.symm

/-- What an opened stream answers: the frames of 20 milliseconds, rounded down, times their
size. -/
theorem inGetBufferSize_toNat (contract : HeaderContract header) (rate : config.sampleRate ≠ 0)
    (mask : header.channelCountFromInMask config.channelMask ≠ 0)
    (linear : header.hasProportionalFrames config.format = true)
    (known : header.bytesPerSample config.format ≠ 0) {allocated : Bool}
    (opened : adevOpenInputStream allocated config = (0, some input)) :
    (input.inGetBufferSize header).toNat =
      20 * config.sampleRate.toNat / 1000 * config.frameBytes header := by
  have channels : config.channelMask ≠ audioChannelNone := by
    intro none
    rw [none] at mask
    exact mask contract.noChannels
  have format : config.format ≠ audioFormatDefault := by
    intro default
    rw [default] at known
    exact known contract.defaultFormat
  obtain rfl := openedInput_of_specified rate channels format opened
  have few := contract.inChannels config.channelMask
  have frames := samplesPerMilliseconds_toNat config.sampleRate
    (show (1 : SizeT).toNat ≤ 32 by decide)
  have bound := config.sampleRate.isLt
  have size := frameSize_toNat contract few linear
  have bytes : 20 * config.sampleRate.toNat / 1000 * (
      (header.channelCountFromInMask config.channelMask).toNat *
        (header.bytesPerSample config.format).toNat) ≤ 2 ^ 32 * (32 * 8) :=
    Nat.mul_le_mul (by omega) (Nat.mul_le_mul few (contract.sampleBytes _))
  rw [StreamIn.inGetBufferSize, audioStreamInFrameSize, BitVec.toNat_mul, frames, size,
    show (1 : SizeT).toNat = 1 from rfl, Nat.mul_one, Nat.mod_eq_of_lt (by omega),
    AudioConfig.frameBytes]

/-- The two sizes agree exactly if a buffer of 20 milliseconds ends with less samples than it
would take to complete a frame. -/
theorem input_sizes_agree_iff (contract : HeaderContract header) (rate : config.sampleRate ≠ 0)
    (mask : header.channelCountFromInMask config.channelMask ≠ 0)
    (linear : header.hasProportionalFrames config.format = true)
    (known : header.bytesPerSample config.format ≠ 0) {allocated : Bool}
    (opened : adevOpenInputStream allocated config = (0, some input)) :
    SizesAgree header config input ↔
      (header.channelCountFromInMask config.channelMask).toNat *
        (config.sampleRate.toNat % 50) < 50 := by
  have advertised := adevGetInputBufferSize_toNat contract linear
  have actual := inGetBufferSize_toNat contract rate mask linear known opened
  have positive : (header.bytesPerSample config.format).toNat ≠ 0 := by
    intro zero
    exact known (BitVec.eq_of_toNat_eq zero)
  have same : adevGetInputBufferSize header config = input.inGetBufferSize header ↔
      (header.channelCountFromInMask config.channelMask).toNat *
        (config.sampleRate.toNat % 50) < 50 := by
    rw [← BitVec.toNat_inj, advertised, actual, AudioConfig.frameBytes, ← Nat.mul_assoc,
      Nat.mul_left_inj positive, Nat.mul_comm (_ / 1000),
      mul_div_eq_mul_div_iff (by decide),
      show 20 * config.sampleRate.toNat % 1000 = 20 * (config.sampleRate.toNat % 50) by omega,
      Nat.mul_left_comm]
    omega
  rw [← same]
  constructor
  · exact SizesAgree.same
  · intro equal
    have whole : config.frameBytes header ∣ (input.inGetBufferSize header).toNat := by
      rw [actual]
      exact Nat.dvd_mul_left _ _
    exact ⟨equal, equal ▸ whole, whole⟩

end Sizes

/-- Stereo with 16 bits per sample. -/
def exampleConfig (rate : BitVec 32) : AudioConfig :=
  ⟨rate, audioChannelInStereo, audioFormatPcm16Bit⟩

/-- The stream that is opened for it. -/
def exampleInput (rate : BitVec 32) : StreamIn where
  lastReadTimeUs := 0
  sampleRate := rate
  channelMask := audioChannelInStereo
  format := audioFormatPcm16Bit
  frameCount := samplesPerMilliseconds stubInputBufferMilliseconds rate 1

theorem input_sizes_agree_example :
    SizesAgree exampleHeader (exampleConfig 44100) (exampleInput 44100) :=
  have opened : adevOpenInputStream true (exampleConfig 44100) =
      (0, some (exampleInput 44100)) := rfl
  (input_sizes_agree_iff exampleHeader_contract (by decide) (by decide) (by decide) (by decide)
    opened).mpr (by decide)

/-- At 11025 Hz the advertised size is half a frame more than the one of the stream. -/
theorem input_sizes_not_always_agree :
    adevOpenInputStream true (exampleConfig 11025) = (0, some (exampleInput 11025)) ∧
      (adevGetInputBufferSize exampleHeader (exampleConfig 11025)).toNat = 882 ∧
      ((exampleInput 11025).inGetBufferSize exampleHeader).toNat = 880 ∧
      ¬ SizesAgree exampleHeader (exampleConfig 11025) (exampleInput 11025) := by
  refine ⟨by decide, by decide, by decide, fun agree => ?_⟩
  exact absurd agree.same (by decide)

end Arpi.Audio
