import Arpi.Semantics.Machine

/-!
# The audio HAL

`audio_hw.c` writes its output streams to tinyalsa and fakes the timing of its input
streams. What it uses of `system/audio.h` is a parameter, and what tinyalsa and the clock
answer is part of the calls. A division by zero ends a call without an answer.
-/

namespace Arpi.Audio

open Arpi.Semantics

/-- An `audio_format_t`. -/
abbrev AudioFormat := BitVec 32

/-- An `audio_channel_mask_t`. -/
abbrev ChannelMask := BitVec 32

/-- A `size_t`. -/
abbrev SizeT := BitVec 64

def audioFormatDefault : AudioFormat := 0
def audioFormatPcm16Bit : AudioFormat := 1
def audioChannelNone : ChannelMask := 0
def audioChannelInStereo : ChannelMask := 0xc
def audioChannelOutStereo : ChannelMask := 0x3

def enomem : Int := 12
def einval : Int := 22
def epipe : Int := 32

def stubDefaultSampleRate : BitVec 32 := 48000
def stubDefaultAudioFormat : AudioFormat := audioFormatPcm16Bit
def stubInputBufferMilliseconds : SizeT := 20
def stubInputDefaultChannelMask : ChannelMask := audioChannelInStereo
def stubOutputBufferMilliseconds : SizeT := 10
def stubOutputDefaultChannelMask : ChannelMask := audioChannelOutStereo

/-- What is used of `system/audio.h`. -/
structure AudioHeader where
  hasProportionalFrames : AudioFormat → Bool
  bytesPerSample : AudioFormat → SizeT
  channelCountFromInMask : ChannelMask → BitVec 32
  channelCountFromOutMask : ChannelMask → BitVec 32

/-- What is relied on of `system/audio.h`: a mask has no more channels than bits, and no
sample is larger than 8 bytes; the defaults are no sample format and no mask of channels. -/
structure HeaderContract (header : AudioHeader) : Prop where
  inChannels : ∀ mask, (header.channelCountFromInMask mask).toNat ≤ 32
  outChannels : ∀ mask, (header.channelCountFromOutMask mask).toNat ≤ 32
  sampleBytes : ∀ format, (header.bytesPerSample format).toNat ≤ 8
  defaultFormat : header.bytesPerSample audioFormatDefault = 0
  noChannels : header.channelCountFromInMask audioChannelNone = 0
  pcm16Bit : header.hasProportionalFrames audioFormatPcm16Bit = true ∧
    header.bytesPerSample audioFormatPcm16Bit = 2
  outStereo : header.channelCountFromOutMask audioChannelOutStereo = 2

/-- The PCM formats with samples of 8, 16 and 32 bits, and one channel for each bit of a mask. -/
def exampleHeader : AudioHeader where
  hasProportionalFrames format := format &&& 0xff000000 == 0
  bytesPerSample format :=
    if format = 1 then 2 else if format = 2 then 1 else if format = 3 then 4 else 0
  channelCountFromInMask mask := .ofNat 32 ((List.range 32).countP mask.getLsbD)
  channelCountFromOutMask mask := .ofNat 32 ((List.range 32).countP mask.getLsbD)

theorem exampleHeader_contract : HeaderContract exampleHeader := by
  have channels : ∀ mask : ChannelMask,
      (BitVec.ofNat 32 ((List.range 32).countP mask.getLsbD)).toNat ≤ 32 := by
    intro mask
    have bound : (List.range 32).countP mask.getLsbD ≤ (List.range 32).length :=
      List.countP_le_length
    rw [List.length_range] at bound
    rw [BitVec.toNat_ofNat, Nat.mod_eq_of_lt (by omega)]
    exact bound
  refine ⟨channels, channels, fun format => ?_, by decide, by decide, ⟨by decide, by decide⟩,
    by decide⟩
  simp only [exampleHeader]
  split_ifs <;> decide

/-- The bytes of a frame: of one sample for each channel, or just one byte. -/
def AudioHeader.frameSize (header : AudioHeader) (channels : BitVec 32) (format : AudioFormat) :
    SizeT :=
  if header.hasProportionalFrames format then
    channels.setWidth 64 * header.bytesPerSample format
  else 1

/-- An `audio_config`. -/
structure AudioConfig where
  sampleRate : BitVec 32
  channelMask : ChannelMask
  format : AudioFormat
deriving DecidableEq

/-- A division, which needs a divisor. -/
def divide (dividend divisor : SizeT) : Option SizeT :=
  if divisor = 0 then none else some (dividend / divisor)

/-- `samples_per_milliseconds`. -/
def samplesPerMilliseconds (milliseconds : SizeT) (sampleRate : BitVec 32)
    (channelCount : SizeT) : SizeT :=
  milliseconds * sampleRate.setWidth 64 * channelCount / 1000

/-! ## Output streams -/

/-- A PCM that was opened; the n-th one that a stream opens is number n. -/
abbrev PcmId := Nat

/-- A `stub_stream_out`. Its `config` and `dev` never change. -/
structure StreamOut where
  sampleRate : BitVec 32
  channelMask : ChannelMask
  format : AudioFormat
  frameCount : SizeT
  pcm : Option PcmId
  standby : Bool
  written : BitVec 64
deriving DecidableEq

/-- The mutexes of a device and of its stream. -/
inductive Mutex where
  | device
  | stream
deriving DecidableEq

/-- A call of the stream on the system. -/
inductive AudioEvent where
  | lock (mutex : Mutex)
  | unlock (mutex : Mutex)
  | pcmOpen (pcm : PcmId) (ready : Bool)
  | pcmClose (pcm : Option PcmId)
  | pcmWrite (pcm : Option PcmId) (count : SizeT) (result : Int)
  | usleep (useconds : BitVec 32)
deriving DecidableEq

/-- What `pcm_open` and `pcm_is_ready` answer. -/
inductive PcmOpening where
  | null
  | notReady
  | ready
deriving DecidableEq

/-- An output stream, the number of its next PCM, and its calls so far. -/
structure OutputState where
  out : StreamOut
  nextPcm : PcmId
  events : List AudioEvent
deriving DecidableEq

/-- `audio_stream_out_frame_size`. -/
def audioStreamOutFrameSize (header : AudioHeader) (out : StreamOut) : SizeT :=
  header.frameSize (header.channelCountFromOutMask out.channelMask) out.format

/-- `check_output_config`. -/
def checkOutputConfig (config : AudioConfig) : Int :=
  if config.sampleRate = stubDefaultSampleRate ∧ config.format = stubDefaultAudioFormat ∧
      config.channelMask = stubOutputDefaultChannelMask then 0
  else -einval

/-- `adev_open_output_stream`, and whether `calloc` succeeds. -/
def adevOpenOutputStream (allocated : Bool) (config : AudioConfig) : Int × Option StreamOut :=
  let ret := checkOutputConfig config
  if ret ≠ 0 then (ret, none)
  else if ¬ allocated then (-enomem, none)
  else
    let sampleRate := if config.sampleRate = 0 then stubDefaultSampleRate else config.sampleRate
    (0, some {
      sampleRate
      channelMask := if config.channelMask = audioChannelNone then stubOutputDefaultChannelMask
        else config.channelMask
      format := if config.format = audioFormatDefault then stubDefaultAudioFormat
        else config.format
      frameCount := samplesPerMilliseconds stubOutputBufferMilliseconds sampleRate 1
      pcm := none
      standby := true
      written := 0 })

/-- `out_get_buffer_size`. -/
def outGetBufferSize (header : AudioHeader) (out : StreamOut) : SizeT :=
  out.frameCount * audioStreamOutFrameSize header out

namespace OutputState

/-- A stream that was just opened. -/
def opened (out : StreamOut) : OutputState := ⟨out, 0, []⟩

/-- Make a call. -/
def emit (event : AudioEvent) (state : OutputState) : OutputState :=
  { state with events := state.events ++ [event] }

/-- `out_set_sample_rate`. -/
def outSetSampleRate (rate : BitVec 32) (state : OutputState) : Int × OutputState :=
  (0, { state with out := { state.out with sampleRate := rate } })

/-- `out_set_format`. -/
def outSetFormat (format : AudioFormat) (state : OutputState) : Int × OutputState :=
  (0, { state with out := { state.out with format := format } })

/-- Assign `out->pcm`. -/
def setPcm (pcm : Option PcmId) (state : OutputState) : OutputState :=
  { state with out := { state.out with pcm := pcm } }

/-- Assign `out->standby`. -/
def setStandby (standby : Bool) (state : OutputState) : OutputState :=
  { state with out := { state.out with standby := standby } }

/-- Add to `out->written`. -/
def addWritten (frames : SizeT) (state : OutputState) : OutputState :=
  { state with out := { state.out with written := state.out.written + frames } }

/-- `pcm_open`, where it returns a PCM. -/
def pcmOpen (ready : Bool) (state : OutputState) : OutputState :=
  { state.emit (.pcmOpen state.nextPcm ready) with nextPcm := state.nextPcm + 1 }
    |>.setPcm (some state.nextPcm)

/-- `pcm_close` on the PCM of the stream, which is then forgotten. -/
def pcmClose (state : OutputState) : OutputState :=
  (state.emit (.pcmClose state.out.pcm)).setPcm none

/-- `start_output_stream`. -/
def startOutputStream (opening : PcmOpening) (state : OutputState) : Int × OutputState :=
  match opening with
  | .null => (-enomem, state.setPcm none)
  | .notReady => (-enomem, (state.pcmOpen false).pcmClose)
  | .ready => (0, state.pcmOpen true)

/-- `out_standby`. -/
def outStandby (state : OutputState) : Int × OutputState :=
  let state := (state.emit (.lock .device)).emit (.lock .stream)
  let state := if state.out.standby then state else state.pcmClose.setStandby true
  (0, (state.emit (.unlock .stream)).emit (.unlock .device))

/-- What `out_write` does from its label `exit` on. -/
def exitWrite (header : AudioHeader) (bytes : SizeT) (ret : Int) (state : OutputState) :
    Option Int × OutputState :=
  let state := state.emit (.unlock .stream)
  if ret ≠ 0 then
    match (divide (bytes * 1000000) (audioStreamOutFrameSize header state.out)).bind
        fun duration => divide duration (state.out.sampleRate.setWidth 64) with
    | none => (none, state)
    | some duration => (some bytes.toInt, state.emit (.usleep (duration.setWidth 32)))
  else (some bytes.toInt, state)

/-- `out_write` once the stream is started. -/
def writeStarted (header : AudioHeader) (bytes inFrames frameSize : SizeT) (result : Int)
    (state : OutputState) : Option Int × OutputState :=
  let state := state.emit (.unlock .device)
  let state := state.emit (.pcmWrite state.out.pcm (inFrames * frameSize) result)
  if result = -epipe then (some result, state.emit (.unlock .stream))
  else if result = 0 then exitWrite header bytes result (state.addWritten inFrames)
  else exitWrite header bytes result state

/-- `out_write`, with what `pcm_open` answers if the stream is started and what `pcm_write`
returns if it is called. -/
def outWrite (header : AudioHeader) (bytes : SizeT) (opening : PcmOpening) (result : Int)
    (state : OutputState) : Option Int × OutputState :=
  let frameSize := audioStreamOutFrameSize header state.out
  match divide bytes frameSize with
  | none => (none, state)
  | some inFrames =>
      let state := (state.emit (.lock .device)).emit (.lock .stream)
      if state.out.standby then
        let started := state.startOutputStream opening
        if started.1 ≠ 0 then
          exitWrite header bytes started.1 (started.2.emit (.unlock .device))
        else
          writeStarted header bytes inFrames frameSize result (started.2.setStandby false)
      else writeStarted header bytes inFrames frameSize result state

/-- `adev_close_output_stream`, up to the end of the stream. -/
def adevCloseOutputStream (state : OutputState) : OutputState := state.outStandby.2

section Writes

variable {header : AudioHeader} {state : OutputState} {bytes inFrames : SizeT}

/-- A write to a stream that was started before. -/
theorem outWrite_of_running (frames : divide bytes (audioStreamOutFrameSize header state.out) =
    some inFrames) (running : state.out.standby = false) (opening : PcmOpening) (result : Int) :
    state.outWrite header bytes opening result =
      ((state.emit (.lock .device)).emit (.lock .stream)).writeStarted header bytes inFrames
        (audioStreamOutFrameSize header state.out) result := by
  have started : ((state.emit (.lock .device)).emit (.lock .stream)).out.standby ≠ true := by
    rw [show ((state.emit (.lock .device)).emit (.lock .stream)).out.standby = false from running]
    decide
  simp only [outWrite, frames, if_neg started]

/-- A write that starts the stream. -/
theorem outWrite_of_ready (frames : divide bytes (audioStreamOutFrameSize header state.out) =
    some inFrames) (standby : state.out.standby = true) (result : Int) :
    state.outWrite header bytes .ready result =
      ((((state.emit (.lock .device)).emit (.lock .stream)).pcmOpen true).setStandby
        false).writeStarted header bytes inFrames (audioStreamOutFrameSize header state.out)
          result := by
  have stopped : ((state.emit (.lock .device)).emit (.lock .stream)).out.standby = true := standby
  simp only [outWrite, frames, if_pos stopped, startOutputStream, ne_eq, not_true, if_false]

/-- A write that cannot start the stream. -/
theorem outWrite_of_notStarted (frames : divide bytes (audioStreamOutFrameSize header state.out) =
    some inFrames) (standby : state.out.standby = true) {opening : PcmOpening}
    (notReady : opening ≠ .ready) (result : Int) :
    state.outWrite header bytes opening result =
      ((((state.emit (.lock .device)).emit (.lock .stream)).startOutputStream opening).2.emit
        (.unlock .device)).exitWrite header bytes (-enomem) := by
  have stopped : ((state.emit (.lock .device)).emit (.lock .stream)).out.standby = true := standby
  have failed : (-enomem : Int) ≠ 0 := by decide
  cases opening with
  | ready => exact absurd rfl notReady
  | null =>
      simp only [outWrite, frames, if_pos stopped, startOutputStream]
      exact if_pos failed
  | notReady =>
      simp only [outWrite, frames, if_pos stopped, startOutputStream]
      exact if_pos failed

end Writes

end OutputState

/-- The calls on an output stream. -/
inductive OutputCall where
  | setSampleRate (rate : BitVec 32)
  | setFormat (format : AudioFormat)
  | standby
  | write (bytes : SizeT) (opening : PcmOpening) (result : Int)
deriving DecidableEq

/-- An output stream taking one call after the other. -/
def outputMachine (header : AudioHeader) : Machine OutputState OutputCall (Option Int) where
  step state
    | .setSampleRate rate => (some (state.outSetSampleRate rate).1, (state.outSetSampleRate rate).2)
    | .setFormat format => (some (state.outSetFormat format).1, (state.outSetFormat format).2)
    | .standby => (some state.outStandby.1, state.outStandby.2)
    | .write bytes opening result => state.outWrite header bytes opening result

/-! ## Input streams -/

/-- A `stub_stream_in`. -/
structure StreamIn where
  lastReadTimeUs : BitVec 64
  sampleRate : BitVec 32
  channelMask : ChannelMask
  format : AudioFormat
  frameCount : SizeT
deriving DecidableEq

/-- `audio_stream_in_frame_size`. -/
def audioStreamInFrameSize (header : AudioHeader) (input : StreamIn) : SizeT :=
  header.frameSize (header.channelCountFromInMask input.channelMask) input.format

/-- `adev_open_input_stream`, and whether `calloc` succeeds. -/
def adevOpenInputStream (allocated : Bool) (config : AudioConfig) : Int × Option StreamIn :=
  if ¬ allocated then (-enomem, none)
  else
    let sampleRate := if config.sampleRate = 0 then stubDefaultSampleRate else config.sampleRate
    (0, some {
      lastReadTimeUs := 0
      sampleRate
      channelMask := if config.channelMask = audioChannelNone then stubInputDefaultChannelMask
        else config.channelMask
      format := if config.format = audioFormatDefault then stubDefaultAudioFormat
        else config.format
      frameCount := samplesPerMilliseconds stubInputBufferMilliseconds sampleRate 1 })

/-- `adev_get_input_buffer_size`. -/
def adevGetInputBufferSize (header : AudioHeader) (config : AudioConfig) : SizeT :=
  let bufferSize := samplesPerMilliseconds stubInputBufferMilliseconds config.sampleRate
    ((header.channelCountFromInMask config.channelMask).setWidth 64)
  if ¬ header.hasProportionalFrames config.format then bufferSize * 4
  else bufferSize * header.bytesPerSample config.format

/-- What a call on an input stream answers: what it returns, and what it asked `usleep` for. -/
structure InputAnswer where
  returned : Int
  slept : Option (BitVec 32) := none
deriving DecidableEq

namespace StreamIn

/-- `in_get_buffer_size`. -/
def inGetBufferSize (header : AudioHeader) (input : StreamIn) : SizeT :=
  input.frameCount * audioStreamInFrameSize header input

/-- `in_set_sample_rate`. -/
def inSetSampleRate (rate : BitVec 32) (input : StreamIn) : Int × StreamIn :=
  (0, { input with sampleRate := rate })

/-- `in_set_format`. -/
def inSetFormat (format : AudioFormat) (input : StreamIn) : Int × StreamIn :=
  (0, { input with format := format })

/-- `in_standby`. -/
def inStandby (input : StreamIn) : Int × StreamIn := (0, { input with lastReadTimeUs := 0 })

/-- `in_read`, with the microseconds that the clock reads. The difference is taken without
sign and then read as an `int64_t`; `usleep` takes 32 bits. -/
def inRead (header : AudioHeader) (bytes : SizeT) (now : BitVec 64) (input : StreamIn) :
    Option InputAnswer × StreamIn :=
  let elapsedTimeSinceLastRead :=
    if input.lastReadTimeUs = 0 then 0 else now - input.lastReadTimeUs
  match (divide (bytes * 1000000) (audioStreamInFrameSize header input)).bind
      fun duration => divide duration (input.sampleRate.setWidth 64) with
  | none => (none, input)
  | some duration =>
      let sleepTime := duration - elapsedTimeSinceLastRead
      if (0 : BitVec 64).slt sleepTime then
        (some { returned := bytes.toInt, slept := some (sleepTime.setWidth 32) },
          { input with lastReadTimeUs := now + sleepTime })
      else (some { returned := bytes.toInt }, { input with lastReadTimeUs := now + 0 })

end StreamIn

/-- A call of `in_read`: its bytes, and what the clock reads. -/
structure Read where
  bytes : SizeT
  now : BitVec 64
deriving DecidableEq

/-- The calls on an input stream. -/
inductive InputCall where
  | setSampleRate (rate : BitVec 32)
  | setFormat (format : AudioFormat)
  | standby
  | read (read : Read)
deriving DecidableEq

/-- An input stream taking one call after the other. -/
def inputMachine (header : AudioHeader) : Machine StreamIn InputCall (Option InputAnswer) where
  step input
    | .setSampleRate rate =>
        (some { returned := (input.inSetSampleRate rate).1 }, (input.inSetSampleRate rate).2)
    | .setFormat format =>
        (some { returned := (input.inSetFormat format).1 }, (input.inSetFormat format).2)
    | .standby => (some { returned := input.inStandby.1 }, input.inStandby.2)
    | .read read => input.inRead header read.bytes read.now

end Arpi.Audio
