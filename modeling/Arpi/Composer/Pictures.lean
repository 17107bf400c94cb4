import Arpi.Semantics.Raster
import Arpi.Composer.ScanOut

/-!
# What is seen

A client draws into a buffer in the format it allocated, in rows of the handle's stride. The
display controller reads the framebuffer in the format and with the pitch that `add_fb` asked
for. `pictures_shown_iff` says for which posts what is drawn is what is seen.
-/

namespace Arpi.Composer

open Arpi.Gralloc Arpi.Semantics

/-- What a pixel looks like; 255 is full. -/
structure Colour where
  red : Nat
  green : Nat
  blue : Nat
  alpha : Nat
deriving DecidableEq

/-- The formats of pixels of `drm_fourcc.h` that buffers are allocated with. -/
inductive DrmFormat where
  | abgr8888
  | xbgr8888
  | argb8888
  | rgb565
deriving DecidableEq

namespace DrmFormat

/-- The code of a format. -/
def fourcc : DrmFormat → U32
  | abgr8888 => gbmFormatAbgr8888
  | xbgr8888 => gbmFormatXbgr8888
  | argb8888 => gbmFormatArgb8888
  | rgb565 => gbmFormatRgb565

/-- The format with this code. -/
def ofFourcc (code : U32) : Option DrmFormat :=
  [abgr8888, xbgr8888, argb8888, rgb565].find? fun format => format.fourcc = code

/-- A channel of so many bits. -/
def channel (bits value : Nat) : Nat := value * 255 / (2 ^ bits - 1)

/-- The names list the channels from the highest bits of a little-endian word to the lowest. -/
def pixels : DrmFormat → PixelFormat (BitVec 8) Colour
  | abgr8888 => ⟨4, fun byte =>
      ⟨(byte 0).toNat, (byte 1).toNat, (byte 2).toNat, (byte 3).toNat⟩⟩
  | xbgr8888 => ⟨4, fun byte => ⟨(byte 0).toNat, (byte 1).toNat, (byte 2).toNat, 255⟩⟩
  | argb8888 => ⟨4, fun byte =>
      ⟨(byte 2).toNat, (byte 1).toNat, (byte 0).toNat, (byte 3).toNat⟩⟩
  | rgb565 => ⟨2, fun byte =>
      let word := (byte 0).toNat + 256 * (byte 1).toNat
      ⟨channel 5 (word / 2048), channel 6 (word / 32 % 64), channel 5 (word % 32), 255⟩⟩

theorem ofFourcc_eq_some_iff {code : U32} {format : DrmFormat} :
    ofFourcc code = some format ↔ format.fourcc = code := by
  constructor
  · intro found
    simpa using List.find?_some found
  · rintro rfl
    cases format <;> rfl

/-- Another format is another picture. -/
theorem differs {first second : DrmFormat} (different : first ≠ second) :
    first.pixels.Differs second.pixels := by
  refine ⟨fun byte => if byte = 0 then 1 else 0, ?_⟩
  cases first <;> cases second <;> first | exact absurd rfl different | decide

/-- In every format the first byte is seen. -/
theorem showsMark (format : DrmFormat) : format.pixels.ShowsMark 1 0 := by
  intro marked plain one zero
  cases format with
  | abgr8888 | xbgr8888 =>
      intro same
      have red := congrArg Colour.red same
      simp [pixels, one, zero] at red
  | argb8888 =>
      intro same
      have blue := congrArg Colour.blue same
      simp [pixels, one, zero] at blue
  | rgb565 =>
      intro same
      have blue := congrArg Colour.blue same
      simp [pixels, one, zero, channel] at blue
      omega

theorem pixels_inj {first second : DrmFormat} : first.pixels = second.pixels ↔ first = second := by
  constructor
  · intro same
    by_contra different
    obtain ⟨cells, apart⟩ := differs different
    exact apart (by rw [same])
  · rintro rfl
    rfl

/-- Which rasters of pixels are the same picture. -/
theorem agree_iff (first second : DrmFormat) (start : Int) (pitch pitch' rows columns : Nat) :
    Raster.Agree ⟨first.pixels, start, pitch⟩ ⟨second.pixels, start, pitch'⟩ rows columns ↔
      rows = 0 ∨ columns = 0 ∨ first = second ∧ (rows = 1 ∨ pitch = pitch') := by
  have formats : first.pixels = second.pixels ∨ first.pixels.Differs second.pixels := by
    by_cases same : first = second
    · exact .inl (pixels_inj.mpr same)
    · exact .inr (differs same)
  have agree : Raster.Agree ⟨first.pixels, start, pitch⟩ ⟨second.pixels, start, pitch'⟩ rows
      columns ↔ rows = 0 ∨ columns = 0 ∨
        first.pixels = second.pixels ∧ (rows = 1 ∨ (pitch : Int) = pitch') :=
    Raster.agree_iff rfl formats second.showsMark
  rw [agree, pixels_inj, Nat.cast_inj]

end DrmFormat

/-- The buffer of a handle as its client draws into it. -/
def drawnRaster (hnd : PrivateHandle) : Option (Raster (BitVec 8) Colour) :=
  (DrmFormat.ofFourcc (getGbmFormat hnd.format)).map fun format =>
    ⟨format.pixels, 0, hnd.stride.toNat⟩

/-- A framebuffer as the display controller reads it. -/
def scannedRaster (framebuffer : Framebuffer) : Option (Raster (BitVec 8) Colour) :=
  (DrmFormat.ofFourcc framebuffer.format).map fun format =>
    ⟨format.pixels, framebuffer.offset.toNat, framebuffer.pitch.toNat⟩

/-- Whatever is drawn into the buffer of the handle is seen in the framebuffer. -/
def ShowsPicture (framebuffer : Framebuffer) (hnd : PrivateHandle) : Prop :=
  framebuffer.descriptor = hnd.fd ∧ ∃ drawn scanned, drawnRaster hnd = some drawn ∧
    scannedRaster framebuffer = some scanned ∧
      drawn.Agree scanned framebuffer.height.toNat framebuffer.width.toNat

/-- The formats are formats of pixels, and, unless the primary mode is empty, they are the same
and the handle's stride is four times the width of this mode (of a single row it may be any). -/
structure PictureFits (output : KmsOutput) (hnd : PrivateHandle) : Prop where
  drawn : (DrmFormat.ofFourcc (getGbmFormat hnd.format)).isSome
  scanned : (DrmFormat.ofFourcc output.drmFormat).isSome
  layout : output.mode.vdisplay.toNat = 0 ∨ output.mode.hdisplay.toNat = 0 ∨
    getGbmFormat hnd.format = output.drmFormat ∧ (output.mode.vdisplay.toNat = 1 ∨
      hnd.stride.toNat = 4 * output.mode.hdisplay.toNat)

/-- What `add_fb` asks for shows the pictures of its buffer exactly when it fits. -/
theorem requestedFramebuffer_shows_iff (output : KmsOutput) (hnd : PrivateHandle)
    (fbId : ObjectId) (object : BitVec 32) :
    ShowsPicture (requestedFramebuffer output { hnd with fbId := fbId } object) hnd ↔
      PictureFits output hnd := by
  have columns := widened_toNat output.mode.hdisplay
  have lines := widened_toNat output.mode.vdisplay
  constructor
  · rintro ⟨-, drawn, scanned, drawnIs, scannedIs, same⟩
    obtain ⟨first, firstIs, rfl⟩ := Option.map_eq_some_iff.mp drawnIs
    obtain ⟨second, secondIs, rfl⟩ := Option.map_eq_some_iff.mp scannedIs
    simp only [requestedFramebuffer, columns.1, columns.2, lines.1] at same
    refine ⟨Option.isSome_of_eq_some firstIs, Option.isSome_of_eq_some secondIs, ?_⟩
    rcases (DrmFormat.agree_iff first second _ _ _ _ _).mp same with
      noRow | noColumn | ⟨rfl, pitch⟩
    · exact .inl noRow
    · exact .inr (.inl noColumn)
    · have code := DrmFormat.ofFourcc_eq_some_iff.mp firstIs
      rw [DrmFormat.ofFourcc_eq_some_iff.mp secondIs] at code
      exact .inr (.inr ⟨code.symm, pitch⟩)
  · rintro ⟨drawn, scanned, layout⟩
    obtain ⟨first, firstIs⟩ := Option.isSome_iff_exists.mp drawn
    obtain ⟨second, secondIs⟩ := Option.isSome_iff_exists.mp scanned
    refine ⟨rfl, _, _, Option.map_eq_some_iff.mpr ⟨first, firstIs, rfl⟩,
      Option.map_eq_some_iff.mpr ⟨second, secondIs, rfl⟩, ?_⟩
    simp only [requestedFramebuffer, columns.1, columns.2, lines.1]
    refine (DrmFormat.agree_iff first second _ _ _ _ _).mpr ?_
    rcases layout with noRow | noColumn | ⟨code, pitch⟩
    · exact .inl noRow
    · exact .inr (.inl noColumn)
    · rw [code, secondIs] at firstIs
      exact .inr (.inr ⟨(Option.some.inj firstIs).symm, pitch⟩)

/-- Every framebuffer that a post shows is on its display, and shows what is drawn into the
buffer that is posted. -/
def ShowsItsPicture (state : PostState) (call : PostCall) : Prop :=
  let result := hwcPost call.answers call.display call.buffer call.outFence state
  ∀ shown ∈ result.shown, displayOutput call.display = some shown.output ∧
    ∃ framebuffer, result.state.framebuffers shown.fbId = some framebuffer ∧
      ShowsPicture framebuffer (state.memory call.buffer)

/-- A post that shows its buffer has a format and a stride that fit. -/
def PostPictureFits (state : PostState) (call : PostCall) : Prop :=
  ∀ name, Shows state call name →
    PictureFits state.context.primaryOutput (state.memory call.buffer)

section Framing

variable {state : PostState} {call : PostCall}

/-- What a post shows is the framebuffer that `add_fb` asked for when the handle was posted
first. -/
theorem HandlesFramed.shown_iff (framed : HandlesFramed state) (kernel : AddFbContract state call)
    {property : Framebuffer → Prop} {condition : Prop}
    (exactly : ∀ fbId object, property (requestedFramebuffer state.context.primaryOutput
      { state.memory call.buffer with fbId := fbId } object) ↔ condition) :
    let result := hwcPost call.answers call.display call.buffer call.outFence state
    (∀ shown ∈ result.shown, displayOutput call.display = some shown.output ∧
        ∃ framebuffer, result.state.framebuffers shown.fbId = some framebuffer ∧
          property framebuffer) ↔
      ∀ name, Shows state call name → condition := by
  intro result
  have outcome : PostOutcome state call result := hwcPost_outcome state call
  clear_value result
  cases outcome with
  | refused why failed kept =>
      exact iff_of_true (fun shown member => absurd member List.not_mem_nil)
        fun name shows => absurd shows (why name)
  | shown name shows =>
      obtain ⟨fbId, memory⟩ := framedState_memory state call call.buffer
      obtain ⟨object, made⟩ := framed.framedState kernel call.buffer (shows.fbId kernel)
      rw [framedState_context, memory] at made
      have branch := postOutput_outcome (Composer.framedState state call) call.answers name
        shows.nonnull call.outFence
      rw [memory] at branch
      generalize postOutput call.answers name call.buffer call.outFence
        (Composer.framedState state call) = result at branch
      obtain ⟨call', one, output, shownId⟩ :
          ∃ call', result.shown = [call'] ∧ call'.output = name ∧ call'.fbId = fbId := by
        cases branch with
        | modeSet => exact ⟨_, rfl, rfl, rfl⟩
        | committed => exact ⟨_, rfl, rfl, rfl⟩
        | failed => exact ⟨_, rfl, rfl, rfl⟩
      rw [one, List.forall_mem_singleton, output, shownId, branch.keeps.2.1, made]
      constructor
      · rintro ⟨-, framebuffer, same, holds⟩ _ _
        obtain rfl := Option.some.inj same
        exact (exactly fbId object).mp holds
      · intro met
        exact ⟨shows.display, _, rfl, (exactly fbId object).mpr (met name shows)⟩

end Framing

/-- From a state in which no handle has a framebuffer, what is drawn into the buffers of a run
of posts is what is seen, in every picture, exactly when each post that shows its buffer has a
format and a stride that fit. -/
theorem pictures_shown_iff (context : KmsContext) (memory : BufferHandle → PrivateHandle)
    (framebuffers : ObjectId → Option Framebuffer)
    (unframed : ∀ buffer, (memory buffer).fbId = 0) (calls : List PostCall)
    (kernel : postMachine.EachStep AddFbContract ⟨context, memory, framebuffers⟩ calls) :
    postMachine.EachStep ShowsItsPicture ⟨context, memory, framebuffers⟩ calls ↔
      postMachine.EachStep PostPictureFits ⟨context, memory, framebuffers⟩ calls := by
  have start : HandlesFramed ⟨context, memory, framebuffers⟩ :=
    fun buffer present => absurd (unframed buffer) present
  have preserved : ∀ state call, HandlesFramed state → AddFbContract state call →
      PostPictureFits state call → HandlesFramed (postMachine.next state call) :=
    fun state call framed kernel _ => framed.next kernel
  exact postMachine.eachStep_iff_eachStep preserved
    (fun state call framed kernel => framed.shown_iff kernel fun fbId object =>
      requestedFramebuffer_shows_iff state.context.primaryOutput (state.memory call.buffer) fbId
        object) start kernel

/-- A buffer of RGBA pixels with the stride of the mode is posted on both displays. -/
theorem pictures_shown_example :
    postMachine.EachStep ShowsItsPicture
      ⟨exampleOutputs exampleWideMode exampleWideMode, fun _ => exampleScreen 5464, fun _ => none⟩
      [⟨0, 1, -1, exampleAnswers 7⟩, ⟨1, 1, -1, exampleAnswers 8⟩] := by
  refine (pictures_shown_iff (exampleOutputs exampleWideMode exampleWideMode)
    (fun _ => exampleScreen 5464) (fun _ => none) (fun _ => rfl)
    [⟨0, 1, -1, exampleAnswers 7⟩, ⟨1, 1, -1, exampleAnswers 8⟩] ?_).mpr ?_
  · exact ⟨fun _ => ⟨by decide, rfl⟩, fun _ => ⟨by decide, by decide⟩, trivial⟩
  · refine ⟨fun name _ => ?_, fun name _ => ?_, trivial⟩ <;>
      exact ⟨rfl, rfl, .inr (.inr ⟨rfl, .inr rfl⟩)⟩

end Arpi.Composer
