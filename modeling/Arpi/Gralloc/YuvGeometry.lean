import Arpi.Gralloc.PlaneLayouts
import Arpi.Gralloc.YcbcrPlanes

/-!
# Two descriptions of a YUV buffer

`gbm_lock_ycbcr` and `get_plane_layouts` compute where the planes of a buffer are, the one
in `int` and pointers, the other in `uint32_t`. Both are compared with `YuvGeometry`, the
same computation in numbers that do not wrap.
-/

namespace Arpi.Gralloc

/-- Where the planes of a YUV buffer are, in bytes from its base. -/
structure YuvGeometry where
  ystride : Nat
  cbOffset : Nat
  crOffset : Nat
  cstride : Nat
  chromaStep : Nat
deriving DecidableEq

/-- Chroma behind luma in pairs, which of the two comes first depending on the format; for
YV12 in two planes of their own, red first. -/
def yuvGeometry (format : U32) (width height : Nat) : YuvGeometry :=
  if format = halPixelFormatYv12 then
    { ystride := width
      cbOffset := width * height + alignUp (width / 2) * height / 2
      crOffset := width * height
      cstride := alignUp (width / 2)
      chromaStep := 1 }
  else
    let luma := alignUp width * height
    { ystride := alignUp width
      cbOffset := if format = halPixelFormatYCrCb420Sp then luma + 1 else luma
      crOffset := if format = halPixelFormatYCrCb420Sp then luma else luma + 1
      cstride := alignUp width
      chromaStep := 2 }

/-- The geometry of the buffer that a handle describes. -/
def PrivateHandle.yuvGeometry (contents : PrivateHandle) : YuvGeometry :=
  Gralloc.yuvGeometry contents.format contents.width.toNat contents.height.toNat

/-- The size that `get_plane_layouts` gives for each chroma plane. -/
def chromaSize (width height : Nat) : Nat := alignUp (width / 2) * height / 2

/-- No plane that another one is placed behind reaches 2³¹ bytes. -/
structure SizesBounded (contents : PrivateHandle) : Prop where
  luma : contents.yuvGeometry.ystride * contents.height.toNat < 2 ^ 31
  chroma : contents.format = halPixelFormatYv12 →
    chromaSize contents.width.toNat contents.height.toNat < 2 ^ 31

/-- The end of the last plane: its offset and its rows. -/
def YuvGeometry.lastPlaneEnd (geometry : YuvGeometry) (height : Nat) : Nat :=
  max geometry.cbOffset geometry.crOffset + geometry.cstride * (height / 2)

/-- What `gbm_lock_ycbcr` hands out for this geometry. -/
def YuvGeometry.ycbcr (geometry : YuvGeometry) (address : Address) : AndroidYcbcr where
  y := address
  cb := address + geometry.cbOffset
  cr := address + geometry.crOffset
  ystride := BitVec.ofNat 64 geometry.ystride
  cstride := BitVec.ofNat 64 geometry.cstride
  chromaStep := BitVec.ofNat 64 geometry.chromaStep

/-- The luma layout that describes this geometry. -/
def YuvGeometry.lumaLayout (geometry : YuvGeometry) (width height : Nat) : PlaneLayout where
  component := .y
  offsetInBits := 0
  offsetInBytes := 0
  sampleIncrementInBits := 8
  strideInBytes := geometry.ystride
  widthInSamples := width
  heightInSamples := height
  totalSizeInBytes := geometry.ystride * height
  horizontalSubsampling := 1
  verticalSubsampling := 1

/-- The layout of a chroma plane at this offset. -/
def YuvGeometry.chromaLayout (geometry : YuvGeometry) (component : PlaneLayoutComponentType)
    (offset width height : Nat) : PlaneLayout where
  component := component
  offsetInBits := 0
  offsetInBytes := offset
  sampleIncrementInBits := 8 * geometry.chromaStep
  strideInBytes := geometry.cstride
  widthInSamples := width / 2
  heightInSamples := height / 2
  totalSizeInBytes := chromaSize width height
  horizontalSubsampling := 2
  verticalSubsampling := 2

/-- What `get_plane_layouts` answers for this geometry. -/
def YuvGeometry.layouts (geometry : YuvGeometry) (width height : Nat) : List PlaneLayout :=
  [geometry.lumaLayout width height,
    geometry.chromaLayout .cr geometry.crOffset width height,
    geometry.chromaLayout .cb geometry.cbOffset width height]

/-! ## Rounding up -/

theorem le_alignUp (value : Nat) : value ≤ alignUp value := by
  unfold alignUp
  omega

theorem alignUp_mono {value larger : Nat} (order : value ≤ larger) :
    alignUp value ≤ alignUp larger := by
  unfold alignUp
  omega

/-- Half of a number needs no more than the number rounded up. -/
theorem two_mul_half_le_alignUp (value : Nat) : 2 * (value / 2) ≤ alignUp value := by
  unfold alignUp
  omega

theorem alignUp_even (value : Nat) : 2 ∣ alignUp value := by
  unfold alignUp
  omega

/-- A stride below 2³¹ leaves room for the rounding. -/
theorem add_fifteen_lt_of_alignUp {value : Nat} (narrow : alignUp value < 2 ^ 31) :
    value + 15 < 2 ^ 31 := by
  unfold alignUp at narrow
  omega

/-! ## The computations do not wrap -/

section Bounded

variable {contents : PrivateHandle}

theorem signExtend_of_small {stride : U32} (small : stride.toNat < 2 ^ 31) :
    (stride.signExtend 64 : U64) = BitVec.ofNat 64 stride.toNat := by
  have sign : stride.msb = false := BitVec.msb_eq_false_iff_two_mul_lt.mpr (by omega)
  rw [BitVec.signExtend_eq_setWidth_of_msb_false sign, BitVec.ofNat_toNat]

theorem mul_toNat_of_small {left right : U32} (small : left.toNat * right.toNat < 2 ^ 32) :
    (left * right).toNat = left.toNat * right.toNat := by
  rw [BitVec.toNat_mul, Nat.mod_eq_of_lt small]

theorem half_toNat (value : U32) : (value / 2).toNat = value.toNat / 2 := BitVec.toNat_udiv

/-- The chroma size, when twice the size fits. -/
theorem chromaSize_toNat {width height : U32} {half : U32} (value : half.toNat = width.toNat / 2)
    (narrow : width.toNat < 2 ^ 31) (small : chromaSize width.toNat height.toNat < 2 ^ 31) :
    (grallocAlign half 16 * height / 2).toNat = chromaSize width.toNat height.toNat := by
  obtain ⟨aligned, -⟩ := grallocAlign_of_small (show half.toNat + 15 < 2 ^ 31 by omega)
  rw [value] at aligned
  unfold chromaSize at small ⊢
  rw [half_toNat, mul_toNat_of_small, aligned]
  rw [aligned]
  omega

/-- The chroma size of a two-plane buffer is at most its luma size. -/
theorem chromaSize_le (width height : Nat) : chromaSize width height ≤ alignUp width * height := by
  have half : alignUp (width / 2) * height ≤ alignUp width * height :=
    Nat.mul_le_mul_right height (alignUp_mono (Nat.div_le_self width 2))
  unfold chromaSize
  omega

/-- The formats with two planes. -/
def SemiPlanar (format : U32) : Prop :=
  format = halPixelFormatYCbCr420888 ∨ format = halPixelFormatImplementationDefined ∨
    format = halPixelFormatYCrCb420Sp

theorem SemiPlanar.ne_yv12 {format : U32} (semi : SemiPlanar format) :
    format ≠ halPixelFormatYv12 := by
  rcases semi with rfl | rfl | rfl <;> decide

theorem supported_iff (format : U32) :
    YcbcrSupported format ↔ SemiPlanar format ∨ format = halPixelFormatYv12 := by
  unfold YcbcrSupported SemiPlanar
  tauto

/-- The aligned stride and the luma size of a two-plane buffer. -/
theorem semiPlanar_luma {width height : U32} (narrow : alignUp width.toNat < 2 ^ 31)
    (small : alignUp width.toNat * height.toNat < 2 ^ 31) :
    (grallocAlign width 16).toNat = alignUp width.toNat ∧
      (grallocAlign width 16 * height).toNat = alignUp width.toNat * height.toNat ∧
      (grallocAlign width 16 * height + 1).toNat = alignUp width.toNat * height.toNat + 1 := by
  have aligned := (grallocAlign_of_small (add_fifteen_lt_of_alignUp narrow)).1
  have size : (grallocAlign width 16 * height).toNat = alignUp width.toNat * height.toNat := by
    rw [mul_toNat_of_small, aligned]
    rw [aligned]
    omega
  refine ⟨aligned, size, ?_⟩
  have one : (1 : U32).toNat = 1 := rfl
  rw [BitVec.toNat_add, size, one, Nat.mod_eq_of_lt (by omega)]

/-- What `gbm_lock_ycbcr` hands out is the geometry of the buffer. -/
theorem ycbcrLayout_eq (supported : YcbcrSupported contents.format)
    (bounded : SizesBounded contents) (narrow : contents.yuvGeometry.ystride < 2 ^ 31)
    (address : Address) :
    ycbcrLayout contents address = some (contents.yuvGeometry.ycbcr address) := by
  obtain ⟨luma, chroma⟩ := bounded
  rcases (supported_iff _).mp supported with semi | yv12
  · simp only [PrivateHandle.yuvGeometry, yuvGeometry, semi.ne_yv12, if_false] at luma narrow ⊢
    obtain ⟨stride, size, -⟩ := semiPlanar_luma narrow luma
    have bytes : ((grallocAlign contents.width 16).signExtend 64 : U64) =
        BitVec.ofNat 64 (alignUp contents.width.toNat) := by
      rw [signExtend_of_small (by omega), stride]
    rcases semi with format | format | format
    all_goals
      simp only [ycbcrLayout, format, YuvGeometry.ycbcr, bytes, size]
      rfl
  · have small := chroma yv12
    simp only [PrivateHandle.yuvGeometry, yuvGeometry, yv12, if_true] at luma narrow ⊢
    have half := sdiv_two_toNat narrow
    have size : (contents.width * contents.height).toNat =
        contents.width.toNat * contents.height.toNat := mul_toNat_of_small (by omega)
    have chromaBytes := chromaSize_toNat half narrow small
    obtain ⟨aligned, -⟩ :=
      grallocAlign_of_small (show (contents.width.sdiv 2).toNat + 15 < 2 ^ 31 by omega)
    have below : alignUp (contents.width.toNat / 2) < 2 ^ 31 := by
      unfold alignUp
      omega
    rw [half] at aligned
    have cbytes : ((grallocAlign (contents.width.sdiv 2) 16).signExtend 64 : U64) =
        BitVec.ofNat 64 (alignUp (contents.width.toNat / 2)) := by
      rw [signExtend_of_small (by omega), aligned]
    have ybytes := signExtend_of_small narrow
    simp only [ycbcrLayout, yv12, YuvGeometry.ycbcr, size, chromaBytes, cbytes, ybytes, chromaSize,
      Nat.add_assoc]
    rfl

/-- What `get_plane_layouts` answers is the geometry of the buffer. -/
theorem getPlaneLayouts_eq (supported : YcbcrSupported contents.format)
    (bounded : SizesBounded contents) (narrow : contents.yuvGeometry.ystride < 2 ^ 31) :
    getPlaneLayouts contents =
      some (contents.yuvGeometry.layouts contents.width.toNat contents.height.toNat) := by
  obtain ⟨luma, chroma⟩ := bounded
  have half := half_toNat contents.width
  have rows := half_toNat contents.height
  rcases (supported_iff _).mp supported with semi | yv12
  · simp only [PrivateHandle.yuvGeometry, yuvGeometry, semi.ne_yv12, if_false] at luma narrow ⊢
    obtain ⟨stride, size, next⟩ := semiPlanar_luma narrow luma
    have below := chromaSize_le contents.width.toNat contents.height.toNat
    have wide := le_alignUp contents.width.toNat
    have small : chromaSize contents.width.toNat contents.height.toNat < 2 ^ 31 := by omega
    have chromaBytes := chromaSize_toNat half (by omega) small
    rcases semi with format | format | format
    all_goals
      simp only [getPlaneLayouts, yLayout, crLayout, cbLayout, format, lumaLayout, chromaLayout,
        stride, size, next, chromaBytes, half, rows]
      rfl
  · have small := chroma yv12
    simp only [PrivateHandle.yuvGeometry, yuvGeometry, yv12, if_true] at luma narrow ⊢
    have size : (contents.width * contents.height).toNat =
        contents.width.toNat * contents.height.toNat := mul_toNat_of_small (by omega)
    have chromaBytes := chromaSize_toNat half narrow small
    obtain ⟨aligned, -⟩ :=
      grallocAlign_of_small (show (contents.width / 2).toNat + 15 < 2 ^ 31 by omega)
    rw [half] at aligned
    have behind : (contents.width * contents.height +
        grallocAlign (contents.width / 2) 16 * contents.height / 2).toNat =
        contents.width.toNat * contents.height.toNat +
          chromaSize contents.width.toNat contents.height.toNat := by
      rw [BitVec.toNat_add, size, chromaBytes, Nat.mod_eq_of_lt (by omega)]
    simp only [getPlaneLayouts, yLayout, crLayout, cbLayout, yv12, lumaLayout, chromaLayout,
      size, behind, chromaBytes, aligned, half, rows]
    rfl

/-- The other planes end before the last one does. -/
theorem sizesBounded_of_lastPlaneEnd
    (inside : contents.yuvGeometry.lastPlaneEnd contents.height.toNat < 2 ^ 31) :
    SizesBounded contents := by
  have offsets : max contents.yuvGeometry.cbOffset contents.yuvGeometry.crOffset < 2 ^ 31 :=
    Nat.lt_of_le_of_lt (Nat.le_add_right _ _) inside
  obtain ⟨cb, cr⟩ := Nat.max_lt.mp offsets
  by_cases yv12 : contents.format = halPixelFormatYv12
  · simp only [PrivateHandle.yuvGeometry, yuvGeometry, if_pos yv12] at cb cr
    have chroma : chromaSize contents.width.toNat contents.height.toNat < 2 ^ 31 :=
      Nat.lt_of_le_of_lt (Nat.le_add_left _ _) cb
    refine ⟨?_, fun _ => chroma⟩
    simpa only [PrivateHandle.yuvGeometry, yuvGeometry, if_pos yv12] using cr
  · refine ⟨?_, fun planar => absurd planar yv12⟩
    simp only [PrivateHandle.yuvGeometry, yuvGeometry, if_neg yv12] at cb cr ⊢
    split at cb <;> omega

/-- With a row in the buffer its stride is at most its luma size. -/
theorem SizesBounded.narrow (bounded : SizesBounded contents)
    (flat : contents.height.toNat = 0 → contents.yuvGeometry.ystride < 2 ^ 31) :
    contents.yuvGeometry.ystride < 2 ^ 31 := by
  by_cases empty : contents.height.toNat = 0
  · exact flat empty
  · have size := bounded.luma
    have row : contents.yuvGeometry.ystride * 1 ≤
        contents.yuvGeometry.ystride * contents.height.toNat :=
      Nat.mul_le_mul_left _ (Nat.one_le_iff_ne_zero.mpr empty)
    omega

end Bounded

/-! ## The same formats and the same planes -/

/-- The pointers and strides, seen from the base of the mapping, are those of the layouts. -/
structure SamePlanes (base : Address) (ycbcr : AndroidYcbcr) (luma red blue : PlaneLayout) :
    Prop where
  components : luma.component = .y ∧ red.component = .cr ∧ blue.component = .cb
  lumaOffset : ycbcr.y = base + luma.offsetInBytes
  redOffset : ycbcr.cr = base + red.offsetInBytes
  blueOffset : ycbcr.cb = base + blue.offsetInBytes
  lumaStride : ycbcr.ystride.toNat = luma.strideInBytes
  redStride : ycbcr.cstride.toNat = red.strideInBytes
  blueStride : ycbcr.cstride.toNat = blue.strideInBytes
  lumaStep : 1 = luma.sampleIncrementInBits / 8
  redStep : ycbcr.chromaStep.toNat = red.sampleIncrementInBits / 8
  blueStep : ycbcr.chromaStep.toNat = blue.sampleIncrementInBits / 8

theorem getPlaneLayouts_isSome (contents : PrivateHandle) :
    (getPlaneLayouts contents).isSome = true ↔ YcbcrSupported contents.format := by
  rw [supported_iff]
  by_cases supported : SemiPlanar contents.format ∨ contents.format = halPixelFormatYv12
  · refine iff_of_true ?_ supported
    rcases supported with (format | format | format) | format
    all_goals
      simp only [getPlaneLayouts, yLayout, crLayout, cbLayout, format]
      rfl
  · refine iff_of_false ?_ supported
    have unknown : yLayout contents = none := by
      obtain ⟨semi, yv12⟩ := not_or.mp supported
      unfold SemiPlanar at semi
      rw [yLayout, if_neg semi, if_neg yv12]
    simp [getPlaneLayouts, unknown]

/-- Both descriptions of one geometry say the same, for strides that a `size_t` holds. -/
theorem YuvGeometry.samePlanes (geometry : YuvGeometry) (base : Address) (width height : Nat)
    (ystride : geometry.ystride < 2 ^ 64) (cstride : geometry.cstride < 2 ^ 64)
    (chromaStep : geometry.chromaStep < 2 ^ 64) :
    SamePlanes base (geometry.ycbcr base) (geometry.lumaLayout width height)
      (geometry.chromaLayout .cr geometry.crOffset width height)
      (geometry.chromaLayout .cb geometry.cbOffset width height) where
  components := ⟨rfl, rfl, rfl⟩
  lumaOffset := rfl
  redOffset := rfl
  blueOffset := rfl
  lumaStride := Nat.mod_eq_of_lt ystride
  redStride := Nat.mod_eq_of_lt cstride
  blueStride := Nat.mod_eq_of_lt cstride
  lumaStep := (Nat.div_self (show 0 < 8 by decide)).symm
  redStep := by
    rw [chromaLayout, Nat.mul_div_cancel_left _ (by decide)]
    exact Nat.mod_eq_of_lt chromaStep
  blueStep := by
    rw [chromaLayout, Nat.mul_div_cancel_left _ (by decide)]
    exact Nat.mod_eq_of_lt chromaStep

/-- The chroma stride and step of a buffer are no larger than its luma stride allows. -/
theorem yuvGeometry_chroma_le (format : U32) (width height : Nat) :
    (yuvGeometry format width height).cstride ≤ (yuvGeometry format width height).ystride + 16 ∧
      (yuvGeometry format width height).chromaStep ≤ 2 := by
  unfold yuvGeometry
  by_cases yv12 : format = halPixelFormatYv12
  · simp only [if_pos yv12]
    unfold alignUp
    omega
  · simp only [if_neg yv12]
    omega

/-- `gbm_lock_ycbcr` and `get_plane_layouts` accept the same formats. Where the sizes are
below 2³¹, and the row stride too in a buffer without rows, nothing wraps in either of them,
and they place the planes alike. -/
theorem lockYcbcr_agrees (mapped : Option Mapping) (handle : BufferHandle) (usage : U64)
    (x y w h : Int) (state : GrallocState) :
    let contents := state.memory handle
    let geometry := contents.yuvGeometry
    let locked := gbmLock mapped handle usage x y w h state
    let answer := gbmLockYcbcr mapped handle usage x y w h state
    (answer.1 = 0 ↔ locked.1 = 0 ∧ (getPlaneLayouts contents).isSome = true) ∧
      ∀ ycbcr after, answer = (0, some ycbcr, after) → SizesBounded contents →
        (contents.height.toNat = 0 → geometry.ystride < 2 ^ 31) →
        ∃ luma red blue, getPlaneLayouts contents = some [luma, red, blue] ∧
          SamePlanes locked.2.1 ycbcr luma red blue ∧
          ycbcr = geometry.ycbcr locked.2.1 ∧
          [luma, red, blue] = geometry.layouts contents.width.toNat contents.height.toNat := by
  intro contents geometry locked answer
  constructor
  · rw [getPlaneLayouts_isSome]
    exact (gbmLockYcbcr_eq mapped handle usage x y w h state).2
  · intro ycbcr after granted bounded flat
    have narrow := bounded.narrow flat
    obtain ⟨base, lock, layout⟩ := gbmLockYcbcr_granted granted
    have supported : YcbcrSupported contents.format :=
      (ycbcrLayout_isSome contents base).mp (by rw [layout]; rfl)
    have address : locked.2.1 = base := by
      simp only [locked, lock]
    have pointers : ycbcr = geometry.ycbcr base :=
      (Option.some.inj ((ycbcrLayout_eq supported bounded narrow base).symm.trans layout)).symm
    have chroma : geometry.cstride ≤ geometry.ystride + 16 ∧ geometry.chromaStep ≤ 2 :=
      yuvGeometry_chroma_le _ _ _
    rw [address, pointers]
    have wide : geometry.ystride < 2 ^ 31 := narrow
    exact ⟨_, _, _, getPlaneLayouts_eq supported bounded narrow,
      geometry.samePlanes base _ _ (by omega) (by omega) (by omega), rfl, rfl⟩

/-- An imported handle of the flexible YUV format. -/
def exampleYuv (width height : U32) : PrivateHandle :=
  { exampleHandle halPixelFormatYCbCr420888 0x266 with fd := 5, width := width, height := height }

/-- A buffer of 20 by 8 that is imported and locked. -/
theorem lockYcbcr_agrees_example :
    let state := registryMachine.run (.fresh fun _ => exampleYuv 20 8) [.register 1 true]
    ∃ luma red blue, getPlaneLayouts (state.memory 1) = some [luma, red, blue] ∧
      SamePlanes 0x7000 ⟨0x7000, 0x7100, 0x7101, 32, 32, 2⟩ luma red blue := by
  intro state
  have agrees := (lockYcbcr_agrees (some ⟨0x7000, 9, by decide⟩) 1 0x66 0 0 0 0 state).2
    ⟨0x7000, 0x7100, 0x7101, 32, 32, 2⟩
    (gbmLockYcbcr (some ⟨0x7000, 9, by decide⟩) 1 0x66 0 0 0 0 state).2.2
    (Prod.ext (by decide) (Prod.ext (by decide) rfl))
    (sizesBounded_of_lastPlaneEnd (by decide)) (by decide)
  obtain ⟨luma, red, blue, layouts, same, -⟩ := agrees
  have address : (gbmLock (some ⟨0x7000, 9, by decide⟩) 1 0x66 0 0 0 0 state).2.1 = 0x7000 := by
    decide
  rw [address] at same
  exact ⟨luma, red, blue, layouts, same⟩

/-- Without rows every size is zero, but a row stride of 2³¹ is negative as an `int`. -/
theorem lockYcbcr_not_always_agrees :
    ¬ ∀ (mapped : Option Mapping) (handle : BufferHandle) (usage : U64) (x y w h : Int)
      (state : GrallocState) (ycbcr : AndroidYcbcr) (after : GrallocState),
      gbmLockYcbcr mapped handle usage x y w h state = (0, some ycbcr, after) →
      (state.memory handle).yuvGeometry.lastPlaneEnd (state.memory handle).height.toNat < 2 ^ 31 →
      ∃ luma red blue, getPlaneLayouts (state.memory handle) = some [luma, red, blue] ∧
        SamePlanes ycbcr.y ycbcr luma red blue := by
  intro claim
  let state := registryMachine.run (.fresh fun _ => exampleYuv 0x80000000 0) [.register 1 true]
  obtain ⟨luma, red, blue, layouts, same⟩ := claim (some ⟨0x7000, 9, by decide⟩) 1 0x66 0 0 0 0
    state ⟨0x7000, 0x7000, 0x7001, 0xFFFFFFFF80000000, 0xFFFFFFFF80000000, 2⟩
    (gbmLockYcbcr (some ⟨0x7000, 9, by decide⟩) 1 0x66 0 0 0 0 state).2.2
    (Prod.ext (by decide) (Prod.ext (by decide) rfl)) (by decide)
  have stride : (getPlaneLayouts (exampleYuv 0x80000000 0)).map
      (fun layouts => layouts.map PlaneLayout.strideInBytes) =
        some [0x80000000, 0x80000000, 0x80000000] := by decide
  have found : getPlaneLayouts (exampleYuv 0x80000000 0) = some [luma, red, blue] := layouts
  have luma : luma.strideInBytes = 0x80000000 := by
    rw [found] at stride
    exact (List.cons.inj (Option.some.inj stride)).1
  have signed := same.lumaStride
  rw [luma] at signed
  exact absurd signed (by decide)

end Arpi.Gralloc
