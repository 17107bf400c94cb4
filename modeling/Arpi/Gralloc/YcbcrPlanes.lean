import Arpi.Gralloc.LiveBuffer
import Arpi.Semantics.Plane

/-!
# The planes of a locked buffer

`gbm_alloc` sizes the object of a planar buffer and `gbm_lock_ycbcr` lays three
planes out over it, each from the width and height alone. `lockYcbcr_inStorage_iff`
says for which widths, heights and driver strides the planes that are handed out end
inside the storage that was allocated.
-/

namespace Arpi.Gralloc

open Arpi.Semantics

/-- The luma plane. -/
def AndroidYcbcr.luma (ycbcr : AndroidYcbcr) : Plane where
  start := ycbcr.y
  stride := ycbcr.ystride.toInt
  step := 1

/-- The blue-difference chroma plane. -/
def AndroidYcbcr.blue (ycbcr : AndroidYcbcr) : Plane where
  start := ycbcr.cb
  stride := ycbcr.cstride.toInt
  step := ycbcr.chromaStep.toInt

/-- The red-difference chroma plane. -/
def AndroidYcbcr.red (ycbcr : AndroidYcbcr) : Plane where
  start := ycbcr.cr
  stride := ycbcr.cstride.toInt
  step := ycbcr.chromaStep.toInt

/-- Every sample of the three planes lies in the `storage` bytes from `y` on. -/
structure AndroidYcbcr.WithinStorage (ycbcr : AndroidYcbcr) (width height storage : Nat) :
    Prop where
  luma : WithinRegion ycbcr.luma.sample height width ycbcr.y (ycbcr.y + storage)
  blue : WithinRegion ycbcr.blue.sample (height / 2) (width / 2) ycbcr.y (ycbcr.y + storage)
  red : WithinRegion ycbcr.red.sample (height / 2) (width / 2) ycbcr.y (ycbcr.y + storage)

/-- What the caller of a successful lock relies on: `y` is the base of a live mapping of
the object behind the handle, and the planes lie in the object's storage. -/
def PlanesReadable (state : GrallocState) (handle : BufferHandle) (ycbcr : AndroidYcbcr) :
    Prop :=
  ∃ bo object, state.gbmBoHandleMap.find handle = some (some bo) ∧
    state.bos.cells bo = some object ∧
    (∃ mapping ∈ object.mappings, mapping.address = ycbcr.y) ∧
    ycbcr.WithinStorage (state.memory handle).width.toNat (state.memory handle).height.toNat
      object.storage

/-- A number rounded up to a multiple of 16. -/
def alignUp (value : Nat) : Nat := (value + 15) / 16 * 16

/-- The two-plane layout of a `width` by `height` buffer fits into the storage. -/
def SemiPlanarFits (width height storage : Nat) : Prop :=
  height ≤ 1 ∨ width = 0 ∨
    width + 15 < 2 ^ 31 ∧
    (height - 1) * alignUp width + width ≤ storage ∧
    (width = 1 ∨
      alignUp width * height % 2 ^ 32 + (height / 2 - 1) * alignUp width + 2 * (width / 2) ≤
        storage)

/-- The three-plane layout of a `width` by `height` buffer fits into the storage. -/
def PlanarFits (width height storage : Nat) : Prop :=
  height = 0 ∨ width = 0 ∨
    (height = 1 ∨ width < 2 ^ 31) ∧
    height * width ≤ storage ∧
    (height = 1 ∨ width = 1 ∨
      width * height % 2 ^ 32 + alignUp (width / 2) * height % 2 ^ 32 / 2 +
        (height / 2 - 1) * alignUp (width / 2) + width / 2 ≤ storage)

instance (width height storage : Nat) : Decidable (SemiPlanarFits width height storage) :=
  inferInstanceAs (Decidable (_ ∨ _))

instance (width height storage : Nat) : Decidable (PlanarFits width height storage) :=
  inferInstanceAs (Decidable (_ ∨ _))

/-- The layout of a format fits into the object allocated for it with this stride. -/
def LayoutFits (format width height stride : U32) : Prop :=
  if format = halPixelFormatYv12 then
    PlanarFits width.toNat height.toNat (stride.toNat * (height + height / 2).toNat)
  else SemiPlanarFits width.toNat height.toNat (stride.toNat * height.toNat)

instance (format width height stride : U32) : Decidable (LayoutFits format width height stride) :=
  inferInstanceAs (Decidable (ite _ _ _))

/-! ## Strides -/

/-- Rounding up clears the low four bits of the sum. -/
theorem grallocAlign_toNat (value : U32) :
    (grallocAlign value 16).toNat = (value.toNat + 15) % 2 ^ 32 / 16 * 16 := by
  have mask : ~~~((16 : U32) - 1) = BitVec.allOnes 32 <<< 4 := by decide
  have shifted : grallocAlign value 16 = (value + 15) >>> 4 <<< 4 := by
    rw [grallocAlign, mask, ← BitVec.shiftLeft_ushiftRight]
    rfl
  have sum : (value + 15).toNat = (value.toNat + 15) % 2 ^ 32 := BitVec.toNat_add value 15
  rw [shifted, BitVec.toNat_shiftLeft, BitVec.toNat_ushiftRight, Nat.shiftRight_eq_div_pow,
    Nat.shiftLeft_eq, sum]
  omega

/-- A stride below 2³¹ is the rounded-up value, read with or without sign. -/
theorem grallocAlign_of_small {value : U32} (small : value.toNat + 15 < 2 ^ 31) :
    (grallocAlign value 16).toNat = alignUp value.toNat ∧
      (grallocAlign value 16).toInt = alignUp value.toNat := by
  have unsigned : (grallocAlign value 16).toNat = alignUp value.toNat := by
    rw [grallocAlign_toNat, alignUp]
    omega
  refine ⟨unsigned, ?_⟩
  rw [BitVec.toInt_eq_toNat_of_lt, unsigned]
  rw [unsigned, alignUp]
  omega

/-- Just below 2³¹ the rounded-up value is negative as an `int`. -/
theorem grallocAlign_neg {value : U32} (large : 2 ^ 31 ≤ value.toNat + 15)
    (positive : value.toNat < 2 ^ 31) : (grallocAlign value 16).toInt < 0 := by
  have unsigned := grallocAlign_toNat value
  rw [BitVec.toInt_eq_toNat_cond]
  omega

theorem strideBytes_toInt (stride : U32) :
    ((stride.signExtend 64 : U64)).toInt = stride.toInt :=
  BitVec.toInt_signExtend_of_le (by decide)

theorem sdiv_two_toInt (width : U32) : (width.sdiv 2).toInt = width.toInt.tdiv 2 := by
  rw [BitVec.toInt_sdiv_of_ne_or_ne _ _ (.inr (by decide))]
  rfl

/-- The halved width of a non-negative `int`. -/
theorem sdiv_two_toNat {width : U32} (positive : width.toNat < 2 ^ 31) :
    (width.sdiv 2).toNat = width.toNat / 2 := by
  have signed := sdiv_two_toInt width
  have value : width.toInt = width.toNat := BitVec.toInt_eq_toNat_of_lt (by omega)
  rw [value, Int.tdiv_eq_ediv_of_nonneg (by omega), BitVec.toInt_eq_toNat_cond] at signed
  have bound := (width.sdiv 2).isLt
  split at signed <;> omega

/-- A negative width other than -1 stays negative when halved, so it is huge as a `uint32_t`. -/
theorem sdiv_two_of_neg {width : U32} (negative : 2 ^ 31 ≤ width.toNat) :
    width.toNat = 2 ^ 32 - 1 ∨ 2 ^ 31 ≤ (width.sdiv 2).toNat := by
  have bound := width.isLt
  have signed := sdiv_two_toInt width
  have value : width.toInt = -(2 ^ 32 - width.toNat : Int) := by
    rw [BitVec.toInt_eq_toNat_cond, if_neg (by omega)]
    omega
  rw [value, Int.neg_tdiv, Int.tdiv_eq_ediv_of_nonneg (by omega), BitVec.toInt_eq_toNat_cond]
    at signed
  split at signed <;> omega

/-! ## The two layouts -/

/-- Planes laid out forwards are within the storage exactly when their last samples are. -/
theorem withinStorage_iff {ycbcr : AndroidYcbcr} {width height storage : Nat}
    (lumaForward : height ≤ 1 ∨ 0 ≤ ycbcr.ystride.toInt)
    (chromaForward : height / 2 ≤ 1 ∨ 0 ≤ ycbcr.cstride.toInt)
    (samplesForward : 0 ≤ ycbcr.chromaStep.toInt)
    (blueAfter : ycbcr.y ≤ ycbcr.cb) (redAfter : ycbcr.y ≤ ycbcr.cr) :
    ycbcr.WithinStorage width height storage ↔
      (height = 0 ∨ width = 0 ∨
        ycbcr.luma.sample (height - 1) (width - 1) < ycbcr.y + storage) ∧
      (height / 2 = 0 ∨ width / 2 = 0 ∨
        ycbcr.blue.sample (height / 2 - 1) (width / 2 - 1) < ycbcr.y + storage) ∧
      (height / 2 = 0 ∨ width / 2 = 0 ∨
        ycbcr.red.sample (height / 2 - 1) (width / 2 - 1) < ycbcr.y + storage) := by
  have luma := Plane.within_iff ycbcr.luma width (ycbcr.y + storage) lumaForward
    (Int.zero_le_ofNat 1) (Int.le_refl _)
  have blue := Plane.within_iff ycbcr.blue (width / 2) (ycbcr.y + storage) chromaForward
    samplesForward (Int.ofNat_le.mpr blueAfter)
  have red := Plane.within_iff ycbcr.red (width / 2) (ycbcr.y + storage) chromaForward
    samplesForward (Int.ofNat_le.mpr redAfter)
  rw [← luma, ← blue, ← red]
  exact ⟨fun within => ⟨within.luma, within.blue, within.red⟩,
    fun ⟨luma, blue, red⟩ => ⟨luma, blue, red⟩⟩

/-- A second luma row that runs backwards leaves the storage. -/
theorem not_withinStorage_of_backwards {ycbcr : AndroidYcbcr} {width height storage : Nat}
    (backwards : ycbcr.ystride.toInt < 0) (second : 1 < height) (column : 0 < width) :
    ¬ ycbcr.WithinStorage width height storage :=
  fun within => Plane.not_within_of_backwards backwards second column within.luma

/-- What `gbm_lock_ycbcr` hands out for the two-plane formats. -/
def semiPlanar (width height : U32) (address : Address) : AndroidYcbcr where
  y := address
  cb := address + (grallocAlign width 16 * height).toNat
  cr := address + (grallocAlign width 16 * height).toNat + 1
  ystride := (grallocAlign width 16).signExtend 64
  cstride := (grallocAlign width 16).signExtend 64
  chromaStep := 2

/-- What `gbm_lock_ycbcr` hands out for YV12. -/
def planar (width height : U32) (address : Address) : AndroidYcbcr where
  y := address
  cb := address + (width * height).toNat +
    (grallocAlign (width.sdiv 2) 16 * height / 2).toNat
  cr := address + (width * height).toNat
  ystride := width.signExtend 64
  cstride := (grallocAlign (width.sdiv 2) 16).signExtend 64
  chromaStep := 1

theorem semiPlanar_within_iff (width height : U32) (address : Address) {stride : Nat}
    (driver : 2 * width.toNat ≤ stride) (bounded : stride < 2 ^ 32) :
    (semiPlanar width height address).WithinStorage width.toNat height.toNat
        (stride * height.toNat) ↔
      SemiPlanarFits width.toNat height.toNat (stride * height.toNat) := by
  have step : (semiPlanar width height address).chromaStep.toInt = 2 := rfl
  have start : address ≤ address + (grallocAlign width 16 * height).toNat := Nat.le_add_right _ _
  have nonneg : 0 ≤ (semiPlanar width height address).chromaStep.toInt := by omega
  have ystride : (semiPlanar width height address).ystride.toInt =
    (grallocAlign width 16).toInt := strideBytes_toInt _
  have cstride : (semiPlanar width height address).cstride.toInt =
    (grallocAlign width 16).toInt := strideBytes_toInt _
  by_cases single : height.toNat ≤ 1
  · refine iff_of_true ?_ (.inl single)
    rw [withinStorage_iff (.inl single) (.inl (by omega)) nonneg start (Nat.le_succ_of_le start)]
    refine ⟨?_, .inl (by omega), .inl (by omega)⟩
    rcases Nat.le_one_iff_eq_zero_or_eq_one.mp single with none | one
    · exact .inl none
    · right
      rw [one]
      by_cases empty : width.toNat = 0
      · exact .inl empty
      · right
        simp only [Plane.sample, AndroidYcbcr.luma, semiPlanar]
        omega
  by_cases empty : width.toNat = 0
  · refine iff_of_true ⟨?_, ?_, ?_⟩ (.inr (.inl empty)) <;>
      exact withinRegion_of_empty (.inr (by omega))
  by_cases small : width.toNat + 15 < 2 ^ 31
  · obtain ⟨unsigned, signed⟩ := grallocAlign_of_small small
    have offset : (grallocAlign width 16 * height).toNat =
        alignUp width.toNat * height.toNat % 2 ^ 32 := by
      rw [BitVec.toNat_mul, unsigned]
    rw [withinStorage_iff (.inr (by omega)) (.inr (by omega)) nonneg start
      (Nat.le_succ_of_le start)]
    simp only [Plane.sample, AndroidYcbcr.luma, AndroidYcbcr.blue, AndroidYcbcr.red, ystride,
      cstride, step, signed, SemiPlanarFits]
    simp only [semiPlanar, offset]
    omega
  · refine iff_of_false (not_withinStorage_of_backwards ?_ (by omega) (by omega)) ?_
    · rw [ystride]
      exact grallocAlign_neg (by omega) (by omega)
    · rintro (low | none | ⟨fits, _⟩) <;> omega

theorem planar_within_iff (width height : U32) (address : Address) {stride : Nat}
    (storage : Nat) (driver : 2 * (width.sdiv 2).toNat ≤ stride) (bounded : stride < 2 ^ 32) :
    (planar width height address).WithinStorage width.toNat height.toNat storage ↔
      PlanarFits width.toNat height.toNat storage := by
  have step : (planar width height address).chromaStep.toInt = 1 := rfl
  have nonneg : 0 ≤ (planar width height address).chromaStep.toInt := by omega
  have redStart : (planar width height address).y ≤ (planar width height address).cr :=
    Nat.le_add_right _ _
  have blueStart : (planar width height address).y ≤ (planar width height address).cb :=
    Nat.le_trans redStart (Nat.le_add_right _ _)
  have ystride : (planar width height address).ystride.toInt = width.toInt := strideBytes_toInt _
  have cstride : (planar width height address).cstride.toInt =
    (grallocAlign (width.sdiv 2) 16).toInt := strideBytes_toInt _
  by_cases noRow : height.toNat = 0
  · refine iff_of_true ⟨?_, ?_, ?_⟩ (.inl noRow) <;>
      exact withinRegion_of_empty (.inl (by omega))
  by_cases noColumn : width.toNat = 0
  · refine iff_of_true ⟨?_, ?_, ?_⟩ (.inr (.inl noColumn)) <;>
      exact withinRegion_of_empty (.inr (by omega))
  by_cases positive : width.toNat < 2 ^ 31
  · have half := sdiv_two_toNat positive
    obtain ⟨unsigned, signed⟩ :=
      grallocAlign_of_small (show (width.sdiv 2).toNat + 15 < 2 ^ 31 by omega)
    rw [half] at unsigned signed
    have value : width.toInt = width.toNat := BitVec.toInt_eq_toNat_of_lt (by omega)
    have lumaBytes : (width * height).toNat = width.toNat * height.toNat % 2 ^ 32 :=
      BitVec.toNat_mul width height
    have chromaBytes : (grallocAlign (width.sdiv 2) 16 * height / 2).toNat =
        alignUp (width.toNat / 2) * height.toNat % 2 ^ 32 / 2 := by
      rw [BitVec.toNat_udiv, BitVec.toNat_mul, unsigned]
      rfl
    have rows : (height.toNat - 1) * width.toNat + width.toNat = height.toNat * width.toNat := by
      obtain ⟨above, same⟩ := Nat.exists_eq_succ_of_ne_zero noRow
      rw [same, Nat.succ_sub_one, Nat.succ_mul]
    rw [withinStorage_iff (.inr (by omega)) (.inr (by omega)) nonneg blueStart redStart]
    simp only [Plane.sample, AndroidYcbcr.luma, AndroidYcbcr.blue, AndroidYcbcr.red, ystride,
      cstride, step, signed, value, PlanarFits]
    simp only [planar, lumaBytes, chromaBytes]
    omega
  · have minusOne : width.toNat = 2 ^ 32 - 1 :=
      (sdiv_two_of_neg (by omega)).resolve_right (by omega)
    have negative : width.toInt < 0 := by
      rw [BitVec.toInt_eq_toNat_cond]
      omega
    by_cases single : height.toNat = 1
    · rw [withinStorage_iff (.inl (by omega)) (.inl (by omega)) nonneg blueStart redStart]
      simp only [Plane.sample, AndroidYcbcr.luma, planar, single, PlanarFits, Nat.sub_self,
        Nat.cast_zero, Int.zero_mul, Nat.reduceDiv, true_or, and_true, true_and]
      omega
    · refine iff_of_false (not_withinStorage_of_backwards ?_ (by omega) (by omega)) ?_
      · rwa [ystride]
      · rintro (none | none | ⟨one, _⟩) <;> omega

/-- The layout a format has. -/
def layoutOf (format width height : U32) (address : Address) : AndroidYcbcr :=
  if format = halPixelFormatYv12 then planar width height address
  else semiPlanar width height address

/-- The formats that are allocated as GR88 and locked plane by plane. -/
def IsPlanar (format : U32) : Prop :=
  format = halPixelFormatYv12 ∨ format = halPixelFormatYCbCr420888 ∨
    format = halPixelFormatImplementationDefined

/-- The switch of `gbm_lock_ycbcr` on a planar format. -/
theorem ycbcrLayout_of_planar {contents : PrivateHandle} (planar : IsPlanar contents.format)
    (address : Address) :
    ycbcrLayout contents address =
      some (layoutOf contents.format contents.width contents.height address) := by
  rcases planar with yv12 | flexible | implementation
  · simp only [ycbcrLayout, layoutOf, yv12]
    rfl
  · simp only [ycbcrLayout, layoutOf, flexible]
    rfl
  · simp only [ycbcrLayout, layoutOf, implementation]
    rfl

theorem layoutOf_y (format width height : U32) (address : Address) :
    (layoutOf format width height address).y = address := by
  unfold layoutOf
  split <;> rfl

/-- The layout of an allocated buffer is within its storage exactly when it fits. -/
theorem layoutOf_within_iff {contents : PrivateHandle} (address : Address)
    (driver : 2 * (boWidth contents).toNat ≤ contents.stride.toNat) :
    (layoutOf contents.format contents.width contents.height address).WithinStorage
        contents.width.toNat contents.height.toNat
        (contents.stride.toNat * (boHeight contents).toNat) ↔
      LayoutFits contents.format contents.width contents.height contents.stride := by
  unfold layoutOf LayoutFits
  by_cases yv12 : contents.format = halPixelFormatYv12
  · rw [boWidth, if_pos yv12] at driver
    rw [boHeight, if_pos yv12, if_pos yv12, if_pos yv12]
    exact planar_within_iff _ _ address _ driver contents.stride.isLt
  · rw [boWidth, if_neg yv12] at driver
    rw [boHeight, if_neg yv12, if_neg yv12, if_neg yv12]
    exact semiPlanar_within_iff _ _ address driver contents.stride.isLt

/-! ## A buffer from its allocation to its lock -/

/-- A successful `gbm_lock_ycbcr` is a successful `gbm_lock` and a layout at its address. -/
theorem gbmLockYcbcr_granted {mapped : Option Mapping} {handle : BufferHandle} {usage : U64}
    {x y w h : Int} {state after : GrallocState} {ycbcr : AndroidYcbcr}
    (granted : gbmLockYcbcr mapped handle usage x y w h state = (0, some ycbcr, after)) :
    ∃ address, gbmLock mapped handle usage x y w h state = (0, address, after) ∧
      ycbcrLayout (state.memory handle) address = some ycbcr := by
  unfold gbmLockYcbcr at granted
  generalize gbmLock mapped handle usage x y w h state = answer at granted ⊢
  obtain ⟨code, address, locked⟩ := answer
  dsimp only at granted
  by_cases failed : code ≠ 0
  · rw [if_pos failed] at granted
    cases granted
  rw [if_neg failed] at granted
  obtain rfl : code = 0 := not_not.mp failed
  cases layout : ycbcrLayout (state.memory handle) address with
  | none =>
      rw [layout] at granted
      cases granted
  | some found =>
      rw [layout] at granted
      cases granted
      exact ⟨address, rfl, layout⟩

/-- The contents of a handle that `gbm_alloc` returns. -/
def allocatedHandle (unset : U32) (created : CreatedBo) (width height format : U32)
    (usage : U64) : PrivateHandle :=
  { PrivateHandle.new unset width height format usage with
    fd := created.fd
    stride := created.stride }

/-- Width, height and stride of the object that is allocated for a handle. -/
def requestedGeometry (contents : PrivateHandle) : U32 × U32 × U32 :=
  (boWidth contents, boHeight contents, contents.stride)

/-- The handle has a null entry, so that every lock of it fails, or is a live buffer with
the geometry that was requested for it. -/
def AllocatedBuffer (state : GrallocState) (handle : BufferHandle) (contents : PrivateHandle)
    (bo : BoId) : Prop :=
  state.gbmBoHandleMap.find handle = some none ∨
    LiveBuffer state handle contents (requestedGeometry contents) bo

/-- An allocation under an address that no object is registered under yields such a buffer. -/
theorem gbmAlloc_allocated {state : GrallocState} {handle : BufferHandle} {format : U32}
    (created : CreatedBo) (errno : Int) (width height : U32) (usage : U64)
    (known : grallocGbmGetBpp format ≠ 0)
    (unregistered : ∀ bo, state.gbmBoHandleMap.find handle ≠ some (some bo)) :
    AllocatedBuffer (gbmAlloc handle (some created) errno width height format usage state).2.2
      handle (allocatedHandle (state.memory handle).stride created width height format usage)
      state.bos.next := by
  simp only [gbmAlloc, known, if_false, grallocGbmBoCreate, gbmAllocBo]
  cases entry : state.gbmBoHandleMap.find handle with
  | none =>
      right
      rw [UnorderedMap.emplace_of_absent entry]
      refine ⟨?_, UnorderedMap.find_assign_self, ?_, ?_⟩
      · simp only [Function.update_self]
        rfl
      · simp only [Store.create_cells_next, Function.update_self]
        rfl
      · apply recordSound_of_unattached
        simp [gbmBoData]
  | some held =>
      left
      rw [UnorderedMap.emplace_of_present (by rw [entry]; simp)]
      cases held with
      | none => exact entry
      | some bo => exact absurd entry (unregistered bo)

/-- Locks and unlocks of an allocated buffer, however many, keep it. -/
theorem AllocatedBuffer.run {state : GrallocState} {handle : BufferHandle}
    {contents : PrivateHandle} {bo : BoId} (buffer : AllocatedBuffer state handle contents bo)
    {calls : List RegistryCall} (own : ∀ call ∈ calls, call.LocksOrUnlocks handle) :
    AllocatedBuffer (registryMachine.run state calls) handle contents bo := by
  rcases buffer with null | live
  · exact .inl (run_of_null null own)
  · exact .inr (live.run own)

/-- A granted lock of an allocated buffer hands out planes that can be read exactly when
the lock asks for the CPU and the layout fits into what was allocated. -/
theorem LiveBuffer.readable_iff {state after : GrallocState} {handle : BufferHandle}
    {contents : PrivateHandle} {bo : BoId}
    (buffer : LiveBuffer state handle contents (requestedGeometry contents) bo)
    (planar : IsPlanar contents.format)
    (driver : 2 * (boWidth contents).toNat ≤ contents.stride.toNat)
    {mapped : Option Mapping} {usage : U64} {x y w h : Int} {ycbcr : AndroidYcbcr}
    (granted : gbmLockYcbcr mapped handle usage x y w h state = (0, some ycbcr, after)) :
    PlanesReadable after handle ycbcr ↔
      WantsMapping usage ∧
        LayoutFits contents.format contents.width contents.height contents.stride := by
  obtain ⟨address, lock, layout⟩ := gbmLockYcbcr_granted granted
  rw [buffer.memory, ycbcrLayout_of_planar planar] at layout
  cases layout
  have outcome := buffer.lockOutcome mapped usage x y w h
  rw [lock] at outcome
  cases outcome with
  | refused _ nonzero => exact absurd rfl nonzero
  | granted admitted written found locked =>
      rename_i mapData final
      rw [← layoutOf_within_iff address driver, ← buffer.sound.wantsMapping_iff admitted]
      have shape := written.geometry.trans buffer.shape
      rw [found, Option.map_some, Option.some.injEq, Bo.geometry, requestedGeometry,
        Prod.mk.injEq, Prod.mk.injEq] at shape
      have storage : final.storage = contents.stride.toNat * (boHeight contents).toNat := by
        rw [Bo.storage, shape.2.1, shape.2.2]
      constructor
      · rintro ⟨held, cell, entry, live, ⟨mapping, member, base⟩, within⟩
        rw [written.registry.entries, buffer.registered] at entry
        cases entry
        rw [found] at live
        cases live
        rw [written.memory, buffer.memory, storage] at within
        refine ⟨?_, within⟩
        by_contra unwanted
        rw [layoutOf_y] at base
        cases locked with
        | mapped wanted => exact unwanted wanted
        | unmapped _ => exact mapping.addressNonnull base
      · rintro ⟨wanted, within⟩
        refine ⟨bo, final, by rw [written.registry.entries, buffer.registered], found, ?_, ?_⟩
        · cases locked with
          | mapped _ mapping _ live => exact ⟨mapping, live, (layoutOf_y _ _ _ _).symm⟩
          | unmapped unwanted => exact absurd wanted unwanted
        · rwa [written.memory, buffer.memory, storage]

/-- From an allocation over any locks and unlocks of the buffer to a granted full-buffer
lock: the planes can be read exactly when the lock asks for the CPU and the layout fits
into what was allocated. -/
theorem lockYcbcr_inStorage_iff (start : GrallocState) (handle : BufferHandle)
    (created : CreatedBo) (errno : Int) (width height format : U32) (allocUsage usage : U64)
    (calls : List RegistryCall) (mapped : Option Mapping) (ycbcr : AndroidYcbcr)
    (after : GrallocState) (planar : IsPlanar format)
    (unregistered : ∀ bo, start.gbmBoHandleMap.find handle ≠ some (some bo))
    (driver : 2 * (boWidth (.new 0 width height format allocUsage)).toNat ≤
      created.stride.toNat)
    (own : ∀ call ∈ calls, call.LocksOrUnlocks handle)
    (granted : gbmLockYcbcr mapped handle usage 0 0 width.toInt height.toInt
      (registryMachine.run
        (gbmAlloc handle (some created) errno width height format allocUsage start).2.2 calls) =
      (0, some ycbcr, after)) :
    PlanesReadable after handle ycbcr ↔
      WantsMapping usage ∧ LayoutFits format width height created.stride := by
  have known : grallocGbmGetBpp format ≠ 0 := by
    rcases planar with rfl | rfl | rfl <;> decide
  have allocated :=
    gbmAlloc_allocated created errno width height allocUsage known unregistered
  rcases allocated.run own with null | live
  · obtain ⟨address, lock, _⟩ := gbmLockYcbcr_granted granted
    rw [gbmLock_of_null null] at lock
    cases lock
  · exact live.readable_iff planar driver granted

/-- A two-plane buffer of 16 by 2 pixels in an object of 32 bytes a row. -/
theorem lockYcbcr_inStorage_example :
    ∃ ycbcr after,
      gbmLockYcbcr (some ⟨4096, 7, by decide⟩) 1 0x22 0 0 16 2
        (registryMachine.run
          (gbmAlloc 1 (some ⟨3, 32⟩) 0 16 2 halPixelFormatYCbCr420888 0x66
            (.fresh fun _ => .new 0 0 0 0 0)).2.2
          [.lock 1 0x22 0 0 16 2 none, .unlock 1]) = (0, some ycbcr, after) ∧
      PlanesReadable after 1 ycbcr :=
  ⟨_, _, rfl,
    (lockYcbcr_inStorage_iff (.fresh fun _ => .new 0 0 0 0 0) 1 ⟨3, 32⟩ 0 16 2
      halPixelFormatYCbCr420888 0x66 0x22 [.lock 1 0x22 0 0 16 2 none, .unlock 1]
      (some ⟨4096, 7, by decide⟩) _ _ (.inr (.inl rfl)) nofun (by decide)
      (by simp [RegistryCall.LocksOrUnlocks]) rfl).mpr ⟨by decide, by decide⟩⟩

/-- A YV12 buffer of 16 by 2 pixels in an object of 16 bytes a row: the chroma stride is
rounded up to 16 and the blue plane starts where the storage ends. -/
theorem lockYcbcr_not_inStorage :
    ¬ ∀ (start : GrallocState) (handle : BufferHandle) (created : CreatedBo) (errno : Int)
        (width height format : U32) (allocUsage usage : U64) (mapped : Option Mapping)
        (ycbcr : AndroidYcbcr) (after : GrallocState), IsPlanar format →
      (∀ bo, start.gbmBoHandleMap.find handle ≠ some (some bo)) →
      2 * (boWidth (.new 0 width height format allocUsage)).toNat ≤ created.stride.toNat →
      gbmLockYcbcr mapped handle usage 0 0 width.toInt height.toInt
          (gbmAlloc handle (some created) errno width height format allocUsage start).2.2 =
        (0, some ycbcr, after) →
      PlanesReadable after handle ycbcr := by
  intro claim
  obtain ⟨bo, object, entry, live, _, within⟩ :=
    claim (.fresh fun _ => .new 0 0 0 0 0) 1 ⟨3, 16⟩ 0 16 2 halPixelFormatYv12 0x66 0x22
      (some ⟨4096, 7, by decide⟩) _ _ (.inl rfl) nofun (by decide) rfl
  cases entry
  cases live
  exact absurd (within.blue 0 (by decide) 0 (by decide)).2 (by decide)

end Arpi.Gralloc
