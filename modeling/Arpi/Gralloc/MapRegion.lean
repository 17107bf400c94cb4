import Arpi.Gralloc.PlanarWindow

/-!
# The region that a lock maps

`gbm_lock` turns the rectangle of its caller into a region that starts at the corner of the
object, and `gbm_map` scales its extent for YV12. Whether the driver is asked for too much or
too little depends on the offset, the parity of the sides and the layout of the planes.
-/

namespace Arpi.Gralloc

open Arpi.Semantics

/-- The rectangle that a lock is for. -/
structure AccessRect where
  x : Int
  y : Int
  w : Int
  h : Int
deriving DecidableEq

namespace AccessRect

/-- No crop: the whole buffer is meant. -/
def Null (rect : AccessRect) : Prop := rect.w = 0 ∧ rect.h = 0

instance (rect : AccessRect) : Decidable rect.Null := inferInstanceAs (Decidable (_ ∧ _))

/-- The rectangle lies in the buffer, whose sides `gbm_lock` reads as ints. -/
structure Inside (rect : AccessRect) (contents : PrivateHandle) : Prop where
  left : 0 ≤ rect.x
  top : 0 ≤ rect.y
  wide : 0 ≤ rect.w
  high : 0 ≤ rect.h
  right : rect.x + rect.w ≤ contents.width.toInt
  bottom : rect.y + rect.h ≤ contents.height.toInt

/-- The rectangle that the caller wants to see. -/
def requested (rect : AccessRect) (contents : PrivateHandle) : AccessRect :=
  if rect.Null then ⟨0, 0, contents.width.toInt, contents.height.toInt⟩ else rect

/-- The pixel is one of the rectangle. -/
def Contains (rect : AccessRect) (row column : Nat) : Prop :=
  rect.y ≤ row ∧ row < rect.y + rect.h ∧ rect.x ≤ column ∧ column < rect.x + rect.w

instance (rect : AccessRect) (row column : Nat) : Decidable (rect.Contains row column) :=
  inferInstanceAs (Decidable (_ ∧ _))

end AccessRect

/-- The bytes of a pixel of the object: of GR88 for YV12. -/
def pixelBytes (format : U32) : Nat :=
  if format = halPixelFormatYv12 then 2 else (grallocGbmGetBpp format).toNat

/-- The byte of a buffer mapped at the address is in the region of this width and height. -/
def Maps (object : Bo) (format : U32) (address : Address) (width height : U32) (byte : Int) :
    Prop :=
  ∃ offset : Nat, byte = address + offset ∧
    InWindow object.stride.toNat height.toNat (pixelBytes format * width.toNat) offset

/-- The region is no larger than the object and covers every byte of the rectangle: of its
pixels, and for YV12 of its luma samples and of the chroma samples that they share. For
`YCBCR_420_888` and `IMPLEMENTATION_DEFINED` these are packed pixels of two bytes, the way the
object is allocated. -/
structure RegionRight (object : Bo) (contents : PrivateHandle) (rect : AccessRect)
    (width height : U32) : Prop where
  withinWidth : width.toNat ≤ object.width.toNat
  withinHeight : height.toNat ≤ object.height.toNat
  pixels : contents.format ≠ halPixelFormatYv12 → ∀ row column byte (address : Address),
    (rect.requested contents).Contains row column → byte < pixelBytes contents.format →
    Maps object contents.format address width height
      (address + row * object.stride.toNat + column * pixelBytes contents.format + byte)
  planes : contents.format = halPixelFormatYv12 → ∀ (address : Address) ycbcr,
    ycbcrLayout contents address = some ycbcr → ∀ row column,
    (rect.requested contents).Contains row column →
    Maps object contents.format address width height (ycbcr.luma.sample row column) ∧
      (row / 2 < contents.height.toNat / 2 → column / 2 < contents.width.toNat / 2 →
        Maps object contents.format address width height (ycbcr.red.sample (row / 2) (column / 2)) ∧
        Maps object contents.format address width height
          (ycbcr.blue.sample (row / 2) (column / 2)))

/-- When the region is right. -/
def RegionFits (contents : PrivateHandle) (rect : AccessRect) : Prop :=
  if contents.format = halPixelFormatYv12 then
    let requested := rect.requested contents
    PlanarRegionFits contents.width.toNat contents.height.toNat rect.x.toNat rect.y.toNat
      requested.x.toNat requested.y.toNat requested.w.toNat requested.h.toNat
  else rect.Null → rect.x = 0 ∧ rect.y = 0

/-! ## What is asked for -/

/-- The mapping step asks for the extent that it is given. -/
theorem gbmMap_asks {state : GrallocState} {handle : BufferHandle} {bo asked : BoId}
    {mapped : Option Mapping} {data : BoData} {x y w h : Int} {write : Bool}
    {width height flags : U32}
    (calls : (gbmMap mapped handle bo data x y w h write state).2.2.calls =
      .map asked width height flags :: state.calls) :
    asked = bo ∧ (width, height) = mapExtent (state.memory handle).format x y w h := by
  unfold gbmMap at calls
  split at calls
  · exact absurd calls.symm (List.cons_ne_self _ _)
  · cases mapped with
    | none | some _ =>
        obtain ⟨rfl, rfl, rfl, -⟩ := GbmCall.map.inj (List.cons.inj calls).1
        exact ⟨rfl, rfl⟩

/-- Counting the lock asks for nothing. -/
theorem countLock_calls (answer : Int × Address × GrallocState) (bo : BoId) (usage : U64) :
    (if answer.1 ≠ 0 then answer else (0, answer.2.1, countLock bo usage answer.2.2)).2.2.calls =
      answer.2.2.calls := by
  split <;> rfl

/-- The sides of the rectangle that is meant. -/
theorem AccessRect.requested_sides (rect : AccessRect) (contents : PrivateHandle) :
    (if rect.w = 0 ∧ rect.h = 0 then (contents.width.toInt, contents.height.toInt)
      else (rect.w, rect.h)) = ((rect.requested contents).w, (rect.requested contents).h) := by
  by_cases null : rect.Null
  · rw [AccessRect.requested, if_pos null, if_pos (show rect.w = 0 ∧ rect.h = 0 from null)]
  · rw [AccessRect.requested, if_neg null, if_neg (show ¬ (rect.w = 0 ∧ rect.h = 0) from null)]

/-- A lock that asks for a mapping asks for the extent of its rectangle, or of the buffer. -/
theorem gbmLock_asks {state : GrallocState} {handle : BufferHandle} {bo asked : BoId}
    {mapped : Option Mapping} {usage : U64} {rect : AccessRect} {width height flags : U32}
    (registered : state.gbmBoHandleMap.find handle = some (some bo))
    (calls : (gbmLock mapped handle usage rect.x rect.y rect.w rect.h state).2.2.calls =
      .map asked width height flags :: state.calls) :
    asked = bo ∧ (width, height) = mapExtent (state.memory handle).format rect.x rect.y
      (rect.requested (state.memory handle)).w (rect.requested (state.memory handle)).h := by
  have unasked : state.calls ≠ .map asked width height flags :: state.calls :=
    (List.cons_ne_self _ _).symm
  simp only [gbmLock, fromHandle_of_present registered] at calls
  by_cases allowed : usageAllowed (state.memory handle).usage usage = true
  case neg =>
    rw [if_neg allowed] at calls
    exact absurd calls unasked
  rw [if_pos allowed, lockRecorded] at calls
  by_cases clash : (lockRecord state bo).Clashes usage
  case pos =>
    rw [if_pos clash] at calls
    exact absurd calls unasked
  rw [if_neg clash] at calls
  by_cases wanted : WantsMapping (usage ||| (lockRecord state bo).lockedUsage)
  case neg =>
    simp only [if_neg wanted] at calls
    exact absurd calls unasked
  simp only [if_pos wanted, countLock_calls, AccessRect.requested_sides] at calls
  have asks : asked = bo ∧ (width, height) =
      mapExtent ((setBoData state bo (lockRecord state bo)).memory handle).format rect.x rect.y
        (rect.requested (state.memory handle)).w (rect.requested (state.memory handle)).h :=
    gbmMap_asks calls
  exact asks

/-! ## Words and numbers -/

/-- The samples of a YV12 buffer, as offsets from its base. -/
theorem planar_samples {width : U32} (positive : width.toNat < 2 ^ 31) (height : U32)
    (address : Address) (row column : Nat) :
    (planar width height address).luma.sample row column =
        address + (row * width.toNat + column : Nat) ∧
      (planar width height address).red.sample row column =
        address + (redStart width.toNat height.toNat + row * alignUp (width.toNat / 2) +
          column : Nat) ∧
      (planar width height address).blue.sample row column =
        address + (blueStart width.toNat height.toNat + row * alignUp (width.toNat / 2) +
          column : Nat) := by
  have half := sdiv_two_toNat positive
  obtain ⟨unsigned, signed⟩ :=
    grallocAlign_of_small (show (width.sdiv 2).toNat + 15 < 2 ^ 31 by omega)
  rw [half] at unsigned signed
  have step : (planar width height address).chromaStep.toInt = 1 := rfl
  have ystride : (planar width height address).ystride.toInt = width.toNat :=
    (strideBytes_toInt _).trans (BitVec.toInt_eq_toNat_of_lt (by omega))
  have cstride : (planar width height address).cstride.toInt = alignUp (width.toNat / 2) :=
    (strideBytes_toInt _).trans signed
  have lumaBytes : (width * height).toNat = redStart width.toNat height.toNat :=
    BitVec.toNat_mul width height
  have chromaBytes : (width * height).toNat + (grallocAlign (width.sdiv 2) 16 * height / 2).toNat =
      blueStart width.toNat height.toNat := by
    rw [blueStart, lumaBytes, BitVec.toNat_udiv, BitVec.toNat_mul, unsigned]
    rfl
  simp only [Plane.sample, AndroidYcbcr.luma, AndroidYcbcr.blue, AndroidYcbcr.red, ystride,
    cstride, step]
  simp only [planar, ← chromaBytes, ← lumaBytes]
  push_cast
  refine ⟨?_, ?_, ?_⟩ <;> ring

/-- The bits of an int, read without sign. -/
theorem ofInt_toNat (value : Int) : ((BitVec.ofInt 32 value).toNat : Int) = value % 2 ^ 32 := by
  rw [BitVec.toNat_ofInt]
  exact Int.toNat_of_nonneg (Int.emod_nonneg _ (by decide))

/-- Being mapped is a matter of the offset. -/
theorem maps_iff {object : Bo} {format : U32} {address : Address} {width height : U32}
    {byte : Int} (offset : Nat) (same : byte = address + offset) :
    Maps object format address width height byte ↔
      InWindow object.stride.toNat height.toNat (pixelBytes format * width.toNat) offset := by
  constructor
  · rintro ⟨other, equal, inside⟩
    obtain rfl : other = offset := by omega
    exact inside
  · intro inside
    exact ⟨offset, same, inside⟩

section Region

variable {object : Bo} {contents : PrivateHandle} {rect : AccessRect} {width height : U32}

/-- A buffer that a rectangle lies in has sides that are not negative as ints. -/
theorem AccessRect.Inside.sides (inside : rect.Inside contents) :
    contents.width.toInt = contents.width.toNat ∧ contents.width.toNat < 2 ^ 31 ∧
      contents.height.toInt = contents.height.toNat ∧ contents.height.toNat < 2 ^ 31 := by
  obtain ⟨left, top, wide, high, right, bottom⟩ := inside
  have width := BitVec.toInt_eq_toNat_cond contents.width
  have height := BitVec.toInt_eq_toNat_cond contents.height
  have widthBound := contents.width.isLt
  have heightBound := contents.height.isLt
  omega

/-- The rectangle that is meant lies in the buffer too, and is the whole of it without crop. -/
theorem AccessRect.Inside.requested (inside : rect.Inside contents) :
    (rect.requested contents).Inside contents ∧
      (rect.Null ∧ rect.requested contents = ⟨0, 0, contents.width.toInt, contents.height.toInt⟩ ∨
        ¬ rect.Null ∧ rect.requested contents = rect) := by
  obtain ⟨width, -, height, -⟩ := inside.sides
  by_cases null : rect.Null
  · rw [AccessRect.requested, if_pos null]
    refine ⟨?_, .inl ⟨null, rfl⟩⟩
    constructor <;> dsimp only <;> omega
  · rw [AccessRect.requested, if_neg null]
    exact ⟨inside, .inr ⟨null, rfl⟩⟩

/-- The pixels of a rectangle are in every region that reaches beyond its corner. -/
theorem maps_pixel {meant : AccessRect} {row column byte : Nat} (format : U32) (address : Address)
    (right : meant.x + meant.w ≤ width.toNat) (bottom : meant.y + meant.h ≤ height.toNat)
    (pixel : meant.Contains row column) (byteBound : byte < pixelBytes format) :
    Maps object format address width height
      (address + row * object.stride.toNat + column * pixelBytes format + byte) := by
  obtain ⟨-, rowBound, -, columnBound⟩ := pixel
  have last : (column + 1) * pixelBytes format ≤ width.toNat * pixelBytes format :=
    Nat.mul_le_mul_right _ (by omega)
  rw [Nat.add_mul, Nat.one_mul, Nat.mul_comm width.toNat] at last
  refine ⟨row * object.stride.toNat + (column * pixelBytes format + byte), ?_,
    row, column * pixelBytes format + byte, by omega, by omega, rfl⟩
  push_cast
  ring

/-- The region for a format other than YV12 is right unless an offset comes with no crop. -/
theorem regionRight_of_pixels (other : contents.format ≠ halPixelFormatYv12)
    (shape : object.geometry = requestedGeometry contents) (inside : rect.Inside contents)
    (extent : (width, height) = mapExtent contents.format rect.x rect.y
      (rect.requested contents).w (rect.requested contents).h) :
    RegionRight object contents rect width height ↔ (rect.Null → rect.x = 0 ∧ rect.y = 0) := by
  obtain ⟨widthValue, widthBound, heightValue, heightBound⟩ := inside.sides
  obtain ⟨⟨left, top, wide, high, right, bottom⟩, meant⟩ := inside.requested
  rw [mapExtent, if_neg other] at extent
  obtain ⟨rfl, rfl⟩ := Prod.mk.inj extent
  obtain ⟨sameWidth, sameRest⟩ := Prod.mk.inj shape
  have sameHeight := (Prod.mk.inj sameRest).1
  rw [boWidth, if_neg other] at sameWidth
  rw [boHeight, if_neg other] at sameHeight
  have columns := ofInt_toNat (rect.x + (rect.requested contents).w)
  have rows := ofInt_toNat (rect.y + (rect.requested contents).h)
  obtain ⟨rectLeft, rectTop, rectWide, rectHigh, rectRight, rectBottom⟩ := inside
  have small : rect.x + (rect.requested contents).w < 2 ^ 32 ∧
      rect.y + (rect.requested contents).h < 2 ^ 32 := by omega
  rw [Int.emod_eq_of_lt (by omega) small.1] at columns
  rw [Int.emod_eq_of_lt (by omega) small.2] at rows
  constructor
  · rintro ⟨withinWidth, withinHeight, -, -⟩ null
    rcases meant with ⟨-, same⟩ | ⟨cropped, -⟩
    · rw [sameWidth] at withinWidth
      rw [sameHeight] at withinHeight
      rw [same] at columns rows withinWidth withinHeight
      dsimp only at columns rows withinWidth withinHeight
      omega
    · exact absurd null cropped
  · intro cornered
    have reach : (rect.requested contents).x = rect.x ∧ (rect.requested contents).y = rect.y := by
      rcases meant with ⟨null, same⟩ | ⟨-, same⟩
      · rw [same, (cornered null).1, (cornered null).2]
        exact ⟨rfl, rfl⟩
      · rw [same]
        exact ⟨rfl, rfl⟩
    refine ⟨by rw [sameWidth]; omega, by rw [sameHeight]; omega, ?_,
      fun yv12 => absurd yv12 other⟩
    intro _ row column byte address pixel byteBound
    exact maps_pixel _ address (by omega) (by omega) pixel byteBound

/-- A region without a wrapped width, in numbers. -/
theorem planarExtent (yv12 : contents.format = halPixelFormatYv12) (inside : rect.Inside contents)
    (extent : (width, height) = mapExtent contents.format rect.x rect.y
      (rect.requested contents).w (rect.requested contents).h) :
    width.toNat = rect.x.toNat + (rect.requested contents).w.toNat / 2 ∧
      height.toNat = (rect.y.toNat + (rect.requested contents).h.toNat +
        (rect.requested contents).h.toNat / 2) % 2 ^ 32 := by
  obtain ⟨widthValue, widthBound, heightValue, heightBound⟩ := inside.sides
  obtain ⟨⟨left, top, wide, high, right, bottom⟩, -⟩ := inside.requested
  obtain ⟨rectLeft, rectTop, rectWide, rectHigh, rectRight, rectBottom⟩ := inside
  rw [mapExtent, if_pos yv12] at extent
  obtain ⟨rfl, rfl⟩ := Prod.mk.inj extent
  have columns := ofInt_toNat (rect.x + (rect.requested contents).w.tdiv 2)
  have rows := ofInt_toNat
    (rect.y + ((rect.requested contents).h + (rect.requested contents).h.tdiv 2))
  rw [Int.tdiv_eq_ediv_of_nonneg wide] at columns ⊢
  rw [Int.tdiv_eq_ediv_of_nonneg high] at rows ⊢
  omega

/-- For YV12 a region is right exactly if it is no larger than the object and the samples of
the requested rectangle are in it, when the rows of the object have no padding. -/
theorem regionRight_iff_planesMapped (yv12 : contents.format = halPixelFormatYv12)
    (rowBytes : object.stride.toNat = 2 * (contents.width.toNat / 2))
    (inside : rect.Inside contents) :
    RegionRight object contents rect width height ↔
      width.toNat ≤ object.width.toNat ∧ height.toNat ≤ object.height.toNat ∧
        PlanesMapped contents.width.toNat contents.height.toNat
          (rect.requested contents).x.toNat (rect.requested contents).y.toNat
          (rect.requested contents).w.toNat (rect.requested contents).h.toNat
          height.toNat (2 * width.toNat) := by
  obtain ⟨-, widthBound, -, -⟩ := inside.sides
  obtain ⟨⟨left, top, wide, high, -, -⟩, -⟩ := inside.requested
  have window : ∀ (address : Address) (offset : Nat) (byte : Int), byte = address + offset →
      (Maps object contents.format address width height byte ↔
        InWindow (2 * (contents.width.toNat / 2)) height.toNat (2 * width.toNat) offset) := by
    intro address offset byte same
    rw [maps_iff offset same, rowBytes, pixelBytes, if_pos yv12]
  have layout : ∀ address : Address, ycbcrLayout contents address =
      some (planar contents.width contents.height address) := by
    intro address
    rw [ycbcrLayout_of_planar (.inl yv12), layoutOf, if_pos yv12]
  constructor
  · rintro ⟨withinWidth, withinHeight, -, planes⟩
    refine ⟨withinWidth, withinHeight, ?_, ?_⟩
    · intro row column after before start stop
      obtain ⟨luma, -, -⟩ := planar_samples widthBound contents.height 0 row column
      exact (window 0 _ _ luma).mp
        (planes yv12 0 _ (layout 0) row column ⟨by omega, by omega, by omega, by omega⟩).1
    · intro row column after before start stop line place
      obtain ⟨-, red, blue⟩ := planar_samples widthBound contents.height 0 (row / 2) (column / 2)
      obtain ⟨mapsRed, mapsBlue⟩ := (planes yv12 0 _ (layout 0) row column
        ⟨by omega, by omega, by omega, by omega⟩).2 line place
      exact ⟨(window 0 _ _ red).mp mapsRed, (window 0 _ _ blue).mp mapsBlue⟩
  · rintro ⟨withinWidth, withinHeight, lumaMapped, chromaMapped⟩
    refine ⟨withinWidth, withinHeight, fun other => absurd yv12 other, ?_⟩
    rintro - address ycbcr described row column ⟨after, before, start, stop⟩
    rw [layout address] at described
    obtain rfl := Option.some.inj described
    obtain ⟨luma, -, -⟩ := planar_samples widthBound contents.height address row column
    obtain ⟨-, red, blue⟩ :=
      planar_samples widthBound contents.height address (row / 2) (column / 2)
    refine ⟨(window address _ _ luma).mpr
      (lumaMapped row column (by omega) (by omega) (by omega) (by omega)), fun line place => ?_⟩
    obtain ⟨mappedRed, mappedBlue⟩ :=
      chromaMapped row column (by omega) (by omega) (by omega) (by omega) line place
    exact ⟨(window address _ _ red).mpr mappedRed, (window address _ _ blue).mpr mappedBlue⟩

/-- The object of a YV12 buffer is half as wide as the buffer and half as high again. -/
theorem planarObject_sides (yv12 : contents.format = halPixelFormatYv12)
    (shape : object.geometry = requestedGeometry contents) (wide : contents.width.toNat < 2 ^ 31)
    (high : contents.height.toNat < 2 ^ 31) :
    object.width.toNat = contents.width.toNat / 2 ∧
      object.height.toNat = contents.height.toNat + contents.height.toNat / 2 := by
  obtain ⟨sameWidth, sameRest⟩ := Prod.mk.inj shape
  have sameHeight := (Prod.mk.inj sameRest).1
  constructor
  · rw [sameWidth, boWidth, if_pos yv12, sdiv_two_toNat wide]
  · rw [sameHeight, boHeight, if_pos yv12, BitVec.toNat_add, half_toNat,
      Nat.mod_eq_of_lt (by omega)]

/-- So the region for YV12 is right exactly if it fits. -/
theorem regionRight_of_planes (yv12 : contents.format = halPixelFormatYv12)
    (shape : object.geometry = requestedGeometry contents)
    (rowBytes : object.stride.toNat = 2 * object.width.toNat) (inside : rect.Inside contents)
    (extent : (width, height) = mapExtent contents.format rect.x rect.y
      (rect.requested contents).w (rect.requested contents).h) :
    RegionRight object contents rect width height ↔
      PlanarRegionFits contents.width.toNat contents.height.toNat rect.x.toNat rect.y.toNat
        (rect.requested contents).x.toNat (rect.requested contents).y.toNat
        (rect.requested contents).w.toNat (rect.requested contents).h.toNat := by
  obtain ⟨widthValue, widthBound, heightValue, heightBound⟩ := inside.sides
  obtain ⟨columns, rows⟩ := planarExtent yv12 inside extent
  obtain ⟨half, higher⟩ := planarObject_sides yv12 shape widthBound heightBound
  rw [half] at rowBytes
  rw [regionRight_iff_planesMapped yv12 rowBytes inside, half, higher, columns, rows]
  obtain ⟨⟨left, top, wide, high, right, bottom⟩, meant⟩ := inside.requested
  obtain ⟨rectLeft, rectTop, rectWide, rectHigh, rectRight, rectBottom⟩ := inside
  refine (planarRegionFits_iff (by omega) (by omega) (by omega) heightBound ?_).symm
  rcases meant with ⟨-, same⟩ | ⟨-, same⟩
  · rw [same, widthValue, heightValue]
    exact .inr ⟨rfl, rfl, rfl, rfl⟩
  · rw [same]
    exact .inl ⟨rfl, rfl⟩

end Region

/-- An import asks for the geometry of an allocation. -/
theorem importedBo_geometry {contents : PrivateHandle} (positive : contents.width.toNat < 2 ^ 31) :
    (importedBo contents).geometry = requestedGeometry contents := by
  have half : contents.width / 2 = contents.width.sdiv 2 := by
    apply BitVec.eq_of_toNat_eq
    rw [half_toNat, sdiv_two_toNat positive]
  simp only [Bo.geometry, importedBo, requestedGeometry, boWidth, boHeight, half]

/-- So a buffer that is registered from outside has this geometry too. -/
theorem gbmRegister_geometry {state : GrallocState} {handle : BufferHandle} {accepted : Bool}
    (positive : (state.memory handle).width.toNat < 2 ^ 31)
    (succeeded : (gbmRegister accepted handle state).1 = 0) :
    ∃ bo, (gbmRegister accepted handle state).2.gbmBoHandleMap.find handle = some (some bo) ∧
      ((gbmRegister accepted handle state).2.bos.cells bo).map Bo.geometry =
        some (requestedGeometry ((gbmRegister accepted handle state).2.memory handle)) := by
  rcases gbmRegister_outcome accepted handle state with ⟨refused, -⟩ | ⟨-, done⟩
  · rw [refused] at succeeded
    exact absurd succeeded (show (-einval : Int) ≠ 0 by decide)
  · rw [done]
    refine ⟨state.bos.next, UnorderedMap.find_assign_self, ?_⟩
    simp only [Store.create_cells_next, Option.map_some, importedBo_geometry positive]

/-- A lock that asks for a mapping of a buffer asks for the right region exactly if the region
of its rectangle fits. -/
theorem gbmLock_region_iff {state : GrallocState} {handle : BufferHandle} {bo asked : BoId}
    {mapped : Option Mapping} {usage : U64} {rect : AccessRect} {width height flags : U32}
    (registered : state.gbmBoHandleMap.find handle = some (some bo))
    (shape : (state.bos.cells bo).map Bo.geometry =
      some (requestedGeometry (state.memory handle)))
    (rowBytes : (state.memory handle).format = halPixelFormatYv12 →
      (state.memory handle).stride.toNat = 2 * (boWidth (state.memory handle)).toNat)
    (inside : rect.Inside (state.memory handle))
    (calls : (gbmLock mapped handle usage rect.x rect.y rect.w rect.h state).2.2.calls =
      .map asked width height flags :: state.calls) :
    ∃ object, state.bos.cells asked = some object ∧
      (RegionRight object (state.memory handle) rect width height ↔
        RegionFits (state.memory handle) rect) := by
  obtain ⟨object, alive, geometry⟩ := Option.map_eq_some_iff.mp shape
  obtain ⟨rfl, extent⟩ := gbmLock_asks registered calls
  refine ⟨object, alive, ?_⟩
  by_cases yv12 : (state.memory handle).format = halPixelFormatYv12
  · rw [RegionFits, if_pos yv12]
    have stride : object.stride.toNat = 2 * object.width.toNat := by
      obtain ⟨sameWidth, sameRest⟩ := Prod.mk.inj geometry
      rw [(Prod.mk.inj sameRest).2, sameWidth]
      exact rowBytes yv12
    exact regionRight_of_planes yv12 geometry stride inside extent
  · rw [RegionFits, if_neg yv12]
    exact regionRight_of_pixels yv12 geometry inside extent

/-- A process with one buffer. -/
def exampleBuffer (format width height stride : U32) : GrallocState :=
  (gbmAlloc 1 (some ⟨3, stride⟩) 0 width height format 0x66 (.fresh fun _ => .new 0 0 0 0 0)).2.2

/-- A lock of the buffer for reading and writing. -/
def exampleLock (rect : AccessRect) (state : GrallocState) : GrallocState :=
  (gbmLock (some ⟨4096, 7, by decide⟩) 1 0x22 rect.x rect.y rect.w rect.h state).2.2

theorem gbmLock_region_example :
    (exampleLock ⟨0, 0, 32, 4⟩ (exampleBuffer halPixelFormatYv12 32 4 32)).calls =
        [.map 0 16 6 3] ∧
      ∃ object, (exampleBuffer halPixelFormatYv12 32 4 32).bos.cells 0 = some object ∧
        RegionRight object ((exampleBuffer halPixelFormatYv12 32 4 32).memory 1) ⟨0, 0, 32, 4⟩
          16 6 := by
  have calls : (exampleLock ⟨0, 0, 32, 4⟩ (exampleBuffer halPixelFormatYv12 32 4 32)).calls =
      [.map 0 16 6 3] := rfl
  have inside : AccessRect.Inside ⟨0, 0, 32, 4⟩
      ((exampleBuffer halPixelFormatYv12 32 4 32).memory 1) := by
    constructor <;> decide
  have fits : PlanarRegionFits 32 4 0 0 0 0 32 4 :=
    ⟨by decide, by decide, .inr (.inr (by rw [if_pos (by decide)]; decide))⟩
  obtain ⟨object, alive, right⟩ := gbmLock_region_iff rfl rfl (fun _ => rfl) inside calls
  exact ⟨calls, object, alive, right.mpr fits⟩

/-- The upper half of a YV12 buffer: its chroma samples are below the region. No crop, with an
offset: the region is larger than the object. -/
theorem gbmLock_region_not_always_right :
    ((exampleLock ⟨0, 0, 32, 2⟩ (exampleBuffer halPixelFormatYv12 32 4 32)).calls =
        [.map 0 16 3 3] ∧
      ∀ object, (exampleBuffer halPixelFormatYv12 32 4 32).bos.cells 0 = some object →
        ¬ RegionRight object ((exampleBuffer halPixelFormatYv12 32 4 32).memory 1) ⟨0, 0, 32, 2⟩
          16 3) ∧
    (exampleLock ⟨1, 1, 0, 0⟩ (exampleBuffer halPixelFormatRgba8888 4 4 16)).calls =
        [.map 0 5 5 3] ∧
      ∀ object, (exampleBuffer halPixelFormatRgba8888 4 4 16).bos.cells 0 = some object →
        ¬ RegionRight object ((exampleBuffer halPixelFormatRgba8888 4 4 16).memory 1) ⟨1, 1, 0, 0⟩
          5 5 := by
  refine ⟨⟨rfl, fun object alive right => ?_⟩, rfl, fun object alive right => ?_⟩
  · obtain rfl := Option.some.inj alive
    have shared := (right.planes rfl 0 _ rfl 0 0 (by decide)).2 (by decide) (by decide)
    obtain ⟨offset, place, row, column, rowBound, columnBound, split⟩ := shared.1
    have start : (128 : Int) = 0 + offset := place
    have within : row < 3 ∧ column < 32 ∧ offset = row * 32 + column :=
      ⟨rowBound, columnBound, split⟩
    omega
  · obtain rfl := Option.some.inj alive
    exact absurd right.withinWidth (by decide)

end Arpi.Gralloc
