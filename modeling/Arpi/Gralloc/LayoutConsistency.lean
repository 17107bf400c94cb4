import Arpi.Gralloc.YuvGeometry

/-!
# Plane layouts that can be trusted

A consumer of a `PlaneLayout` relies on the sizes in it: every sample of a plane lies in
the bytes that the layout gives the plane, and no two samples share a byte. The chroma
planes of the two-plane formats are given too few bytes, as their size is computed from
the stride of a plane of its own.
-/

namespace Arpi.Gralloc

open Arpi.Semantics

namespace PlaneLayout

/-- The grid of the samples. -/
def plane (layout : PlaneLayout) : Plane where
  start := layout.offsetInBytes
  stride := layout.strideInBytes
  step := (layout.sampleIncrementInBits / 8 : Nat)

/-- Every sample lies in the bytes of the plane. -/
def Contained (layout : PlaneLayout) : Prop :=
  WithinRegion layout.plane.sample layout.heightInSamples layout.widthInSamples
    layout.offsetInBytes (layout.offsetInBytes + layout.totalSizeInBytes)

/-- No two samples of the plane share a byte. -/
def Distinct (layout : PlaneLayout) : Prop :=
  DistinctSamples layout.plane.sample layout.heightInSamples layout.widthInSamples

/-- No sample of the one plane shares a byte with a sample of the other. -/
def Apart (layout other : PlaneLayout) : Prop :=
  ApartSamples layout.plane.sample layout.heightInSamples layout.widthInSamples
    other.plane.sample other.heightInSamples other.widthInSamples

/-- The samples lie in the bytes of the plane exactly when the last one does. -/
theorem contained_iff (layout : PlaneLayout) :
    layout.Contained ↔ layout.heightInSamples = 0 ∨ layout.widthInSamples = 0 ∨
      (layout.heightInSamples - 1) * layout.strideInBytes +
        (layout.widthInSamples - 1) * (layout.sampleIncrementInBits / 8) <
          layout.totalSizeInBytes := by
  have rowsForward : 0 ≤ layout.plane.stride := Int.natCast_nonneg _
  have samplesForward : 0 ≤ layout.plane.step := Int.natCast_nonneg _
  refine (Plane.within_iff layout.plane layout.widthInSamples _ (.inr rowsForward)
    samplesForward (Int.le_refl layout.offsetInBytes)).trans ?_
  refine or_congr_right (or_congr_right ?_)
  simp only [Plane.sample, plane]
  norm_cast
  omega

/-- Rows that are no longer than the stride keep the samples apart. -/
theorem distinct_of_fits {layout : PlaneLayout} (increment : 0 < layout.sampleIncrementInBits / 8)
    (fits : layout.widthInSamples * (layout.sampleIncrementInBits / 8) ≤ layout.strideInBytes) :
    layout.Distinct := by
  apply Plane.distinctSamples
  · exact Int.natCast_pos.mpr increment
  · simp only [plane]
    norm_cast
    omega

/-- A plane whose bytes end before the other starts is apart from it. -/
theorem Contained.apart {layout other : PlaneLayout} (contained : layout.Contained)
    (behind : layout.offsetInBytes + layout.totalSizeInBytes ≤ other.offsetInBytes) :
    layout.Apart other := by
  apply WithinRegion.apart contained
  intro row column
  have rowsForward : 0 ≤ other.plane.stride := Int.natCast_nonneg _
  have samplesForward : 0 ≤ other.plane.step := Int.natCast_nonneg _
  have start : (other.offsetInBytes : Int) ≤ other.plane.sample row column :=
    Plane.start_le_sample rowsForward samplesForward row column
  omega

end PlaneLayout

/-- The samples of every plane lie in its bytes, and each has a byte of its own. -/
structure LayoutsConsistent (layouts : List PlaneLayout) : Prop where
  contained : ∀ layout ∈ layouts, layout.Contained
  distinct : ∀ layout ∈ layouts, layout.Distinct
  apart : layouts.Pairwise PlaneLayout.Apart

/-- The chroma samples fit into the size that is given for their plane. -/
def ChromaContained (format : U32) (width height : Nat) : Prop :=
  format = halPixelFormatYv12 ∨ width < 2 ∨ height < 2 ∨
    (height / 2 - 1) * alignUp width + 2 * (width / 2 - 1) < chromaSize width height

instance (format : U32) (width height : Nat) : Decidable (ChromaContained format width height) :=
  inferInstanceAs (Decidable (_ ∨ _))

namespace YuvGeometry

variable (geometry : YuvGeometry) {width height : Nat}

/-! ## The luma plane -/

theorem lumaLayout_contained (fits : width ≤ geometry.ystride) :
    (geometry.lumaLayout width height).Contained := by
  rw [PlaneLayout.contained_iff]
  simp only [lumaLayout, Nat.reduceDiv]
  cases height with
  | zero => exact .inl rfl
  | succ above =>
      have size := Nat.mul_succ geometry.ystride above
      rw [Nat.add_sub_cancel, size, Nat.mul_comm above]
      omega

theorem lumaLayout_distinct (fits : width ≤ geometry.ystride) :
    (geometry.lumaLayout width height).Distinct := by
  apply PlaneLayout.distinct_of_fits
  · exact show 0 < 8 / 8 by decide
  · simpa only [lumaLayout, Nat.reduceDiv, Nat.mul_one] using fits

/-- A plane behind the bytes of the luma plane is apart from it. -/
theorem lumaLayout_apart (fits : width ≤ geometry.ystride)
    (component : PlaneLayoutComponentType) {offset : Nat}
    (behind : geometry.ystride * height ≤ offset) :
    (geometry.lumaLayout width height).Apart
      (geometry.chromaLayout component offset width height) := by
  apply (geometry.lumaLayout_contained fits).apart
  simpa only [lumaLayout, chromaLayout, Nat.zero_add] using behind

/-! ## The chroma planes -/

section Chroma

variable (component other : PlaneLayoutComponentType) {offset : Nat}

theorem chromaLayout_contained_iff :
    (geometry.chromaLayout component offset width height).Contained ↔
      height / 2 = 0 ∨ width / 2 = 0 ∨
        (height / 2 - 1) * geometry.cstride + (width / 2 - 1) * geometry.chromaStep <
          chromaSize width height := by
  rw [PlaneLayout.contained_iff]
  simp only [chromaLayout, Nat.mul_div_cancel_left _ (show 0 < 8 by decide)]

theorem chromaLayout_distinct (positive : 0 < geometry.chromaStep)
    (fits : width / 2 * geometry.chromaStep ≤ geometry.cstride) :
    (geometry.chromaLayout component offset width height).Distinct := by
  have step : 8 * geometry.chromaStep / 8 = geometry.chromaStep :=
    Nat.mul_div_cancel_left _ (by decide)
  apply PlaneLayout.distinct_of_fits
  · simpa only [chromaLayout, step] using positive
  · simpa only [chromaLayout, step] using fits

/-- Samples in pairs: one chroma plane has the even bytes, the other the odd ones. -/
theorem chromaLayout_apart_of_pairs (pairs : geometry.chromaStep = 2)
    (even : 2 ∣ geometry.cstride) {first second : Nat} (next : first + 1 = second ∨ second + 1 = first) :
    (geometry.chromaLayout component first width height).Apart
      (geometry.chromaLayout other second width height) := by
  have stride : (2 : Int) ∣ geometry.cstride := by exact_mod_cast even
  have step : (2 : Int) ∣ (8 * geometry.chromaStep / 8 : Nat) := by
    rw [pairs]
    decide
  refine Plane.apart_of_dvd stride step stride step ?_ _ _ _ _
  simp only [PlaneLayout.plane, chromaLayout]
  omega

end Chroma

end YuvGeometry

/-! ## The three planes of a buffer -/

/-- Three planes are consistent when each of them is and each two are apart. -/
theorem LayoutsConsistent.of_three {luma red blue : PlaneLayout}
    (contained : luma.Contained ∧ red.Contained ∧ blue.Contained)
    (distinct : luma.Distinct ∧ red.Distinct ∧ blue.Distinct)
    (lumaRed : luma.Apart red) (lumaBlue : luma.Apart blue) (redBlue : red.Apart blue) :
    LayoutsConsistent [luma, red, blue] where
  contained := by simpa using contained
  distinct := by simpa using distinct
  apart := by simp [lumaRed, lumaBlue, redBlue]

/-- In the two-plane formats all is well except that the chroma sizes may be too small. -/
theorem semiPlanar_consistent_iff {format : U32} (semi : format ≠ halPixelFormatYv12)
    (width height : Nat) :
    LayoutsConsistent ((yuvGeometry format width height).layouts width height) ↔
      ChromaContained format width height := by
  let geometry := yuvGeometry format width height
  have value : geometry = yuvGeometry format width height := rfl
  rw [yuvGeometry, if_neg semi] at value
  have ystride : geometry.ystride = alignUp width := by rw [value]
  have cstride : geometry.cstride = alignUp width := by rw [value]
  have step : geometry.chromaStep = 2 := by rw [value]
  have pair : geometry.crOffset + 1 = geometry.cbOffset ∨
      geometry.cbOffset + 1 = geometry.crOffset := by
    rw [value]
    dsimp only
    split
    · exact .inl rfl
    · exact .inr rfl
  have behind : alignUp width * height ≤ geometry.crOffset ∧
      alignUp width * height ≤ geometry.cbOffset := by
    rw [value]
    dsimp only
    split <;> omega
  have fits : width ≤ geometry.ystride := ystride ▸ le_alignUp width
  have chromaFits : width / 2 * geometry.chromaStep ≤ geometry.cstride := by
    rw [step, cstride, Nat.mul_comm]
    exact two_mul_half_le_alignUp width
  have chromaIff : ∀ component offset,
      (geometry.chromaLayout component offset width height).Contained ↔
        ChromaContained format width height := by
    intro component offset
    rw [YuvGeometry.chromaLayout_contained_iff, step, cstride, ChromaContained,
      Nat.mul_comm (width / 2 - 1)]
    have noColumn : width / 2 = 0 ↔ width < 2 := by omega
    have noRow : height / 2 = 0 ↔ height < 2 := by omega
    rw [noColumn, noRow]
    tauto
  constructor
  · intro consistent
    exact (chromaIff .cr geometry.crOffset).mp
      (consistent.contained _ (by simp [YuvGeometry.layouts, geometry]))
  · intro chroma
    have distinct : ∀ component offset,
        (geometry.chromaLayout component offset width height).Distinct :=
      fun component offset => geometry.chromaLayout_distinct component (by omega) chromaFits
    rw [← ystride] at behind
    exact .of_three
      ⟨geometry.lumaLayout_contained fits, (chromaIff _ _).mpr chroma, (chromaIff _ _).mpr chroma⟩
      ⟨geometry.lumaLayout_distinct fits, distinct _ _, distinct _ _⟩
      (geometry.lumaLayout_apart fits _ behind.1) (geometry.lumaLayout_apart fits _ behind.2)
      (geometry.chromaLayout_apart_of_pairs _ _ step (cstride ▸ alignUp_even width) pair)

/-- For YV12 all is well. -/
theorem planar_consistent (width height : Nat) :
    LayoutsConsistent ((yuvGeometry halPixelFormatYv12 width height).layouts width height) := by
  let geometry := yuvGeometry halPixelFormatYv12 width height
  have value : geometry = yuvGeometry halPixelFormatYv12 width height := rfl
  rw [yuvGeometry, if_pos rfl] at value
  have fits : width ≤ geometry.ystride := by rw [value]
  have lumaSize : geometry.ystride * height = width * height := by rw [value]
  have red : geometry.crOffset = width * height := by rw [value]
  have blue : geometry.cbOffset = width * height + chromaSize width height := by
    rw [value, chromaSize]
  have step : geometry.chromaStep = 1 := by rw [value]
  have cstride : geometry.cstride = alignUp (width / 2) := by rw [value]
  have half := le_alignUp (width / 2)
  have contained : ∀ component offset,
      (geometry.chromaLayout component offset width height).Contained := by
    intro component offset
    rw [YuvGeometry.chromaLayout_contained_iff, step, cstride, Nat.mul_one, chromaSize]
    by_cases noRow : height / 2 = 0
    · exact .inl noRow
    by_cases noColumn : width / 2 = 0
    · exact .inr (.inl noColumn)
    -- The rows before the last one and the last one together.
    have rows : (height / 2 - 1) * alignUp (width / 2) + alignUp (width / 2) =
        alignUp (width / 2) * (height / 2) := by
      obtain ⟨above, same⟩ := Nat.exists_eq_succ_of_ne_zero noRow
      rw [same, Nat.succ_sub_one, Nat.mul_succ, Nat.mul_comm above]
    have size : alignUp (width / 2) * (height / 2) ≤ alignUp (width / 2) * height / 2 :=
      Nat.mul_div_le_mul_div_assoc _ _ _
    omega
  have distinct : ∀ component offset,
      (geometry.chromaLayout component offset width height).Distinct := by
    intro component offset
    apply geometry.chromaLayout_distinct component (by omega)
    rw [step, cstride, Nat.mul_one]
    exact half
  have redBehind : geometry.ystride * height ≤ geometry.crOffset := by omega
  have blueBehind : geometry.ystride * height ≤ geometry.cbOffset := by omega
  have blueLast : geometry.crOffset + chromaSize width height ≤ geometry.cbOffset := by omega
  exact .of_three ⟨geometry.lumaLayout_contained fits, contained _ _, contained _ _⟩
    ⟨geometry.lumaLayout_distinct fits, distinct _ _, distinct _ _⟩
    (geometry.lumaLayout_apart fits _ redBehind) (geometry.lumaLayout_apart fits _ blueBehind)
    ((contained .cr geometry.crOffset).apart blueLast)

/-- A buffer without rows has layouts without samples. -/
theorem layout_rows {contents : PrivateHandle} {layouts : List PlaneLayout}
    (answer : getPlaneLayouts contents = some layouts) (flat : contents.height = 0)
    {layout : PlaneLayout} (member : layout ∈ layouts) : layout.heightInSamples = 0 := by
  have planes : ∀ layout, yLayout contents = some layout ∨ crLayout contents = some layout ∨
      cbLayout contents = some layout → layout.heightInSamples = 0 := by
    intro layout origin
    simp only [yLayout, crLayout, cbLayout, lumaLayout, chromaLayout, flat] at origin
    split_ifs at origin <;> simp at origin <;> rcases origin with rfl | rfl | rfl <;> rfl
  unfold getPlaneLayouts at answer
  simp only [Option.bind_eq_bind, Option.bind_eq_some_iff, Option.pure_def,
    Option.some.injEq] at answer
  obtain ⟨luma, first, red, second, blue, third, rfl⟩ := answer
  apply planes
  simp only [List.mem_cons, List.not_mem_nil, or_false] at member
  rcases member with rfl | rfl | rfl
  · exact .inl first
  · exact .inr (.inl second)
  · exact .inr (.inr third)

/-- Layouts without samples are consistent. -/
theorem LayoutsConsistent.of_flat {layouts : List PlaneLayout}
    (flat : ∀ layout ∈ layouts, layout.heightInSamples = 0) : LayoutsConsistent layouts where
  contained layout member := withinRegion_of_empty (.inl (flat layout member))
  distinct layout member row column row' column' rowBound := by
    rw [flat layout member] at rowBound
    exact absurd rowBound (Nat.not_lt_zero row)
  apart := List.pairwise_of_forall_mem_list fun layout member other _ row column _ _ rowBound => by
    rw [flat layout member] at rowBound
    exact absurd rowBound (Nat.not_lt_zero row)

/-- The layouts of a buffer whose sizes are below 2³¹ are consistent exactly when the chroma
samples fit into the chroma size: for YV12 always, in the other formats when there are no
chroma samples or the last one lies within the size. -/
theorem planeLayouts_consistent_iff (contents : PrivateHandle)
    (supported : YcbcrSupported contents.format) (bounded : SizesBounded contents) :
    ∃ layouts, getPlaneLayouts contents = some layouts ∧ layouts.length = 3 ∧
      (LayoutsConsistent layouts ↔
        ChromaContained contents.format contents.width.toNat contents.height.toNat) := by
  by_cases flat : contents.height = 0
  · obtain ⟨layouts, answer⟩ :=
      Option.isSome_iff_exists.mp ((getPlaneLayouts_isSome contents).mpr supported)
    have three : layouts.length = 3 := by
      unfold getPlaneLayouts at answer
      simp only [Option.bind_eq_bind, Option.bind_eq_some_iff, Option.pure_def,
        Option.some.injEq] at answer
      obtain ⟨luma, -, red, -, blue, -, rfl⟩ := answer
      rfl
    refine ⟨layouts, answer, three, iff_of_true (.of_flat fun layout => layout_rows answer flat) ?_⟩
    rw [flat]
    exact .inr (.inr (.inl (by decide)))
  · have narrow : contents.yuvGeometry.ystride < 2 ^ 31 :=
      bounded.narrow fun none => absurd (BitVec.eq_of_toNat_eq none) flat
    refine ⟨_, getPlaneLayouts_eq supported bounded narrow, rfl, ?_⟩
    by_cases yv12 : contents.format = halPixelFormatYv12
    · refine iff_of_true ?_ (.inl yv12)
      rw [PrivateHandle.yuvGeometry, yv12]
      exact planar_consistent _ _
    · exact semiPlanar_consistent_iff yv12 _ _

/-- A buffer of 16 by 16 has consistent layouts. -/
theorem planeLayouts_consistent_example :
    ∃ layouts, getPlaneLayouts (exampleYuv 16 16) = some layouts ∧ LayoutsConsistent layouts := by
  obtain ⟨layouts, answer, -, exactly⟩ := planeLayouts_consistent_iff (exampleYuv 16 16) (by decide)
    ⟨by decide, fun yv12 => absurd yv12 (by decide)⟩
  exact ⟨layouts, answer, exactly.mpr (by decide)⟩

/-- In a buffer of 32 by 4 the last red sample is 62 bytes after the first one, and the plane
is given 32 bytes. -/
theorem planeLayouts_not_always_consistent :
    ¬ ∀ contents, YcbcrSupported contents.format →
      contents.yuvGeometry.lastPlaneEnd contents.height.toNat < 2 ^ 31 →
      ∃ layouts, getPlaneLayouts contents = some layouts ∧ LayoutsConsistent layouts := by
  intro claim
  obtain ⟨layouts, answer, consistent⟩ := claim (exampleYuv 32 4) (by decide) (by decide)
  have layout : (getPlaneLayouts (exampleYuv 32 4)).map (fun layouts => layouts[1]?) =
      some (some ⟨.cr, 0, 129, 16, 32, 16, 2, 32, 2, 2⟩) := by decide
  rw [answer] at layout
  have member := List.mem_of_getElem? (Option.some.inj layout)
  have contained := (PlaneLayout.contained_iff _).mp (consistent.contained _ member)
  exact absurd contained (by decide)

end Arpi.Gralloc
