import Arpi.Gralloc.YuvGeometry
import Arpi.Semantics.Window
import Mathlib.Tactic.Ring

/-!
# A rectangle of a YV12 buffer in its object

The object of a YV12 buffer has two bytes a pixel and half the buffer's width, so that its
rows are as long as the luma rows if the width is even. The chroma rows are rounded up and
half as long, and start where the luma plane ends. Here the samples of a rectangle are
followed into the rows of the object.
-/

namespace Arpi.Gralloc

open Arpi.Semantics

/-- The start of the red-difference plane, in 32 bits. -/
def redStart (width height : Nat) : Nat := width * height % 2 ^ 32

/-- The start of the blue-difference plane, in 32 bits. -/
def blueStart (width height : Nat) : Nat :=
  redStart width height + alignUp (width / 2) * height % 2 ^ 32 / 2

/-- The last column of chroma samples that belongs to the columns of a rectangle. -/
def lastChroma (width x w : Nat) : Nat := min ((x + w - 1) / 2) (width / 2 - 1)

/-- The luma samples of a rectangle and the chroma samples that they share are in a window of
the object. -/
structure PlanesMapped (width height x y w h rows columns : Nat) : Prop where
  luma : ∀ row column, y ≤ row → row < y + h → x ≤ column → column < x + w →
    InWindow (2 * (width / 2)) rows columns (row * width + column)
  chroma : ∀ row column, y ≤ row → row < y + h → x ≤ column → column < x + w →
    row / 2 < height / 2 → column / 2 < width / 2 →
    InWindow (2 * (width / 2)) rows columns
        (redStart width height + row / 2 * alignUp (width / 2) + column / 2) ∧
      InWindow (2 * (width / 2)) rows columns
        (blueStart width height + row / 2 * alignUp (width / 2) + column / 2)

/-- Every row of samples of a rectangle fits into the window. -/
structure RunsFit (width height x y w h rows columns : Nat) : Prop where
  luma : ∀ row, y ≤ row → row < y + h →
    RunFits (2 * (width / 2)) rows columns (row * width + x) (row * width + (x + w - 1))
  chroma : x / 2 < width / 2 → ∀ row, y / 2 ≤ row → row ≤ (y + h - 1) / 2 → row < height / 2 →
    RunFits (2 * (width / 2)) rows columns
        (redStart width height + row * alignUp (width / 2) + x / 2)
        (redStart width height + row * alignUp (width / 2) + lastChroma width x w) ∧
      RunFits (2 * (width / 2)) rows columns
        (blueStart width height + row * alignUp (width / 2) + x / 2)
        (blueStart width height + row * alignUp (width / 2) + lastChroma width x w)

section Rows

variable {width height x y w h rows columns base : Nat}

/-- The chroma samples of a row are a run. -/
theorem chromaRow_iff (property : Nat → Prop) (nonempty : 0 < w) :
    (∀ column, x ≤ column → column < x + w → column / 2 < width / 2 →
        property (base + column / 2)) ↔
      (x / 2 < width / 2 → ∀ offset, base + x / 2 ≤ offset → offset ≤ base + lastChroma width x w →
        property offset) := by
  unfold lastChroma
  constructor
  · intro samples some offset after before
    have sample := samples (max x (2 * (offset - base))) (by omega) (by omega) (by omega)
    rwa [show base + max x (2 * (offset - base)) / 2 = offset by omega] at sample
  · intro run column after before inside
    exact run (by omega) _ (by omega) (by omega)

/-- The samples are in the window exactly if every row of them fits. -/
theorem planesMapped_iff_runs (positive : 0 < width / 2) (narrow : columns ≤ 2 * (width / 2))
    (wide : 0 < w) (high : 0 < h) :
    PlanesMapped width height x y w h rows columns ↔
      RunsFit width height x y w h rows columns := by
  have stride : 0 < 2 * (width / 2) := by omega
  have order : x / 2 < width / 2 → x / 2 ≤ lastChroma width x w := by
    intro some
    unfold lastChroma
    omega
  constructor
  · rintro ⟨luma, chroma⟩
    constructor
    · intro row after before
      rw [← runInWindow_iff stride narrow (by omega)]
      intro offset start stop
      have sample := luma row (offset - row * width) after before (by omega) (by omega)
      rwa [show row * width + (offset - row * width) = offset by omega] at sample
    · intro some row after before inside
      obtain ⟨line, lineAfter, lineBefore, same⟩ :
          ∃ line, y ≤ line ∧ line < y + h ∧ line / 2 = row :=
        ⟨max y (2 * row), by omega, by omega, by omega⟩
      rw [← runInWindow_iff stride narrow (by have := order some; omega),
        ← runInWindow_iff stride narrow (by have := order some; omega), ← same]
      rw [← same] at inside
      constructor
      · exact (chromaRow_iff _ wide).mp (fun column start stop within =>
          (chroma line column lineAfter lineBefore start stop inside within).1) some
      · exact (chromaRow_iff _ wide).mp (fun column start stop within =>
          (chroma line column lineAfter lineBefore start stop inside within).2) some
  · rintro ⟨luma, chroma⟩
    constructor
    · intro row column after before start stop
      exact (runInWindow_iff stride narrow (by omega)).mpr (luma row after before) _ (by omega)
        (by omega)
    · intro row column after before start stop inside within
      have some : x / 2 < width / 2 := by omega
      obtain ⟨red, blue⟩ := chroma some (row / 2) (by omega) (by omega) inside
      rw [← runInWindow_iff stride narrow (by have := order some; omega)] at red blue
      exact ⟨(chromaRow_iff _ wide).mpr (fun _ => red) column start stop within,
        (chromaRow_iff _ wide).mpr (fun _ => blue) column start stop within⟩

end Rows

/-! ## Planes that fit into 32 bits -/

/-- The last chroma sample of the rectangle is in the last row of the window, which is also the
last row of the object. Of a rectangle without chroma samples, the end of its only row. -/
def PlanesFit (width height x y w h columns : Nat) : Prop :=
  if y / 2 < height / 2 ∧ x / 2 < width / 2 then
    y + h = height ∧ h / 2 = height / 2 ∧
      width * height + alignUp (width / 2) * height / 2 +
          (height / 2 - 1) * alignUp (width / 2) + lastChroma width x w <
        (height + height / 2 - 1) * (2 * (width / 2)) + columns
  else y * width + (x + w - 1) < y * (2 * (width / 2)) + columns

instance (width height x y w h columns : Nat) :
    Decidable (PlanesFit width height x y w h columns) := inferInstanceAs (Decidable (ite _ _ _))

/-- What the rounded-up chroma rows and an odd width add up to: the column of a chroma sample
of the last row, in the last row of the object. -/
def lastColumn (width height column : Nat) : Nat :=
  width % 2 * height + (alignUp (width / 2) * height / 2 - height / 2 * alignUp (width / 2)) +
    (2 * (height / 2) - 1) * (alignUp (width / 2) - width / 2) + width / 2 + column

section Unwrapped

variable {width height x y w h rows columns : Nat}

/-- An odd width makes the luma rows a byte longer than those of the object. -/
theorem width_split (width height : Nat) :
    width * height = height * (2 * (width / 2)) + width % 2 * height := by
  conv_lhs => rw [← Nat.div_add_mod width 2]
  ring

/-- Two rows of chroma have a row of the object each. -/
theorem half_mul_alignUp_le (width height : Nat) :
    height / 2 * alignUp (width / 2) ≤ alignUp (width / 2) * height / 2 := by
  rw [Nat.le_div_iff_mul_le (by decide), Nat.mul_right_comm, Nat.mul_comm]
  exact Nat.mul_le_mul_left _ (by omega)

theorem lastColumn_eq (width column : Nat) (some : 0 < height / 2) :
    width * height + alignUp (width / 2) * height / 2 +
        (height / 2 - 1) * alignUp (width / 2) + column =
      (height + height / 2 - 1) * (2 * (width / 2)) + lastColumn width height column := by
  have rounded := Nat.add_sub_of_le (half_mul_alignUp_le width height)
  have longer := Nat.add_sub_of_le (le_alignUp (width / 2))
  obtain ⟨lines, last⟩ := Nat.exists_eq_succ_of_ne_zero some.ne'
  unfold lastColumn
  rw [width_split]
  generalize alignUp (width / 2) * height / 2 = blue at *
  generalize alignUp (width / 2) = stride at *
  generalize stride - width / 2 = slack at *
  rw [last] at rounded ⊢
  generalize blue - lines.succ * stride = spare at *
  rw [← rounded, ← longer, show height + lines.succ - 1 = height + lines by omega,
    show lines.succ - 1 = lines by omega, show 2 * lines.succ - 1 = 2 * lines + 1 by omega,
    Nat.succ_eq_add_one]
  ring

/-- If the last chroma sample is in the last row, so are those before it in their rows. -/
theorem chroma_inWindow {spare column last : Nat} (line : Nat) (some : 0 < height / 2)
    (lineBound : line ≤ 2 * (height / 2) - 1)
    (spareBound : spare ≤ alignUp (width / 2) * height / 2 - height / 2 * alignUp (width / 2))
    (columnBound : column ≤ last) (fits : lastColumn width height last < columns) :
    InWindow (2 * (width / 2)) (height + height / 2) columns
      (width * height + spare + line * alignUp (width / 2) + column) := by
  have longer := Nat.add_sub_of_le (le_alignUp (width / 2))
  unfold lastColumn at fits
  generalize alignUp (width / 2) * height / 2 - height / 2 * alignUp (width / 2) = most at *
  generalize alignUp (width / 2) = stride at *
  generalize stride - width / 2 = slack at *
  have slackBound : line * slack ≤ (2 * (height / 2) - 1) * slack :=
    Nat.mul_le_mul_right slack lineBound
  have halfBound : line % 2 * (width / 2) ≤ width / 2 := by
    have parity : line % 2 ≤ 1 := by omega
    simpa using Nat.mul_le_mul_right (width / 2) parity
  refine ⟨height + line / 2,
    width % 2 * height + spare + line * slack + line % 2 * (width / 2) + column,
    by omega, by omega, ?_⟩
  rw [width_split, ← longer]
  calc height * (2 * (width / 2)) + width % 2 * height + spare + line * (width / 2 + slack) + column
      _ = height * (2 * (width / 2)) + width % 2 * height + spare +
            (2 * (line / 2) + line % 2) * (width / 2) + line * slack + column := by
          rw [Nat.div_add_mod, Nat.mul_add, ← Nat.add_assoc]
      _ = (height + line / 2) * (2 * (width / 2)) +
            (width % 2 * height + spare + line * slack + line % 2 * (width / 2) + column) := by
          ring

/-- If the last chroma sample is in the last row, the luma samples are in their rows. -/
theorem luma_inWindow {row column : Nat} (rowBound : row < height) (columnBound : column < x + w)
    (inside : x + w ≤ width) (within : x + w / 2 ≤ width / 2)
    (fits : lastColumn width height (lastChroma width x w) < 2 * (x + w / 2)) :
    InWindow (2 * (width / 2)) (height + height / 2) (2 * (x + w / 2)) (row * width + column) := by
  refine ⟨row, width % 2 * row + column, by omega, ?_, ?_⟩
  · have begins : width % 2 * height + width / 2 + lastChroma width x w < 2 * (x + w / 2) := by
      unfold lastColumn at fits
      omega
    unfold lastChroma at begins
    rcases Nat.mod_two_eq_zero_or_one width with even | odd
    · rw [even] at begins ⊢
      omega
    · rw [odd] at begins ⊢
      omega
  · rw [Nat.mul_comm row width, width_split width row, Nat.add_assoc]

/-- A window that holds the last chroma sample of a rectangle reaches the last row of the
object. -/
theorem reaches_bottom {line column : Nat} (positive : 0 < width / 2) (high : 0 < h)
    (inside : y + h ≤ height) (chroma : y / 2 < height / 2)
    (same : line = min ((y + h - 1) / 2) (height / 2 - 1))
    (mapped : InWindow (2 * (width / 2)) (y + h + h / 2) columns
      (width * height + alignUp (width / 2) * height / 2 + line * alignUp (width / 2) + column))
    (narrow : columns ≤ 2 * (width / 2)) : y + h = height ∧ h / 2 = height / 2 := by
  obtain ⟨rowBound, -⟩ := (inWindow_iff (by omega) narrow).mp mapped
  rw [Nat.div_lt_iff_lt_mul (by omega)] at rowBound
  have luma := width_split width height
  have blue := half_mul_alignUp_le width height
  have rounded : height / 2 * (width / 2) ≤ height / 2 * alignUp (width / 2) :=
    Nat.mul_le_mul_left _ (le_alignUp _)
  have lines : line * (width / 2) ≤ line * alignUp (width / 2) :=
    Nat.mul_le_mul_left _ (le_alignUp _)
  have scaled : (2 * height + height / 2 + line) * (width / 2) <
      (2 * (y + h + h / 2)) * (width / 2) := by
    calc (2 * height + height / 2 + line) * (width / 2)
        _ = height * (2 * (width / 2)) + height / 2 * (width / 2) + line * (width / 2) := by ring
        _ < (y + h + h / 2) * (2 * (width / 2)) := by omega
        _ = (2 * (y + h + h / 2)) * (width / 2) := by ring
  have total := Nat.lt_of_mul_lt_mul_right scaled
  omega

theorem starts_of_small (luma : width * height < 2 ^ 32)
    (chroma : alignUp (width / 2) * height < 2 ^ 32) :
    redStart width height = width * height ∧
      blueStart width height = width * height + alignUp (width / 2) * height / 2 := by
  rw [blueStart, redStart, Nat.mod_eq_of_lt luma, Nat.mod_eq_of_lt chroma]
  exact ⟨rfl, rfl⟩

/-- A rectangle with chroma samples. -/
theorem planesMapped_of_chroma (positive : 0 < width / 2) (wide : 0 < w) (high : 0 < h)
    (across : x + w ≤ width) (down : y + h ≤ height) (within : x + w / 2 ≤ width / 2)
    (luma : width * height < 2 ^ 32) (chroma : alignUp (width / 2) * height < 2 ^ 32)
    (some : y / 2 < height / 2 ∧ x / 2 < width / 2) :
    PlanesMapped width height x y w h (y + h + h / 2) (2 * (x + w / 2)) ↔
      PlanesFit width height x y w h (2 * (x + w / 2)) := by
  obtain ⟨red, blue⟩ := starts_of_small luma chroma
  have lines : 0 < height / 2 := by omega
  rw [PlanesFit, if_pos some, lastColumn_eq width _ lines, Nat.add_lt_add_iff_left]
  constructor
  · intro mapped
    -- the last chroma sample, of a luma sample in the last row and column that have one
    have last := (mapped.chroma (max y (2 * min ((y + h - 1) / 2) (height / 2 - 1)))
      (max x (2 * lastChroma width x w)) (by omega) (by omega) (by omega)
      (by unfold lastChroma; omega) (by omega) (by unfold lastChroma; omega)).2
    rw [show max y (2 * min ((y + h - 1) / 2) (height / 2 - 1)) / 2 =
        min ((y + h - 1) / 2) (height / 2 - 1) by omega,
      show max x (2 * lastChroma width x w) / 2 = lastChroma width x w by
        unfold lastChroma; omega, blue] at last
    obtain ⟨bottom, half⟩ := reaches_bottom positive high down some.1 rfl last (by omega)
    refine ⟨bottom, half, ?_⟩
    rw [show min ((y + h - 1) / 2) (height / 2 - 1) = height / 2 - 1 by omega,
      lastColumn_eq width _ lines,
      show y + h + h / 2 = (height + height / 2 - 1) + 1 by omega] at last
    exact Nat.lt_of_add_lt_add_left last.lt
  · rintro ⟨bottom, half, fits⟩
    rw [bottom, half]
    constructor
    · intro row column _ before _ stop
      exact luma_inWindow (by omega) stop across within fits
    · intro row column _ before _ stop inside withinColumns
      have columnBound : column / 2 ≤ lastChroma width x w := by
        unfold lastChroma
        omega
      constructor
      · have sample := chroma_inWindow (row / 2) lines (by omega) (Nat.zero_le _)
          columnBound fits
        rwa [Nat.add_zero, ← red] at sample
      · have sample := chroma_inWindow (height / 2 + row / 2) lines (by omega)
          (Nat.le_refl _) columnBound fits
        have rounded := half_mul_alignUp_le width height
        rw [blue]
        rwa [Nat.add_mul, show width * height + (alignUp (width / 2) * height / 2 -
          height / 2 * alignUp (width / 2)) + (height / 2 * alignUp (width / 2) +
            row / 2 * alignUp (width / 2)) = width * height + alignUp (width / 2) * height / 2 +
              row / 2 * alignUp (width / 2) by omega] at sample

/-- A rectangle without chroma samples is a piece of the last row of a buffer of odd height. -/
theorem planesMapped_of_no_chroma (positive : 0 < width / 2) (wide : 0 < w) (high : 0 < h)
    (across : x + w ≤ width) (down : y + h ≤ height) (within : x + w / 2 ≤ width / 2)
    (none : ¬ (y / 2 < height / 2 ∧ x / 2 < width / 2)) :
    PlanesMapped width height x y w h (y + h + h / 2) (2 * (x + w / 2)) ↔
      PlanesFit width height x y w h (2 * (x + w / 2)) := by
  obtain ⟨single, odd⟩ : h = 1 ∧ y / 2 = height / 2 := by omega
  have start : y * width + x = y * (2 * (width / 2)) + (width % 2 * y + x) := by
    rw [Nat.mul_comm y width, width_split width y, Nat.add_assoc]
  have run : RunInWindow (2 * (width / 2)) (y + 1) (2 * (x + w / 2)) (y * width + x)
      (y * width + (x + w - 1)) ↔ _ := runInWindow_lastRow_iff start (by omega)
  rw [PlanesFit, if_neg none, ← run, show y + h + h / 2 = y + 1 by omega]
  constructor
  · intro mapped offset after before
    have sample := mapped.luma y (offset - y * width) (by omega) (by omega) (by omega) (by omega)
    rwa [show y * width + (offset - y * width) = offset by omega] at sample
  · intro mapped
    constructor
    · intro line column after before start stop
      obtain rfl : line = y := by omega
      exact mapped _ (by omega) (by omega)
    · intro line column after before _ _ inside _
      omega

/-- The samples of a rectangle are in the window exactly if the last chroma sample is. -/
theorem planesMapped_iff_planesFit (positive : 0 < width / 2) (wide : 0 < w) (high : 0 < h)
    (across : x + w ≤ width) (down : y + h ≤ height) (within : x + w / 2 ≤ width / 2)
    (luma : width * height < 2 ^ 32) (chroma : alignUp (width / 2) * height < 2 ^ 32) :
    PlanesMapped width height x y w h (y + h + h / 2) (2 * (x + w / 2)) ↔
      PlanesFit width height x y w h (2 * (x + w / 2)) := by
  by_cases some : y / 2 < height / 2 ∧ x / 2 < width / 2
  · exact planesMapped_of_chroma positive wide high across down within luma chroma some
  · exact planesMapped_of_no_chroma positive wide high across down within some

end Unwrapped

/-! ## The region of a lock -/

/-- For YV12: the region for a lock at `x` and `y` is no larger than the object, and the samples
of the requested rectangle at `x'` and `y'` are in it. Planes of 2³² bytes start where the 32-bit
computation puts them. -/
def PlanarRegionFits (width height x y x' y' w h : Nat) : Prop :=
  x + w / 2 ≤ width / 2 ∧ (y + h + h / 2) % 2 ^ 32 ≤ height + height / 2 ∧
    (w = 0 ∨ h = 0 ∨
      if width * height < 2 ^ 32 ∧ alignUp (width / 2) * height < 2 ^ 32 then
        PlanesFit width height x' y' w h (2 * (x + w / 2))
      else RunsFit width height x' y' w h ((y + h + h / 2) % 2 ^ 32) (2 * (x + w / 2)))

section Region

variable {width height x y x' y' w h : Nat}

/-- An object without columns holds nothing of a rectangle. -/
theorem not_planesMapped_of_narrow {rows columns : Nat} (narrow : columns = 0) (wide : 0 < w)
    (high : 0 < h) : ¬ PlanesMapped width height x y w h rows columns := by
  intro mapped
  exact not_inWindow_of_empty narrow (mapped.luma y x (by omega) (by omega) (by omega) (by omega))

/-- The samples of a rectangle without pixels are nowhere. -/
theorem planesMapped_of_empty {rows columns : Nat} (empty : w = 0 ∨ h = 0) :
    PlanesMapped width height x y w h rows columns :=
  ⟨fun _ _ _ _ _ _ => by omega, fun _ _ _ _ _ _ _ _ => by omega⟩

/-- Chroma rows of at least 16 bytes: a plane of them that fits into 32 bits is not high. -/
theorem height_lt_of_small (positive : 0 < width / 2)
    (chroma : alignUp (width / 2) * height < 2 ^ 32) : height < 2 ^ 28 := by
  have rounded : 16 ≤ alignUp (width / 2) := by
    unfold alignUp
    omega
  have scaled : 16 * height ≤ alignUp (width / 2) * height := Nat.mul_le_mul_right height rounded
  omega

/-- The region fits exactly if it is no larger than the object and holds the samples. -/
theorem planarRegionFits_iff (across : x' + w ≤ width) (down : y' + h ≤ height)
    (low : y ≤ height) (bounded : height < 2 ^ 31)
    (corner : x' = x ∧ y' = y ∨ w = width ∧ h = height ∧ x' = 0 ∧ y' = 0) :
    PlanarRegionFits width height x y x' y' w h ↔
      x + w / 2 ≤ width / 2 ∧ (y + h + h / 2) % 2 ^ 32 ≤ height + height / 2 ∧
        PlanesMapped width height x' y' w h ((y + h + h / 2) % 2 ^ 32) (2 * (x + w / 2)) := by
  unfold PlanarRegionFits
  refine and_congr_right fun within => and_congr_right fun reaches => ?_
  by_cases empty : w = 0 ∨ h = 0
  · rw [← or_assoc]
    exact iff_of_true (.inl empty) (planesMapped_of_empty empty)
  rw [← or_assoc, or_iff_right empty]
  obtain ⟨wide, high⟩ : 0 < w ∧ 0 < h := by omega
  by_cases positive : 0 < width / 2
  · by_cases small : width * height < 2 ^ 32 ∧ alignUp (width / 2) * height < 2 ^ 32
    · have flat := height_lt_of_small positive small.2
      rw [Nat.mod_eq_of_lt (show y + h + h / 2 < 2 ^ 32 by omega)] at reaches ⊢
      obtain ⟨rfl, rfl⟩ : x' = x ∧ y' = y := by omega
      rw [if_pos small]
      exact (planesMapped_iff_planesFit positive wide high across down within small.1 small.2).symm
    · rw [if_neg small]
      exact (planesMapped_iff_runs positive (by omega) wide high).symm
  · have none : width / 2 = 0 := by omega
    have luma : width * height ≤ 1 * height := Nat.mul_le_mul_right height (by omega)
    have chroma : alignUp (width / 2) * height = 0 := by rw [none, alignUp, Nat.zero_mul]
    rw [if_pos ⟨by omega, by omega⟩, PlanesFit, if_neg (by omega), none,
      show x + w / 2 = 0 by omega]
    refine iff_of_false (by omega) (not_planesMapped_of_narrow rfl wide high)

end Region

end Arpi.Gralloc
