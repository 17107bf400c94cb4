import Arpi.Semantics.Plane

/-!
# Pictures in a storage

A pixel format says how many cells a pixel takes and which colour they are. A raster is a plane
of such pixels. Two rasters agree if they are the same picture whatever is stored;
`agree_iff` says which rasters with a common start do.
-/

namespace Arpi.Semantics

universe u v

/-- The cells that a pixel takes, and the colour that they are. -/
structure PixelFormat (Cell : Type u) (Colour : Type v) where
  size : Nat
  decode : (Nat → Cell) → Colour

namespace PixelFormat

variable {Cell : Type u} {Colour : Type v}

/-- Some cells are one colour in the first format and another in the second. -/
def Differs (first second : PixelFormat Cell Colour) : Prop :=
  ∃ cells, first.decode cells ≠ second.decode cells

/-- The colour shows whether the first cell is marked. -/
def ShowsMark (format : PixelFormat Cell Colour) (mark blank : Cell) : Prop :=
  ∀ marked plain : Nat → Cell, marked 0 = mark → plain 0 = blank →
    format.decode marked ≠ format.decode plain

end PixelFormat

/-- A plane of pixels. -/
structure Raster (Cell : Type u) (Colour : Type v) where
  format : PixelFormat Cell Colour
  start : Int
  pitch : Int

namespace Raster

variable {Cell : Type u} {Colour : Type v}

/-- Where the pixels are. -/
def plane (raster : Raster Cell Colour) : Plane :=
  ⟨raster.start, raster.pitch, raster.format.size⟩

/-- The colour of a pixel. -/
def pixel (raster : Raster Cell Colour) (storage : Int → Cell) (row column : Nat) : Colour :=
  raster.format.decode fun cell => storage (raster.plane.sample row column + cell)

/-- Whatever is stored, both are the same picture of this size. -/
def Agree (first second : Raster Cell Colour) (rows columns : Nat) : Prop :=
  ∀ storage row column, row < rows → column < columns →
    first.pixel storage row column = second.pixel storage row column

variable {first second : Raster Cell Colour} {rows columns : Nat}

theorem agree_of_empty (empty : rows = 0 ∨ columns = 0) : first.Agree second rows columns := by
  intro storage row column rowBound columnBound
  omega

/-- The first pixel begins at the start. -/
theorem pixel_zero (raster : Raster Cell Colour) (storage : Int → Cell) :
    raster.pixel storage 0 0 = raster.format.decode fun cell => storage (raster.start + cell) := by
  simp [pixel, plane, Plane.sample]

/-- The second row begins a pitch later. -/
theorem pixel_second (raster : Raster Cell Colour) (storage : Int → Cell) :
    raster.pixel storage 1 0 =
      raster.format.decode fun cell => storage (raster.start + raster.pitch + cell) := by
  simp [pixel, plane, Plane.sample]

/-- Formats that differ give different pictures, if they have a pixel at all. -/
theorem not_agree_of_differs (start : first.start = second.start)
    (differs : first.format.Differs second.format) (row : 0 < rows) (column : 0 < columns) :
    ¬ first.Agree second rows columns := by
  intro agree
  obtain ⟨cells, different⟩ := differs
  have same := agree (fun address => cells (address - second.start).toNat) 0 0 row column
  rw [pixel_zero, pixel_zero, start] at same
  apply different
  simpa using same

/-- Pitches that differ give different second rows. -/
theorem not_agree_of_pitch (format : first.format = second.format)
    (start : first.start = second.start) (pitch : first.pitch ≠ second.pitch) {mark blank : Cell}
    (marks : second.format.ShowsMark mark blank) (row : 1 < rows) (column : 0 < columns) :
    ¬ first.Agree second rows columns := by
  intro agree
  have same := agree (fun address => if address = second.start + first.pitch then mark else blank)
    1 0 row column
  rw [pixel_second, pixel_second, format, start] at same
  refine marks _ _ ?_ ?_ same
  · simp
  · simpa using fun same => absurd same.symm pitch

/-- Rasters of one format and start agree where they have the same pitch, or a single row. -/
theorem agree_of_pitch (format : first.format = second.format)
    (start : first.start = second.start) (pitch : rows ≤ 1 ∨ first.pitch = second.pitch) :
    first.Agree second rows columns := by
  intro storage row column rowBound columnBound
  have sample : first.plane.sample row column = second.plane.sample row column := by
    rcases pitch with single | pitch
    · obtain rfl : row = 0 := by omega
      simp [plane, Plane.sample, format, start]
    · simp [plane, Plane.sample, format, start, pitch]
  rw [pixel, pixel, sample, format]

/-- Which rasters with a common start are the same picture: those without a pixel, and those of
one format with the same pitch or a single row. -/
theorem agree_iff (start : first.start = second.start)
    (formats : first.format = second.format ∨ first.format.Differs second.format)
    {mark blank : Cell} (marks : second.format.ShowsMark mark blank) :
    first.Agree second rows columns ↔
      rows = 0 ∨ columns = 0 ∨
        first.format = second.format ∧ (rows = 1 ∨ first.pitch = second.pitch) := by
  constructor
  · intro agree
    by_contra other
    have row : 0 < rows := by omega
    have column : 0 < columns := by omega
    rcases formats with format | differs
    · have pitch : first.pitch ≠ second.pitch :=
        fun same => other (.inr (.inr ⟨format, .inr same⟩))
      have second : 1 < rows := by
        by_contra single
        exact other (.inr (.inr ⟨format, .inl (by omega)⟩))
      exact not_agree_of_pitch format start pitch marks second column agree
    · exact not_agree_of_differs start differs row column agree
  · rintro (noRow | noColumn | ⟨format, single | pitch⟩)
    · exact agree_of_empty (.inl noRow)
    · exact agree_of_empty (.inr noColumn)
    · exact agree_of_pitch format start (.inl single.le)
    · exact agree_of_pitch format start (.inr pitch)

end Raster

end Arpi.Semantics
