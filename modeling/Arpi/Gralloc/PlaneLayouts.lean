import Arpi.Gralloc.GbmGralloc

/-!
# Plane layouts

`get_plane_layouts` describes the planes of a YUV buffer to the mapper's clients. Its
arithmetic is that of `uint32_t`; the fields of a `PlaneLayout` are 64 bits wide.
-/

namespace Arpi.Gralloc

/-- `PlaneLayoutComponentType`, as far as the mapper uses it. -/
inductive PlaneLayoutComponentType where
  | y
  | cb
  | cr
deriving DecidableEq

/-- A `PlaneLayout` with its only component. -/
structure PlaneLayout where
  component : PlaneLayoutComponentType
  offsetInBits : Nat
  offsetInBytes : Nat
  sampleIncrementInBits : Nat
  strideInBytes : Nat
  widthInSamples : Nat
  heightInSamples : Nat
  totalSizeInBytes : Nat
  horizontalSubsampling : Nat
  verticalSubsampling : Nat
deriving DecidableEq

/-- The layout of a luma plane with this stride. -/
def lumaLayout (contents : PrivateHandle) (stride : U32) : PlaneLayout where
  component := .y
  offsetInBits := 0
  offsetInBytes := 0
  sampleIncrementInBits := 8
  strideInBytes := stride.toNat
  widthInSamples := contents.width.toNat
  heightInSamples := contents.height.toNat
  totalSizeInBytes := (stride * contents.height).toNat
  horizontalSubsampling := 1
  verticalSubsampling := 1

/-- The layout of a chroma plane at this offset, with this increment and stride. -/
def chromaLayout (contents : PrivateHandle) (component : PlaneLayoutComponentType)
    (offset : U32) (increment : Nat) (stride : U32) : PlaneLayout where
  component := component
  offsetInBits := 0
  offsetInBytes := offset.toNat
  sampleIncrementInBits := increment
  strideInBytes := stride.toNat
  widthInSamples := (contents.width / 2).toNat
  heightInSamples := (contents.height / 2).toNat
  totalSizeInBytes := (grallocAlign (contents.width / 2) 16 * contents.height / 2).toNat
  horizontalSubsampling := 2
  verticalSubsampling := 2

/-- The first switch of `get_plane_layouts`. -/
def yLayout (contents : PrivateHandle) : Option PlaneLayout :=
  if contents.format = halPixelFormatYCbCr420888 ∨
      contents.format = halPixelFormatImplementationDefined ∨
      contents.format = halPixelFormatYCrCb420Sp then
    some (lumaLayout contents (grallocAlign contents.width 16))
  else if contents.format = halPixelFormatYv12 then some (lumaLayout contents contents.width)
  else none

/-- The second switch. -/
def crLayout (contents : PrivateHandle) : Option PlaneLayout :=
  let aligned := grallocAlign contents.width 16
  if contents.format = halPixelFormatYCbCr420888 ∨
      contents.format = halPixelFormatImplementationDefined then
    some (chromaLayout contents .cr (aligned * contents.height + 1) 16 aligned)
  else if contents.format = halPixelFormatYCrCb420Sp then
    some (chromaLayout contents .cr (aligned * contents.height) 16 aligned)
  else if contents.format = halPixelFormatYv12 then
    some (chromaLayout contents .cr (contents.width * contents.height) 8
      (grallocAlign (contents.width / 2) 16))
  else none

/-- The third switch. -/
def cbLayout (contents : PrivateHandle) : Option PlaneLayout :=
  let aligned := grallocAlign contents.width 16
  if contents.format = halPixelFormatYCbCr420888 ∨
      contents.format = halPixelFormatImplementationDefined then
    some (chromaLayout contents .cb (aligned * contents.height) 16 aligned)
  else if contents.format = halPixelFormatYCrCb420Sp then
    some (chromaLayout contents .cb (aligned * contents.height + 1) 16 aligned)
  else if contents.format = halPixelFormatYv12 then
    some (chromaLayout contents .cb
      (contents.width * contents.height +
        grallocAlign (contents.width / 2) 16 * contents.height / 2) 8
      (grallocAlign (contents.width / 2) 16))
  else none

/-- `get_plane_layouts`, which answers `BAD_VALUE` for every other format. -/
def getPlaneLayouts (contents : PrivateHandle) : Option (List PlaneLayout) := do
  let y ← yLayout contents
  let cr ← crLayout contents
  let cb ← cbLayout contents
  return [y, cr, cb]

end Arpi.Gralloc
