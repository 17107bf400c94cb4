import Mathlib.Data.BitVec

/-!
# Handles, formats and usage bits

The constants come from the platform headers the sources include
(`system/graphics.h`, `hardware/gralloc1.h`, `gbm.h`); everything else follows
`drm_handle.h` and the tables at the top of `gbm_gralloc.cpp`. An `int` and a
`uint32_t` are the same 32 bits and differ in how they are read.
-/

namespace Arpi.Gralloc

/-- A `uint32_t`, or the bits of an `int`. -/
abbrev U32 := BitVec 32

/-- A `uint64_t`. -/
abbrev U64 := BitVec 64

/-- The address of a native handle; `0` is the null pointer. -/
abbrev BufferHandle := Nat

/-- An address in a mapped buffer; `0` is the null pointer. -/
abbrev Address := Nat

/-- `errno` values the sources return negated. -/
def einval : Int := 22
def enomem : Int := 12

def halPixelFormatRgba8888 : U32 := 1
def halPixelFormatRgbx8888 : U32 := 2
def halPixelFormatRgb565 : U32 := 4
def halPixelFormatBgra8888 : U32 := 5
def halPixelFormatYCbCr422Sp : U32 := 0x10
def halPixelFormatYCrCb420Sp : U32 := 0x11
def halPixelFormatYCbCr422I : U32 := 0x14
def halPixelFormatBlob : U32 := 0x21
def halPixelFormatImplementationDefined : U32 := 0x22
def halPixelFormatYCbCr420888 : U32 := 0x23
def halPixelFormatYv12 : U32 := 0x32315659

def gbmFormatAbgr8888 : U32 := 0x34324241
def gbmFormatXbgr8888 : U32 := 0x34324258
def gbmFormatRgb565 : U32 := 0x36314752
def gbmFormatArgb8888 : U32 := 0x34325241
def gbmFormatGr88 : U32 := 0x38385247
def gbmFormatR8 : U32 := 0x20203852

def gbmBoUseScanout : U32 := 1
def gbmBoUseRendering : U32 := 4
def gbmBoUseLinear : U32 := 0x10
def gbmBoTransferRead : U32 := 1
def gbmBoTransferWrite : U32 := 2

/-- CPU read bits have the same value on the producer and on the consumer side. -/
def gralloc1UsageCpuRead : U64 := 0x2
def gralloc1UsageCpuReadOften : U64 := 0x6
def gralloc1ProducerUsageCpuWrite : U64 := 0x20
def gralloc1ProducerUsageCpuWriteOften : U64 := 0x60
def gralloc1ConsumerUsageGpuTexture : U64 := 0x100
def gralloc1ProducerUsageGpuRenderTarget : U64 := 0x200
def gralloc1ConsumerUsageHwcomposer : U64 := 0x800
def gralloc1ConsumerUsageClientTarget : U64 := 0x1000
def gralloc1ProducerUsageProtected : U64 := 0x4000
def gralloc1ConsumerUsageCursor : U64 := 0x8000
def gralloc1ConsumerUsageVideoEncoder : U64 := 0x10000
def gralloc1ProducerUsageCamera : U64 := 0x20000
def gralloc1ConsumerUsageCamera : U64 := 0x40000
def gralloc1ConsumerUsageRenderscript : U64 := 0x100000
def gralloc1ProducerUsageVideoDecoder : U64 := 0x400000
def gralloc1ProducerUsageSensorDirectData : U64 := 0x800000
def gralloc1ConsumerUsageGpuDataBuffer : U64 := 0x1000000

/-- `private_handle_t` with the `native_handle` header it extends. -/
structure PrivateHandle where
  version : U32
  numFds : U32
  numInts : U32
  fd : Int
  magic : U32
  width : U32
  height : U32
  format : U32
  stride : U32
  fbId : U32
  usage : U64
deriving DecidableEq, Repr

namespace PrivateHandle

/-- `sizeof(native_handle)`: three `int` fields. -/
def nativeHandleSize : U32 := 12

/-- Words of `private_handle_t` behind the header, less the one descriptor. -/
def sNumInts : U32 := 8
def sNumFds : U32 := 1
def sMagic : U32 := 0x3141592

/-- The constructor used for a new buffer. It leaves `stride` unset, so its
value here is whatever the memory held. -/
def new (stride : U32) (width height halFormat : U32) (usage : U64) : PrivateHandle where
  version := nativeHandleSize
  numFds := sNumFds
  numInts := sNumInts
  fd := -1
  magic := sMagic
  width := width
  height := height
  format := halFormat
  stride := stride
  fbId := 0
  usage := usage

end PrivateHandle

/-- The GBM format of an Android format, `0` when there is none. -/
def getGbmFormat (format : U32) : U32 :=
  if format = halPixelFormatRgba8888 then gbmFormatAbgr8888
  else if format = halPixelFormatRgbx8888 then gbmFormatXbgr8888
  else if format = halPixelFormatRgb565 then gbmFormatRgb565
  else if format = halPixelFormatBgra8888 then gbmFormatArgb8888
  -- YV12 is planar, but must be a single buffer so ask for GR88
  else if format = halPixelFormatYv12 ∨ format = halPixelFormatYCbCr420888 ∨
      format = halPixelFormatImplementationDefined then gbmFormatGr88
  else if format = halPixelFormatBlob then gbmFormatR8
  else 0

/-- Bytes per pixel of a format; of a planar format only Y is considered. -/
def grallocGbmGetBpp (format : U32) : U32 :=
  if format = halPixelFormatRgba8888 ∨ format = halPixelFormatRgbx8888 ∨
      format = halPixelFormatBgra8888 then 4
  else if format = halPixelFormatRgb565 ∨ format = halPixelFormatYCbCr422I ∨
      format = halPixelFormatYCbCr420888 ∨ format = halPixelFormatImplementationDefined then 2
  else if format = halPixelFormatYv12 ∨ format = halPixelFormatYCbCr422Sp ∨
      format = halPixelFormatYCrCb420Sp ∨ format = halPixelFormatBlob then 1
  else 0

/-- GBM allocation flags of a gralloc1 usage. -/
def getPipeBind (usage : U64) : U32 :=
  let bind : U32 := 0
  let bind :=
    if usage &&& (gralloc1UsageCpuReadOften ||| gralloc1ProducerUsageCpuWriteOften) ≠ 0
    then bind ||| gbmBoUseLinear else bind
  let bind :=
    if usage &&& (gralloc1ProducerUsageGpuRenderTarget ||| gralloc1ConsumerUsageGpuTexture) ≠ 0
    then bind ||| gbmBoUseRendering else bind
  let bind :=
    if usage &&& gralloc1ConsumerUsageClientTarget ≠ 0 then bind ||| gbmBoUseScanout else bind
  if usage &&& gralloc1ConsumerUsageHwcomposer ≠ 0
  then bind ||| gbmBoUseScanout ||| gbmBoUseRendering else bind

/-- The bits for which a lock maps the buffer. -/
def cpuUsageMask : U64 :=
  gralloc1ProducerUsageCpuWrite ||| gralloc1ProducerUsageCpuWriteOften |||
    gralloc1UsageCpuRead ||| gralloc1UsageCpuReadOften

/-- The usage check of `gbm_lock`: every requested bit was allocated, or the
buffer is one of those that are "made special for testing software renderer". -/
def usageAllowed (handleUsage usage : U64) : Bool :=
  if handleUsage &&& usage ≠ usage then
    !(handleUsage &&& gralloc1UsageCpuReadOften == 0 &&
      handleUsage &&& gralloc1ConsumerUsageClientTarget == 0 &&
      handleUsage &&& gralloc1ConsumerUsageGpuTexture == 0)
  else true

end Arpi.Gralloc
