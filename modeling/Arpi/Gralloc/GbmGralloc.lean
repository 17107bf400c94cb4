import Arpi.Gralloc.PrivateHandle
import Arpi.Semantics.Containers

/-!
# The shared buffer registry

`gbm_gralloc.cpp` keeps one map from handles to buffer objects and hangs a lock
record on every object. The GBM driver is not part of the repository: what a
driver call returns is an argument of the function that makes the call, and the
driver's own state is the store of live buffer objects. `calls` lists the
mapping calls in the order in which they were made, newest first.
-/

namespace Arpi.Gralloc

open Arpi.Semantics

/-- The identity of a buffer object; a `gbm_bo *` is an `Option BoId`. -/
abbrev BoId := Nat

/-- What a successful `gbm_bo_map` returns: the address of the first byte of the
storage and the token for the later unmap, neither of them null. -/
structure Mapping where
  address : Address
  mapData : Nat
  addressNonnull : address ≠ 0
deriving DecidableEq

/-- `bo_data_t`, the lock record. The count, an `int`, is the number that it stands for below
2³¹ outstanding locks of a buffer. -/
structure BoData where
  mapData : Option Nat
  lockCount : Int
  lockedFor : U32
deriving DecidableEq

/-- `new struct bo_data_t()` zeroes the record. -/
def BoData.new : BoData := ⟨none, 0, 0⟩

/-- A live buffer object: the size, the format and the flags it was requested with, and
its stride. -/
structure Bo where
  width : U32
  height : U32
  format : U32
  flags : U32
  stride : U32
  userData : Option BoData
  mappings : List Mapping
deriving DecidableEq

/-- Bytes of storage behind a buffer object. -/
def Bo.storage (bo : Bo) : Nat := bo.stride.toNat * bo.height.toNat

/-- Width, height and stride, fixed when the object is created. -/
def Bo.geometry (bo : Bo) : U32 × U32 × U32 := (bo.width, bo.height, bo.stride)

/-- What `gbm_bo_create` yields: a descriptor and the stride the driver chose. -/
structure CreatedBo where
  fd : Int
  stride : U32
deriving DecidableEq

/-- The mapping calls made to the driver. -/
inductive GbmCall where
  | map (bo : BoId) (width height flags : U32)
  | unmap (bo : BoId) (mapData : Option Nat)
deriving DecidableEq

/-- The process state behind `gbm_gralloc.cpp`. -/
structure GrallocState where
  memory : BufferHandle → PrivateHandle
  gbmBoHandleMap : UnorderedMap BufferHandle (Option BoId)
  bos : Store Bo
  calls : List GbmCall

/-- What a call returns: a code, or nothing because it read through a null pointer. -/
inductive Returned where
  | code (value : Int)
  | fault
deriving DecidableEq

/-- A process in which nothing was allocated or registered yet. -/
def GrallocState.fresh (memory : BufferHandle → PrivateHandle) : GrallocState :=
  ⟨memory, UnorderedMap.empty, Store.empty, []⟩

/-- `gralloc_gbm_bo_from_handle`: the subscript inserts a null entry under a new key. -/
def grallocGbmBoFromHandle (handle : BufferHandle) (state : GrallocState) :
    Option BoId × GrallocState :=
  let found := state.gbmBoHandleMap.subscript none handle
  (found.1, { state with gbmBoHandleMap := found.2 })

/-- `gbm_bo_data`: the lock record, if one was ever attached. -/
def gbmBoData (state : GrallocState) (bo : BoId) : Option BoData :=
  (state.bos.cells bo).bind Bo.userData

/-- `gbm_bo_set_user_data`, and every write through the record. -/
def setBoData (state : GrallocState) (bo : BoId) (data : BoData) : GrallocState :=
  { state with bos := state.bos.modify bo fun object => { object with userData := some data } }

/-- The static `gbm_import`: the driver's answer is `accepted`. -/
def gbmImport (accepted : Bool) (handle : BufferHandle) (state : GrallocState) :
    Option BoId × GrallocState :=
  let contents := state.memory handle
  if contents.fd < 0 then (none, state)
  else
    let width := if contents.format = halPixelFormatYv12 then contents.width / 2
      else contents.width
    let height := if contents.format = halPixelFormatYv12
      then contents.height + contents.height / 2 else contents.height
    if accepted then
      (some state.bos.next,
        { state with
          bos := state.bos.create
            ⟨width, height, getGbmFormat contents.format, 0, contents.stride, none, []⟩ })
    else (none, state)

/-- The width and height of the object that the static `gbm_alloc` asks for: for
YV12 it requests GR88, so the width is halved and the height grows by one half. -/
def boWidth (contents : PrivateHandle) : U32 :=
  if contents.format = halPixelFormatYv12 then contents.width.sdiv 2 else contents.width

def boHeight (contents : PrivateHandle) : U32 :=
  if contents.format = halPixelFormatYv12 then contents.height + contents.height / 2
  else contents.height

/-- The static `gbm_alloc`: create the object, then store descriptor and stride
in the handle. -/
def gbmAllocBo (created : Option CreatedBo) (handle : BufferHandle) (state : GrallocState) :
    Option BoId × GrallocState :=
  let contents := state.memory handle
  match created with
  | none => (none, state)
  | some bo =>
      (some state.bos.next,
        { state with
          bos := state.bos.create
            ⟨boWidth contents, boHeight contents, getGbmFormat contents.format,
              getPipeBind contents.usage, bo.stride, none, []⟩
          memory := Function.update state.memory handle
            { contents with fd := bo.fd, stride := bo.stride } })

/-- `gralloc_gbm_bo_create` with the address `new` returned. On success it yields
the handle and the stride in pixels. -/
def grallocGbmBoCreate (address : BufferHandle) (created : Option CreatedBo)
    (width height format : U32) (usage : U64) (state : GrallocState) :
    Option (BufferHandle × U32) × GrallocState :=
  let state := { state with
    memory := Function.update state.memory address
      (PrivateHandle.new (state.memory address).stride width height format usage) }
  match gbmAllocBo created address state with
  | (none, state) => (none, state)
  | (some bo, state) =>
      (some (address, (state.memory address).stride / grallocGbmGetBpp format),
        { state with gbmBoHandleMap := state.gbmBoHandleMap.emplace address (some bo) })

/-- The exported `gbm_alloc`. `errno` is what a failed `gbm_bo_create` left behind. -/
def gbmAlloc (address : BufferHandle) (created : Option CreatedBo) (errno : Int)
    (width height format : U32) (usage : U64) (state : GrallocState) :
    Int × Option (BufferHandle × U32) × GrallocState :=
  if grallocGbmGetBpp format = 0 then (-einval, none, state)
  else
    match grallocGbmBoCreate address created width height format usage state with
    | (none, state) => (-errno, none, state)
    | (some allocated, state) => (0, some allocated, state)

/-- `gbm_free`. -/
def gbmFree (handle : BufferHandle) (state : GrallocState) : GrallocState :=
  match grallocGbmBoFromHandle handle state with
  | (none, state) => state
  | (some bo, state) =>
      { state with
        gbmBoHandleMap := state.gbmBoHandleMap.erase handle
        bos := state.bos.destroy bo }

/-- `gbm_register`. -/
def gbmRegister (accepted : Bool) (handle : BufferHandle) (state : GrallocState) : Int × GrallocState :=
  if handle = 0 then (-einval, state)
  else if state.gbmBoHandleMap.count handle then (-einval, state)
  else
    match gbmImport accepted handle state with
    | (none, state) => (-einval, state)
    | (some bo, state) =>
        (0, { state with gbmBoHandleMap := state.gbmBoHandleMap.emplace handle (some bo) })

/-- `gbm_unregister`. -/
def gbmUnregister (handle : BufferHandle) (state : GrallocState) : Int × GrallocState :=
  (0, gbmFree handle state)

/-- The region `gbm_map` asks the driver for: only the extent is scaled for YV12. -/
def mapExtent (format : U32) (x y w h : Int) : U32 × U32 :=
  if format = halPixelFormatYv12 then
    (BitVec.ofInt 32 (x + w.tdiv 2), BitVec.ofInt 32 (y + (h + h.tdiv 2)))
  else (BitVec.ofInt 32 (x + w), BitVec.ofInt 32 (y + h))

/-- `gbm_map` on the object `bo` of a registered handle whose lock record is
`data`. `mapped` is the driver's answer; the address is null unless it maps. -/
def gbmMap (mapped : Option Mapping) (handle : BufferHandle) (bo : BoId) (data : BoData)
    (x y w h : Int) (enableWrite : Bool) (state : GrallocState) : Int × Address × GrallocState :=
  if data.mapData.isSome then (-einval, 0, state)
  else
    let extent := mapExtent (state.memory handle).format x y w h
    let flags := if enableWrite then gbmBoTransferRead ||| gbmBoTransferWrite
      else gbmBoTransferRead
    let state := { state with calls := .map bo extent.1 extent.2 flags :: state.calls }
    match mapped with
    | none => (-enomem, 0, state)
    | some mapping =>
        (0, mapping.address,
          { state with
            bos := state.bos.modify bo fun object =>
              { object with
                userData := some { data with mapData := some mapping.mapData }
                mappings := mapping :: object.mappings } })

/-- `gbm_unmap` on an object whose lock record is `data`. -/
def gbmUnmap (bo : BoId) (data : BoData) (state : GrallocState) : GrallocState :=
  { state with
    calls := .unmap bo data.mapData :: state.calls
    bos := state.bos.modify bo fun object =>
      { object with
        userData := some { data with mapData := none }
        mappings := object.mappings.eraseP fun mapping => data.mapData = some mapping.mapData } }

/-- The `int` in `locked_for` widened for a comparison with a 64-bit usage. -/
def BoData.lockedUsage (data : BoData) : U64 := data.lockedFor.signExtend 64

/-- The record `gbm_lock` works on: the attached one, or a new one. -/
def lockRecord (state : GrallocState) (bo : BoId) : BoData :=
  (gbmBoData state bo).getD BoData.new

/-- Multiple locks are allowed with compatible usages only. -/
def BoData.Clashes (data : BoData) (usage : U64) : Prop :=
  data.lockCount ≠ 0 ∧ data.lockedUsage &&& usage ≠ usage

instance (data : BoData) (usage : U64) : Decidable (data.Clashes usage) :=
  inferInstanceAs (Decidable (_ ∧ _))

/-- Whether a lock needs the CPU to see the buffer. -/
def WantsMapping (usage : U64) : Prop := usage &&& cpuUsageMask ≠ 0

instance (usage : U64) : Decidable (WantsMapping usage) := inferInstanceAs (Decidable (_ ≠ _))

/-- The two statements that end a successful `gbm_lock`. -/
def countLock (bo : BoId) (usage : U64) (state : GrallocState) : GrallocState :=
  { state with
    bos := state.bos.modify bo fun object =>
      { object with
        userData := object.userData.map fun data =>
          { data with
            lockCount := data.lockCount + 1
            lockedFor := (data.lockedUsage ||| usage).setWidth 32 } } }

/-- The second half of `gbm_lock`, once the object carries the lock record `data`. -/
def lockRecorded (mapped : Option Mapping) (handle : BufferHandle) (bo : BoId) (data : BoData)
    (usage : U64) (x y w h : Int) (state : GrallocState) : Int × Address × GrallocState :=
  let contents := state.memory handle
  if data.Clashes usage then (-einval, 0, state)
  else
    let usage := usage ||| data.lockedUsage
    -- some users lock with a null crop rectangle: the full buffer
    let extent := if w = 0 ∧ h = 0 then (contents.width.toInt, contents.height.toInt) else (w, h)
    if WantsMapping usage then
      let write := usage &&&
        (gralloc1ProducerUsageCpuWrite ||| gralloc1ProducerUsageCpuWriteOften) ≠ 0
      let answer := gbmMap mapped handle bo data x y extent.1 extent.2 write state
      if answer.1 ≠ 0 then answer
      else (0, answer.2.1, countLock bo usage answer.2.2)
    else (0, 0, countLock bo usage state)

/-- `gbm_lock`. The address is the value the call leaves in `*addr`, which the
callers initialise to null. -/
def gbmLock (mapped : Option Mapping) (handle : BufferHandle) (usage : U64)
    (x y w h : Int) (state : GrallocState) : Int × Address × GrallocState :=
  let contents := state.memory handle
  match grallocGbmBoFromHandle handle state with
  | (none, state) => (-einval, 0, state)
  | (some bo, state) =>
      if usageAllowed contents.usage usage then
        let data := lockRecord state bo
        lockRecorded mapped handle bo data usage x y w h (setBoData state bo data)
      else (-einval, 0, state)

/-- The bits of `locked_for` that make `gbm_unlock` unmap. -/
def BoData.Mapped (data : BoData) : Prop :=
  (data.lockedUsage &&& cpuUsageMask).setWidth 32 ≠ (0 : U32)

instance (data : BoData) : Decidable data.Mapped := inferInstanceAs (Decidable (_ ≠ _))

/-- The end of `gbm_unlock`: one lock less, and the usage forgotten with the last one. -/
def BoData.dropLock (data : BoData) : BoData :=
  let data := { data with lockCount := data.lockCount - 1 }
  if data.lockCount = 0 then { data with lockedFor := 0 } else data

/-- `gbm_unlock`. It reads the lock record without asking whether there is one. -/
def gbmUnlock (handle : BufferHandle) (state : GrallocState) : Returned × GrallocState :=
  match grallocGbmBoFromHandle handle state with
  | (none, state) => (.code (-einval), state)
  | (some bo, state) =>
      match gbmBoData state bo with
      | none => (.fault, state)
      | some data =>
          if data.lockCount = 0 then (.code 0, state)
          else if data.Mapped then
            let state := gbmUnmap bo data state
            (.code 0, setBoData state bo { data with mapData := none }.dropLock)
          else (.code 0, setBoData state bo data.dropLock)

/-- `GRALLOC_ALIGN`, the next multiple of a power of two. -/
def grallocAlign (value base : U32) : U32 := (value + (base - 1)) &&& ~~~(base - 1)

/-- `android_ycbcr`; the three strides are `size_t`. -/
structure AndroidYcbcr where
  y : Address
  cb : Address
  cr : Address
  ystride : U64
  cstride : U64
  chromaStep : U64
deriving DecidableEq

/-- The switch of `gbm_lock_ycbcr` for a buffer mapped at `address`. -/
def ycbcrLayout (contents : PrivateHandle) (address : Address) : Option AndroidYcbcr :=
  let width := contents.width
  let height := contents.height
  if contents.format = halPixelFormatYCbCr420888 ∨
      contents.format = halPixelFormatImplementationDefined then
    let ystride := grallocAlign width 16
    let cb := address + (ystride * height).toNat
    some ⟨address, cb, cb + 1, ystride.signExtend 64, ystride.signExtend 64, 2⟩
  else if contents.format = halPixelFormatYCrCb420Sp then
    let ystride := grallocAlign width 16
    some ⟨address, address + (ystride * height).toNat + 1, address + (ystride * height).toNat,
      ystride.signExtend 64, ystride.signExtend 64, 2⟩
  else if contents.format = halPixelFormatYv12 then
    let ystride := width
    let cstride := grallocAlign (ystride.sdiv 2) 16
    some ⟨address, address + (ystride * height).toNat + (cstride * height / 2).toNat,
      address + (ystride * height).toNat, ystride.signExtend 64, cstride.signExtend 64, 1⟩
  else none

/-- `gbm_lock_ycbcr`. An unsupported format is noticed only once the lock is held. -/
def gbmLockYcbcr (mapped : Option Mapping) (handle : BufferHandle) (usage : U64)
    (x y w h : Int) (state : GrallocState) : Int × Option AndroidYcbcr × GrallocState :=
  let contents := state.memory handle
  match gbmLock mapped handle usage x y w h state with
  | (code, address, state) =>
      if code ≠ 0 then (code, none, state)
      else
        match ycbcrLayout contents address with
        | some ycbcr => (0, some ycbcr, state)
        | none => (-einval, none, state)

end Arpi.Gralloc
