import Arpi.Gralloc.Allocator

/-!
# The mapper service

`Mapper.cpp` imports buffers into a client process and locks them. It passes the
client's CPU usage to `gbm_lock` as it is, cut to an `int32_t` on the way.
-/

namespace Arpi.Gralloc.Mapper

/-- The mapper's error codes. -/
inductive Error where
  | none
  | badBuffer
  | badValue
  | noResources
  | unsupported
deriving DecidableEq

/-- Calls on the native handles that the mapper clones. -/
inductive HandleCall where
  | clone (handle : BufferHandle)
  | close (handle : BufferHandle)
  | delete (handle : BufferHandle)
deriving DecidableEq

/-- The registry of the client process and the handle calls made in it, newest first. -/
structure MapperState where
  gralloc : GrallocState
  handleCalls : List HandleCall

/-- `native_handle_clone`: a copy at a new address whose descriptor is a duplicate. -/
def nativeHandleClone (duplicate : BufferHandle × Int) (raw : PrivateHandle)
    (state : MapperState) : MapperState where
  gralloc := { state.gralloc with
    memory := Function.update state.gralloc.memory duplicate.1
      { raw with version := PrivateHandle.nativeHandleSize, fd := duplicate.2 } }
  handleCalls := .clone duplicate.1 :: state.handleCalls

/-- `Mapper::importBuffer`. `duplicate` is the outcome of the clone. -/
def importBuffer (duplicate : Option (BufferHandle × Int)) (accepted : Bool)
    (rawHandle : Option PrivateHandle) (state : MapperState) :
    (Error × BufferHandle) × MapperState :=
  match rawHandle with
  | none => ((.badBuffer, 0), state)
  | some raw =>
      let cloned := match duplicate with
        | none => (Error.noResources, 0, state)
        | some copy => (Error.none, copy.1, nativeHandleClone copy raw state)
      let bufferHandle := cloned.2.1
      match gbmRegister accepted bufferHandle cloned.2.2.gralloc with
      | (result, gralloc) =>
          if result ≠ 0 then
            ((.noResources, 0),
              ⟨gralloc, .delete bufferHandle :: .close bufferHandle :: cloned.2.2.handleCalls⟩)
          else ((cloned.1, bufferHandle), ⟨gralloc, cloned.2.2.handleCalls⟩)

/-- `Mapper::freeBuffer`. -/
def freeBuffer (buffer : BufferHandle) (state : MapperState) : Error × MapperState :=
  if buffer = 0 then (.badBuffer, state)
  else
    match gbmUnregister buffer state.gralloc with
    | (result, gralloc) =>
        if result ≠ 0 then (.unsupported, { state with gralloc := gralloc })
        else (.none, ⟨gralloc, .delete buffer :: .close buffer :: state.handleCalls⟩)

/-- The native handle of a fence. -/
structure FenceHandle where
  numFds : Int
  data : Int
deriving DecidableEq

/-- `getFenceFd`; `dup` answers the duplication of a descriptor. -/
def getFenceFd (dup : Int → Int) (fenceHandle : Option FenceHandle) : Except Error Int :=
  match fenceHandle with
  | none => .ok (-1)
  | some handle =>
      if handle.numFds > 1 then .error .badValue
      else
        let fenceFd := if handle.numFds = 1 then handle.data else -1
        if fenceFd ≥ 0 then
          if dup fenceFd < 0 then .error .noResources else .ok (dup fenceFd)
        else .ok fenceFd

/-- The access region of a lock. -/
structure Rect where
  left : Int
  top : Int
  width : Int
  height : Int
deriving DecidableEq

/-- The usage that `Mapper::lock` hands on. -/
def lockUsage (cpuUsage : U64) : U64 :=
  let pUsage := cpuUsage
  let cUsage := cpuUsage &&& ~~~BufferUsage.cpuWriteMask
  ((pUsage ||| cUsage).setWidth 32).signExtend 64

/-- `Mapper::lock`. -/
def lock (dup : Int → Int) (mapped : Option Mapping) (buffer : BufferHandle) (cpuUsage : U64)
    (accessRegion : Rect) (acquireFence : Option FenceHandle) (state : GrallocState) :
    (Error × Address) × GrallocState :=
  if buffer = 0 then ((.badBuffer, 0), state)
  else
    match getFenceFd dup acquireFence with
    | .error error => ((error, 0), state)
    | .ok _ =>
        match gbmLock mapped buffer (lockUsage cpuUsage) accessRegion.left accessRegion.top
            accessRegion.width accessRegion.height state with
        | (result, data, state) =>
            if result ≠ 0 then ((.unsupported, 0), state) else ((.none, data), state)

/-- A lock goes to `gbm_lock` once it has a buffer and a fence. -/
theorem lock_enters (dup : Int → Int) (mapped : Option Mapping) (buffer : BufferHandle)
    (cpuUsage : U64) (accessRegion : Rect) (acquireFence : Option FenceHandle)
    (state : GrallocState) :
    (lock dup mapped buffer cpuUsage accessRegion acquireFence state).2 =
      if buffer ≠ 0 ∧ (getFenceFd dup acquireFence).isOk = true then
        (gbmLock mapped buffer (lockUsage cpuUsage) accessRegion.left accessRegion.top
          accessRegion.width accessRegion.height state).2.2
      else state := by
  unfold lock
  by_cases null : buffer = 0
  · simp [null]
  · cases getFenceFd dup acquireFence with
    | error error => simp [null, Except.isOk, Except.toBool]
    | ok fenceFd =>
        simp only [null, if_false, Except.isOk, Except.toBool, ne_eq, not_false_eq_true, and_self,
          if_true]
        split <;> rfl

/-- `getFenceHandle`. -/
def getFenceHandle (fenceFd : Int) : Option FenceHandle :=
  if fenceFd ≥ 0 then some ⟨1, fenceFd⟩ else none

/-- `(Fence::NO_FENCE)->dup()`: there is no descriptor to duplicate. -/
def noFenceDup : Int := -1

/-- The common body of `unlock` and `flushLockedBuffer`. It answers nothing when
`gbm_unlock` reads through a null pointer. -/
def giveBack (buffer : BufferHandle) (state : GrallocState) :
    Option (Error × Option FenceHandle) × GrallocState :=
  if buffer = 0 then (some (.badBuffer, none), state)
  else
    match gbmUnlock buffer state with
    | (.fault, state) => (none, state)
    | (.code result, state) =>
        if result ≠ 0 then (some (.unsupported, none), state)
        else (some (.none, getFenceHandle noFenceDup), state)

/-- `Mapper::unlock`. -/
def unlock (buffer : BufferHandle) (state : GrallocState) :
    Option (Error × Option FenceHandle) × GrallocState := giveBack buffer state

/-- `Mapper::flushLockedBuffer`, which unlocks. -/
def flushLockedBuffer (buffer : BufferHandle) (state : GrallocState) :
    Option (Error × Option FenceHandle) × GrallocState := giveBack buffer state

/-- `Mapper::rereadLockedBuffer`. -/
def rereadLockedBuffer (buffer : BufferHandle) : Error :=
  if buffer = 0 then .badBuffer else .none

end Arpi.Gralloc.Mapper
