import Arpi.Gralloc.Effects

/-!
# The legacy gralloc module

`gbm_module.cpp` opens the GBM device on first use. `gralloc_rpi.cpp` converts the
usage its own way, registers the handle it is asked to lock and remembers it in one
global, `rhandle`.
-/

namespace Arpi.Gralloc

/-- `GRALLOC_USAGE_SW_READ_OFTEN` and `GRALLOC_USAGE_SW_WRITE_OFTEN`. -/
def grallocUsageSwReadOften : U32 := 0x3
def grallocUsageSwWriteOften : U32 := 0x30

def producerMask : U64 :=
  gralloc1UsageCpuRead ||| gralloc1ProducerUsageCpuWrite |||
    gralloc1ProducerUsageGpuRenderTarget ||| gralloc1ProducerUsageProtected |||
    gralloc1ProducerUsageCamera ||| gralloc1ProducerUsageVideoDecoder |||
    gralloc1ProducerUsageSensorDirectData

def consumerMask : U64 :=
  gralloc1UsageCpuRead ||| gralloc1ConsumerUsageGpuTexture |||
    gralloc1ConsumerUsageHwcomposer ||| gralloc1ConsumerUsageClientTarget |||
    gralloc1ConsumerUsageCursor ||| gralloc1ConsumerUsageVideoEncoder |||
    gralloc1ConsumerUsageCamera ||| gralloc1ConsumerUsageRenderscript |||
    gralloc1ConsumerUsageGpuDataBuffer

/-- `android_convertGralloc0To1Usage`: the producer and the consumer usage. -/
def androidConvertGralloc0To1Usage (usage : U32) : U64 × U64 :=
  let wide : U64 := usage.signExtend 64
  let producerUsage := wide &&& producerMask
  let consumerUsage := wide &&& consumerMask
  let readsOften := usage &&& grallocUsageSwReadOften = grallocUsageSwReadOften
  let producerUsage :=
    if readsOften then producerUsage ||| gralloc1UsageCpuReadOften else producerUsage
  let consumerUsage :=
    if readsOften then consumerUsage ||| gralloc1UsageCpuReadOften else consumerUsage
  let producerUsage :=
    if usage &&& grallocUsageSwWriteOften = grallocUsageSwWriteOften then
      producerUsage ||| gralloc1ProducerUsageCpuWriteOften
    else producerUsage
  (producerUsage, consumerUsage)

/-- The usage that `lock_ycbcr` hands on. -/
def legacyLockUsage (usage : U32) : U64 :=
  (androidConvertGralloc0To1Usage usage).1 ||| (androidConvertGralloc0To1Usage usage).2

/-- The module: its registry, whether the GBM device is open, and the global `rhandle`. -/
structure ModuleState where
  gralloc : GrallocState
  gbm : Bool
  rhandle : BufferHandle

/-- The module as it is loaded. -/
def ModuleState.loaded (memory : BufferHandle → PrivateHandle) : ModuleState :=
  ⟨.fresh memory, false, 0⟩

/-- `gbm_mod_init`; `device` says whether `gbm_init` would succeed. -/
def gbmModInit (device : Bool) (state : ModuleState) : Int × ModuleState :=
  if state.gbm then (0, state)
  else (if device then 0 else -einval, { state with gbm := device })

/-- `gbm_mod_register`. -/
def gbmModRegister (device accepted : Bool) (handle : BufferHandle) (state : ModuleState) :
    Int × ModuleState :=
  match gbmModInit device state with
  | (ret, state) =>
      if ret = 0 then
        let registered := gbmRegister accepted handle state.gralloc
        (registered.1, { state with gralloc := registered.2 })
      else (ret, state)

/-- `gbm_mod_unregister`. -/
def gbmModUnregister (handle : BufferHandle) (state : ModuleState) : Int × ModuleState :=
  let unregistered := gbmUnregister handle state.gralloc
  (unregistered.1, { state with gralloc := unregistered.2 })

/-- `gbm_mod_lock_ycbcr`. -/
def gbmModLockYcbcr (mapped : Option Mapping) (handle : BufferHandle) (usage : U64)
    (x y w h : Int) (state : ModuleState) : Int × Option AndroidYcbcr × ModuleState :=
  let locked := gbmLockYcbcr mapped handle usage x y w h state.gralloc
  (locked.1, locked.2.1, { state with gralloc := locked.2.2 })

/-- `gbm_mod_unlock`. -/
def gbmModUnlock (handle : BufferHandle) (state : ModuleState) : Returned × ModuleState :=
  let unlocked := gbmUnlock handle state.gralloc
  (unlocked.1, { state with gralloc := unlocked.2 })

/-- `lock_ycbcr`: a handle that is new to the registry is registered and remembered. -/
def lockYcbcr (device accepted : Bool) (mapped : Option Mapping) (handle : BufferHandle)
    (usage : U32) (x y w h : Int) (state : ModuleState) :
    Int × Option AndroidYcbcr × ModuleState :=
  match gbmModRegister device accepted handle state with
  | (ret, state) =>
      let state := if ret = 0 then { state with rhandle := handle } else state
      gbmModLockYcbcr mapped handle (legacyLockUsage usage) x y w h state

/-- `unlock`: a handle that is still remembered is unregistered with its first unlock. -/
def unlock (handle : BufferHandle) (state : ModuleState) : Returned × ModuleState :=
  if state.gbm = false then (.code (-einval), state)
  else
    match gbmModUnlock handle state with
    | (.fault, state) => (.fault, state)
    | (.code ret, state) =>
        if ret ≠ 0 then (.code ret, state)
        else if state.rhandle = handle then
          (.code 0, { (gbmModUnregister handle state).2 with rhandle := 0 })
        else (.code 0, state)

/-! ## What the module's calls do -/

section Effects

variable {state : ModuleState} {handle : BufferHandle} {device accepted : Bool}

/-- A lock of the handle registers it first. -/
def Registers (state : ModuleState) (device accepted : Bool) (handle : BufferHandle) : Prop :=
  (state.gbm = true ∨ device = true) ∧ handle ≠ 0 ∧
    state.gralloc.gbmBoHandleMap.find handle = none ∧ ImportSucceeds accepted handle state.gralloc

/-- The registry after the registration of a handle without an entry. -/
def registeredState (handle : BufferHandle) (state : GrallocState) : GrallocState :=
  { state with
    gbmBoHandleMap := state.gbmBoHandleMap.assign handle (some state.bos.next)
    bos := state.bos.create (importedBo (state.memory handle)) }

/-- A registration that fails changes at most the device, which stays open. -/
theorem gbmModRegister_of_fails (fails : ¬ Registers state device accepted handle) :
    ∃ ret gbm, gbmModRegister device accepted handle state = (ret, { state with gbm := gbm }) ∧
      ret ≠ 0 ∧ (state.gbm = true → gbm = true) := by
  unfold gbmModRegister gbmModInit
  by_cases opens : state.gbm = true ∨ device = true
  · have refused : gbmRegister accepted handle state.gralloc = (-einval, state.gralloc) := by
      rcases gbmRegister_outcome accepted handle state.gralloc with
        ⟨refused, -⟩ | ⟨registers, -⟩
      · exact refused
      · exact absurd ⟨opens, registers⟩ fails
    by_cases opened : state.gbm = true
    · rw [if_pos opened]
      simp only [refused, if_true]
      exact ⟨_, state.gbm, rfl, by decide, id⟩
    · obtain rfl : device = true := opens.resolve_left opened
      rw [if_neg opened]
      simp only [refused, if_true]
      exact ⟨_, true, rfl, by decide, fun _ => rfl⟩
  · obtain ⟨closed, absent⟩ := not_or.mp opens
    have failed : ¬ (-einval : Int) = 0 := by decide
    rw [if_neg closed, if_neg absent]
    simp only [if_neg failed]
    exact ⟨_, device, rfl, by decide, fun opened => absurd opened closed⟩

/-- A registration that succeeds opens the device. -/
theorem gbmModRegister_of_succeeds (registers : Registers state device accepted handle) :
    gbmModRegister device accepted handle state =
      (0, { state with gralloc := registeredState handle state.gralloc, gbm := true }) := by
  obtain ⟨opens, nonnull, absent, succeeds⟩ := registers
  have registered : gbmRegister accepted handle state.gralloc =
    (0, registeredState handle state.gralloc) := gbmRegister_of_succeeds nonnull absent succeeds
  unfold gbmModRegister gbmModInit
  by_cases opened : state.gbm = true
  · rw [if_pos opened]
    simp only [registered, if_true]
    rw [← opened]
  · obtain rfl : device = true := opens.resolve_left opened
    rw [if_neg opened]
    simp only [registered, if_true]

/-- Without a registration `lock_ycbcr` just locks. -/
theorem lockYcbcr_of_fails (fails : ¬ Registers state device accepted handle)
    (mapped : Option Mapping) (usage : U32) (x y w h : Int) :
    ∃ gbm, (state.gbm = true → gbm = true) ∧
      let answer := gbmLockYcbcr mapped handle (legacyLockUsage usage) x y w h state.gralloc
      lockYcbcr device accepted mapped handle usage x y w h state =
        (answer.1, answer.2.1, { state with gralloc := answer.2.2, gbm := gbm }) := by
  obtain ⟨ret, gbm, registered, failed, stays⟩ := gbmModRegister_of_fails fails
  refine ⟨gbm, stays, ?_⟩
  unfold lockYcbcr
  rw [registered]
  simp only [if_neg failed, gbmModLockYcbcr]

/-- With a registration it remembers the handle and locks. -/
theorem lockYcbcr_of_succeeds (registers : Registers state device accepted handle)
    (mapped : Option Mapping) (usage : U32) (x y w h : Int) :
    let answer := gbmLockYcbcr mapped handle (legacyLockUsage usage) x y w h
      (registeredState handle state.gralloc)
    lockYcbcr device accepted mapped handle usage x y w h state =
      (answer.1, answer.2.1, ⟨answer.2.2, true, handle⟩) := by
  unfold lockYcbcr
  rw [gbmModRegister_of_succeeds registers]
  simp only [if_true, gbmModLockYcbcr]

/-- While the device was never opened an unlock does nothing. -/
theorem unlock_of_closed (closed : state.gbm = false) :
    unlock handle state = (.code (-einval), state) := by
  unfold unlock
  rw [if_pos closed]

/-- An unlock that `gbm_unlock` refuses leaves the global alone. -/
theorem unlock_of_refused (opened : state.gbm = true) {after : GrallocState}
    (refused : gbmUnlock handle state.gralloc = (.code (-einval), after)) :
    unlock handle state = (.code (-einval), { state with gralloc := after }) := by
  have failed : (-einval : Int) ≠ 0 := by decide
  unfold unlock gbmModUnlock
  rw [if_neg (by simp [opened])]
  simp only [refused, if_pos failed]

/-- An unlock that `gbm_unlock` grants unregisters the handle the global names. -/
theorem unlock_of_granted (opened : state.gbm = true) {after : GrallocState}
    (granted : gbmUnlock handle state.gralloc = (.code 0, after)) :
    unlock handle state =
      (.code 0,
        if state.rhandle = handle then
          { state with gralloc := gbmFree handle after, rhandle := 0 }
        else { state with gralloc := after }) := by
  unfold unlock gbmModUnlock
  rw [if_neg (by simp [opened])]
  simp only [granted, ne_eq, not_true, if_false]
  split <;> rfl

end Effects

end Arpi.Gralloc
