import Arpi.Gralloc.MapperService
import Arpi.Gralloc.PlaneLayouts
import Arpi.Gralloc.Registry

/-!
# Handles from other processes

A client hands `importBuffer` a native handle: a header with two counts, and words. The
mapper clones it and casts the clone to a `private_handle_t`, whose fields are the words
at fixed places. `validate` would tell whether a handle has these words, but the import
does not call it.
-/

namespace Arpi.Gralloc

open Arpi.Semantics

/-- A `native_handle`: its header, and the memory behind it, of which the first
`numFds + numInts` words belong to the handle. -/
structure NativeHandle where
  version : U32
  numFds : U32
  numInts : U32
  data : Nat → U32

/-- The number of words that a handle has. -/
def NativeHandle.words (handle : NativeHandle) : Nat := handle.numFds.toNat + handle.numInts.toNat

/-- The fields that `private_handle_t` adds to the header. -/
inductive Field where
  | fd
  | magic
  | width
  | height
  | format
  | stride
  | fbId
  | usage
deriving DecidableEq

namespace Field

/-- The first word of a field; the header ends at byte 12, so `usage` is aligned. -/
def first : Field → Nat
  | fd => 0
  | magic => 1
  | width => 2
  | height => 3
  | format => 4
  | stride => 5
  | fbId => 6
  | usage => 7

/-- The words of a field. -/
def words : Field → Nat
  | usage => 2
  | _ => 1

/-- A field lies inside the words of a handle. -/
def Inside (field : Field) (handle : NativeHandle) : Prop :=
  field.first + field.words ≤ handle.words

/-- What a field holds. -/
abbrev Value : Field → Type
  | fd => Int
  | usage => U64
  | _ => U32

def value : (field : Field) → PrivateHandle → field.Value
  | fd => PrivateHandle.fd
  | magic => PrivateHandle.magic
  | width => PrivateHandle.width
  | height => PrivateHandle.height
  | format => PrivateHandle.format
  | stride => PrivateHandle.stride
  | fbId => PrivateHandle.fbId
  | usage => PrivateHandle.usage

end Field

/-- `private_handle`: the cast to a `private_handle_t`. -/
def privateHandle (handle : NativeHandle) : PrivateHandle where
  version := handle.version
  numFds := handle.numFds
  numInts := handle.numInts
  fd := (handle.data Field.fd.first).toInt
  magic := handle.data Field.magic.first
  width := handle.data Field.width.first
  height := handle.data Field.height.first
  format := handle.data Field.format.first
  stride := handle.data Field.stride.first
  fbId := handle.data Field.fbId.first
  usage := handle.data (Field.usage.first + 1) ++ handle.data Field.usage.first

/-- `private_handle_t::validate`. -/
def validate (handle : NativeHandle) : Int :=
  if handle.version ≠ PrivateHandle.nativeHandleSize ∨ handle.numInts ≠ PrivateHandle.sNumInts ∨
      handle.numFds ≠ PrivateHandle.sNumFds ∨
      (privateHandle handle).magic ≠ PrivateHandle.sMagic then -einval
  else 0

/-- What `native_handle_clone` makes of a handle: a header of its own with the same counts,
duplicates of the descriptors, and the other words. -/
structure CloneOf (raw copy : NativeHandle) : Prop where
  version : copy.version = PrivateHandle.nativeHandleSize
  numFds : copy.numFds = raw.numFds
  numInts : copy.numInts = raw.numInts
  descriptors : ∀ index < raw.numFds.toNat, 0 ≤ (copy.data index).toInt
  ints : ∀ index, raw.numFds.toNat ≤ index → index < raw.words → copy.data index = raw.data index

/-! ## Which fields are read -/

/-- The functions that read a `private_handle_t` in a client process. -/
inductive Reader where
  | gbmImport
  | gbmMap
  | gbmLock
  | gbmLockYcbcr
  | getPlaneLayouts
deriving DecidableEq

/-- The fields that a function reads. -/
def Reader.fields : Reader → List Field
  | gbmImport => [.format, .fd, .width, .height, .stride]
  | gbmMap => [.format]
  | gbmLock => [.usage, .width, .height, .format]
  | gbmLockYcbcr => [.usage, .width, .height, .format]
  | getPlaneLayouts => [.format, .width, .height]

/-- Two handles hold the same in the fields that a function reads. -/
def Reader.SameFor (reader : Reader) (left right : PrivateHandle) : Prop :=
  ∀ field ∈ reader.fields, field.value left = field.value right

/-- The state with other contents at a handle. -/
def GrallocState.rewrite (state : GrallocState) (handle : BufferHandle)
    (contents : PrivateHandle) : GrallocState :=
  { state with memory := Function.update state.memory handle contents }

section Reads

variable {state : GrallocState} {handle : BufferHandle} {contents : PrivateHandle}

@[simp] theorem rewrite_memory :
    (state.rewrite handle contents).memory handle = contents := by
  simp [GrallocState.rewrite]

/-- An import reads nothing else. -/
theorem gbmImport_reads (same : Reader.gbmImport.SameFor contents (state.memory handle))
    (accepted : Bool) :
    let answer := gbmImport accepted handle state
    gbmImport accepted handle (state.rewrite handle contents) =
      (answer.1, answer.2.rewrite handle contents) := by
  have format : contents.format = (state.memory handle).format := same .format (by decide)
  have fd : contents.fd = (state.memory handle).fd := same .fd (by decide)
  have width : contents.width = (state.memory handle).width := same .width (by decide)
  have height : contents.height = (state.memory handle).height := same .height (by decide)
  have stride : contents.stride = (state.memory handle).stride := same .stride (by decide)
  intro answer
  simp only [answer, gbmImport, rewrite_memory, format, fd, width, height, stride]
  split
  · rfl
  · split <;> rfl

/-- The mapping step reads nothing else. -/
theorem gbmMap_reads (same : Reader.gbmMap.SameFor contents (state.memory handle))
    (mapped : Option Mapping) (bo : BoId) (data : BoData) (x y w h : Int) (write : Bool) :
    let answer := gbmMap mapped handle bo data x y w h write state
    gbmMap mapped handle bo data x y w h write (state.rewrite handle contents) =
      (answer.1, answer.2.1, answer.2.2.rewrite handle contents) := by
  have format : contents.format = (state.memory handle).format := same .format (by decide)
  intro answer
  simp only [answer, gbmMap, rewrite_memory, format]
  split
  · rfl
  · cases mapped <;> rfl

/-- The second half of a lock reads nothing else. -/
theorem lockRecorded_reads (same : Reader.gbmLock.SameFor contents (state.memory handle))
    (mapped : Option Mapping) (bo : BoId) (data : BoData) (usage : U64) (x y w h : Int) :
    let answer := lockRecorded mapped handle bo data usage x y w h state
    lockRecorded mapped handle bo data usage x y w h (state.rewrite handle contents) =
      (answer.1, answer.2.1, answer.2.2.rewrite handle contents) := by
  have width : contents.width = (state.memory handle).width := same .width (by decide)
  have height : contents.height = (state.memory handle).height := same .height (by decide)
  have maps : Reader.gbmMap.SameFor contents (state.memory handle) := by
    intro field member
    obtain rfl := List.mem_singleton.mp member
    exact same .format (by decide)
  intro answer
  simp only [answer, lockRecorded, rewrite_memory, width, height]
  by_cases clash : data.Clashes usage
  · simp only [if_pos clash]
  simp only [if_neg clash]
  by_cases wanted : WantsMapping (usage ||| data.lockedUsage)
  case neg =>
    simp only [if_neg wanted]
    rfl
  simp only [if_pos wanted, gbmMap_reads maps]
  generalize gbmMap mapped handle bo data x y _ _ _ state = request
  by_cases failed : request.1 = 0
  · simp only [failed, ne_eq, not_true, if_false]
    rfl
  · simp only [ne_eq, failed, not_false_eq_true, if_true]

/-- A lock reads nothing else. -/
theorem gbmLock_reads (same : Reader.gbmLock.SameFor contents (state.memory handle))
    (mapped : Option Mapping) (usage : U64) (x y w h : Int) :
    let answer := gbmLock mapped handle usage x y w h state
    gbmLock mapped handle usage x y w h (state.rewrite handle contents) =
      (answer.1, answer.2.1, answer.2.2.rewrite handle contents) := by
  have usages : contents.usage = (state.memory handle).usage := same .usage (by decide)
  intro answer
  have found : grallocGbmBoFromHandle handle (state.rewrite handle contents) =
      ((grallocGbmBoFromHandle handle state).1,
        (grallocGbmBoFromHandle handle state).2.rewrite handle contents) := rfl
  have kept : (grallocGbmBoFromHandle handle state).2.memory = state.memory := rfl
  simp only [answer, gbmLock, found, rewrite_memory, usages]
  generalize grallocGbmBoFromHandle handle state = looked at kept ⊢
  obtain ⟨bo | bo, after⟩ := looked
  · rfl
  dsimp only at kept ⊢
  rw [← kept] at same ⊢
  by_cases allowed : usageAllowed (after.memory handle).usage usage = true
  case neg => simp only [if_neg allowed]
  simp only [if_pos allowed]
  have recorded : Reader.gbmLock.SameFor contents
    ((setBoData after bo (lockRecord after bo)).memory handle) := same
  exact lockRecorded_reads recorded mapped bo (lockRecord after bo) usage x y w h

/-- A lock of the planes reads nothing else. -/
theorem gbmLockYcbcr_reads (same : Reader.gbmLockYcbcr.SameFor contents (state.memory handle))
    (mapped : Option Mapping) (usage : U64) (x y w h : Int) :
    let answer := gbmLockYcbcr mapped handle usage x y w h state
    gbmLockYcbcr mapped handle usage x y w h (state.rewrite handle contents) =
      (answer.1, answer.2.1, answer.2.2.rewrite handle contents) := by
  have width : contents.width = (state.memory handle).width := same .width (by decide)
  have height : contents.height = (state.memory handle).height := same .height (by decide)
  have format : contents.format = (state.memory handle).format := same .format (by decide)
  intro answer
  have layouts : ∀ address,
      ycbcrLayout contents address = ycbcrLayout (state.memory handle) address := by
    intro address
    simp only [ycbcrLayout, format, width, height]
  simp only [answer, gbmLockYcbcr, gbmLock_reads same, rewrite_memory, layouts]
  by_cases failed : (gbmLock mapped handle usage x y w h state).1 = 0
  case neg => simp only [ne_eq, failed, not_false_eq_true, if_true]
  simp only [failed, ne_eq, not_true, if_false]
  cases ycbcrLayout (state.memory handle) (gbmLock mapped handle usage x y w h state).2.1 with
  | some ycbcr => rfl
  | none => rfl

/-- The plane layouts depend on nothing else. -/
theorem getPlaneLayouts_reads {other : PrivateHandle}
    (same : Reader.getPlaneLayouts.SameFor contents other) :
    getPlaneLayouts contents = getPlaneLayouts other := by
  have width : contents.width = other.width := same .width (by decide)
  have height : contents.height = other.height := same .height (by decide)
  have format : contents.format = other.format := same .format (by decide)
  simp only [getPlaneLayouts, yLayout, crLayout, cbLayout, lumaLayout, chromaLayout, format, width,
    height]

end Reads

/-- All fields that are read lie inside a handle exactly when it has the nine words of a
`private_handle_t`. -/
theorem fields_inside_iff (handle : NativeHandle) :
    (∀ reader : Reader, ∀ field ∈ reader.fields, field.Inside handle) ↔ 9 ≤ handle.words := by
  constructor
  · intro inside
    exact inside .gbmLock .usage (by decide)
  · intro enough reader field _
    have bound : field.first + field.words ≤ 9 := by cases field <;> decide
    exact bound.trans enough

/-- A handle that passes the validation has these words. -/
theorem words_of_validate {handle : NativeHandle} (valid : validate handle = 0) :
    9 ≤ handle.words := by
  unfold validate at valid
  split at valid
  · cases valid
  · rename_i fields
    simp only [not_or, not_not] at fields
    rw [NativeHandle.words, fields.2.1, fields.2.2.1]
    decide

/-- The clone has as many words as the handle it was made of. -/
theorem CloneOf.words {raw copy : NativeHandle} (contract : CloneOf raw copy) :
    copy.words = raw.words := by
  rw [NativeHandle.words, contract.numFds, contract.numInts, ← NativeHandle.words]

namespace Mapper

/-- `Mapper::importBuffer` of a native handle. `cloned` is the outcome of the clone, with
the address of the copy. -/
def importNativeHandle (cloned : Option (BufferHandle × NativeHandle)) (accepted : Bool)
    (rawHandle : Option NativeHandle) (state : MapperState) :
    (Error × BufferHandle) × MapperState :=
  let copied := cloned.map fun copy => (copy.1, (privateHandle copy.2).fd)
  let contents := rawHandle.map fun raw => privateHandle ((cloned.map Prod.snd).getD raw)
  importBuffer copied accepted contents state

/-- The clone is what the import leaves in the memory of the process. -/
theorem nativeHandleClone_memory {raw : NativeHandle} {copy : BufferHandle × NativeHandle}
    (contract : CloneOf raw copy.2) (state : MapperState) :
    (nativeHandleClone (copy.1, (privateHandle copy.2).fd) (privateHandle copy.2)
      state).gralloc.memory copy.1 = privateHandle copy.2 := by
  simp only [nativeHandleClone, Function.update_self, ← contract.version]
  rfl

/-- What makes an import succeed: the clone, a new address, what is read as the descriptor,
and the driver. -/
def Imports (cloned : Option (BufferHandle × NativeHandle)) (accepted : Bool)
    (state : MapperState) : Prop :=
  ∃ copy, cloned = some copy ∧ copy.1 ≠ 0 ∧
    state.gralloc.gbmBoHandleMap.find copy.1 = none ∧ 0 ≤ (privateHandle copy.2).fd ∧
    accepted = true

/-- An import fails and leaves the registry as it was, or its handle passes the validation. -/
def RejectsForeign (cloned : Option (BufferHandle × NativeHandle)) (accepted : Bool)
    (raw : NativeHandle) (state : MapperState) : Prop :=
  let answer := importNativeHandle cloned accepted (some raw) state
  (answer.1.1 ≠ .none ∧
      Holds answer.2.gralloc state.gralloc.gbmBoHandleMap state.gralloc.bos) ∨
    validate raw = 0

/-- Whatever is read of an imported handle lies inside its words. -/
def ReadsInside (cloned : Option (BufferHandle × NativeHandle)) (accepted : Bool)
    (raw : NativeHandle) (state : MapperState) : Prop :=
  (importNativeHandle cloned accepted (some raw) state).1.1 = .none →
    ∀ copy, cloned = some copy →
      ∀ reader : Reader, ∀ field ∈ reader.fields, field.Inside copy.2

section Imports

variable {cloned : Option (BufferHandle × NativeHandle)} {raw : NativeHandle}

theorem importNativeHandle_succeeds_iff (raw : NativeHandle) (accepted : Bool) (state : MapperState) :
    (importNativeHandle cloned accepted (some raw) state).1.1 = .none ↔
      Imports cloned accepted state := by
  refine (importBuffer_succeeds_iff _ accepted _).trans ?_
  cases cloned <;> simp [Imports]

/-- An import rejects a handle that is not valid exactly when it does not go through. -/
theorem rejectsForeign_iff (accepted : Bool) (state : MapperState) :
    RejectsForeign cloned accepted raw state ↔
      (Imports cloned accepted state → validate raw = 0) := by
  rw [← importNativeHandle_succeeds_iff raw, RejectsForeign]
  constructor
  · rintro (⟨failed, -⟩ | valid) succeeds
    · exact absurd succeeds failed
    · exact valid
  · intro guarded
    by_cases succeeds : (importNativeHandle cloned accepted (some raw) state).1.1 = .none
    · exact .inr (guarded succeeds)
    · exact .inl ⟨succeeds, (importBuffer_outcome _ accepted _).registry succeeds⟩

theorem readsInside_iff
    (contract : ∀ copy, cloned = some copy → CloneOf raw copy.2) (accepted : Bool)
    (state : MapperState) :
    ReadsInside cloned accepted raw state ↔ (Imports cloned accepted state → 9 ≤ raw.words) := by
  rw [ReadsInside, importNativeHandle_succeeds_iff]
  constructor
  · intro inside imports
    obtain ⟨copy, made, -⟩ := id imports
    rw [← (contract copy made).words]
    exact (fields_inside_iff copy.2).mp (inside imports copy made)
  · intro enough imports copy made
    have words := enough imports
    rw [← (contract copy made).words] at words
    exact (fields_inside_iff copy.2).mpr words

end Imports

/-- `importBuffer` rejects a handle that is not a `private_handle_t`, and what is read of an
imported handle lies inside it, exactly when every handle that can be cloned to a new
address, with a word for the descriptor that is not negative and that the driver accepts, is
valid and has the nine words of a `private_handle_t`. -/
theorem foreign_handles_iff (raw : NativeHandle) (cloned : Option (BufferHandle × NativeHandle))
    (contract : ∀ copy, cloned = some copy → CloneOf raw copy.2) (accepted : Bool)
    (state : MapperState) :
    (RejectsForeign cloned accepted raw state ↔
        (Imports cloned accepted state → validate raw = 0)) ∧
      (ReadsInside cloned accepted raw state ↔
        (Imports cloned accepted state → 9 ≤ raw.words)) ∧
      (RejectsForeign cloned accepted raw state → ReadsInside cloned accepted raw state) := by
  refine ⟨rejectsForeign_iff accepted state, readsInside_iff contract accepted state, ?_⟩
  rw [rejectsForeign_iff, readsInside_iff contract]
  exact fun guarded imports => words_of_validate (guarded imports)

/-- The words of a buffer handle of 16 by 16 pixels, in a handle that has only some of them. -/
def exampleNative (numInts : U32) : NativeHandle :=
  ⟨PrivateHandle.nativeHandleSize, 1, numInts, fun index =>
    [5, PrivateHandle.sMagic, 16, 16, halPixelFormatRgba8888, 64, 0, 0x66, 0].getD index 0⟩

theorem exampleNative_cloneOf (numInts : U32) :
    ∀ copy, some (1, exampleNative numInts) = some copy →
      CloneOf (exampleNative numInts) copy.2 := by
  rintro copy made
  cases made
  refine ⟨rfl, rfl, rfl, ?_, fun _ _ _ => rfl⟩
  have descriptor : ∀ index < 1, 0 ≤ ((exampleNative 0).data index).toInt := by decide
  exact descriptor

/-- A handle that has all of its words. -/
theorem foreign_handles_example :
    RejectsForeign (some (1, exampleNative 8)) true (exampleNative 8)
        (.fresh fun _ => exampleImported) ∧
      ReadsInside (some (1, exampleNative 8)) true (exampleNative 8)
        (.fresh fun _ => exampleImported) := by
  have exact := foreign_handles_iff (exampleNative 8) (some (1, exampleNative 8))
    (exampleNative_cloneOf 8) true (.fresh fun _ => exampleImported)
  exact ⟨exact.1.mpr fun _ => by decide, exact.2.1.mpr fun _ => by decide⟩

/-- A handle that ends before the usage is imported like any other, and a lock of it reads
the usage behind its end. -/
theorem foreign_handles_not_always_rejected :
    ¬ ∀ (raw : NativeHandle) (cloned : Option (BufferHandle × NativeHandle)) (accepted : Bool)
      (state : MapperState), (∀ copy, cloned = some copy → CloneOf raw copy.2) →
      RejectsForeign cloned accepted raw state ∧ ReadsInside cloned accepted raw state := by
  intro claim
  have both := claim (exampleNative 6) (some (1, exampleNative 6)) true
    (.fresh fun _ => exampleImported) (exampleNative_cloneOf 6)
  have imported : (importNativeHandle (some (1, exampleNative 6)) true (some (exampleNative 6))
    (.fresh fun _ => exampleImported)).1.1 = .none := by decide
  rcases both.1 with ⟨failed, -⟩ | valid
  · exact failed imported
  · exact absurd valid (by decide)

end Mapper

end Arpi.Gralloc
