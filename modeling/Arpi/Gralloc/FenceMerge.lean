import Arpi.Gralloc.Fence
import Arpi.Semantics.Containers
import Arpi.Semantics.Joins
import Mathlib.Data.Finset.Lattice.Basic
import Mathlib.Order.Bounds.Basic

/-!
# Fences that are merged

The kernel keeps the sync files that the descriptors of a process refer to. A sync file has
points, each of which is signaled at some time, or never, and with an error or without. Fences
are made of descriptors, merged, duplicated and dropped in any order, and the kernel gives a
descriptor out again after it was closed. Every fence then has a descriptor of its own, and
behind it is what its work comes to.
-/

namespace Arpi.Gralloc

open Arpi.Semantics

/-- A point of a sync file: when it is signaled, in nanoseconds, if ever, and whether with an
error. -/
structure SyncPoint where
  time : Option Nat
  failed : Bool
deriving DecidableEq

/-- What a sync file waits for. -/
abbrev SyncFile := Finset SyncPoint

namespace SyncFile

/-- All is signaled at a time. -/
def Done (file : SyncFile) (now : Nat) : Prop :=
  ∀ point ∈ file, ∃ time, point.time = some time ∧ time ≤ now

/-- Something is signaled with an error. -/
def Failed (file : SyncFile) : Prop := ∃ point ∈ file, point.failed = true

/-- When the last point is signaled. -/
def LastAt (file : SyncFile) (time : Nat) : Prop :=
  IsGreatest {time | ∃ point ∈ file, point.time = some time} time

end SyncFile

/-- `nsecs_t`. -/
abbrev Nanoseconds := BitVec 64

/-- The sync files behind the descriptors of a process. Behind one that is not open there is
the empty one. -/
abbrev SyncFiles := Int → SyncFile

namespace SyncFiles

/-- The kernel refers a free descriptor to a sync file, for any that it chooses. `none` when it
has no descriptor left. -/
def install (files : SyncFiles) (descriptor : Option Nat) (file : SyncFile) :
    Int × SyncFiles :=
  match descriptor with
  | none => (-1, files)
  | some descriptor =>
      if file = ∅ ∨ files descriptor ≠ ∅ then (-1, files)
      else (descriptor, Function.update files descriptor file)

/-- `sync_merge`: a new sync file with the points of both, or an error. -/
def syncMerge (files : SyncFiles) (descriptor : Option Nat) (first second : Int) :
    Int × SyncFiles :=
  if files first = ∅ ∨ files second = ∅ then (-1, files)
  else files.install descriptor (files first ∪ files second)

/-- `close`. -/
def close (files : SyncFiles) (descriptor : Int) : SyncFiles :=
  Function.update files descriptor ∅

end SyncFiles

/-- `err` and `errno` after `sync_wait`. -/
structure SyncAnswer where
  err : Int
  errno : Nat
deriving DecidableEq

/-- `ETIME`. -/
def etime : Nat := 62

/-- What is used of `sync_file_info`: the status of the file, and the `timestamp_ns` of each of
its fences. -/
structure SyncFileInfo where
  status : Int
  timestamps : List (BitVec 64)

/-- What `sync_wait` answers of a file, between two times. The timeout is in milliseconds, and
one below 0 never expires. -/
inductive SyncWaits (file : SyncFile) (before : Nat) (timeout : Int) :
    SyncAnswer → Nat → Prop where
  | signaled {err : Int} {errno after : Nat} (succeeded : 0 ≤ err) (done : file.Done after) :
      SyncWaits file before timeout ⟨err, errno⟩ after
  | expired {after : Nat} (bounded : 0 ≤ timeout)
      (pending : ¬ file.Done (before + timeout.toNat * 1000000)) :
      SyncWaits file before timeout ⟨-1, etime⟩ after
  | failed {errno after : Nat} (error : errno ≠ 0) (other : errno ≠ etime) :
      SyncWaits file before timeout ⟨-1, errno⟩ after

/-- What `sync_file_info` answers of a file at a time: active is 0, signaled is 1 and an error is
below 0. A file may have been reduced to some of its points, with the last one among them. -/
inductive SyncDescribes (file : SyncFile) (now : Nat) : SyncFileInfo → Prop where
  | active {timestamps : List (BitVec 64)} (pending : ¬ file.Done now) :
      SyncDescribes file now ⟨0, timestamps⟩
  | signaled {timestamps : List (BitVec 64)} {last : Nat} (done : file.Done now)
      (succeeded : ¬ file.Failed) (latest : file.LastAt last)
      (shown : IsGreatest {time | ∃ stamp ∈ timestamps, time = stamp.toNat} last) :
      SyncDescribes file now ⟨1, timestamps⟩
  | error {status : Int} {timestamps : List (BitVec 64)} (done : file.Done now)
      (failed : file.Failed) (negative : status < 0) :
      SyncDescribes file now ⟨status, timestamps⟩

namespace Fence

/-- `Status`. -/
inductive Status where
  | invalid
  | unsignaled
  | signaled
deriving DecidableEq

/-- `SIGNAL_TIME_PENDING`. -/
def signalTimePending : Nanoseconds := BitVec.intMax 64

/-- `SIGNAL_TIME_INVALID`. -/
def signalTimeInvalid : Nanoseconds := -1

/-- `TIMEOUT_NEVER`. -/
def timeoutNever : Int := -1

/-- The `status_t` of an answer. -/
def statusOf (answer : SyncAnswer) : Int := if answer.err < 0 then -answer.errno else 0

/-- `wait`; `syncWait` answers a timeout. -/
def wait (fence : Fence) (syncWait : Int → SyncAnswer) (timeout : Int) : Int :=
  if fence.fenceFd = -1 then 0 else statusOf (syncWait timeout)

/-- `waitForever`. -/
def waitForever (fence : Fence) (syncWait : Int → SyncAnswer) : Int :=
  if fence.fenceFd = -1 then 0
  else
    let warningTimeout := 3000
    let answer := syncWait warningTimeout
    if answer.err < 0 ∧ answer.errno = etime then statusOf (syncWait timeoutNever)
    else statusOf answer

/-- `getStatus`. -/
def getStatus (fence : Fence) (syncWait : Int → SyncAnswer) : Status :=
  let status := fence.wait syncWait 0
  if status = 0 then .signaled else if status = -etime then .unsignaled else .invalid

/-- `merge`, with the descriptor that the kernel has for the merged file. -/
def merge (descriptor : Option Nat) (f1 f2 : Fence) (files : SyncFiles) : Fence × SyncFiles :=
  let answer :=
    if f1.isValid && f2.isValid then some (files.syncMerge descriptor f1.fenceFd f2.fenceFd)
    else if f1.isValid then some (files.syncMerge descriptor f1.fenceFd f1.fenceFd)
    else if f2.isValid then some (files.syncMerge descriptor f2.fenceFd f2.fenceFd)
    else none
  match answer with
  | none => (noFence, files)
  | some (result, files) => if result = -1 then (noFence, files) else (⟨result⟩, files)

/-- `dup`, which fails for a descriptor that is not open. -/
def dup (descriptor : Option Nat) (fence : Fence) (files : SyncFiles) : Int × SyncFiles :=
  files.install descriptor (files fence.fenceFd)

/-- The latest of the timestamps, as the loop of `getSignalTime` finds it. -/
def latestTimestamp (timestamp : BitVec 64) (timestamps : List (BitVec 64)) : BitVec 64 :=
  timestamps.foldl (fun latest other => if other > latest then other else latest) timestamp

/-- `getSignalTime`; `info` is what `sync_file_info` answers. -/
def getSignalTime (fence : Fence) (info : Option SyncFileInfo) : Nanoseconds :=
  if fence.fenceFd = -1 then signalTimeInvalid
  else
    match info with
    | none => signalTimeInvalid
    | some info =>
        if info.status ≠ 1 then
          if info.status < 0 then signalTimeInvalid else signalTimePending
        else latestTimestamp 0 info.timestamps

end Fence

/-- The sync files of a process and the fences that it refers to. Beside each fence stands how
its work came about, which the code does not keep. -/
structure FenceProcess where
  files : SyncFiles
  held : Store (Fence × Joins SyncFile)

/-- A process without fences. -/
def FenceProcess.initial : FenceProcess := ⟨fun _ => ∅, Store.empty⟩

/-- What a process does with fences, with the descriptors that the kernel has for it. Fences are
named by the references to them. -/
inductive FenceEvent where
  /-- A fence is made of a descriptor that came with a sync file, or it is `NO_FENCE`. -/
  | adopt (file : SyncFile) (descriptor : Option Nat)
  | dup (reference : Nat) (descriptor : Option Nat)
  | merge (first second : Nat) (descriptor : Option Nat)
  /-- The last reference goes, and the destructor closes the descriptor. -/
  | drop (reference : Nat)

namespace FenceProcess

/-- A fence that was made is referred to. -/
def hold (process : FenceProcess) (joins : Joins SyncFile)
    (made : Fence × SyncFiles) : FenceProcess :=
  ⟨made.2, process.held.create (made.1, joins)⟩

/-- The work of a merged fence. It came to nothing if `sync_merge` was called and failed. -/
def joinsOf (first second : Fence × Joins SyncFile) (made : Fence) :
    Joins SyncFile :=
  if made.isValid || !(first.1.isValid || second.1.isValid) then .joined first.2 second.2
  else .refused first.2 second.2

/-- What an event does. References that do not exist are not used. -/
def enter (process : FenceProcess) : FenceEvent → FenceProcess
  | .adopt file descriptor =>
      let answer := process.files.install descriptor file
      process.hold (.given (if answer.1 = -1 then ∅ else file)) (⟨answer.1⟩, answer.2)
  | .dup reference descriptor =>
      match process.held.cells reference with
      | none => process
      | some original =>
          let answer := original.1.dup descriptor process.files
          process.hold (joinsOf original original ⟨answer.1⟩) (⟨answer.1⟩, answer.2)
  | .merge first second descriptor =>
      match process.held.cells first, process.held.cells second with
      | some first, some second =>
          let made := Fence.merge descriptor first.1 second.1 process.files
          process.hold (joinsOf first second made.1) made
      | _, _ => process
  | .drop reference =>
      match process.held.cells reference with
      | none => process
      | some (fence, _) =>
          { files := if fence.isValid then process.files.close fence.fenceFd else process.files
            held := process.held.destroy reference }

end FenceProcess

/-- A process that works with fences. -/
def fenceMachine : Machine FenceProcess FenceEvent Unit :=
  ⟨fun process event => ((), process.enter event)⟩

/-- The fences of a process and the sync files behind them. -/
structure FenceProcess.Sound (process : FenceProcess) : Prop where
  closed : process.files (-1) = ∅
  told : ∀ {reference fence joins}, process.held.cells reference = some (fence, joins) →
    process.files fence.fenceFd = joins.value
  backed : ∀ {reference fence joins}, process.held.cells reference = some (fence, joins) →
    fence.isValid = true → process.files fence.fenceFd ≠ ∅
  sole : ∀ {first second fence other joins others},
    process.held.cells first = some (fence, joins) →
    process.held.cells second = some (other, others) →
    fence.isValid = true → fence.fenceFd = other.fenceFd → first = second

/-- A new fence is none, or the only one of a descriptor that was free. -/
inductive Issued (files : SyncFiles) (file : SyncFile) : Int × SyncFiles → Prop where
  | refused : Issued files file (-1, files)
  | issued {descriptor : Nat} (present : file ≠ ∅) (free : files descriptor = ∅) :
      Issued files file (descriptor, Function.update files descriptor file)

section Descriptors

variable {files : SyncFiles} {descriptor : Option Nat} {file : SyncFile}

theorem SyncFiles.install_issued : Issued files file (files.install descriptor file) := by
  unfold install
  cases descriptor with
  | none => exact .refused
  | some descriptor =>
      dsimp only
      split
      next => exact .refused
      next usable =>
        obtain ⟨present, free⟩ := not_or.mp usable
        exact .issued present (not_not.mp free)

theorem SyncFiles.syncMerge_issued {first second : Int} :
    Issued files (files first ∪ files second) (files.syncMerge descriptor first second) := by
  unfold syncMerge
  split
  next => exact .refused
  next => exact install_issued

/-- Where a fence has no descriptor, there is no sync file. -/
theorem Fence.files_of_invalid {fence : Fence} (closed : files (-1) = ∅)
    (invalid : fence.isValid = false) : files fence.fenceFd = ∅ := by
  rw [Fence.eq_noFence_of_invalid invalid]
  exact closed

/-- A merged fence is one of the joined file, also where one of the fences is merged with
itself. -/
theorem Fence.merge_issued (closed : files (-1) = ∅) (descriptor : Option Nat) (f1 f2 : Fence) :
    ∃ answer, Issued files (files f1.fenceFd ∪ files f2.fenceFd) answer ∧
      Fence.merge descriptor f1 f2 files = (⟨answer.1⟩, answer.2) := by
  have made (answer : Int × SyncFiles) :
      (if answer.1 = -1 then ((noFence, answer.2) : Fence × SyncFiles)
        else (⟨answer.1⟩, answer.2)) = (⟨answer.1⟩, answer.2) := by
    split
    next failed => rw [failed]; rfl
    next => rfl
  have merged (first second : Int)
      (same : files first ∪ files second = files f1.fenceFd ∪ files f2.fenceFd) :
      Issued files (files f1.fenceFd ∪ files f2.fenceFd)
        (files.syncMerge descriptor first second) := same ▸ SyncFiles.syncMerge_issued
  cases first : f1.isValid <;> cases second : f2.isValid
  case false.false =>
    exact ⟨(-1, files), .refused, by simp [merge, first, second, noFence]⟩
  case false.true =>
    refine ⟨_, merged f2.fenceFd f2.fenceFd ?_, ?_⟩
    · rw [files_of_invalid closed first, Finset.union_idempotent, Finset.empty_union]
    · simpa [merge, first, second] using made _
  case true.false =>
    refine ⟨_, merged f1.fenceFd f1.fenceFd ?_, ?_⟩
    · rw [files_of_invalid closed second, Finset.union_idempotent, Finset.union_empty]
    · simpa [merge, first, second] using made _
  case true.true =>
    refine ⟨_, merged _ _ rfl, ?_⟩
    simpa [merge, first, second] using made _

end Descriptors

/-- What a reference refers to after a fence was made is the new fence, or it is referred to
before. -/
theorem FenceProcess.hold_cells {process : FenceProcess} {joins : Joins SyncFile}
    {made : Fence × SyncFiles} {reference : Nat} {found : Fence × Joins SyncFile}
    (held : (process.hold joins made).held.cells reference = some found) :
    reference = process.held.next ∧ found = (made.1, joins) ∨
      process.held.cells reference = some found := by
  by_cases new : reference = process.held.next
  · subst new
    rw [hold, Store.create_cells_next] at held
    exact .inl ⟨rfl, (Option.some.inj held).symm⟩
  · rw [hold, Store.create_cells_of_ne new] at held
    exact .inr held

namespace FenceProcess.Sound

variable {process : FenceProcess} {file : SyncFile} {answer : Int × SyncFiles}
  {joins : Joins SyncFile} {event : FenceEvent}

theorem initial : FenceProcess.initial.Sound where
  closed := rfl
  told held := nomatch held
  backed held := nomatch held
  sole held := nomatch held

/-- A descriptor that is free is not the one of a fence. -/
theorem apart (sound : process.Sound) {descriptor reference : Nat} {fence : Fence}
    (held : process.held.cells reference = some (fence, joins))
    (free : process.files descriptor = ∅) : fence.fenceFd ≠ descriptor := by
  intro same
  cases valid : fence.isValid with
  | true => exact sound.backed held valid (same ▸ free)
  | false =>
      rw [Fence.eq_noFence_of_invalid valid] at same
      exact absurd same (by simp [Fence.noFence])

/-- A fence with a file that no other fence has is referred to. -/
theorem entered (sound : process.Sound) {files : SyncFiles} {fence : Fence}
    (closed : files (-1) = ∅)
    (kept : ∀ {reference other came}, process.held.cells reference = some (other, came) →
      files other.fenceFd = process.files other.fenceFd)
    (told : files fence.fenceFd = joins.value)
    (backed : fence.isValid = true → files fence.fenceFd ≠ ∅)
    (alone : ∀ {reference other came}, process.held.cells reference = some (other, came) →
      fence.isValid = true → other.fenceFd ≠ fence.fenceFd) :
    (process.hold joins (fence, files)).Sound := by
  refine ⟨closed, ?_, ?_, ?_⟩
  · intro reference other came held
    obtain ⟨-, found⟩ | earlier := hold_cells held
    · cases found
      exact told
    · exact (kept earlier).trans (sound.told earlier)
  · intro reference other came held valid
    obtain ⟨-, found⟩ | earlier := hold_cells held
    · cases found
      exact backed valid
    · exact (kept earlier).trans_ne (sound.backed earlier valid)
  · intro first second one other came others held holds valid same
    obtain ⟨new, found⟩ | earlier := hold_cells held
    · obtain ⟨newer, -⟩ | before := hold_cells holds
      · exact new.trans newer.symm
      · cases found
        exact absurd same.symm (alone before valid)
    · obtain ⟨-, found⟩ | before := hold_cells holds
      · cases found
        have validToo : fence.isValid = true := by
          rw [Fence.isValid_iff, ← same]
          exact Fence.isValid_iff.mp valid
        exact absurd same (alone earlier validToo)
      · exact sound.sole earlier before valid same

/-- A fence that is made of a new descriptor is referred to. -/
theorem hold (sound : process.Sound) (issued : Issued process.files file answer)
    (came : joins.value = if answer.1 = -1 then ∅ else file) :
    (process.hold joins (⟨answer.1⟩, answer.2)).Sound := by
  cases issued with
  | refused =>
      rw [if_pos rfl] at came
      exact sound.entered sound.closed (fun _ => rfl) (sound.closed.trans came.symm)
        (fun valid => nomatch valid) (fun _ valid => nomatch valid)
  | @issued descriptor present free =>
      have none : (-1 : Int) ≠ descriptor := by omega
      rw [if_neg none.symm] at came
      have placed : Function.update process.files descriptor file descriptor = file :=
        Function.update_self _ _ _
      have closed : Function.update process.files descriptor file (-1) = process.files (-1) :=
        Function.update_of_ne none _ _
      refine sound.entered (closed.trans sound.closed) ?_ (placed.trans came.symm)
        (fun _ => placed.trans_ne present) ?_
      · intro reference other others held
        exact Function.update_of_ne (sound.apart held free) _ _
      · intro reference other others held _
        exact sound.apart held free

/-- Nothing else refers to the descriptor that is closed. -/
theorem drop (sound : process.Sound) (reference : Nat) :
    (process.enter (.drop reference)).Sound := by
  unfold FenceProcess.enter
  cases held : process.held.cells reference with
  | none => simpa only [held] using sound
  | some found =>
      obtain ⟨fence, came⟩ := found
      simp only [held]
      have earlier {other found}
          (remains : (process.held.destroy reference).cells other = some found) :
          other ≠ reference ∧ process.held.cells other = some found := by
        by_cases same : other = reference
        · rw [same, Store.destroy_cells_self] at remains
          cases remains
        · rw [Store.destroy_cells_of_ne same] at remains
          exact ⟨same, remains⟩
      let files := if fence.isValid then process.files.close fence.fenceFd else process.files
      have kept {other found others}
          (remains : (process.held.destroy reference).cells other = some (found, others)) :
          files found.fenceFd = process.files found.fenceFd := by
        obtain ⟨different, before⟩ := earlier remains
        cases valid : fence.isValid with
        | false => simp [files, valid]
        | true =>
            simp only [files, valid, if_true]
            refine Function.update_of_ne (fun same => different ?_) _ _
            exact (sound.sole held before valid same.symm).symm
      refine ⟨?_, ?_, ?_, ?_⟩
      · cases valid : fence.isValid with
        | false => simpa [valid] using sound.closed
        | true =>
            simp only [if_true]
            exact (Function.update_of_ne (Fence.isValid_iff.mp valid).symm _ _).trans sound.closed
      · intro other found others remains
        exact (kept remains).trans (sound.told (earlier remains).2)
      · intro other found others remains valid
        exact (kept remains).trans_ne (sound.backed (earlier remains).2 valid)
      · intro first second one another joins others remains remaining valid same
        exact sound.sole (earlier remains).2 (earlier remaining).2 valid same

/-- What is made of two fences comes to the join of their work, or to nothing. -/
theorem joinsOf_value {first second : Fence × Joins SyncFile}
    (closed : process.files (-1) = ∅) (one : process.files first.1.fenceFd = first.2.value)
    (other : process.files second.1.fenceFd = second.2.value) (result : Int) :
    (joinsOf first second ⟨result⟩).value =
      if result = -1 then ∅
      else process.files first.1.fenceFd ∪ process.files second.1.fenceFd := by
  unfold joinsOf
  split
  next joined =>
    split
    next failed =>
      subst failed
      have invalid : first.1.isValid = false ∧ second.1.isValid = false := by
        simpa [Fence.isValid] using joined
      rw [Joins.value, ← one, ← other, Fence.files_of_invalid closed invalid.1,
        Fence.files_of_invalid closed invalid.2, Finset.sup_eq_union, Finset.empty_union]
    next => rw [one, other, Joins.value, Finset.sup_eq_union]
  next refused =>
    have failed : result = -1 := by
      by_contra made
      exact refused (by simp [Fence.isValid, made])
    rw [if_pos failed, Joins.value, Finset.bot_eq_empty]

theorem enter (sound : process.Sound) (event : FenceEvent) : (process.enter event).Sound := by
  cases event with
  | adopt file descriptor =>
      exact sound.hold SyncFiles.install_issued rfl
  | dup reference descriptor =>
      unfold FenceProcess.enter
      cases held : process.held.cells reference with
      | none => simpa only [held] using sound
      | some original =>
          have told := sound.told held
          simp only [held]
          refine sound.hold SyncFiles.install_issued ?_
          rw [joinsOf_value sound.closed told told, Finset.union_idempotent]
  | merge first second descriptor =>
      unfold FenceProcess.enter
      cases one : process.held.cells first with
      | none => simpa only [one] using sound
      | some first =>
          cases other : process.held.cells second with
          | none => simpa only [one, other] using sound
          | some second =>
              obtain ⟨answer, issued, made⟩ :=
                Fence.merge_issued sound.closed descriptor first.1 second.1
              simp only [one, other, made]
              refine sound.hold issued ?_
              exact joinsOf_value sound.closed (sound.told one) (sound.told other) answer.1
  | drop reference => exact sound.drop reference

/-- Whatever a process does, every fence has the file that its work comes to. -/
theorem run (events : List FenceEvent) : (fenceMachine.run .initial events).Sound := by
  have preserved (process : FenceProcess) (event : FenceEvent) (sound : process.Sound) :
      (fenceMachine.next process event).Sound := sound.enter event
  exact (fenceMachine.always_of_invariant preserved initial events).last

end FenceProcess.Sound

end Arpi.Gralloc
