import Arpi.Gralloc.FenceMerge

/-!
# What merged fences tell

The sync file behind a fence has the points of all files that were merged into it. So what
`wait`, `waitForever`, `getStatus` and `getSignalTime` answer can be said of these files alone,
whether they are still open or not.
-/

namespace Arpi.Gralloc

open Arpi.Semantics

/-- When work signals, as it is known at a time. Where there is none of it, there is no time. -/
inductive SignalTime (work : SyncFile) (now : Nat) : Nanoseconds → Prop where
  | nothing (none : work = ∅) : SignalTime work now Fence.signalTimeInvalid
  | pending (late : ¬ work.Done now) : SignalTime work now Fence.signalTimePending
  | failed (done : work.Done now) (failed : work.Failed) :
      SignalTime work now Fence.signalTimeInvalid
  | signaled {time : Nanoseconds} (done : work.Done now) (succeeded : ¬ work.Failed)
      (latest : work.LastAt time.toNat) : SignalTime work now time

theorem SyncFile.Done.mono {file work : SyncFile} {now : Nat} (done : work.Done now)
    (within : file ≤ work) : file.Done now :=
  fun point member => done point (within member)

theorem SyncFile.Done.later {file : SyncFile} {before after : Nat} (done : file.Done before)
    (later : before ≤ after) : file.Done after := by
  intro point member
  obtain ⟨time, signaled, reached⟩ := done point member
  exact ⟨time, signaled, reached.trans later⟩

theorem SyncFile.done_empty (now : Nat) : SyncFile.Done ∅ now :=
  fun point member => absurd member (Finset.notMem_empty point)

/-- The loop of `getSignalTime` finds the latest of the timestamps. -/
theorem latestTimestamp_isGreatest (timestamp : BitVec 64) (timestamps : List (BitVec 64)) :
    IsGreatest {time | ∃ other ∈ timestamp :: timestamps, time = other.toNat}
      (Fence.latestTimestamp timestamp timestamps).toNat := by
  induction timestamps generalizing timestamp with
  | nil =>
      refine ⟨⟨timestamp, List.mem_singleton_self _, rfl⟩, ?_⟩
      rintro time ⟨other, member, rfl⟩
      rw [List.mem_singleton.mp member]
      exact le_rfl
  | cons other rest ih =>
      have later : timestamp.toNat ≤ (if other > timestamp then other else timestamp).toNat ∧
          other.toNat ≤ (if other > timestamp then other else timestamp).toNat := by
        split
        next after => exact ⟨(BitVec.lt_def.mp after).le, le_rfl⟩
        next before => exact ⟨le_rfl, not_lt.mp fun after => before (BitVec.lt_def.mpr after)⟩
      obtain ⟨⟨found, member, same⟩, latest⟩ :=
        ih (if other > timestamp then other else timestamp)
      refine ⟨⟨found, ?_, same⟩, ?_⟩
      · rcases List.mem_cons.mp member with first | member
        · rw [first]
          split <;> simp
        · exact List.mem_cons_of_mem _ (List.mem_cons_of_mem _ member)
      · rintro time ⟨stamp, member, rfl⟩
        have first := latest ⟨_, List.mem_cons_self, rfl⟩
        rcases List.mem_cons.mp member with rfl | member
        · exact later.1.trans first
        rcases List.mem_cons.mp member with rfl | member
        · exact later.2.trans first
        · exact latest ⟨stamp, List.mem_cons_of_mem _ member, rfl⟩

/-- `syncWait` answers for the file of a fence, if it has one. -/
def Fence.Awaits (fence : Fence) (files : SyncFiles) (syncWait : Int → SyncAnswer)
    (before : Nat) (timeout : Int) (after : Nat) : Prop :=
  fence.isValid = true →
    SyncWaits (files fence.fenceFd) before timeout (syncWait timeout) after

/-- What a fence says of the work that it came of. Only where a merge failed, it may say too early
that all is done. -/
structure Fence.TellsOf (fence : Fence) (files : SyncFiles) (joins : Joins SyncFile) : Prop where
  waits : joins.Granted → ∀ {syncWait before timeout after},
    fence.Awaits files syncWait before timeout after →
    fence.wait syncWait timeout = 0 → joins.total.Done after
  expires : ∀ {syncWait before timeout after},
    fence.Awaits files syncWait before timeout after →
    fence.wait syncWait timeout = -etime →
      ¬ joins.total.Done (before + timeout.toNat * 1000000)
  waitsForever : joins.Granted → ∀ {syncWait before middle after}, middle ≤ after →
    fence.Awaits files syncWait before 3000 middle →
    fence.Awaits files syncWait middle timeoutNever after →
    fence.waitForever syncWait = 0 → joins.total.Done after
  neverExpires : ∀ {syncWait before middle after},
    fence.Awaits files syncWait before 3000 middle →
    fence.Awaits files syncWait middle timeoutNever after →
    fence.waitForever syncWait ≠ -etime
  signaled : joins.Granted → ∀ {syncWait before after},
    fence.Awaits files syncWait before 0 after →
    fence.getStatus syncWait = .signaled → joins.total.Done after
  unsignaled : ∀ {syncWait before after}, fence.Awaits files syncWait before 0 after →
    fence.getStatus syncWait = .unsignaled → ¬ joins.total.Done before
  signalTime : joins.Granted → ∀ {now info},
    (fence.isValid = true → SyncDescribes (files fence.fenceFd) now info) →
    SignalTime joins.total now (fence.getSignalTime (some info))

section Answers

variable {fence : Fence} {files : SyncFiles} {joins : Joins SyncFile} {file : SyncFile}
  {answer : SyncAnswer} {before after : Nat} {timeout : Int}

theorem statusOf_eq_zero (zero : Fence.statusOf answer = 0) :
    0 ≤ answer.err ∨ answer.errno = 0 := by
  unfold Fence.statusOf at zero
  split at zero <;> omega

theorem statusOf_eq_etime (expired : Fence.statusOf answer = -etime) :
    answer.err < 0 ∧ answer.errno = etime := by
  unfold Fence.statusOf at expired
  split at expired
  next negative => exact ⟨negative, by omega⟩
  next => cases expired

theorem SyncWaits.done (waits : SyncWaits file before timeout answer after)
    (zero : Fence.statusOf answer = 0) : file.Done after := by
  have none := statusOf_eq_zero zero
  cases waits with
  | signaled succeeded done => exact done
  | expired => simp [etime] at none
  | failed error other => exact absurd none (by simp [error])

theorem SyncWaits.pending (waits : SyncWaits file before timeout answer after)
    (expired : Fence.statusOf answer = -etime) :
    0 ≤ timeout ∧ ¬ file.Done (before + timeout.toNat * 1000000) := by
  obtain ⟨negative, late⟩ := statusOf_eq_etime expired
  cases waits with
  | signaled succeeded done => exact absurd negative (not_lt.mpr succeeded)
  | expired bounded pending => exact ⟨bounded, pending⟩
  | failed error other => exact absurd late other

/-- What `sync_file_info` describes is what `getSignalTime` says. -/
theorem signalTime_of_describes {now : Nat} {info : SyncFileInfo} (valid : fence.fenceFd ≠ -1)
    (describes : SyncDescribes file now info) :
    SignalTime file now (fence.getSignalTime (some info)) := by
  unfold Fence.getSignalTime
  rw [if_neg valid]
  cases describes with
  | active pending => exact .pending pending
  | error done failed negative =>
      simp only [negative, if_true]
      rw [if_pos (by omega)]
      exact .failed done failed
  | @signaled timestamps last done succeeded latest shown =>
      simp only [ne_eq, not_true_eq_false, if_false]
      have greatest : IsGreatest {time | ∃ other ∈ (0 : BitVec 64) :: timestamps,
          time = other.toNat} last := by
        obtain ⟨⟨stamp, member, same⟩, late⟩ := shown
        refine ⟨⟨stamp, List.mem_cons_of_mem _ member, same⟩, ?_⟩
        rintro time ⟨other, member, rfl⟩
        rcases List.mem_cons.mp member with rfl | member
        · exact Nat.zero_le _
        · exact late ⟨other, member, rfl⟩
      refine .signaled done succeeded ?_
      rw [(latestTimestamp_isGreatest 0 timestamps).unique greatest]
      exact latest

/-- A fence with a descriptor tells of the file behind it. -/
theorem tells_of_file (came : files fence.fenceFd = joins.value) (valid : fence.isValid = true) :
    fence.TellsOf files joins := by
  have opens : fence.fenceFd ≠ -1 := Fence.isValid_iff.mp valid
  have below : files fence.fenceFd ≤ joins.total := came.trans_le joins.value_le_total
  have same (granted : joins.Granted) : files fence.fenceFd = joins.total :=
    came.trans (Joins.value_eq_total granted)
  exact {
    waits := by
      intro granted syncWait before timeout after awaits zero
      rw [Fence.wait, if_neg opens] at zero
      exact same granted ▸ (awaits valid).done zero
    expires := by
      intro syncWait before timeout after awaits expired done
      rw [Fence.wait, if_neg opens] at expired
      exact ((awaits valid).pending expired).2 (done.mono below)
    waitsForever := by
      intro granted syncWait before middle after later first second zero
      rw [Fence.waitForever, if_neg opens] at zero
      rw [← same granted]
      dsimp only at zero
      split at zero
      next => exact (second valid).done zero
      next => exact ((first valid).done zero).later later
    neverExpires := by
      intro syncWait before middle after first second expired
      rw [Fence.waitForever, if_neg opens] at expired
      dsimp only at expired
      split at expired
      next =>
        have bounded := ((second valid).pending expired).1
        exact absurd bounded (by decide)
      next finished => exact finished (statusOf_eq_etime expired)
    signaled := by
      intro granted syncWait before after awaits status
      rw [Fence.getStatus, Fence.wait, if_neg opens] at status
      split at status
      next zero => exact same granted ▸ (awaits valid).done zero
      next => split at status <;> cases status
    unsignaled := by
      intro syncWait before after awaits status done
      rw [Fence.getStatus, Fence.wait, if_neg opens] at status
      split at status
      next => cases status
      next =>
        split at status
        next expired => exact ((awaits valid).pending expired).2 (done.mono below)
        next => cases status
    signalTime := by
      intro granted now info describes
      exact same granted ▸ signalTime_of_describes opens (describes valid) }

/-- A fence without a descriptor tells that there is nothing to wait for. -/
theorem tells_of_none (came : joins.value = ∅) (invalid : fence.fenceFd = -1) :
    fence.TellsOf files joins := by
  have nothing (granted : joins.Granted) : joins.total = ∅ :=
    (Joins.value_eq_total granted).symm.trans came
  have done (granted : joins.Granted) (time : Nat) : joins.total.Done time :=
    nothing granted ▸ SyncFile.done_empty time
  exact {
    waits := fun granted _ _ _ _ _ _ => done granted _
    expires := by
      intro syncWait before timeout after awaits expired
      rw [Fence.wait, if_pos invalid] at expired
      cases expired
    waitsForever := fun granted _ _ _ _ _ _ _ _ => done granted _
    neverExpires := by
      intro syncWait before middle after first second expired
      rw [Fence.waitForever, if_pos invalid] at expired
      cases expired
    signaled := fun granted _ _ _ _ _ => done granted _
    unsignaled := by
      intro syncWait before after awaits status
      rw [Fence.getStatus, Fence.wait, if_pos invalid] at status
      cases status
    signalTime := by
      intro granted now info describes
      rw [Fence.getSignalTime, if_pos invalid]
      exact .nothing (nothing granted) }

end Answers

/-- In every run of a process, every fence that it still refers to tells of all the work that was
merged into it. -/
theorem merged_fences_tell (events : List FenceEvent) (reference : Nat) {fence : Fence}
    {joins : Joins SyncFile}
    (held : (fenceMachine.run .initial events).held.cells reference = some (fence, joins)) :
    fence.TellsOf (fenceMachine.run .initial events).files joins := by
  have sound := FenceProcess.Sound.run events
  have came := sound.told held
  cases valid : fence.isValid with
  | true => exact tells_of_file came valid
  | false =>
      refine tells_of_none ?_ (congrArg Fence.fenceFd (Fence.eq_noFence_of_invalid valid))
      rw [← came, Fence.files_of_invalid sound.closed valid]

/-- Two fences are merged and dropped, and the descriptor of the first is given out again. -/
def exampleFenceEvents : List FenceEvent :=
  [.adopt {⟨some 100, false⟩} (some 3), .adopt {⟨none, false⟩} (some 4),
    .merge 0 1 (some 5), .drop 0, .drop 1, .adopt {⟨some 7, false⟩} (some 3)]

theorem merged_fences_tell_example :
    (Fence.mk 5).TellsOf (fenceMachine.run .initial exampleFenceEvents).files
      (.joined (.given {⟨some 100, false⟩}) (.given {⟨none, false⟩})) :=
  merged_fences_tell exampleFenceEvents 2 rfl

end Arpi.Gralloc
