import Arpi.Composer.HwcPost
import Arpi.Composer.KmsInitialisation
import Arpi.Semantics.History
import Arpi.Semantics.Interleaving

/-!
# The mode before the flip

A page flip needs a CRTC whose mode was set. `hwc_post` keeps a flag for each output; here
the flags are compared with what the kernel has seen, the calls of all posts so far and
how they ended.
-/

namespace Arpi.Composer

open Arpi.Gralloc Arpi.Semantics

/-- A mode set of an output that succeeded. -/
def ShowCall.SetsMode (name : OutputName) : ShowCall → Prop
  | .setCrtc output _ _ _ _ code => output = name ∧ code = 0
  | .atomicCommit .. => False

/-- A flip on an output that failed, and not because the CRTC was busy. -/
def ShowCall.LosesMode (name : OutputName) : ShowCall → Prop
  | .setCrtc .. => False
  | .atomicCommit output _ _ _ code errno => output = name ∧ code < 0 ∧ errno ≠ ebusy

/-- A flip on an output, however it ends. -/
def ShowCall.Flips (name : OutputName) : ShowCall → Prop
  | .setCrtc .. => False
  | .atomicCommit output .. => output = name

/-- A flip that succeeded. -/
def ShowCall.Flipped : ShowCall → Prop
  | .setCrtc .. => False
  | .atomicCommit _ _ _ _ code _ => 0 ≤ code

/-- A mode set on an output, however it ends. -/
def ShowCall.TriesMode (name : OutputName) : ShowCall → Prop
  | .setCrtc output .. => output = name
  | .atomicCommit .. => False

/-- The mode of an output was set, and no flip on it has lost it since. -/
def ModeSet (history : List ShowCall) (name : OutputName) : Prop :=
  Since (ShowCall.LosesMode name) (fun call _ => call.SetsMode name) history

/-- The calls that the posts of a run have made, oldest first. -/
def trackShown (state : PostState) (history : List ShowCall) (call : PostCall) : List ShowCall :=
  history ++ (hwcPost call.answers call.display call.buffer call.outFence state).shown

/-- The caller of a post has no fence yet, and the kernel leaves none for a commit that
fails. -/
def FenceContract (call : PostCall) : Prop :=
  call.outFence = -1 ∧ (call.answers.atomicCommit < 0 → call.answers.outFence = some (-1))

/-- What a post owes to the outputs: it flips only an output whose mode is set, and sets the
mode of its output otherwise; it changes nothing for the other output; and the fence that it
hands out is that of a flip. -/
structure PostOrdered (state : PostState) (history : List ShowCall) (call : PostCall)
    (result : PostResult) : Prop where
  flips : ∀ name, ∀ shown ∈ result.shown, shown.Flips name → ModeSet history name
  sets : ∀ name, Shows state call name → ¬ ModeSet history name →
    ∃ shown ∈ result.shown, shown.TriesMode name
  others : ∀ name, displayOutput call.display ≠ some name →
    (ModeSet (history ++ result.shown) name ↔ ModeSet history name)
  fence : FenceContract call → 0 ≤ result.posted.retireFence →
    ∃ shown ∈ result.shown, shown.Flipped

/-- A post of a run is ordered. The mode is owed only by posts that get a framebuffer, on one of
the two displays: the others make no call. The part about the fence is for callers that pass a
fence of -1, as the device does. -/
def StepOrdered (ledger : PostState × List ShowCall) (call : PostCall) : Prop :=
  PostOrdered ledger.1 ledger.2 call
    (hwcPost call.answers call.display call.buffer call.outFence ledger.1)

/-- The flags say which modes are not set. -/
def FlagsRight (state : PostState) (history : List ShowCall) : Prop :=
  ∀ name, state.context.firstPostOf name = 0 ↔ ModeSet history name

section Histories

variable {history : List ShowCall} {name : OutputName}

/-- One more call on an output. -/
theorem modeSet_append_iff (shown : ShowCall) :
    ModeSet (history ++ [shown]) name ↔
      shown.SetsMode name ∨ ¬ shown.LosesMode name ∧ ModeSet history name :=
  Since.append_iff

/-- A call on one output says nothing about the other. -/
theorem modeSet_append_of_other {shown : ShowCall} (sets : ¬ shown.SetsMode name)
    (keeps : ¬ shown.LosesMode name) :
    ModeSet (history ++ [shown]) name ↔ ModeSet history name := by
  rw [modeSet_append_iff]
  tauto

end Histories

section Steps

variable {state : PostState} {history : List ShowCall} {call : PostCall} {name : OutputName}
  {fbId : ObjectId} {result : PostResult}

/-- The flags and the history move together in what a post does on its output. -/
theorem FlagsRight.output (flags : FlagsRight state history)
    (outcome : OutputOutcome state call.answers name fbId call.outFence result) :
    FlagsRight result.state (history ++ result.shown) := by
  intro other
  have before := flags other
  cases outcome with
  | modeSet armed =>
      rw [modeSet_append_iff, ← before]
      dsimp only [ShowCall.SetsMode, ShowCall.LosesMode]
      by_cases succeeded : call.answers.setCrtc = 0
      · rw [if_pos succeeded]
        by_cases here : other = name
        · subst here
          simp [succeeded]
        · rw [KmsContext.setFirstPost_of_ne here]
          simp [Ne.symm here]
      · rw [if_neg succeeded]
        simp [succeeded]
  | committed unarmed succeeded =>
      rw [modeSet_append_iff, ← before]
      dsimp only [ShowCall.SetsMode, ShowCall.LosesMode]
      simp [Int.not_lt.mpr succeeded]
  | failed unarmed failed =>
      rw [modeSet_append_iff, ← before]
      dsimp only [ShowCall.SetsMode, ShowCall.LosesMode]
      by_cases busy : call.answers.errno ≠ ebusy
      · rw [if_pos busy]
        by_cases here : other = name
        · subst here
          simp [failed, busy]
        · rw [KmsContext.setFirstPost_of_ne here]
          simp [Ne.symm here]
      · rw [if_neg busy]
        simp [busy]

/-- A mode set is ordered whatever the flags say. -/
theorem PostOrdered.of_modeSet (shows : displayOutput call.display = some name)
    {crtcId connectorId : ObjectId} {mode : ModeInfo} {code : Int} {after : PostState} :
    PostOrdered state history call
      ⟨⟨code, -1⟩, [.setCrtc name crtcId fbId connectorId mode code], after⟩ where
  flips other shown member flips := by
    rw [List.mem_singleton.mp member] at flips
    exact flips.elim
  sets other showsOther _ :=
    ⟨_, List.mem_singleton.mpr rfl, Option.some.inj (shows.symm.trans showsOther.display)⟩
  others other different := by
    have apart : name ≠ other := fun same => different (same ▸ shows)
    exact modeSet_append_of_other (fun sets => apart sets.1) (fun loses => loses)
  fence _ nonnegative := absurd nonnegative (show ¬ (0 : Int) ≤ -1 by decide)

/-- A flip is ordered when the mode is set and a fence means success. -/
theorem PostOrdered.of_flip (shows : displayOutput call.display = some name)
    (ready : ModeSet history name) {crtcId planeId : ObjectId} {code errno : Int} {posted : Posted}
    {after : PostState}
    (fence : FenceContract call → 0 ≤ posted.retireFence → 0 ≤ code) :
    PostOrdered state history call
      ⟨posted, [.atomicCommit name crtcId planeId fbId code errno], after⟩ where
  flips other shown member flips := by
    rw [List.mem_singleton.mp member] at flips
    obtain rfl : name = other := flips
    exact ready
  sets other showsOther unset := by
    obtain rfl : name = other := Option.some.inj (shows.symm.trans showsOther.display)
    exact absurd ready unset
  others other different := by
    have apart : name ≠ other := fun same => different (same ▸ shows)
    exact modeSet_append_of_other (fun sets => sets) (fun loses => apart loses.1)
  fence contract nonnegative :=
    ⟨_, List.mem_singleton.mpr rfl, fence contract nonnegative⟩

/-- What a post does on its output is ordered when the flags are right. -/
theorem OutputOutcome.ordered {framed : PostState} (flags : FlagsRight framed history)
    (shows : displayOutput call.display = some name)
    (outcome : OutputOutcome framed call.answers name fbId call.outFence result) :
    PostOrdered state history call result := by
  cases outcome with
  | modeSet armed => exact .of_modeSet shows
  | committed unarmed succeeded =>
      exact .of_flip shows ((flags name).mp unarmed) fun _ _ => succeeded
  | failed unarmed failed =>
      refine .of_flip shows ((flags name).mp unarmed) fun contract nonnegative => ?_
      rw [contract.2 failed] at nonnegative
      exact absurd nonnegative (show ¬ (0 : Int) ≤ -1 by decide)

/-- A post that shows nothing is ordered. -/
theorem PostOrdered.of_refused (why : ∀ name, ¬ Shows state call name) {code : Int}
    {after : PostState} : PostOrdered state history call ⟨⟨code, call.outFence⟩, [], after⟩ where
  flips _ shown member := absurd member (List.not_mem_nil)
  sets other showsOther := absurd showsOther (why other)
  others other _ := by rw [List.append_nil]
  fence contract nonnegative := by
    rw [contract.1] at nonnegative
    exact absurd nonnegative (show ¬ (0 : Int) ≤ -1 by decide)

/-- With right flags a post is ordered, and it leaves them right. -/
theorem FlagsRight.post (flags : FlagsRight state history) (call : PostCall) :
    let result := hwcPost call.answers call.display call.buffer call.outFence state
    PostOrdered state history call result ∧
      FlagsRight result.state (history ++ result.shown) := by
  intro result
  have outcome : PostOutcome state call result := hwcPost_outcome state call
  have framed : FlagsRight (framedState state call) history := by
    intro name
    rw [framedState_context]
    exact flags name
  clear_value result
  cases outcome with
  | refused why failed kept =>
      refine ⟨.of_refused why, ?_⟩
      rw [List.append_nil]
      rcases kept with rfl | rfl
      · exact flags
      · exact framed
  | shown name shows =>
      have branch := postOutput_outcome (framedState state call) call.answers name shows.nonnull
        call.outFence
      exact ⟨branch.ordered framed shows.display, framed.output branch⟩

end Steps

/-- An initialisation that succeeds has both outputs set their modes first. -/
theorem firstPostOf_of_initKms {platform : Platform} {used : BitVec 32} {context : KmsContext}
    {state : InitState} (returned : platform.initKms used context = some ⟨0, state⟩)
    (name : OutputName) : state.context.firstPostOf name = 1 := by
  obtain ⟨resources, planes, after, -, -, -, ended⟩ := Platform.initKms_cases returned
  rcases ended with ⟨-, rfl⟩ | ⟨-, result, -, -, rfl⟩ <;> cases name <;> rfl

/-- After a successful initialisation, in any sequence of posts and whatever the kernel
answers: a flip is committed only on an output whose mode was set and not lost since, the
mode is set otherwise, no post changes this for the other output, and a fence is handed out
only after a flip that succeeded. -/
theorem modeSet_before_flip (platform : Platform) (used : BitVec 32) (context : KmsContext)
    (state : InitState) (returned : platform.initKms used context = some ⟨0, state⟩)
    (memory : BufferHandle → PrivateHandle) (framebuffers : ObjectId → Option Framebuffer)
    (calls : List PostCall) :
    (postMachine.monitored trackShown).EachStep StepOrdered
      (⟨state.context, memory, framebuffers⟩, []) calls := by
  let invariant (ledger : PostState × List ShowCall) : Prop := FlagsRight ledger.1 ledger.2
  have start : invariant (⟨state.context, memory, framebuffers⟩, []) := by
    intro name
    refine iff_of_false ?_ Since.not_nil
    rw [firstPostOf_of_initKms returned name]
    decide
  exact (postMachine.monitored trackShown).eachStep_of_invariant
    (fun ledger call (flags : invariant ledger) => (flags.post call).2)
    (fun ledger call (flags : invariant ledger) => (flags.post call).1) start calls

/-- A card with two outputs is initialised, and a buffer is posted on the first of them
twice: a mode set and then a flip. -/
theorem modeSet_before_flip_example :
    ∃ state : InitState, (Platform.exampleCard [1, 2]).initKms 0 Platform.zeroedContext =
        some ⟨0, state⟩ ∧
      (postMachine.monitored trackShown).EachStep StepOrdered
        (⟨state.context, fun _ => PrivateHandle.new 5464 1366 768 halPixelFormatRgba8888 0x1A00,
          fun _ => none⟩, [])
        [⟨0, 1, -1, ⟨(0, 3), (0, 7), 0, 0, 0, some 20⟩⟩,
          ⟨0, 1, -1, ⟨(0, 3), (0, 8), 0, 0, 0, some 20⟩⟩] := by
  obtain ⟨state, returned⟩ : ∃ state,
      (Platform.exampleCard [1, 2]).initKms 0 Platform.zeroedContext = some ⟨0, state⟩ := ⟨_, rfl⟩
  exact ⟨state, returned, modeSet_before_flip (Platform.exampleCard [1, 2]) 0
    Platform.zeroedContext state returned
    (fun _ => PrivateHandle.new 5464 1366 768 halPixelFormatRgba8888 0x1A00) (fun _ => none) _⟩

end Arpi.Composer
