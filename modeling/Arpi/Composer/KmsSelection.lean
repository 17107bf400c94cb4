import Arpi.Composer.KmsContext
import Arpi.Semantics.Bits
import Mathlib.Data.List.Find

/-!
# What a connector is given

`init_with_connector` gives a connector the first CRTC that its encoder allows and that is
not marked as used, and the first primary plane that this CRTC allows. Here both are
described without the loops, and every call of `init_with_connector` is shown to refuse
the connector, or to fill in the output, with or without a plane.
-/

namespace Arpi.Composer

open Arpi.Gralloc Arpi.Semantics

/-- The encoder allows a CRTC that is not marked as used. -/
def isFree (possible used : BitVec 32) (i : Nat) : Bool := possible.getLsbD i && !used.getLsbD i

namespace Platform

variable (platform : Platform)

/-- The `possible_crtcs` of the encoder of a connector. -/
def possibleCrtcs (connector : Connector) : Option (BitVec 32) :=
  connector.encoders.head?.bind platform.drm.getEncoder

/-- The first CRTC that the encoder of a connector allows and that is not marked as used. -/
def freeCrtc (resources : DrmResources) (used : BitVec 32) (connector : Connector) :
    Option Nat :=
  (platform.possibleCrtcs connector).bind fun possible =>
    (List.range resources.crtcs.length).find? (isFree possible used)

/-- A plane is a primary plane that can be used on a CRTC. -/
structure ServesCrtc (i : Nat) (planeId : ObjectId) : Prop where
  usable : ∃ possible, platform.drm.getPlane planeId = some possible ∧ possible.getLsbD i = true
  primary : ∃ props, platform.drm.getObjectProperties planeId .plane = some props ∧
    platform.drm.getPropertyValue props "type" = some drmPlaneTypePrimary

/-- An existing primary plane for a CRTC. -/
def PrimaryPlane (planes : List ObjectId) (i : Nat) (planeId : ObjectId) : Prop :=
  planeId ∈ planes ∧ platform.ServesCrtc i planeId

/-- The mode is the generated one or a copy of a mode of the connector; `find_mode` may have
trimmed its clock. -/
def ModeOf (connector : Connector) (mode : ModeInfo) : Prop :=
  (∃ entry ∈ connector.modes, mode = entry.trimClock) ∨
    ((ModeRequest.ofProperties platform.properties).forcemode = true ∧
      mode = (platform.arithmetic.generateMode
        (ModeRequest.ofProperties platform.properties).xres
        (ModeRequest.ofProperties platform.properties).yres
        (ModeRequest.ofProperties platform.properties).rate).trimClock)

/-- The output has a CRTC that the encoder of the connector allows, a primary plane of this
CRTC and a mode of the connector. -/
structure Equipped (resources : DrmResources) (planes : List ObjectId) (connector : Connector)
    (output : KmsOutput) : Prop where
  crtc : resources.crtcs[output.pipe.toNat]? = some output.crtcId
  allowed : ∃ possible, platform.possibleCrtcs connector = some possible ∧
    possible.getLsbD output.pipe.toNat = true
  plane : platform.PrimaryPlane planes output.pipe.toNat output.planeId
  mode : platform.ModeOf connector output.mode

/-! ## The CRTC -/

section Crtc

variable {platform} {possible used : BitVec 32}

theorem crtcBit_eq_some {i : Nat} {mask : BitVec 32} (shifted : Drm.crtcBit i = some mask) :
    i < 32 ∧ mask = BitVec.twoPow 32 i := by
  unfold Drm.crtcBit at shifted
  split at shifted
  · rename_i inside
    exact ⟨inside, (Option.some.inj shifted).symm.trans (BitVec.twoPow_eq 32 i).symm⟩
  · cases shifted

/-- The loop over the CRTCs passes those that are not free, and ends at a free one or at the
end of the list. -/
theorem searchCrtc_outcome {crtcs : List ObjectId} {start found : Nat}
    (searched : Drm.searchCrtc possible used start crtcs = some found) :
    start ≤ found ∧ found ≤ start + crtcs.length ∧
      (∀ i, start ≤ i → i < found → isFree possible used i = false) ∧
      (found < start + crtcs.length → isFree possible used found = true) := by
  induction crtcs generalizing start with
  | nil =>
      obtain rfl := Option.some.inj searched
      refine ⟨le_rfl, by simp, fun i above below => by omega, fun inside => ?_⟩
      simp at inside
  | cons _ rest ih =>
      obtain ⟨mask, shifted, searched⟩ := Option.bind_eq_some_iff.mp searched
      obtain ⟨inside, rfl⟩ := crtcBit_eq_some shifted
      simp only [Bits.and_twoPow_ne_zero inside, Bits.and_twoPow_ne_twoPow inside] at searched
      by_cases free : possible.getLsbD start = true ∧ used.getLsbD start = false
      · rw [if_pos free] at searched
        obtain rfl := Option.some.inj searched
        refine ⟨le_rfl, by simp, fun i above below => by omega, fun _ => ?_⟩
        simp [isFree, free.1, free.2]
      · rw [if_neg free] at searched
        obtain ⟨above, below, passed, ends⟩ := ih searched
        simp only [List.length_cons]
        refine ⟨by omega, by omega, ?_, fun inside => ends (by omega)⟩
        intro i later earlier
        rcases Nat.eq_or_lt_of_le later with rfl | later
        · simpa [isFree] using free
        · exact passed i later earlier

/-- What the loop finds is the free CRTC; if it finds none, it returns their count. -/
theorem searchCrtc_find {crtcs : List ObjectId} {found : Nat}
    (searched : Drm.searchCrtc possible used 0 crtcs = some found) :
    found ≤ crtcs.length ∧
      (List.range crtcs.length).find? (isFree possible used) =
        if found < crtcs.length then some found else none := by
  obtain ⟨-, below, passed, ends⟩ := searchCrtc_outcome searched
  rw [Nat.zero_add] at below ends
  refine ⟨below, ?_⟩
  split
  · rename_i inside
    refine List.find?_range_eq_some.mpr ⟨ends inside, List.mem_range.mpr inside, ?_⟩
    intro i earlier
    rw [passed i (Nat.zero_le _) earlier]
    rfl
  · rename_i outside
    refine List.find?_range_eq_none.mpr fun i inside => ?_
    rw [passed i (Nat.zero_le _) (by omega)]
    rfl

/-- A free CRTC is one of the card that the encoder allows. -/
theorem allowed_of_freeCrtc {resources : DrmResources} {connector : Connector} {i : Nat}
    (free : platform.freeCrtc resources used connector = some i) :
    i < resources.crtcs.length ∧ ∃ possible, platform.possibleCrtcs connector = some possible ∧
      possible.getLsbD i = true ∧ used.getLsbD i = false := by
  obtain ⟨possible, encoder, found⟩ := Option.bind_eq_some_iff.mp free
  obtain ⟨clear, listed, -⟩ := List.find?_range_eq_some.mp found
  rw [isFree, Bool.and_eq_true, Bool.not_eq_true'] at clear
  exact ⟨List.mem_range.mp listed, possible, encoder, clear⟩

/-- Marks beyond the last CRTC make no difference. -/
theorem freeCrtc_congr {resources : DrmResources} {first second : BitVec 32}
    (agree : ∀ i < resources.crtcs.length, first.getLsbD i = second.getLsbD i)
    (connector : Connector) :
    platform.freeCrtc resources first connector =
      platform.freeCrtc resources second connector := by
  unfold freeCrtc
  congr 1
  ext possible : 1
  refine List.find?_congr fun i listed => ?_
  rw [isFree, isFree, agree i (List.mem_range.mp listed)]

end Crtc

/-! ## The plane -/

section Plane

variable {platform} {planes rest : List ObjectId} {i : Nat}

/-- How the loop over the planes ends, whatever output it is given: it writes a primary plane
of the CRTC, or there is none. -/
def PlaneSearch (platform : Platform) (i : Nat) (planes : List ObjectId)
    (search : KmsOutput → Option KmsOutput) : Prop :=
  (∃ planeId propFbId propCrtcId, platform.PrimaryPlane planes i planeId ∧
      ∀ output, search output = some { output with planeId, propFbId, propCrtcId }) ∨
    (∀ planeId, ¬ platform.PrimaryPlane planes i planeId) ∧ ∀ output, search output = some output

/-- A plane that does not serve the CRTC is passed over. -/
theorem PlaneSearch.pass {head : ObjectId} (unfit : ¬ platform.ServesCrtc i head)
    {search : KmsOutput → Option KmsOutput} (ends : PlaneSearch platform i rest search) :
    PlaneSearch platform i (head :: rest) search := by
  rcases ends with ⟨planeId, propFbId, propCrtcId, ⟨listed, serves⟩, writes⟩ | ⟨missing, keeps⟩
  · exact .inl ⟨planeId, propFbId, propCrtcId, ⟨List.mem_cons_of_mem _ listed, serves⟩, writes⟩
  · refine .inr ⟨?_, keeps⟩
    rintro planeId ⟨listed, serves⟩
    rcases List.mem_cons.mp listed with rfl | later
    · exact unfit serves
    · exact missing planeId ⟨later, serves⟩

/-- One round of the loop over the planes, when the loop has a result: a plane that serves the
CRTC ends it, and any other is passed over. -/
theorem findPrimaryPlane_cons (inside : i < 32) {head : ObjectId} {output after : KmsOutput}
    (searched : platform.drm.findPrimaryPlane (BitVec.twoPow 32 i) output (head :: rest) =
      some after) :
    (platform.ServesCrtc i head ∧ ∃ propFbId propCrtcId, ∀ output,
        platform.drm.findPrimaryPlane (BitVec.twoPow 32 i) output (head :: rest) =
          some { output with planeId := head, propFbId, propCrtcId }) ∨
      (¬ platform.ServesCrtc i head ∧ ∀ output,
        platform.drm.findPrimaryPlane (BitVec.twoPow 32 i) output (head :: rest) =
          platform.drm.findPrimaryPlane (BitVec.twoPow 32 i) output rest) := by
  cases fetched : platform.drm.getPlane head with
  | none =>
      simp only [Drm.findPrimaryPlane, fetched]
      refine .inr ⟨fun serves => ?_, fun _ => trivial⟩
      obtain ⟨possible, present, -⟩ := serves.usable
      rw [fetched] at present
      cases present
  | some possible =>
      have test : possible &&& BitVec.twoPow 32 i ≠ 0 ↔ possible.getLsbD i = true :=
        Bits.and_twoPow_ne_zero inside
      by_cases usable : possible.getLsbD i = true
      case neg =>
        simp only [Drm.findPrimaryPlane, fetched, if_neg (test.not.mpr usable)]
        refine .inr ⟨fun serves => ?_, fun _ => trivial⟩
        obtain ⟨other, present, allowed⟩ := serves.usable
        rw [fetched] at present
        cases present
        exact usable allowed
      simp only [Drm.findPrimaryPlane, fetched, if_pos (test.mpr usable)] at searched ⊢
      obtain ⟨props, described, searched⟩ := Option.bind_eq_some_iff.mp searched
      obtain ⟨type, typed, searched⟩ := Option.bind_eq_some_iff.mp searched
      simp only [described, typed, Option.bind_some]
      by_cases primary : type = drmPlaneTypePrimary
      · simp only [if_pos primary] at searched ⊢
        obtain ⟨propFbId, framebuffer, searched⟩ := Option.bind_eq_some_iff.mp searched
        obtain ⟨propCrtcId, crtc, -⟩ := Option.bind_eq_some_iff.mp searched
        simp only [framebuffer, crtc, Option.bind_some]
        subst primary
        exact .inl ⟨⟨⟨possible, fetched, usable⟩, props, described, typed⟩, propFbId, propCrtcId,
          fun _ => rfl⟩
      · simp only [if_neg primary]
        refine .inr ⟨fun serves => ?_, fun _ => trivial⟩
        obtain ⟨others, present, value⟩ := serves.primary
        rw [described] at present
        cases present
        rw [typed] at value
        exact primary (Option.some.inj value)

/-- If the loop over the planes has a result for one output, it has one for every output. -/
theorem findPrimaryPlane_search (inside : i < 32) {output after : KmsOutput}
    (searched : platform.drm.findPrimaryPlane (BitVec.twoPow 32 i) output planes = some after) :
    PlaneSearch platform i planes fun output =>
      platform.drm.findPrimaryPlane (BitVec.twoPow 32 i) output planes := by
  induction planes with
  | nil =>
      refine .inr ⟨?_, fun _ => rfl⟩
      rintro planeId ⟨listed, -⟩
      cases listed
  | cons head rest ih =>
      rcases findPrimaryPlane_cons inside searched with
        ⟨serves, propFbId, propCrtcId, writes⟩ | ⟨unfit, passes⟩
      · exact .inl ⟨head, propFbId, propCrtcId, ⟨List.mem_cons_self, serves⟩, writes⟩
      · rw [passes] at searched
        simpa only [passes] using (ih searched).pass unfit

end Plane

/-! ## The whole attempt -/

section Attempt

variable {resources : DrmResources} {planes : List ObjectId} {connector : Connector}

/-- A call of `init_with_connector` on the connector returns 0 and leaves this in the output
whatever the output held before, except that it does not touch `active`. -/
def CompletelyInitialised (resources : DrmResources) (planes : List ObjectId)
    (connector : Connector) (output : KmsOutput) : Prop :=
  ∃ used after, ∀ prior : KmsOutput,
    platform.initWithConnector resources planes used prior connector =
      some ⟨0, after, { output with active := prior.active }⟩

/-- What a call of `init_with_connector` does: it refuses the connector and marks at most a
CRTC that does not exist, or it gives it the free CRTC, with or without a primary plane. -/
inductive AttemptOutcome (resources : DrmResources) (planes : List ObjectId)
    (used : BitVec 32) (connector : Connector) (output : KmsOutput) : InitAttempt → Prop
  | refused {after : BitVec 32} (nothing : platform.freeCrtc resources used connector = none)
      (agree : ∀ i < resources.crtcs.length, after.getLsbD i = used.getLsbD i) :
      AttemptOutcome resources planes used connector output ⟨-einval, after, output⟩
  | planeless {i : Nat} {filled : KmsOutput}
      (free : platform.freeCrtc resources used connector = some i)
      (missing : ∀ planeId, ¬ platform.PrimaryPlane planes i planeId)
      (pipe : filled.pipe.toNat = i) :
      AttemptOutcome resources planes used connector output
        ⟨0, used ||| BitVec.twoPow 32 i, filled⟩
  | equipped {i : Nat} {filled : KmsOutput}
      (free : platform.freeCrtc resources used connector = some i)
      (plane : ∃ planeId, platform.PrimaryPlane planes i planeId)
      (equipped : platform.Equipped resources planes connector filled)
      (complete : platform.CompletelyInitialised resources planes connector filled) :
      AttemptOutcome resources planes used connector output
        ⟨0, used ||| BitVec.twoPow 32 i, filled⟩

variable {platform} {used : BitVec 32} {output : KmsOutput} {attempt : InitAttempt}

/-- What a call of `init_with_connector` has found where it gives the connector the CRTC at a
position: all that it answers comes from it and from the search for a plane. -/
structure AttemptFindings (platform : Platform) (resources : DrmResources)
    (planes : List ObjectId) (used : BitVec 32) (connector : Connector) (i : Nat)
    (crtc propOutFence : ObjectId) (mode : ModeInfo) : Prop where
  inside : i < 32
  free : platform.freeCrtc resources used connector = some i
  listed : resources.crtcs[i]? = some crtc
  chosen : findMode platform.arithmetic platform.properties connector.modes = some mode
  answers : ∀ output placed : KmsOutput,
    platform.drm.findPrimaryPlane (BitVec.twoPow 32 i) { output with planeId := 0 } planes =
        some placed →
      platform.initWithConnector resources planes used output connector =
        some ⟨0, used ||| BitVec.twoPow 32 i,
          platform.complete connector i crtc propOutFence mode placed⟩

/-- A call of `init_with_connector` that has a result either refuses the connector, which
marks at most a CRTC that does not exist, or completes the output from its findings. -/
theorem initWithConnector_cases
    (attempted : platform.initWithConnector resources planes used output connector =
      some attempt) :
    (∃ after, attempt = ⟨-einval, after, output⟩ ∧
      platform.freeCrtc resources used connector = none ∧
      ∀ i < resources.crtcs.length, after.getLsbD i = used.getLsbD i) ∨
    ∃ i crtc propOutFence mode placed,
      attempt = ⟨0, used ||| BitVec.twoPow 32 i,
        platform.complete connector i crtc propOutFence mode placed⟩ ∧
      platform.drm.findPrimaryPlane (BitVec.twoPow 32 i) { output with planeId := 0 } planes =
        some placed ∧
      AttemptFindings platform resources planes used connector i crtc propOutFence mode := by
  obtain ⟨encoder, first, attempted⟩ := Option.bind_eq_some_iff.mp attempted
  cases fetched : platform.drm.getEncoder encoder with
  | none =>
      rw [fetched] at attempted
      obtain rfl := Option.some.inj attempted
      refine .inl ⟨used, rfl, ?_, fun _ _ => rfl⟩
      simp [freeCrtc, possibleCrtcs, first, fetched]
  | some possible =>
      have encoder : platform.possibleCrtcs connector = some possible := by
        simp [possibleCrtcs, first, fetched]
      rw [fetched] at attempted
      obtain ⟨i, searched, attempted⟩ := Option.bind_eq_some_iff.mp attempted
      obtain ⟨mask, shifted, attempted⟩ := Option.bind_eq_some_iff.mp attempted
      obtain ⟨inside, rfl⟩ := crtcBit_eq_some shifted
      obtain ⟨below, found⟩ := searchCrtc_find searched
      have free : platform.freeCrtc resources used connector =
          if i < resources.crtcs.length then some i else none := by
        rw [freeCrtc, encoder, Option.bind_some, found]
      cases listed : resources.crtcs[i]? with
      | none =>
          have outside := List.getElem?_eq_none_iff.mp listed
          rw [listed] at attempted
          obtain rfl := Option.some.inj attempted
          refine .inl ⟨_, rfl, free.trans (if_neg (by omega)), fun other inside' => ?_⟩
          rw [Bits.getLsbD_or_twoPow inside]
          simp only [show i ≠ other by omega, decide_false, Bool.or_false]
      | some crtc =>
          rw [if_pos (List.getElem?_eq_some_iff.mp listed).1] at free
          rw [listed] at attempted
          obtain ⟨placed, planed, attempted⟩ := Option.bind_eq_some_iff.mp attempted
          obtain ⟨props, described, attempted⟩ := Option.bind_eq_some_iff.mp attempted
          obtain ⟨propOutFence, fence, attempted⟩ := Option.bind_eq_some_iff.mp attempted
          obtain ⟨mode, chosen, attempted⟩ := Option.bind_eq_some_iff.mp attempted
          obtain rfl := Option.some.inj attempted
          refine .inr ⟨i, crtc, propOutFence, mode, placed, rfl, planed,
            ⟨inside, free, listed, chosen, fun prior placed planed => ?_⟩⟩
          simp only [initWithConnector, first, Option.bind_some, fetched, searched, shifted,
            listed, planed, described, fence, chosen]

/-- The pipe of a completed output is the position of its CRTC. -/
theorem AttemptFindings.pipe {i : Nat} {crtc propOutFence : ObjectId} {mode : ModeInfo}
    (findings : AttemptFindings platform resources planes used connector i crtc propOutFence mode)
    (placed : KmsOutput) :
    (platform.complete connector i crtc propOutFence mode placed).pipe.toNat = i := by
  have inside := findings.inside
  simp [complete]
  omega

/-- Every call of `init_with_connector` that has a result has one of these outcomes. -/
theorem initWithConnector_outcome
    (attempted : platform.initWithConnector resources planes used output connector =
      some attempt) :
    platform.AttemptOutcome resources planes used connector output attempt := by
  rcases initWithConnector_cases attempted with
    ⟨after, rfl, nothing, agree⟩ |
      ⟨i, crtc, propOutFence, mode, placed, rfl, planed, findings⟩
  · exact .refused nothing agree
  · have pipe := findings.pipe placed
    rcases findPrimaryPlane_search findings.inside planed with
      ⟨planeId, propFbId, propCrtcId, primary, writes⟩ | ⟨missing, -⟩
    · obtain rfl := Option.some.inj (planed.symm.trans (writes _))
      obtain ⟨-, granted, granting, allowed, -⟩ := allowed_of_freeCrtc findings.free
      refine .equipped findings.free ⟨planeId, primary⟩ ?_ ?_
      · refine ⟨?_, ?_, ?_, findMode_source findings.chosen⟩
        · rw [pipe]
          exact findings.listed
        · rw [pipe]
          exact ⟨granted, granting, allowed⟩
        · rw [pipe]
          exact primary
      · exact ⟨used, used ||| BitVec.twoPow 32 i, fun prior =>
          findings.answers prior _ (writes _)⟩
    · exact .planeless findings.free missing pipe

end Attempt

end Platform

end Arpi.Composer
