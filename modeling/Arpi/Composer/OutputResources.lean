import Arpi.Composer.KmsInitialisation

/-!
# The hardware behind two outputs

A CRTC that a connector was given is marked, and the next connector gets another one. No
mark is kept for planes: each output takes the first primary plane that its CRTC allows,
and a plane that two CRTCs allow can be taken twice.
-/

namespace Arpi.Composer

open Arpi.Gralloc Arpi.Semantics

namespace Platform

variable (platform : Platform)

/-- The first plane of a list that serves a CRTC. -/
inductive FirstPrimaryPlane (i : Nat) : List ObjectId → ObjectId → Prop where
  | here {planeId : ObjectId} {rest : List ObjectId} (serves : platform.ServesCrtc i planeId) :
      FirstPrimaryPlane i (planeId :: rest) planeId
  | later {head planeId : ObjectId} {rest : List ObjectId}
      (unfit : ¬ platform.ServesCrtc i head) (first : FirstPrimaryPlane i rest planeId) :
      FirstPrimaryPlane i (head :: rest) planeId

/-- What the kernel says of a card: objects have ids of their own, none of which is zero, and
a connector is described under its id. -/
structure CardContract (resources : DrmResources) (planes : List ObjectId) : Prop where
  crtcs : resources.crtcs.Nodup
  connectors : resources.connectors.Nodup
  described : ∀ id connector, platform.drm.getConnector id = some connector →
    connector.connectorId = id
  nonzero : 0 ∉ planes

/-- The CRTC of an output is one that the encoder of its connector allows, and its plane is
one that this CRTC allows. -/
structure HardwareAllowed (resources : DrmResources) (planes : List ObjectId)
    (connector : Connector) (output : KmsOutput) : Prop where
  listed : resources.crtcs[output.pipe.toNat]? = some output.crtcId
  crtc : ∃ possible, platform.possibleCrtcs connector = some possible ∧
    possible.getLsbD output.pipe.toNat = true
  plane : output.planeId ∈ planes ∧ ∃ possible,
    platform.drm.getPlane output.planeId = some possible ∧
      possible.getLsbD output.pipe.toNat = true

/-- Two outputs have allowed hardware and share none of it. -/
structure HardwareApart (resources : DrmResources) (planes : List ObjectId)
    (primary secondary : Connector) (first second : KmsOutput) : Prop where
  connector : first.connectorId ≠ second.connectorId
  crtc : first.crtcId ≠ second.crtcId
  plane : first.planeId ≠ second.planeId
  primary : platform.HardwareAllowed resources planes primary first
  secondary : platform.HardwareAllowed resources planes secondary second

/-- The CRTCs that two connectors get, one after the other, have primary planes, and the
first ones of the two differ. -/
def PlanesApart (resources : DrmResources) (planes : List ObjectId) (used : BitVec 32)
    (primary secondary : Connector) : Prop :=
  ∃ i j first second, platform.freeCrtc resources used primary = some i ∧
    platform.freeCrtc resources (used ||| BitVec.twoPow 32 i) secondary = some j ∧
    platform.FirstPrimaryPlane i planes first ∧ platform.FirstPrimaryPlane j planes second ∧
    first ≠ second

/-- Calls of `init_with_connector` that all returned an error, with `used_crtcs` before the
first and after the last. -/
inductive FailedAttempts (resources : DrmResources) (planes : List ObjectId) :
    BitVec 32 → BitVec 32 → Prop where
  | none {used : BitVec 32} : FailedAttempts resources planes used used
  | more {used after : BitVec 32} {output : KmsOutput} {connector : Connector}
      {attempt : InitAttempt}
      (attempted : platform.initWithConnector resources planes used output connector =
        some attempt)
      (failed : attempt.code ≠ 0) (rest : FailedAttempts resources planes attempt.used after) :
      FailedAttempts resources planes used after

section Planes

variable {platform} {i : Nat} {planes : List ObjectId}

theorem FirstPrimaryPlane.primaryPlane {planeId : ObjectId}
    (first : platform.FirstPrimaryPlane i planes planeId) :
    platform.PrimaryPlane planes i planeId := by
  induction first with
  | here serves => exact ⟨List.mem_cons_self, serves⟩
  | later unfit first ih => exact ⟨List.mem_cons_of_mem _ ih.1, ih.2⟩

theorem FirstPrimaryPlane.unique {left right : ObjectId}
    (first : platform.FirstPrimaryPlane i planes left)
    (other : platform.FirstPrimaryPlane i planes right) : left = right := by
  induction first with
  | here serves =>
      cases other with
      | here serves => rfl
      | later unfit other => exact absurd serves unfit
  | later unfit first ih =>
      cases other with
      | here serves => exact absurd serves unfit
      | later unfit other => exact ih other

/-- The loop over the planes writes the first that serves the CRTC, if there is one. -/
theorem findPrimaryPlane_first (inside : i < 32) {output after : KmsOutput}
    (searched : platform.drm.findPrimaryPlane (BitVec.twoPow 32 i) output planes = some after) :
    platform.FirstPrimaryPlane i planes after.planeId ∨
      (∀ planeId, ¬ platform.FirstPrimaryPlane i planes planeId) ∧ after = output := by
  induction planes with
  | nil =>
      refine .inr ⟨fun planeId first => ?_, (Option.some.inj searched).symm⟩
      cases first
  | cons head rest ih =>
      rcases findPrimaryPlane_cons inside searched with
        ⟨serves, propFbId, propCrtcId, writes⟩ | ⟨unfit, passes⟩
      · rw [writes] at searched
        obtain rfl := Option.some.inj searched
        exact .inl (.here serves)
      · rw [passes] at searched
        rcases ih searched with first | ⟨missing, kept⟩
        · exact .inl (.later unfit first)
        · refine .inr ⟨fun planeId first => ?_, kept⟩
          cases first with
          | here serves => exact unfit serves
          | later unfit first => exact missing planeId first

end Planes

/-! ## One output -/

section Attempts

variable {platform} {resources : DrmResources} {planes : List ObjectId} {used : BitVec 32}
  {connector : Connector}

/-- What a successful call of `init_with_connector` writes: the CRTC that was free, and the
first primary plane of the CRTC or zero. -/
structure Written (platform : Platform) (resources : DrmResources) (planes : List ObjectId)
    (used : BitVec 32) (connector : Connector) (i : Nat) (output : KmsOutput) : Prop where
  free : platform.freeCrtc resources used connector = some i
  connectorId : output.connectorId = connector.connectorId
  pipe : output.pipe.toNat = i
  crtc : resources.crtcs[i]? = some output.crtcId
  plane : platform.FirstPrimaryPlane i planes output.planeId ∨
    (∀ planeId, ¬ platform.FirstPrimaryPlane i planes planeId) ∧ output.planeId = 0

/-- The specification of a call of `init_with_connector` that returns 0. -/
theorem initWithConnector_written {output filled : KmsOutput} {after : BitVec 32}
    (attempted : platform.initWithConnector resources planes used output connector =
      some ⟨0, after, filled⟩) :
    ∃ i, Written platform resources planes used connector i filled ∧
      after = used ||| BitVec.twoPow 32 i := by
  rcases initWithConnector_cases attempted with
    ⟨_, answered, -⟩ | ⟨i, crtc, propOutFence, mode, placed, answered, planed, findings⟩
  · have code := congrArg InitAttempt.code answered
    exact absurd code (show (0 : Int) ≠ -einval by decide)
  · cases answered
    refine ⟨i, ⟨findings.free, rfl, findings.pipe placed, findings.listed, ?_⟩, rfl⟩
    rcases findPrimaryPlane_first findings.inside planed with found | ⟨missing, kept⟩
    · exact .inl found
    · exact .inr ⟨missing, by rw [kept]; rfl⟩

/-- A call that returns an error leaves every CRTC of the card as free as it was. -/
theorem agree_of_failed {output : KmsOutput} {attempt : InitAttempt}
    (attempted : platform.initWithConnector resources planes used output connector =
      some attempt) (failed : attempt.code ≠ 0) :
    ∀ i < resources.crtcs.length, attempt.used.getLsbD i = used.getLsbD i := by
  cases initWithConnector_outcome attempted with
  | refused nothing agree => exact agree
  | planeless => exact absurd rfl failed
  | equipped => exact absurd rfl failed

/-- So do any number of calls that return errors. -/
theorem FailedAttempts.agree {before after : BitVec 32}
    (attempts : platform.FailedAttempts resources planes before after) :
    ∀ i < resources.crtcs.length, after.getLsbD i = before.getLsbD i := by
  induction attempts with
  | none => exact fun _ _ => rfl
  | more attempted failed rest ih =>
      exact fun i inside => (ih i inside).trans (agree_of_failed attempted failed i inside)

/-- The hardware of an output that was written is allowed exactly when its CRTC has a primary
plane. -/
theorem Written.allowed_iff {i : Nat} {output : KmsOutput}
    (written : Written platform resources planes used connector i output) (nonzero : 0 ∉ planes) :
    platform.HardwareAllowed resources planes connector output ↔
      platform.FirstPrimaryPlane i planes output.planeId := by
  constructor
  · intro allowed
    rcases written.plane with first | ⟨-, zero⟩
    · exact first
    · have listed := allowed.plane.1
      rw [zero] at listed
      exact absurd listed nonzero
  · intro first
    obtain ⟨listed, serves⟩ := first.primaryPlane
    obtain ⟨-, possible, encoder, bit, -⟩ := allowed_of_freeCrtc written.free
    refine ⟨?_, ?_, listed, ?_⟩
    · rw [written.pipe, written.crtc]
    · rw [written.pipe]
      exact ⟨possible, encoder, bit⟩
    · rw [written.pipe]
      exact serves.usable

end Attempts

/-! ## Both outputs -/

section Pairs

variable {platform} {resources : DrmResources} {planes : List ObjectId} {used : BitVec 32}
  {primary secondary : Connector}

/-- The CRTC that is marked for one connector is not given to the next. -/
theorem freeCrtc_ne_of_marked {i j : Nat}
    (first : platform.freeCrtc resources used primary = some i)
    (second : platform.freeCrtc resources (used ||| BitVec.twoPow 32 i) secondary = some j) :
    i ≠ j := by
  obtain ⟨-, possible, -, allowed, -⟩ := allowed_of_freeCrtc first
  obtain ⟨-, -, -, -, unmarked⟩ := allowed_of_freeCrtc second
  have inside : i < 32 := BitVec.lt_of_getLsbD allowed
  rintro rfl
  rw [Bits.getLsbD_or_twoPow inside] at unmarked
  simp at unmarked

/-- Two outputs that were written one after the other have hardware of their own exactly when
their first primary planes exist and differ. -/
theorem hardwareApart_iff (kernel : platform.CardContract resources planes)
    (connectors : primary.connectorId ≠ secondary.connectorId) {i j : Nat}
    {first second : KmsOutput}
    (firstWritten : Written platform resources planes used primary i first)
    (secondWritten : Written platform resources planes (used ||| BitVec.twoPow 32 i) secondary j
      second) :
    platform.HardwareApart resources planes primary secondary first second ↔
      platform.PlanesApart resources planes used primary secondary := by
  constructor
  · intro apart
    exact ⟨i, j, first.planeId, second.planeId, firstWritten.free, secondWritten.free,
      (firstWritten.allowed_iff kernel.nonzero).mp apart.primary,
      (secondWritten.allowed_iff kernel.nonzero).mp apart.secondary, apart.plane⟩
  · rintro ⟨i', j', a, b, freeFirst, freeSecond, firstPlane, secondPlane, different⟩
    obtain rfl : i = i' := Option.some.inj (firstWritten.free.symm.trans freeFirst)
    obtain rfl : j = j' := Option.some.inj (secondWritten.free.symm.trans freeSecond)
    have planeOf : ∀ {used : BitVec 32} {connector : Connector} {k : Nat} {output : KmsOutput}
        {planeId : ObjectId}, Written platform resources planes used connector k output →
        platform.FirstPrimaryPlane k planes planeId → output.planeId = planeId := by
      intro used connector k output planeId written plane
      rcases written.plane with found | ⟨missing, -⟩
      · exact found.unique plane
      · exact absurd plane (missing planeId)
    obtain rfl := planeOf firstWritten firstPlane
    obtain rfl := planeOf secondWritten secondPlane
    refine ⟨?_, ?_, different, (firstWritten.allowed_iff kernel.nonzero).mpr firstPlane,
      (secondWritten.allowed_iff kernel.nonzero).mpr secondPlane⟩
    · rwa [firstWritten.connectorId, secondWritten.connectorId]
    · intro same
      have crtc := firstWritten.crtc
      rw [same, ← secondWritten.crtc] at crtc
      have inside := (List.getElem?_eq_some_iff.mp firstWritten.crtc).1
      exact freeCrtc_ne_of_marked firstWritten.free secondWritten.free
        ((List.getElem?_inj inside kernel.crtcs).mp crtc)

/-- The first two connected connectors of a type have different ids. -/
theorem connectorId_ne_of_pair (kernel : platform.CardContract resources planes)
    {type : BitVec 32} {others : List Connector}
    (pair : platform.connectedOf type resources.connectors = primary :: secondary :: others) :
    primary.connectorId ≠ secondary.connectorId := by
  have valid : (platform.validConnectors resources.connectors).Nodup := by
    refine List.Nodup.filterMap (fun id other connector fetched again => ?_) kernel.connectors
    rw [← kernel.described id connector fetched, ← kernel.described other connector again]
  have nodup : (platform.connectedOf type resources.connectors).Nodup := valid.filter _
  have fetched : ∀ connector ∈ platform.connectedOf type resources.connectors,
      platform.drm.getConnector connector.connectorId = some connector := by
    intro connector member
    obtain ⟨id, -, described⟩ := exists_of_valid (List.mem_filter.mp member).1
    rw [kernel.described id connector described]
    exact described
  intro same
  have first := fetched primary (by simp [pair])
  have second := fetched secondary (by simp [pair])
  rw [same, second] at first
  obtain rfl := Option.some.inj first
  rw [pair] at nodup
  exact absurd List.mem_cons_self (List.nodup_cons.mp nodup).1

end Pairs

/-- The calls of `init_with_connector` for the primary and the secondary connector that both
return 0 give the two outputs hardware of their own exactly when the CRTCs that the
connectors get have primary planes and the first ones of the two differ. Whatever calls have
failed in the process before, every CRTC is as free as without them. -/
theorem outputs_apart_iff (resources : DrmResources) (planes : List ObjectId)
    (kernel : platform.CardContract resources planes) (before used : BitVec 32)
    (earlier : platform.FailedAttempts resources planes before used) (context : KmsContext)
    (after : InitState)
    (initialised : platform.initHdmi resources planes ⟨used, context, []⟩ = some after)
    (primary secondary : Connector) (first second : KmsOutput)
    (made : after.calls = [⟨.primary, primary, 0, first⟩, ⟨.secondary, secondary, 0, second⟩]) :
    (platform.HardwareApart resources planes primary secondary after.context.primaryOutput
        after.context.secondaryOutput ↔
      platform.PlanesApart resources planes used primary secondary) ∧
      ∀ connector, platform.freeCrtc resources used connector =
        platform.freeCrtc resources before connector := by
  refine ⟨?_, freeCrtc_congr earlier.agree⟩
  cases connected : platform.connectedOf drmModeConnectorHdmia resources.connectors with
  | nil =>
      rw [initHdmi_of_nil connected] at initialised
      cases initialised
      cases made
  | cons one rest =>
      cases rest with
      | nil =>
          obtain ⟨attempt, -, -, -, calls⟩ := initHdmi_of_single connected initialised
          rw [calls] at made
          exact absurd (congrArg List.length made) (by simp)
      | cons two others =>
          obtain ⟨attempt, next, attempted, followed, primaryOutput, secondaryOutput, calls⟩ :=
            initHdmi_of_pair connected initialised
          obtain ⟨code, marked, output⟩ := attempt
          obtain ⟨nextCode, nextMarked, nextOutput⟩ := next
          obtain ⟨⟨rfl, rfl, rfl⟩, rfl, rfl, rfl⟩ :
              (primary = one ∧ 0 = code ∧ first = output) ∧
                secondary = two ∧ 0 = nextCode ∧ second = nextOutput := by
            simpa [made] using calls
          obtain ⟨i, firstWritten, rfl⟩ := initWithConnector_written attempted
          obtain ⟨j, secondWritten, rfl⟩ := initWithConnector_written followed
          rw [primaryOutput, secondaryOutput]
          have firstActive : Written platform resources planes used primary i
              { first with active := 1 } :=
            ⟨firstWritten.free, firstWritten.connectorId, firstWritten.pipe, firstWritten.crtc,
              firstWritten.plane⟩
          have secondActive : Written platform resources planes (used ||| BitVec.twoPow 32 i)
              secondary j { second with active := 1 } :=
            ⟨secondWritten.free, secondWritten.connectorId, secondWritten.pipe,
              secondWritten.crtc, secondWritten.plane⟩
          exact hardwareApart_iff kernel (connectorId_ne_of_pair kernel connected) firstActive
            secondActive

/-- The card of two CRTCs with planes that are allowed on these. -/
def exampleTopology (getPlane : ObjectId → Option (BitVec 32)) : Platform :=
  { exampleCard [1, 2] with drm := { (exampleCard [1, 2]).drm with getPlane } }

theorem exampleTopology_contract (getPlane : ObjectId → Option (BitVec 32)) :
    (exampleTopology getPlane).CardContract ⟨[1, 2], [10, 11]⟩ [30, 31] where
  crtcs := by decide
  connectors := by decide
  described := by
    intro id connector fetched
    obtain rfl := Option.some.inj fetched
    rfl
  nonzero := by decide

/-- With a plane for each CRTC, the outputs have hardware of their own. -/
theorem outputs_apart_example :
    ∃ after primary secondary, (exampleTopology fun id => some (if id = 30 then 1 else 2)).initHdmi
        ⟨[1, 2], [10, 11]⟩ [30, 31] ⟨0, zeroedContext, []⟩ = some after ∧
      (exampleTopology fun id => some (if id = 30 then 1 else 2)).HardwareApart
        ⟨[1, 2], [10, 11]⟩ [30, 31] primary secondary after.context.primaryOutput
        after.context.secondaryOutput := by
  refine ⟨_, _, _, rfl, ((outputs_apart_iff (exampleTopology fun id =>
    some (if id = 30 then 1 else 2)) ⟨[1, 2], [10, 11]⟩ [30, 31] (exampleTopology_contract _) 0 0
    .none zeroedContext _ rfl _ _ _ _ rfl).1).mpr ?_⟩
  refine ⟨0, 1, 30, 31, by decide, by decide, .here ⟨⟨_, rfl, by decide⟩, _, rfl, rfl⟩,
    .later ?_ (.here ⟨⟨_, rfl, by decide⟩, _, rfl, rfl⟩), by decide⟩
  intro serves
  obtain ⟨possible, fetched, allowed⟩ := serves.usable
  obtain rfl := Option.some.inj fetched
  exact absurd allowed (by decide)

/-- With a first plane that both CRTCs allow, both outputs take it. -/
theorem outputs_not_always_apart :
    ¬ ∀ (platform : Platform) (resources : DrmResources) (planes : List ObjectId) (used : BitVec 32)
      (context : KmsContext) (after : InitState) (primary secondary : Connector)
      (first second : KmsOutput), resources.crtcs.length ≤ 32 →
      platform.CardContract resources planes →
      platform.initHdmi resources planes ⟨used, context, []⟩ = some after →
      after.calls = [⟨.primary, primary, 0, first⟩, ⟨.secondary, secondary, 0, second⟩] →
      platform.HardwareApart resources planes primary secondary after.context.primaryOutput
        after.context.secondaryOutput := by
  intro claim
  have apart := claim (exampleTopology fun _ => some 3) ⟨[1, 2], [10, 11]⟩ [30, 31] 0 zeroedContext
    _ _ _ _ _ (by decide) (exampleTopology_contract _) rfl rfl
  exact apart.plane rfl

end Platform

end Arpi.Composer
