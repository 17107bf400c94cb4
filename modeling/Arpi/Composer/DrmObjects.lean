import Arpi.Composer.KmsContext
import Arpi.Semantics.Ownership
import Mathlib.Algebra.Order.Group.Multiset
import Mathlib.Algebra.BigOperators.Group.List.Basic

/-!
# The DRM objects of the initialisation

What libdrm returns is allocated for the caller, who frees it. The functions of `hwc_context`
that get such objects are given once more here, with every object that they get, look into and
free; the mode that `generate_mode` allocates is one of them. They compute what they compute
without their objects, and no object is used or freed once it was freed. What is left when
`init_kms` returns are the two tables that the context keeps, unless it has freed the first one,
the connector with which the loop over all connectors succeeded, and the generated modes.
-/

namespace Arpi.Composer

open Arpi.Gralloc Arpi.Semantics Arpi.Semantics.Owning

/-- What is allocated. -/
inductive DrmObject where
  | resources
  | planeResources
  | connector
  | encoder
  | plane
  | objectProperties
  | property
  | mode
deriving DecidableEq

/-- A pointer to an object, with what it points to. -/
structure Held (Content : Type) where
  object : Object DrmObject
  content : Content

/-! ## Properties -/

namespace Drm

variable (drm : Drm)

/-- The loop over the properties of an object, with the property of each turn. -/
def findPropertyObject (props : Object DrmObject) (name : String) :
    List (ObjectId × BitVec 64) → Owning DrmObject (Option (DrmProperty × BitVec 64))
  | [] => do
      use props
      pure none
  | (id, value) :: rest => do
      use props
      -- A property that the kernel does not know is dereferenced.
      let content ← ofOption (drm.getProperty id)
      let prop ← get .property
      use prop
      free prop
      if content.name = name then pure (some (content, value))
      else findPropertyObject props name rest

/-- `get_property_value`, with its objects. -/
def getPropertyValueObject (props : Held (List (ObjectId × BitVec 64))) (name : String) :
    Owning DrmObject Int := do
  let found ← drm.findPropertyObject props.object name props.content
  match found with
  | some (_, value) => pure value.toInt
  | none => pure (-1)

/-- `get_property_id`, with its objects. -/
def getPropertyIdObject (props : Held (List (ObjectId × BitVec 64))) (name : String) :
    Owning DrmObject ObjectId := do
  let found ← drm.findPropertyObject props.object name props.content
  match found with
  | some (prop, _) => pure prop.propId
  | none => pure 0

/-! ## A CRTC, a plane and a connector -/

/-- The loop over the CRTCs, with its objects. -/
def searchCrtcObject (resources encoder : Object DrmObject) (possible used : BitVec 32) :
    (i : Nat) → (crtcs : List ObjectId) → Owning DrmObject Nat
  | i, [] => do
      use resources
      pure i
  | i, _ :: rest => do
      use resources
      use encoder
      let mask ← ofOption (crtcBit i)
      if possible &&& mask ≠ 0 ∧ used &&& mask ≠ mask then pure i
      else searchCrtcObject resources encoder possible used (i + 1) rest

/-- The loop over the planes, with its objects. -/
def findPrimaryPlaneObject (planes : Object DrmObject) (mask : BitVec 32) (output : KmsOutput) :
    List ObjectId → Owning DrmObject KmsOutput
  | [] => do
      use planes
      pure output
  | planeId :: rest => do
      use planes
      match drm.getPlane planeId with
      | none => findPrimaryPlaneObject planes mask output rest
      | some possible => do
          let plane ← get .plane
          use plane
          if possible &&& mask ≠ 0 then do
            let content ← ofOption (drm.getObjectProperties planeId .plane)
            let props ← get .objectProperties
            let type ← drm.getPropertyValueObject ⟨props, content⟩ "type"
            if type = drmPlaneTypePrimary then do
              let propFbId ← drm.getPropertyIdObject ⟨props, content⟩ "FB_ID"
              let propCrtcId ← drm.getPropertyIdObject ⟨props, content⟩ "CRTC_ID"
              free props
              free plane
              pure { output with planeId, propFbId, propCrtcId }
            else do
              free props
              free plane
              findPrimaryPlaneObject planes mask output rest
          else do
            free plane
            findPrimaryPlaneObject planes mask output rest

/-- The loop over the connectors, with its objects. The connector that is found is not freed. -/
def searchConnectorObject (resources : Object DrmObject) (type : BitVec 32) (skip : Int) :
    (i : Nat) → (connectors : List ObjectId) → Owning DrmObject (Option (Nat × Held Connector))
  | _, [] => do
      use resources
      pure none
  | i, id :: rest => do
      use resources
      if i = skip then searchConnectorObject resources type skip (i + 1) rest
      else
        match drm.getConnector id with
        | some content => do
            let connector ← get .connector
            use connector
            if content.connectorType = type ∧ content.connection = .connected then
              pure (some (i, ⟨connector, content⟩))
            else do
              free connector
              searchConnectorObject resources type skip (i + 1) rest
        | none => searchConnectorObject resources type skip (i + 1) rest

/-- `fetch_connector`, with its objects. -/
def fetchConnectorObject (resources : Held DrmResources) (type : BitVec 32) :
    Owning DrmObject (Option (Held Connector) × Int) := do
  let found ← drm.searchConnectorObject resources.object type (-1) 0 resources.content.connectors
  match found with
  | some (i, connector) => pure (some connector, i)
  | none => pure (none, -1)

/-- `fetch_connector2`, with its objects. -/
def fetchConnector2Object (resources : Held DrmResources) (primaryConnector : Int)
    (type : BitVec 32) : Owning DrmObject (Option (Held Connector)) := do
  let found ← drm.searchConnectorObject resources.object type primaryConnector 0
    resources.content.connectors
  pure (found.map Prod.snd)

end Drm

/-! ## Initialisation -/

namespace Platform

variable (platform : Platform)

/-- `find_mode` generates a mode for these. -/
def GeneratesFor (modes : List ModeInfo) : Prop :=
  (ModeRequest.ofProperties platform.properties).forcemode = true ∧
    modes.find? (ModeInfo.Matches (.ofProperties platform.properties)) = none

instance : DecidablePred platform.GeneratesFor :=
  fun _ => inferInstanceAs (Decidable (_ ∧ _))

/-- `find_mode`, with its objects: the mode is a new one, or one of the connector's. -/
def findModeObject (connector : Held Connector) : Owning DrmObject (Held ModeInfo) := do
  use connector.object
  let mode ← ofOption
    (findMode platform.arithmetic platform.properties connector.content.modes)
  if platform.GeneratesFor connector.content.modes then do
    let generated ← get .mode
    use generated
    pure ⟨generated, mode⟩
  else pure ⟨connector.object, mode⟩

/-- `init_with_connector`, with its objects. -/
def initWithConnectorObject (resources : Held DrmResources) (planes : Held (List ObjectId))
    (used : BitVec 32) (output : KmsOutput) (connector : Held Connector) :
    Owning DrmObject InitAttempt := do
  use connector.object
  let encoder ← ofOption connector.content.encoders.head?
  match platform.drm.getEncoder encoder with
  | none => pure ⟨-einval, used, output⟩
  | some possible => do
      let encoder ← get .encoder
      let i ← Drm.searchCrtcObject resources.object encoder possible used 0
        resources.content.crtcs
      let mask ← ofOption (Drm.crtcBit i)
      free encoder
      match resources.content.crtcs[i]? with
      | none => pure ⟨-einval, used ||| mask, output⟩
      | some crtc => do
          let output ← platform.drm.findPrimaryPlaneObject planes.object mask
            { output with planeId := 0 } planes.content
          use resources.object
          let content ← ofOption (platform.drm.getObjectProperties crtc .crtc)
          let props ← get .objectProperties
          let propOutFence ← platform.drm.getPropertyIdObject ⟨props, content⟩ "OUT_FENCE_PTR"
          free props
          use connector.object
          let mode ← platform.findModeObject connector
          use mode.object
          use connector.object
          pure ⟨0, used ||| mask,
            platform.complete connector.content i crtc propOutFence mode.content output⟩

/-- Calls `init_with_connector` on an output of the context, with its objects. -/
def initOutputObject (resources : Held DrmResources) (planes : Held (List ObjectId))
    (name : OutputName) (connector : Held Connector) (state : InitState) :
    Owning DrmObject InitResult := do
  let attempt ← platform.initWithConnectorObject resources planes state.used
    (state.context.output name) connector
  pure ⟨attempt.code, attempt.used, state.context.setOutput name attempt.output,
    state.calls ++ [⟨name, connector.content, attempt.code, attempt.output⟩]⟩

/-- The part of `init_kms` for the two HDMI connectors, with its objects. -/
def initHdmiObject (resources : Held DrmResources) (planes : Held (List ObjectId))
    (state : InitState) : Owning DrmObject InitState := do
  let fetched ← platform.drm.fetchConnectorObject resources drmModeConnectorHdmia
  let state := { state with context := { state.context with primaryConnector := fetched.2 } }
  match fetched.1 with
  | none => pure state
  | some primary => do
      let done ← platform.initOutputObject resources planes .primary primary state
      free primary.object
      let state := done.state.activate .primary
      let other ← platform.drm.fetchConnector2Object resources fetched.2 drmModeConnectorHdmia
      match other with
      | none => pure state
      | some secondary => do
          let done ← platform.initOutputObject resources planes .secondary secondary state
          free secondary.object
          pure (done.state.activate .secondary)

/-- The loop of `init_kms` over all connectors, with its objects. It breaks without freeing the
connector that it has initialised. -/
def tryConnectorsObject (resources : Held DrmResources) (planes : Held (List ObjectId)) :
    (lastValid : Option ObjectId) → (state : InitState) → (connectors : List ObjectId) →
    Owning DrmObject LoopEnd
  | lastValid, state, [] => do
      use resources.object
      pure ⟨false, lastValid, state⟩
  | lastValid, state, id :: rest => do
      use resources.object
      match platform.drm.getConnector id with
      | none => tryConnectorsObject resources planes lastValid state rest
      | some content => do
          let connector ← get .connector
          use connector
          if content.connection = .connected then do
            let done ← platform.initOutputObject resources planes .primary ⟨connector, content⟩
              state
            if done.code = 0 then pure ⟨true, some id, done.state⟩
            else do
              free connector
              tryConnectorsObject resources planes (some id) done.state rest
          else do
            free connector
            tryConnectorsObject resources planes (some id) state rest

/-- The part of `init_kms` for any connector, with its objects. -/
def initAnyObject (resources : Held DrmResources) (planes : Held (List ObjectId))
    (state : InitState) : Owning DrmObject InitResult := do
  let tried ← platform.tryConnectorsObject resources planes none state
    resources.content.connectors
  if tried.found then pure ⟨0, tried.state⟩
  else
    match tried.lastValid with
    | some id => do
        use resources.object
        let content ← ofOption (platform.drm.getConnector id)
        let connector ← get .connector
        let done ← platform.initOutputObject resources planes .primary ⟨connector, content⟩
          tried.state
        free connector
        pure ⟨0, done.state⟩
    | none => do
        free resources.object
        pure ⟨-einval,
          { tried.state with context := { tried.state.context with resources := none } }⟩

/-- `init_kms`, with its objects. -/
def initKmsObject (used : BitVec 32) (context : KmsContext) : Owning DrmObject InitResult :=
  let universal := platform.drm.setClientCap .universalPlanes
  let atomic := platform.drm.setClientCap .atomic
  if universal ≠ 0 then pure ⟨universal, used, context, []⟩
  else if atomic ≠ 0 then pure ⟨atomic, used, context, []⟩
  else
    match platform.drm.getResources with
    | none => pure ⟨-einval, used, { context with resources := none }, []⟩
    | some resources => do
        let object ← get .resources
        match platform.drm.getPlaneResources with
        | none =>
            pure ⟨-einval, used,
              { context with resources := some resources, planeResources := none }, []⟩
        | some planes => do
            let planesObject ← get .planeResources
            let context :=
              { context with resources := some resources, planeResources := some planes }
            let state ← platform.initHdmiObject ⟨object, resources⟩ ⟨planesObject, planes⟩
              ⟨used, context, []⟩
            if state.context.primaryOutput.active ≠ 0 then pure (finishInit ⟨0, state⟩)
            else do
              let result ← platform.initAnyObject ⟨object, resources⟩ ⟨planesObject, planes⟩
                state
              pure (finishInit result)

end Platform

/-! ## What is left -/

/-- Objects of these kinds. -/
def OfKinds (kinds : Multiset DrmObject) (objects : Multiset (Object DrmObject)) : Prop :=
  objects.map Prod.snd = kinds

section Searches

variable {drm : Drm} {props planes resources encoder : Object DrmObject}

theorem findPropertyObject_returns (name : String) (list : List (ObjectId × BitVec 64)) :
    Returns (drm.findPropertyObject props name list) {props} (drm.findProperty name list) := by
  induction list with
  | nil => exact yields_use (.inl rfl) (yields_pure ⟨rfl, rfl⟩)
  | cons entry rest ih =>
      refine yields_use (.inl rfl) (yields_option fun content known => ?_)
      refine yields_get fun object => ?_
      refine yields_use (.inr (Multiset.mem_cons_self _ _)) (yields_free ?_)
      split
      · exact yields_pure ⟨rfl, rfl⟩
      · exact ih

theorem getPropertyValueObject_returns (list : List (ObjectId × BitVec 64)) (name : String) :
    Returns (drm.getPropertyValueObject ⟨props, list⟩ name) {props}
      (drm.getPropertyValue list name) := by
  unfold Drm.getPropertyValueObject Drm.getPropertyValue
  rw [Option.map_eq_bind]
  refine yields_borrow (findPropertyObject_returns name list) (fun _ => .inl) fun found known => ?_
  cases found <;> exact yields_pure ⟨rfl, rfl⟩

theorem getPropertyIdObject_returns (list : List (ObjectId × BitVec 64)) (name : String) :
    Returns (drm.getPropertyIdObject ⟨props, list⟩ name) {props} (drm.getPropertyId list name) := by
  unfold Drm.getPropertyIdObject Drm.getPropertyId
  rw [Option.map_eq_bind]
  refine yields_borrow (findPropertyObject_returns name list) (fun _ => .inl) fun found known => ?_
  cases found <;> exact yields_pure ⟨rfl, rfl⟩

theorem searchCrtcObject_returns (possible used : BitVec 32) (i : Nat) (crtcs : List ObjectId) :
    Returns (Drm.searchCrtcObject resources encoder possible used i crtcs) {resources, encoder}
      (Drm.searchCrtc possible used i crtcs) := by
  induction crtcs generalizing i with
  | nil => exact yields_use (.inl (.inl rfl)) (yields_pure ⟨rfl, rfl⟩)
  | cons crtc rest ih =>
      refine yields_use (.inl (.inl rfl)) (yields_use (.inl (.inr rfl)) ?_)
      refine yields_option fun mask known => ?_
      split
      · exact yields_pure ⟨rfl, rfl⟩
      · exact ih (i + 1)

theorem findPrimaryPlaneObject_returns (mask : BitVec 32) (output : KmsOutput)
    (list : List ObjectId) :
    Returns (drm.findPrimaryPlaneObject planes mask output list) {planes}
      (drm.findPrimaryPlane mask output list) := by
  induction list with
  | nil => exact yields_use (.inl rfl) (yields_pure ⟨rfl, rfl⟩)
  | cons planeId rest ih =>
      refine yields_use (.inl rfl) ?_
      unfold Drm.findPrimaryPlane
      cases drm.getPlane planeId with
      | none => exact ih
      | some possible =>
          refine yields_get fun plane => yields_use (.inr (Multiset.mem_cons_self _ _)) ?_
          dsimp only
          split
          · refine yields_option fun content known => yields_get fun props => ?_
            have lent : ∀ object ∈ ({(props, .objectProperties)} : Set (Object DrmObject)),
                object ∈ ({planes} : Set (Object DrmObject)) ∨
                  object ∈ (props, DrmObject.objectProperties) ::ₘ (plane, .plane) ::ₘ 0 :=
              fun object member => .inr (member ▸ Multiset.mem_cons_self _ _)
            refine yields_borrow (getPropertyValueObject_returns content "type") lent
              fun type known => ?_
            split
            · refine yields_borrow (getPropertyIdObject_returns content "FB_ID") lent
                fun propFbId known => ?_
              refine yields_borrow (getPropertyIdObject_returns content "CRTC_ID") lent
                fun propCrtcId known => ?_
              exact yields_free (yields_free (yields_pure ⟨rfl, rfl⟩))
            · exact yields_free (yields_free ih)
          · exact yields_free ih

/-- The connector that is found is left. -/
inductive Fetches : Option (Nat × Connector) → Option (Nat × Held Connector) →
    Multiset (Object DrmObject) → Prop where
  | nothing : Fetches none none 0
  | found (i name : Nat) (content : Connector) :
      Fetches (some (i, content)) (some (i, ⟨(name, .connector), content⟩))
        {(name, .connector)}

theorem searchConnectorObject_yields (type : BitVec 32) (skip : Int) (i : Nat)
    (connectors : List ObjectId) :
    Yields (drm.searchConnectorObject resources type skip i connectors) {resources} 0
      (some (drm.searchConnector type skip i connectors)) Fetches := by
  induction connectors generalizing i with
  | nil => exact yields_use (.inl rfl) (yields_pure .nothing)
  | cons id rest ih =>
      refine yields_use (.inl rfl) ?_
      unfold Drm.searchConnector
      split
      · exact ih (i + 1)
      · cases drm.getConnector id with
        | none => exact ih (i + 1)
        | some content =>
            refine yields_get fun name => yields_use (.inr (Multiset.mem_cons_self _ _)) ?_
            dsimp only
            split
            · exact yields_pure (.found i name content)
            · exact yields_free (ih (i + 1))

/-- The connector that is fetched is left. -/
inductive FetchesConnector : Option Connector → Option (Held Connector) →
    Multiset (Object DrmObject) → Prop where
  | nothing : FetchesConnector none none 0
  | found (name : Nat) (content : Connector) :
      FetchesConnector (some content) (some ⟨(name, .connector), content⟩)
        {(name, .connector)}

theorem fetchConnectorObject_yields (card : DrmResources) (type : BitVec 32) :
    Yields (drm.fetchConnectorObject ⟨resources, card⟩ type) {resources} 0
      (some (drm.fetchConnector card type))
      (fun value answer left => answer.2 = value.2 ∧ FetchesConnector value.1 answer.1 left) := by
  unfold Drm.fetchConnector
  refine yields_total (searchConnectorObject_yields type (-1) 0 card.connectors)
    (fun _ => .inl) fun answer left fetches => ?_
  rw [Multiset.add_zero]
  generalize drm.searchConnector type (-1) 0 card.connectors = found at fetches
  cases fetches with
  | nothing => exact yields_pure ⟨rfl, .nothing⟩
  | found i name content => exact yields_pure ⟨rfl, .found name content⟩

theorem fetchConnector2Object_yields (card : DrmResources) (primaryConnector : Int)
    (type : BitVec 32) :
    Yields (drm.fetchConnector2Object ⟨resources, card⟩ primaryConnector type) {resources} 0
      (some (drm.fetchConnector2 card primaryConnector type)) FetchesConnector := by
  unfold Drm.fetchConnector2
  refine yields_total (searchConnectorObject_yields type primaryConnector 0 card.connectors)
    (fun _ => .inl) fun answer left fetches => ?_
  rw [Multiset.add_zero]
  generalize drm.searchConnector type primaryConnector 0 card.connectors = found at fetches
  cases fetches with
  | nothing => exact yields_pure .nothing
  | found i name content => exact yields_pure (.found name content)

end Searches

namespace Platform

variable (platform : Platform)

/-- What `find_mode` leaves. -/
def generated (modes : List ModeInfo) : Multiset DrmObject :=
  if platform.GeneratesFor modes then {.mode} else 0

/-- The modes that calls of `init_with_connector` leave. -/
def generatedBy (calls : List InitCall) : Multiset DrmObject :=
  (calls.map fun call =>
    if call.code = 0 then platform.generated call.connector.modes else 0).sum

variable {platform} {resources planes connector : Object DrmObject} {card : DrmResources}
  {list : List ObjectId}

theorem findModeObject_yields (content : Connector) :
    Yields (platform.findModeObject ⟨connector, content⟩) {connector} 0
      (findMode platform.arithmetic platform.properties content.modes)
      (fun value answer left => answer.content = value ∧
        OfKinds (platform.generated content.modes) left ∧
        (answer.object = connector ∨ answer.object ∈ left)) := by
  refine yields_use (.inl rfl) ?_
  rw [← Option.bind_fun_some (findMode platform.arithmetic platform.properties content.modes)]
  nth_rewrite 1 [Option.bind_fun_some]
  refine yields_option fun mode known => ?_
  unfold generated
  split
  · refine yields_get fun name => yields_use (.inr (Multiset.mem_cons_self _ _)) ?_
    exact yields_pure ⟨rfl, rfl, .inr (Multiset.mem_cons_self _ _)⟩
  · exact yields_pure ⟨rfl, rfl, .inl rfl⟩

theorem initWithConnectorObject_yields (used : BitVec 32) (output : KmsOutput)
    (content : Connector) :
    Yields (platform.initWithConnectorObject ⟨resources, card⟩ ⟨planes, list⟩ used output
        ⟨connector, content⟩) {resources, planes, connector} 0
      (platform.initWithConnector card list used output content)
      (fun value answer left => answer = value ∧
        OfKinds (if value.code = 0 then platform.generated content.modes else 0) left) := by
  have table : resources ∈ ({resources, planes, connector} : Set (Object DrmObject)) := .inl rfl
  have listed : planes ∈ ({resources, planes, connector} : Set (Object DrmObject)) :=
    .inr (.inl rfl)
  have pointed : connector ∈ ({resources, planes, connector} : Set (Object DrmObject)) :=
    .inr (.inr rfl)
  refine yields_use (.inl pointed) (yields_option fun encoder known => ?_)
  cases platform.drm.getEncoder encoder with
  | none => exact yields_pure ⟨rfl, rfl⟩
  | some possible =>
      refine yields_get fun name => ?_
      refine yields_borrow (searchCrtcObject_returns possible used 0 card.crtcs) ?_
        fun i known => ?_
      · rintro object (rfl | rfl)
        · exact .inl table
        · exact .inr (Multiset.mem_cons_self _ _)
      refine yields_option fun mask known => yields_free ?_
      dsimp only
      cases card.crtcs[i]? with
      | none => exact yields_pure ⟨rfl, rfl⟩
      | some crtc =>
          refine yields_borrow (findPrimaryPlaneObject_returns mask _ list) ?_
            fun output known => ?_
          · rintro object rfl
            exact .inl listed
          refine yields_use (.inl table) (yields_option fun props known => ?_)
          refine yields_get fun name => ?_
          refine yields_borrow (getPropertyIdObject_returns props "OUT_FENCE_PTR") ?_
            fun propOutFence known => ?_
          · rintro object rfl
            exact .inr (Multiset.mem_cons_self _ _)
          refine yields_free (yields_use (.inl pointed) ?_)
          refine yields_call (findModeObject_yields content) ?_
            fun mode answer left known found => ?_
          · rintro object rfl
            exact .inl pointed
          obtain ⟨rfl, kinds, held⟩ := found
          rw [Multiset.add_zero]
          refine yields_use (held.imp_left fun same => ?_) ?_
          · rw [same]
            exact pointed
          exact yields_use (.inl pointed) (yields_pure ⟨rfl, kinds⟩)

/-- Between two states an initialisation has left objects of these kinds, besides the modes of
its calls. -/
def Leaves (platform : Platform) (before after : InitState) (kinds : Multiset DrmObject)
    (left : Multiset (Object DrmObject)) : Prop :=
  left.map Prod.snd + platform.generatedBy before.calls =
    kinds + platform.generatedBy after.calls

theorem Leaves.refl (state : InitState) : Leaves platform state state 0 0 := rfl

/-- Objects of an initialisation, and then of its continuation. -/
theorem Leaves.add {before between after : InitState} {kinds others : Multiset DrmObject}
    {left more : Multiset (Object DrmObject)} (first : Leaves platform before between kinds left)
    (second : Leaves platform between after others more) :
    Leaves platform before after (kinds + others) (more + left) := by
  unfold Leaves at *
  rw [Multiset.map_add, add_assoc, first, add_left_comm, second, add_assoc]

theorem initOutputObject_yields (name : OutputName) (content : Connector) (state : InitState) :
    Yields (platform.initOutputObject ⟨resources, card⟩ ⟨planes, list⟩ name
        ⟨connector, content⟩ state) {resources, planes, connector} 0
      (platform.initOutput card list name content state)
      (fun value answer left => answer = value ∧ Leaves platform state value.state 0 left) := by
  unfold initOutputObject initOutput
  rw [Option.map_eq_bind]
  refine yields_call (initWithConnectorObject_yields state.used (state.context.output name)
    content) (fun _ => .inl) fun attempt answer left known right => ?_
  obtain ⟨rfl, kinds⟩ := right
  refine yields_pure ⟨rfl, ?_⟩
  unfold Leaves generatedBy
  rw [add_zero, kinds, zero_add, List.map_append, List.sum_append, List.map_singleton,
    List.sum_singleton, add_comm]

/-- What the calls for an output are lent: the tables, and a connector that is owned. -/
theorem lent_connector {owned : Multiset (Object DrmObject)} :
    ∀ object ∈ ({resources, planes, connector} : Set (Object DrmObject)),
      object ∈ ({resources, planes} : Set (Object DrmObject)) ∨
        object ∈ connector ::ₘ owned := by
  rintro object (rfl | rfl | rfl)
  · exact .inl (.inl rfl)
  · exact .inl (.inr rfl)
  · exact .inr (Multiset.mem_cons_self _ _)

theorem initHdmiObject_yields (state : InitState) :
    Yields (platform.initHdmiObject ⟨resources, card⟩ ⟨planes, list⟩ state) {resources, planes} 0
      (platform.initHdmi card list state)
      (fun value answer left => answer = value ∧ Leaves platform state value 0 left) := by
  have table : ∀ object ∈ ({resources} : Set (Object DrmObject)),
      object ∈ ({resources, planes} : Set (Object DrmObject)) := fun object => .inl
  unfold initHdmi
  refine yields_total (fetchConnectorObject_yields card drmModeConnectorHdmia)
    (fun object member => .inl (table object member)) fun answer left fetched => ?_
  generalize platform.drm.fetchConnector card drmModeConnectorHdmia = first at fetched ⊢
  obtain ⟨value, index⟩ := first
  obtain ⟨fetched, answered⟩ := answer
  obtain ⟨same, fetches⟩ := fetched
  obtain rfl : answered = index := same
  rw [Multiset.add_zero]
  cases fetches with
  | nothing => exact yields_pure ⟨rfl, .refl _⟩
  | found name primary =>
      refine yields_call (initOutputObject_yields .primary primary _) lent_connector
        fun done answer left known right => ?_
      obtain ⟨rfl, leaves⟩ := right
      rw [Multiset.add_comm, Multiset.singleton_add]
      refine yields_free ?_
      refine yields_total (fetchConnector2Object_yields card answered drmModeConnectorHdmia)
        (fun object member => .inl (table object member)) fun other more fetches => ?_
      generalize platform.drm.fetchConnector2 card answered drmModeConnectorHdmia = second
        at fetches ⊢
      cases fetches with
      | nothing =>
          rw [Multiset.zero_add]
          exact yields_pure ⟨rfl, leaves⟩
      | found name secondary =>
          rw [Multiset.singleton_add]
          dsimp only
          rw [Option.map_eq_bind]
          refine yields_call (initOutputObject_yields .secondary secondary _) lent_connector
            fun done answer more known right => ?_
          obtain ⟨rfl, leavesMore⟩ := right
          rw [Multiset.add_cons]
          exact yields_free (yields_pure ⟨rfl, leaves.add leavesMore⟩)

/-- An object that is not freed. -/
theorem Leaves.keep {before after : InitState} {kinds : Multiset DrmObject}
    {left : Multiset (Object DrmObject)} (leaves : Leaves platform before after kinds left)
    (object : Object DrmObject) :
    Leaves platform before after (object.2 ::ₘ kinds) (object ::ₘ left) := by
  unfold Leaves at *
  rw [Multiset.map_cons, Multiset.cons_add, leaves, Multiset.cons_add]

theorem tryConnectorsObject_yields (lastValid : Option ObjectId) (state : InitState)
    (connectors : List ObjectId) :
    Yields (platform.tryConnectorsObject ⟨resources, card⟩ ⟨planes, list⟩ lastValid state
        connectors) {resources, planes} 0
      (platform.tryConnectors card list lastValid state connectors)
      (fun value answer left => answer = value ∧
        Leaves platform state value.state (if value.found then {.connector} else 0) left) := by
  induction connectors generalizing lastValid state with
  | nil => exact yields_use (.inl (.inl rfl)) (yields_pure ⟨rfl, .refl state⟩)
  | cons id rest ih =>
      refine yields_use (.inl (.inl rfl)) ?_
      unfold tryConnectors
      cases platform.drm.getConnector id with
      | none => exact ih lastValid state
      | some content =>
          refine yields_get fun name => yields_use (.inr (Multiset.mem_cons_self _ _)) ?_
          dsimp only
          split
          · refine yields_call (initOutputObject_yields .primary content state) lent_connector
              fun done answer left known right => ?_
            obtain ⟨rfl, leaves⟩ := right
            rw [Multiset.add_cons, add_zero]
            split
            · exact yields_pure ⟨rfl, leaves.keep (name, .connector)⟩
            · refine yields_free (yields_frame (ih (some id) answer.state)
                fun value answer more right => ⟨right.1, ?_⟩)
              have both := leaves.add right.2
              rwa [zero_add] at both
          · exact yields_free (ih (some id) state)

/-- What is left of the connectors and the first table when any connector was tried. -/
def remains (tried : LoopEnd) : Multiset DrmObject :=
  if tried.found then {.resources, .connector}
  else if tried.lastValid.isSome then {.resources} else 0

theorem initAnyObject_yields (name : Nat) (state : InitState) :
    Yields (platform.initAnyObject ⟨(name, .resources), card⟩ ⟨planes, list⟩ state) {planes}
      {(name, .resources)} (platform.initAny card list state)
      (fun value answer left => answer = value ∧
        ∃ tried, platform.tryConnectors card list none state card.connectors = some tried ∧
          Leaves platform state value.state (remains tried) left) := by
  unfold initAny
  refine yields_call (tryConnectorsObject_yields none state card.connectors) ?_
    fun tried answer left known right => ?_
  · rintro object (rfl | rfl)
    · exact .inr (Multiset.mem_singleton_self _)
    · exact .inl rfl
  obtain ⟨rfl, leaves⟩ := right
  rw [add_comm, Multiset.singleton_add]
  split
  next found =>
    rw [if_pos found] at leaves
    refine yields_pure ⟨rfl, answer, known, ?_⟩
    rw [remains, if_pos found]
    exact leaves.keep (name, .resources)
  next fails =>
    rw [if_neg fails] at leaves
    cases lastValid : answer.lastValid with
    | none =>
        refine yields_free (yields_pure ⟨rfl, answer, known, ?_⟩)
        rw [remains, if_neg fails, lastValid]
        exact leaves
    | some id =>
        refine yields_use (.inr (Multiset.mem_cons_self _ _)) ?_
        refine yields_option fun content valid => yields_get fun connector => ?_
        rw [Option.map_eq_bind]
        refine yields_call (initOutputObject_yields .primary content answer.state) ?_
          fun done result more known' right => ?_
        · rintro object (rfl | rfl | rfl)
          · exact .inr (Multiset.mem_cons_of_mem (Multiset.mem_cons_self _ _))
          · exact .inl rfl
          · exact .inr (Multiset.mem_cons_self _ _)
        obtain ⟨rfl, leavesMore⟩ := right
        rw [Multiset.add_cons]
        refine yields_free (yields_pure ⟨rfl, answer, known, ?_⟩)
        rw [remains, if_neg fails, lastValid, Multiset.add_cons]
        exact (leaves.add leavesMore).keep (name, .resources)

/-- The kernel lets the client in and has a card. -/
structure Opens (platform : Platform) (card : DrmResources) : Prop where
  universal : platform.drm.setClientCap .universalPlanes = 0
  atomic : platform.drm.setClientCap .atomic = 0
  card : platform.drm.getResources = some card

/-- The context before connectors are looked for. -/
def listed (used : BitVec 32) (context : KmsContext) (card : DrmResources)
    (list : List ObjectId) : InitState :=
  ⟨used, { context with resources := some card, planeResources := some list }, []⟩

/-- What is left when `init_kms` returns, by the way it returns. -/
inductive InitLeaves (platform : Platform) (used : BitVec 32) (context : KmsContext) :
    InitResult → Multiset DrmObject → Prop where
  /-- Nothing was got. -/
  | refused {result : InitResult} (closed : ∀ card, ¬ Opens platform card) :
      InitLeaves platform used context result 0
  /-- There is no table of planes, and the table of the card stays. -/
  | noPlanes {card : DrmResources} {result : InitResult} (opens : Opens platform card)
      (nothing : platform.drm.getPlaneResources = none) :
      InitLeaves platform used context result {.resources}
  /-- There was an HDMI connector. Both tables stay. -/
  | hdmi {card : DrmResources} {list : List ObjectId} {state : InitState}
      (opens : Opens platform card) (planes : platform.drm.getPlaneResources = some list)
      (initialised : platform.initHdmi card list (listed used context card list) = some state)
      (active : state.context.primaryOutput.active ≠ 0) :
      InitLeaves platform used context (finishInit ⟨0, state⟩)
        ({.resources, .planeResources} + platform.generatedBy state.calls)
  /-- Any connector was tried. -/
  | any {card : DrmResources} {list : List ObjectId} {state : InitState} {tried : LoopEnd}
      {result : InitResult} (opens : Opens platform card)
      (planes : platform.drm.getPlaneResources = some list)
      (initialised : platform.initHdmi card list (listed used context card list) = some state)
      (inactive : state.context.primaryOutput.active = 0)
      (tries : platform.tryConnectors card list none state card.connectors = some tried) :
      InitLeaves platform used context (finishInit result)
        (remains tried + {.planeResources} + platform.generatedBy result.state.calls)

theorem Leaves.kinds {before after : InitState} {kinds : Multiset DrmObject}
    {left : Multiset (Object DrmObject)} (leaves : Leaves platform before after kinds left)
    (nothing : before.calls = []) : left.map Prod.snd = kinds + platform.generatedBy after.calls := by
  unfold Leaves at leaves
  rwa [nothing, show platform.generatedBy [] = 0 from rfl, add_zero] at leaves

/-- Every way to return leaves what it should. -/
theorem initKms_leaves (platform : Platform) (used : BitVec 32) (context : KmsContext) :
    Yields (platform.initKmsObject used context) ∅ 0 (platform.initKms used context)
      (fun value answer left => answer = value ∧
        InitLeaves platform used context value (left.map Prod.snd)) := by
  unfold initKmsObject initKms
  dsimp only
  split
  next refused =>
    refine yields_pure ⟨rfl, .refused fun card opens => refused opens.universal⟩
  next universal =>
  split
  next refused =>
    refine yields_pure ⟨rfl, .refused fun card opens => refused opens.atomic⟩
  next atomic =>
  cases resources : platform.drm.getResources with
  | none =>
      refine yields_pure ⟨rfl, .refused fun card opens => ?_⟩
      rw [opens.card] at resources
      cases resources
  | some card =>
      have opens : Opens platform card := ⟨not_not.mp universal, not_not.mp atomic, resources⟩
      refine yields_get fun name => ?_
      cases planes : platform.drm.getPlaneResources with
      | none => exact yields_pure ⟨rfl, .noPlanes opens planes⟩
      | some list =>
          refine yields_get fun planesName => ?_
          refine yields_call (initHdmiObject_yields _) ?_ fun state answer left known right => ?_
          · rintro object (rfl | rfl)
            · exact .inr (Multiset.mem_cons_of_mem (Multiset.mem_cons_self _ _))
            · exact .inr (Multiset.mem_cons_self _ _)
          obtain ⟨rfl, leaves⟩ := right
          have calls := leaves.kinds rfl
          split
          next active =>
            refine yields_pure ⟨rfl, ?_⟩
            rw [Multiset.map_add, calls, zero_add, add_comm, Multiset.map_cons, Multiset.map_cons,
              Multiset.map_zero, Multiset.cons_swap]
            exact .hdmi opens planes known active
          next inactive =>
            rw [Option.map_eq_bind, Multiset.add_comm, Multiset.cons_swap, Multiset.cons_add,
              ← Multiset.singleton_add]
            refine yields_give (initAnyObject_yields name answer) ?_
              fun result result' more comes right => ?_
            · rintro object rfl
              exact .inr (Multiset.mem_cons_self _ _)
            obtain ⟨rfl, tried, tries, leavesMore⟩ := right
            refine yields_pure ⟨rfl, ?_⟩
            have kinds : (more + ({(planesName, DrmObject.planeResources)} + left)).map Prod.snd =
                remains tried + {.planeResources} + platform.generatedBy result'.state.calls := by
              rw [Multiset.map_add, Multiset.map_add, Multiset.map_singleton, calls, zero_add,
                add_left_comm, leavesMore, add_left_comm, add_assoc]
            have leavesAny : InitLeaves platform used context (finishInit result') _ :=
              .any opens planes known (not_not.mp inactive) tries
            rw [← kinds] at leavesAny
            exact leavesAny

/-- `init_kms` computes what it computes without its objects, and uses and frees no object that is
not live, and no object of others. What it leaves of its own objects are the two tables, unless
it has freed the first one or returned before; the connector with which the loop over all
connectors succeeded; and the modes that were generated for its outputs. -/
theorem initKms_objects (platform : Platform) (used : BitVec 32) (context : KmsContext)
    (objects : Objects DrmObject) :
    (platform.initKms used context).elim
      (platform.initKmsObject used context objects = .error .crash) fun result =>
        ∃ (after : Objects DrmObject) (left : Multiset (Object DrmObject)),
          platform.initKmsObject used context objects = .ok (result, after) ∧
            after.live = left + objects.live ∧
            platform.InitLeaves used context result (left.map Prod.snd) := by
  have leaves := platform.initKms_leaves used context objects objects.live
    (Multiset.zero_add _).symm fun object member => by cases member
  cases expected : platform.initKms used context with
  | none =>
      rw [expected] at leaves
      exact leaves
  | some result =>
      rw [expected] at leaves
      obtain ⟨answer, after, left, ran, live, rfl, kinds⟩ := leaves
      exact ⟨after, left, ran, live, kinds⟩

end Platform

end Arpi.Composer
