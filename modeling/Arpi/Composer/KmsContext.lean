import Arpi.Composer.FindMode
import Arpi.Gralloc.PrivateHandle

/-!
# The KMS context

`hwc_context` sets up the outputs when it is created: `init_kms` picks connectors, and
`init_with_connector` finds a CRTC, a primary plane and a mode for each. What the kernel
answers is a parameter. A call that dereferences a null pointer, or shifts by more than an
`int` has bits, has no result.

The calls of `init_with_connector` are recorded, with what they returned; the code does not
keep this record.
-/

namespace Arpi.Composer

open Arpi.Gralloc

/-- The id of a DRM object. -/
abbrev ObjectId := BitVec 32

/-- `drmModeConnection`. -/
inductive Connection where
  | connected
  | disconnected
  | unknown
deriving DecidableEq

/-- `drmModeConnector`. -/
structure Connector where
  connectorId : ObjectId
  connectorType : BitVec 32
  connection : Connection
  encoders : List ObjectId
  modes : List ModeInfo
  mmWidth : BitVec 32
  mmHeight : BitVec 32
deriving DecidableEq

/-- `drmModeProperty`. -/
structure DrmProperty where
  propId : ObjectId
  name : String

/-- `drmModeRes`. -/
structure DrmResources where
  crtcs : List ObjectId
  connectors : List ObjectId

/-- The kinds of objects that the code asks for their properties. -/
inductive ObjectKind where
  | plane
  | crtc

/-- The capabilities that a client asks for. -/
inductive ClientCap where
  | universalPlanes
  | atomic

/-- What the kernel answers: of an encoder and a plane its `possible_crtcs`, and of an object
its properties with their values. -/
structure Drm where
  setClientCap : ClientCap → Int
  getResources : Option DrmResources
  getPlaneResources : Option (List ObjectId)
  getConnector : ObjectId → Option Connector
  getEncoder : ObjectId → Option (BitVec 32)
  getPlane : ObjectId → Option (BitVec 32)
  getObjectProperties : ObjectId → ObjectKind → Option (List (ObjectId × BitVec 64))
  getProperty : ObjectId → Option DrmProperty

/-- What the context runs on. -/
structure Platform where
  drm : Drm
  arithmetic : FloatArithmetic
  properties : ModeProperties

/-- `kms_output`. -/
structure KmsOutput where
  planeId : ObjectId
  crtcId : ObjectId
  connectorId : ObjectId
  pipe : BitVec 32
  mode : ModeInfo
  xdpi : Int
  ydpi : Int
  drmFormat : BitVec 32
  active : BitVec 32
  propFbId : ObjectId
  propCrtcId : ObjectId
  propOutFence : ObjectId
deriving DecidableEq

/-- The outputs of a context. -/
inductive OutputName where
  | primary
  | secondary
deriving DecidableEq

/-- The members of `hwc_context` that its initialisation uses. -/
structure KmsContext where
  resources : Option DrmResources
  planeResources : Option (List ObjectId)
  primaryConnector : Int
  primaryOutput : KmsOutput
  secondaryOutput : KmsOutput
  firstPost : Int
  firstPost2 : Int

namespace KmsContext

/-- The output of a name. -/
def output (context : KmsContext) : OutputName → KmsOutput
  | .primary => context.primaryOutput
  | .secondary => context.secondaryOutput

/-- Writes an output. -/
def setOutput (name : OutputName) (output : KmsOutput) (context : KmsContext) : KmsContext :=
  match name with
  | .primary => { context with primaryOutput := output }
  | .secondary => { context with secondaryOutput := output }

/-- `is_display2_active`. -/
def isDisplay2Active (context : KmsContext) : Bool := context.secondaryOutput.active = 1

end KmsContext

/-- `DRM_MODE_CONNECTOR_HDMIA`. -/
def drmModeConnectorHdmia : BitVec 32 := 11

/-- `DRM_PLANE_TYPE_PRIMARY`. -/
def drmPlaneTypePrimary : Int := 1

/-- `DRM_FORMAT_ABGR8888`. -/
def drmFormatAbgr8888 : BitVec 32 := 0x34324241

/-! ## Properties -/

namespace Drm

variable (drm : Drm)

/-- The loop over the properties of an object, up to the first with a name. -/
def findProperty (name : String) :
    List (ObjectId × BitVec 64) → Option (Option (DrmProperty × BitVec 64))
  | [] => some none
  | (id, value) :: rest =>
      (drm.getProperty id).bind fun prop =>
        if prop.name = name then some (some (prop, value)) else findProperty name rest

/-- `get_property_value`. -/
def getPropertyValue (props : List (ObjectId × BitVec 64)) (name : String) : Option Int :=
  (drm.findProperty name props).map fun
    | some (_, value) => value.toInt
    | none => -1

/-- `get_property_id`. -/
def getPropertyId (props : List (ObjectId × BitVec 64)) (name : String) : Option ObjectId :=
  (drm.findProperty name props).map fun
    | some (prop, _) => prop.propId
    | none => 0

/-! ## A CRTC and a plane -/

/-- `1 << i`. -/
def crtcBit (i : Nat) : Option (BitVec 32) := if i < 32 then some (1#32 <<< i) else none

/-- The loop over the CRTCs, from the `i`-th: the first that is possible and not used yet, or
their count. -/
def searchCrtc (possible used : BitVec 32) : (i : Nat) → (crtcs : List ObjectId) → Option Nat
  | i, [] => some i
  | i, _ :: rest =>
      (crtcBit i).bind fun mask =>
        if possible &&& mask ≠ 0 ∧ used &&& mask ≠ mask then some i
        else searchCrtc possible used (i + 1) rest

/-- The loop over the planes, up to the first primary plane of a CRTC. -/
def findPrimaryPlane (mask : BitVec 32) (output : KmsOutput) : List ObjectId → Option KmsOutput
  | [] => some output
  | planeId :: rest =>
      match drm.getPlane planeId with
      | none => findPrimaryPlane mask output rest
      | some possible =>
          if possible &&& mask ≠ 0 then
            (drm.getObjectProperties planeId .plane).bind fun props =>
            (drm.getPropertyValue props "type").bind fun type =>
              if type = drmPlaneTypePrimary then
                (drm.getPropertyId props "FB_ID").bind fun propFbId =>
                (drm.getPropertyId props "CRTC_ID").bind fun propCrtcId =>
                  some { output with planeId, propFbId, propCrtcId }
              else findPrimaryPlane mask output rest
          else findPrimaryPlane mask output rest

/-- The loop over the connectors, from the `i`-th: the first of a type that is connected,
other than the one to skip. -/
def searchConnector (type : BitVec 32) (skip : Int) :
    (i : Nat) → (connectors : List ObjectId) → Option (Nat × Connector)
  | _, [] => none
  | i, id :: rest =>
      if i = skip then searchConnector type skip (i + 1) rest
      else
        match drm.getConnector id with
        | some connector =>
            if connector.connectorType = type ∧ connector.connection = .connected then
              some (i, connector)
            else searchConnector type skip (i + 1) rest
        | none => searchConnector type skip (i + 1) rest

/-- `fetch_connector`: the connector, and what `primary_connector` becomes. -/
def fetchConnector (resources : DrmResources) (type : BitVec 32) : Option Connector × Int :=
  match drm.searchConnector type (-1) 0 resources.connectors with
  | some (i, connector) => (some connector, i)
  | none => (none, -1)

/-- `fetch_connector2`. -/
def fetchConnector2 (resources : DrmResources) (primaryConnector : Int) (type : BitVec 32) :
    Option Connector :=
  (drm.searchConnector type primaryConnector 0 resources.connectors).map Prod.snd

end Drm

/-! ## Initialisation -/

/-- What a call of `init_with_connector` returns, with `used_crtcs` and the output after it. -/
structure InitAttempt where
  code : Int
  used : BitVec 32
  output : KmsOutput

/-- A call of `init_with_connector` that was made. -/
structure InitCall where
  name : OutputName
  connector : Connector
  code : Int
  output : KmsOutput

/-- The state of an initialisation: `used_crtcs`, the context and the calls so far. -/
structure InitState where
  used : BitVec 32
  context : KmsContext
  calls : List InitCall

/-- The return value of an initialisation, or of a call that it makes, and the state after. -/
structure InitResult where
  code : Int
  state : InitState

namespace InitState

/-- Sets `active` of an output. -/
def activate (name : OutputName) (state : InitState) : InitState :=
  { state with context :=
      state.context.setOutput name { state.context.output name with active := 1 } }

/-- Sets `first_post` and `first_post2`. -/
def armPosts (state : InitState) : InitState :=
  { state with context := { state.context with firstPost := 1, firstPost2 := 1 } }

end InitState

namespace Platform

variable (platform : Platform)

/-- The fields that `init_with_connector` writes after the plane. -/
def complete (connector : Connector) (pipe : Nat) (crtc propOutFence : ObjectId)
    (mode : ModeInfo) (output : KmsOutput) : KmsOutput :=
  let measured := connector.mmWidth ≠ 0 ∧ connector.mmHeight ≠ 0
  { output with
    crtcId := crtc
    propOutFence
    connectorId := connector.connectorId
    pipe := pipe
    mode
    drmFormat := drmFormatAbgr8888
    xdpi := if measured then platform.arithmetic.dotsPerInch mode.hdisplay connector.mmWidth
      else 75
    ydpi := if measured then platform.arithmetic.dotsPerInch mode.vdisplay connector.mmHeight
      else 75 }

/-- `init_with_connector`. -/
def initWithConnector (resources : DrmResources) (planes : List ObjectId) (used : BitVec 32)
    (output : KmsOutput) (connector : Connector) : Option InitAttempt :=
  connector.encoders.head?.bind fun encoder =>
    match platform.drm.getEncoder encoder with
    | none => some ⟨-einval, used, output⟩
    | some possible =>
        (Drm.searchCrtc possible used 0 resources.crtcs).bind fun i =>
        (Drm.crtcBit i).bind fun mask =>
          match resources.crtcs[i]? with
          | none => some ⟨-einval, used ||| mask, output⟩
          | some crtc =>
              (platform.drm.findPrimaryPlane mask { output with planeId := 0 } planes).bind
                fun output =>
              (platform.drm.getObjectProperties crtc .crtc).bind fun props =>
              (platform.drm.getPropertyId props "OUT_FENCE_PTR").bind fun propOutFence =>
              (findMode platform.arithmetic platform.properties connector.modes).bind
                fun mode =>
                  some ⟨0, used ||| mask,
                    platform.complete connector i crtc propOutFence mode output⟩

/-- Calls `init_with_connector` on an output of the context. -/
def initOutput (resources : DrmResources) (planes : List ObjectId) (name : OutputName)
    (connector : Connector) (state : InitState) : Option InitResult :=
  (platform.initWithConnector resources planes state.used (state.context.output name)
    connector).map fun attempt =>
      ⟨attempt.code, attempt.used, state.context.setOutput name attempt.output,
        state.calls ++ [⟨name, connector, attempt.code, attempt.output⟩]⟩

/-- The part of `init_kms` for the two HDMI connectors, which ignores what the calls of
`init_with_connector` return. -/
def initHdmi (resources : DrmResources) (planes : List ObjectId) (state : InitState) :
    Option InitState :=
  let fetched := platform.drm.fetchConnector resources drmModeConnectorHdmia
  let state := { state with context := { state.context with primaryConnector := fetched.2 } }
  match fetched.1 with
  | none => some state
  | some primary =>
      (platform.initOutput resources planes .primary primary state).bind fun done =>
        let state := done.state.activate .primary
        match platform.drm.fetchConnector2 resources fetched.2 drmModeConnectorHdmia with
        | none => some state
        | some secondary =>
            (platform.initOutput resources planes .secondary secondary state).map fun done =>
              done.state.activate .secondary

/-- How the loop over the connectors ends: whether a connector was initialised, and the last
that was valid. -/
structure LoopEnd where
  found : Bool
  lastValid : Option ObjectId
  state : InitState

/-- The loop of `init_kms` over all connectors. -/
def tryConnectors (resources : DrmResources) (planes : List ObjectId) :
    (lastValid : Option ObjectId) → (state : InitState) → (connectors : List ObjectId) →
    Option LoopEnd
  | lastValid, state, [] => some ⟨false, lastValid, state⟩
  | lastValid, state, id :: rest =>
      match platform.drm.getConnector id with
      | none => tryConnectors resources planes lastValid state rest
      | some connector =>
          if connector.connection = .connected then
            (platform.initOutput resources planes .primary connector state).bind fun done =>
              if done.code = 0 then some ⟨true, some id, done.state⟩
              else tryConnectors resources planes (some id) done.state rest
          else tryConnectors resources planes (some id) state rest

/-- The part of `init_kms` for any connector. The last valid one is used even though
nothing is connected to it, and whatever `init_with_connector` returns. -/
def initAny (resources : DrmResources) (planes : List ObjectId) (state : InitState) :
    Option InitResult :=
  (platform.tryConnectors resources planes none state resources.connectors).bind fun tried =>
    if tried.found then some ⟨0, tried.state⟩
    else
      match tried.lastValid with
      | some id =>
          (platform.drm.getConnector id).bind fun connector =>
          (platform.initOutput resources planes .primary connector tried.state).map fun done =>
            ⟨0, done.state⟩
      | none =>
          some ⟨-einval,
            { tried.state with context := { tried.state.context with resources := none } }⟩

/-- The end of `init_kms`, unless it has returned an error. -/
def finishInit (result : InitResult) : InitResult :=
  if result.code = 0 then ⟨0, result.state.armPosts⟩ else result

/-- `init_kms`, in a process that has marked some CRTCs as used, on an object with any
contents. -/
def initKms (used : BitVec 32) (context : KmsContext) : Option InitResult :=
  let universal := platform.drm.setClientCap .universalPlanes
  let atomic := platform.drm.setClientCap .atomic
  if universal ≠ 0 then some ⟨universal, used, context, []⟩
  else if atomic ≠ 0 then some ⟨atomic, used, context, []⟩
  else
    match platform.drm.getResources, platform.drm.getPlaneResources with
    | none, _ => some ⟨-einval, used, { context with resources := none }, []⟩
    | some resources, none =>
        some ⟨-einval, used,
          { context with resources := some resources, planeResources := none }, []⟩
    | some resources, some planes =>
        let context :=
          { context with resources := some resources, planeResources := some planes }
        (platform.initHdmi resources planes ⟨used, context, []⟩).bind fun state =>
          if state.context.primaryOutput.active ≠ 0 then some (finishInit ⟨0, state⟩)
          else (platform.initAny resources planes state).map finishInit

end Platform

end Arpi.Composer
