import Arpi.Composer.KmsSelection

/-!
# The outputs after initialisation

`init_kms` looks at what `init_with_connector` returns only in its loop over the connectors.
Where it does not, it goes on with an output that was not initialised; and the members that
say which outputs are active hold whatever the memory held. An initialisation that succeeds
is sound exactly when the connectors it settles on can be served, and these members happen
to be right where nothing writes them.
-/

namespace Arpi.Composer

open Arpi.Gralloc Arpi.Semantics

namespace Platform

variable (platform : Platform)

/-- One of the calls on an output returned 0 and initialised it completely, with what it needs
of an existing connector. `init_kms` may have set `active` since. -/
def InitialisedIn (resources : DrmResources) (planes : List ObjectId) (calls : List InitCall)
    (name : OutputName) (output : KmsOutput) : Prop :=
  ∃ call ∈ calls, call.name = name ∧ call.code = 0 ∧
    output = { call.output with active := output.active } ∧
    (∃ id ∈ resources.connectors, platform.drm.getConnector id = some call.connector) ∧
    platform.CompletelyInitialised resources planes call.connector output ∧
    platform.Equipped resources planes call.connector output

/-- The outputs that are used are initialised. -/
def SoundOutputs (resources : DrmResources) (planes : List ObjectId) (state : InitState) :
    Prop :=
  platform.InitialisedIn resources planes state.calls .primary state.context.primaryOutput ∧
    (state.context.isDisplay2Active = true →
      platform.InitialisedIn resources planes state.calls .secondary state.context.secondaryOutput)

/-- The same on the card that the kernel reports. -/
def SoundSetup (state : InitState) : Prop :=
  ∃ resources planes, platform.drm.getResources = some resources ∧
    platform.drm.getPlaneResources = some planes ∧ platform.SoundOutputs resources planes state

/-- The encoder of a connector allows a CRTC that is not marked as used, and the first such
CRTC has a primary plane. -/
def Serves (resources : DrmResources) (planes : List ObjectId) (used : BitVec 32)
    (connector : Connector) (i : Nat) : Prop :=
  platform.freeCrtc resources used connector = some i ∧
    ∃ planeId, platform.PrimaryPlane planes i planeId

/-- The connectors that the kernel describes. -/
def validConnectors (connectors : List ObjectId) : List Connector :=
  connectors.filterMap platform.drm.getConnector

/-- The connected connectors of a type. -/
def connectedOf (type : BitVec 32) (connectors : List ObjectId) : List Connector :=
  (platform.validConnectors connectors).filter fun connector =>
    connector.connectorType = type ∧ connector.connection = .connected

/-- A connector is connected and has a free CRTC. -/
def isWorkable (resources : DrmResources) (used : BitVec 32) (connector : Connector) : Bool :=
  connector.connection = .connected && (platform.freeCrtc resources used connector).isSome

/-- The connector to fall back on: the first that is workable, else the last of all. -/
def fallbackConnector (resources : DrmResources) (used : BitVec 32) : Option Connector :=
  ((platform.validConnectors resources.connectors).find?
      (platform.isWorkable resources used)).or
    (platform.validConnectors resources.connectors).getLast?

/-- What an initialisation needs, by the number of connected HDMI connectors. -/
def ProvidedFor (resources : DrmResources) (planes : List ObjectId) (used : BitVec 32)
    (context : KmsContext) : Prop :=
  match platform.connectedOf drmModeConnectorHdmia resources.connectors with
  | [] =>
      context.primaryOutput.active = 0 ∧ context.secondaryOutput.active ≠ 1 ∧
        ∃ connector i, platform.fallbackConnector resources used = some connector ∧
          platform.Serves resources planes used connector i
  | [primary] =>
      context.secondaryOutput.active ≠ 1 ∧ ∃ i, platform.Serves resources planes used primary i
  | primary :: secondary :: _ =>
      ∃ i j, platform.Serves resources planes used primary i ∧
        platform.Serves resources planes (used ||| BitVec.twoPow 32 i) secondary j

/-- What an initialisation needs of the card and of the memory. -/
def Provided (used : BitVec 32) (context : KmsContext) : Prop :=
  ∃ resources planes, platform.drm.getResources = some resources ∧
    platform.drm.getPlaneResources = some planes ∧
    platform.ProvidedFor resources planes used context

/-! ## The connectors -/

section Connectors

variable {platform} {type : BitVec 32} {resources : DrmResources}

/-- A valid connector is one of the card. -/
theorem exists_of_valid {connectors : List ObjectId} {connector : Connector}
    (valid : connector ∈ platform.validConnectors connectors) :
    ∃ id ∈ connectors, platform.drm.getConnector id = some connector :=
  List.mem_filterMap.mp valid

theorem connectedOf_cons_of_fits {id : ObjectId} {rest : List ObjectId} {connector : Connector}
    (fetched : platform.drm.getConnector id = some connector)
    (fits : connector.connectorType = type ∧ connector.connection = .connected) :
    platform.connectedOf type (id :: rest) = connector :: platform.connectedOf type rest := by
  simp [connectedOf, validConnectors, fetched, fits]

theorem connectedOf_cons_of_unfit {id : ObjectId} {rest : List ObjectId}
    (unfit : ∀ connector, platform.drm.getConnector id = some connector →
      ¬ (connector.connectorType = type ∧ connector.connection = .connected)) :
    platform.connectedOf type (id :: rest) = platform.connectedOf type rest := by
  cases fetched : platform.drm.getConnector id with
  | none => simp [connectedOf, validConnectors, fetched]
  | some connector =>
      have passed := unfit connector fetched
      simp only [connectedOf, validConnectors, List.filterMap_cons, fetched]
      exact List.filter_cons_of_neg (by simpa using passed)

theorem searchConnector_cons_of_fits {skip : Int} {start : Nat} (different : (start : Int) ≠ skip)
    {id : ObjectId} {rest : List ObjectId} {connector : Connector}
    (fetched : platform.drm.getConnector id = some connector)
    (fits : connector.connectorType = type ∧ connector.connection = .connected) :
    platform.drm.searchConnector type skip start (id :: rest) = some (start, connector) := by
  simp [Drm.searchConnector, different, fetched, fits]

theorem searchConnector_cons_of_unfit {skip : Int} {start : Nat} {id : ObjectId}
    {rest : List ObjectId}
    (unfit : ∀ connector, platform.drm.getConnector id = some connector →
      ¬ (connector.connectorType = type ∧ connector.connection = .connected)) :
    platform.drm.searchConnector type skip start (id :: rest) =
      platform.drm.searchConnector type skip (start + 1) rest := by
  cases fetched : platform.drm.getConnector id with
  | none => simp [Drm.searchConnector, fetched]
  | some connector => simp [Drm.searchConnector, fetched, if_neg (unfit connector fetched)]

/-- A connector fits, or it is passed over. -/
theorem fits_or_unfit (platform : Platform) (type : BitVec 32) (id : ObjectId) :
    (∃ connector, platform.drm.getConnector id = some connector ∧
      connector.connectorType = type ∧ connector.connection = .connected) ∨
    ∀ connector, platform.drm.getConnector id = some connector →
      ¬ (connector.connectorType = type ∧ connector.connection = .connected) := by
  by_cases fits : ∃ connector, platform.drm.getConnector id = some connector ∧
      connector.connectorType = type ∧ connector.connection = .connected
  · exact .inl fits
  · exact .inr fun connector fetched matched => fits ⟨connector, fetched, matched⟩

/-- With none to skip, the first connected connector of the type is found. -/
theorem searchConnector_head {skip : Int} {start : Nat} (skipped : skip < start)
    (connectors : List ObjectId) :
    (platform.drm.searchConnector type skip start connectors).map Prod.snd =
      (platform.connectedOf type connectors).head? := by
  induction connectors generalizing start with
  | nil => rfl
  | cons id rest ih =>
      rcases fits_or_unfit platform type id with ⟨connector, fetched, fits⟩ | unfit
      · rw [searchConnector_cons_of_fits (by omega) fetched fits,
          connectedOf_cons_of_fits fetched fits]
        rfl
      · rw [searchConnector_cons_of_unfit unfit, connectedOf_cons_of_unfit unfit]
        exact ih (by omega)

/-- Skipping the first one finds the second. -/
theorem searchConnector_second {start found : Nat} {connector : Connector}
    {connectors : List ObjectId} {skip : Int} (skipped : skip < start)
    (first : platform.drm.searchConnector type skip start connectors = some (found, connector)) :
    start ≤ found ∧ (platform.drm.searchConnector type found start connectors).map Prod.snd =
      (platform.connectedOf type connectors).tail.head? := by
  induction connectors generalizing start with
  | nil => cases first
  | cons id rest ih =>
      rcases fits_or_unfit platform type id with ⟨head, fetched, fits⟩ | unfit
      · rw [searchConnector_cons_of_fits (by omega) fetched fits] at first
        obtain ⟨rfl, -⟩ := Prod.mk.inj (Option.some.inj first)
        rw [connectedOf_cons_of_fits fetched fits]
        refine ⟨le_rfl, ?_⟩
        rw [Drm.searchConnector, if_pos rfl, searchConnector_head (by omega)]
        rfl
      · rw [searchConnector_cons_of_unfit unfit] at first
        obtain ⟨later, second⟩ := ih (by omega) first
        refine ⟨by omega, ?_⟩
        rw [searchConnector_cons_of_unfit unfit, connectedOf_cons_of_unfit unfit]
        exact second

/-- Without a connected connector of the type, `fetch_connector` finds none. -/
theorem fetchConnector_of_nil (nothing : platform.connectedOf type resources.connectors = []) :
    platform.drm.fetchConnector resources type = (none, -1) := by
  have searched : (platform.drm.searchConnector type (-1) 0 resources.connectors).map
      Prod.snd = none := by
    rw [searchConnector_head (by decide), nothing]
    rfl
  simp [Drm.fetchConnector, Option.map_eq_none_iff.mp searched]

/-- `fetch_connector` finds the first connected connector of the type, and `fetch_connector2`
the second. -/
theorem fetchConnector_of_cons {primary : Connector} {others : List Connector}
    (listed : platform.connectedOf type resources.connectors = primary :: others) :
    ∃ index, platform.drm.fetchConnector resources type = (some primary, index) ∧
      platform.drm.fetchConnector2 resources index type = others.head? := by
  have searched : (platform.drm.searchConnector type (-1) 0 resources.connectors).map
      Prod.snd = some primary := by
    rw [searchConnector_head (by decide), listed]
    rfl
  obtain ⟨⟨index, connector⟩, first, rfl⟩ := Option.map_eq_some_iff.mp searched
  have second := (searchConnector_second (by decide) first).2
  rw [listed] at second
  exact ⟨index, by simp [Drm.fetchConnector, first], second⟩

end Connectors

/-! ## The calls -/

section Calls

variable {platform} {resources : DrmResources} {planes : List ObjectId} {used : BitVec 32}
  {connector : Connector} {output : KmsOutput} {attempt : InitAttempt}

/-- An attempt returns 0 and initialises the output completely. -/
def Succeeded (platform : Platform) (resources : DrmResources) (planes : List ObjectId)
    (connector : Connector) (attempt : InitAttempt) : Prop :=
  attempt.code = 0 ∧
    platform.CompletelyInitialised resources planes connector attempt.output ∧
    platform.Equipped resources planes connector attempt.output

/-- An attempt succeeds exactly on a connector that can be served. -/
theorem AttemptOutcome.succeeded_iff
    (outcome : platform.AttemptOutcome resources planes used connector output attempt) :
    Succeeded platform resources planes connector attempt ↔
      ∃ i, platform.Serves resources planes used connector i := by
  cases outcome with
  | refused nothing agree =>
      constructor
      · rintro ⟨code, -⟩
        cases code
      · rintro ⟨i, free, -⟩
        rw [nothing] at free
        cases free
  | planeless free missing pipe =>
      constructor
      · rintro ⟨-, -, equipped⟩
        have plane := equipped.plane
        rw [pipe] at plane
        exact absurd plane (missing _)
      · rintro ⟨i, other, planeId, plane⟩
        rw [free] at other
        cases other
        exact absurd plane (missing planeId)
  | equipped free plane equipped complete =>
      exact iff_of_true ⟨rfl, complete, equipped⟩ ⟨_, free, plane⟩

/-- An attempt that serves the connector marks its CRTC. -/
theorem AttemptOutcome.used_of_serves {i : Nat}
    (outcome : platform.AttemptOutcome resources planes used connector output attempt)
    (serves : platform.Serves resources planes used connector i) :
    attempt.used = used ||| BitVec.twoPow 32 i := by
  cases outcome with
  | refused nothing agree =>
      have free := serves.1
      rw [nothing] at free
      cases free
  | planeless free missing pipe =>
      rw [Option.some.inj (free.symm.trans serves.1)]
  | equipped free plane equipped complete =>
      rw [Option.some.inj (free.symm.trans serves.1)]

/-- An attempt returns 0 exactly if there is a free CRTC; otherwise it leaves the output alone
and marks no CRTC of the card. -/
theorem AttemptOutcome.code_eq_zero
    (outcome : platform.AttemptOutcome resources planes used connector output attempt) :
    (attempt.code = 0 ∧ (platform.freeCrtc resources used connector).isSome = true) ∨
      (attempt.code ≠ 0 ∧ (platform.freeCrtc resources used connector).isSome = false ∧
        attempt.output = output ∧
        ∀ i < resources.crtcs.length, attempt.used.getLsbD i = used.getLsbD i) := by
  cases outcome with
  | refused nothing agree => exact .inr ⟨show -einval ≠ 0 by decide, by simp [nothing], rfl, agree⟩
  | planeless free missing pipe => exact .inl ⟨rfl, by simp [free]⟩
  | equipped free plane equipped complete => exact .inl ⟨rfl, by simp [free]⟩

/-- `active` plays no part in what an output was given. -/
theorem CompletelyInitialised.activate (active : BitVec 32)
    (complete : platform.CompletelyInitialised resources planes connector output) :
    platform.CompletelyInitialised resources planes connector { output with active } := by
  obtain ⟨used, after, same⟩ := complete
  exact ⟨used, after, same⟩

theorem Equipped.activate (active : BitVec 32)
    (equipped : platform.Equipped resources planes connector output) :
    platform.Equipped resources planes connector { output with active } :=
  ⟨equipped.crtc, equipped.allowed, equipped.plane, equipped.mode⟩

/-- An output that only one call can have initialised is initialised exactly if this call
succeeded. -/
theorem initialisedIn_iff {calls : List InitCall} {name : OutputName} {active : BitVec 32}
    (called : ⟨name, connector, attempt.code, attempt.output⟩ ∈ calls)
    (only : ∀ call ∈ calls, call.name = name → call.code = 0 →
      call = ⟨name, connector, attempt.code, attempt.output⟩)
    (exists_ : ∃ id ∈ resources.connectors, platform.drm.getConnector id = some connector) :
    platform.InitialisedIn resources planes calls name { attempt.output with active } ↔
      Succeeded platform resources planes connector attempt := by
  constructor
  · rintro ⟨call, member, named, code, -, -, complete, equipped⟩
    obtain rfl := only call member named code
    exact ⟨code, complete.activate attempt.output.active,
      equipped.activate attempt.output.active⟩
  · rintro ⟨code, complete, equipped⟩
    exact ⟨_, called, rfl, code, rfl, exists_, complete.activate active, equipped.activate active⟩

/-- An output that no call was made for is not initialised. -/
theorem not_initialisedIn {calls : List InitCall} {name : OutputName}
    (uncalled : ∀ call ∈ calls, call.name = name → call.code ≠ 0) :
    ¬ platform.InitialisedIn resources planes calls name output := by
  rintro ⟨call, member, named, code, -⟩
  exact uncalled call member named code

end Calls

/-! ## The runs -/

section Runs

variable {platform} {resources : DrmResources} {planes : List ObjectId} {state : InitState}

/-- An output and the record of its call, after `init_with_connector`. -/
theorem initOutput_eq {name : OutputName} {connector : Connector} {done : InitResult}
    (initialised : platform.initOutput resources planes name connector state = some done) :
    ∃ attempt, platform.initWithConnector resources planes state.used
        (state.context.output name) connector = some attempt ∧
      done = ⟨attempt.code, attempt.used, state.context.setOutput name attempt.output,
        state.calls ++ [⟨name, connector, attempt.code, attempt.output⟩]⟩ := by
  obtain ⟨attempt, attempted, same⟩ := Option.map_eq_some_iff.mp initialised
  exact ⟨attempt, attempted, same.symm⟩

/-- Without HDMI connectors, the first part of `init_kms` initialises nothing. -/
theorem initHdmi_of_nil
    (nothing : platform.connectedOf drmModeConnectorHdmia resources.connectors = []) :
    platform.initHdmi resources planes state =
      some { state with context := { state.context with primaryConnector := -1 } } := by
  simp only [initHdmi, fetchConnector_of_nil nothing]

/-- With one, it makes one call for the primary output. -/
theorem initHdmi_of_single {primary : Connector} {after : InitState}
    (single : platform.connectedOf drmModeConnectorHdmia resources.connectors = [primary])
    (ended : platform.initHdmi resources planes state = some after) :
    ∃ attempt, platform.initWithConnector resources planes state.used
        state.context.primaryOutput primary = some attempt ∧
      after.context.primaryOutput = { attempt.output with active := 1 } ∧
      after.context.secondaryOutput = state.context.secondaryOutput ∧
      after.calls = state.calls ++ [⟨.primary, primary, attempt.code, attempt.output⟩] := by
  obtain ⟨index, first, second⟩ := fetchConnector_of_cons single
  simp only [initHdmi, first, second, List.head?_nil] at ended
  obtain ⟨done, initialised, ended⟩ := Option.bind_eq_some_iff.mp ended
  obtain ⟨attempt, attempted, rfl⟩ := initOutput_eq initialised
  obtain rfl := Option.some.inj ended
  exact ⟨attempt, attempted, rfl, rfl, rfl⟩

/-- With more, it makes a call for each output. -/
theorem initHdmi_of_pair {primary secondary : Connector} {others : List Connector}
    {after : InitState}
    (pair : platform.connectedOf drmModeConnectorHdmia resources.connectors =
      primary :: secondary :: others)
    (ended : platform.initHdmi resources planes state = some after) :
    ∃ first second, platform.initWithConnector resources planes state.used
        state.context.primaryOutput primary = some first ∧
      platform.initWithConnector resources planes first.used
        state.context.secondaryOutput secondary = some second ∧
      after.context.primaryOutput = { first.output with active := 1 } ∧
      after.context.secondaryOutput = { second.output with active := 1 } ∧
      after.calls = state.calls ++ [⟨.primary, primary, first.code, first.output⟩] ++
        [⟨.secondary, secondary, second.code, second.output⟩] := by
  obtain ⟨index, fetched, next⟩ := fetchConnector_of_cons pair
  simp only [initHdmi, fetched, next, List.head?_cons] at ended
  obtain ⟨done, initialised, ended⟩ := Option.bind_eq_some_iff.mp ended
  obtain ⟨first, attempted, rfl⟩ := initOutput_eq initialised
  obtain ⟨done, initialised, rfl⟩ := Option.map_eq_some_iff.mp ended
  obtain ⟨second, reattempted, rfl⟩ := initOutput_eq initialised
  exact ⟨first, second, attempted, reattempted, rfl, rfl, rfl⟩

/-- The calls of the loop over the connectors that failed. -/
def Failures (calls : List InitCall) : Prop := ∀ call ∈ calls, call.code ≠ 0

theorem failures_nil : Failures [] := fun _ member => by cases member

/-- How the loop over the connectors ends: it initialises the first workable one, or there is
none, and it has seen which is the last. -/
inductive LoopOutcome (platform : Platform) (resources : DrmResources) (planes : List ObjectId)
    (lastValid : Option ObjectId) (state : InitState) (valid : List Connector) : LoopEnd → Prop
  | stopped {connector : Connector} {used : BitVec 32} {attempt : InitAttempt}
      {failed : List InitCall} {id : Option ObjectId}
      (workable : valid.find? (platform.isWorkable resources state.used) = some connector)
      (agree : ∀ i < resources.crtcs.length, used.getLsbD i = state.used.getLsbD i)
      (attempted : platform.initWithConnector resources planes used state.context.primaryOutput
        connector = some attempt)
      (failures : Failures failed) :
      LoopOutcome platform resources planes lastValid state valid
        ⟨true, id, attempt.used, state.context.setOutput .primary attempt.output,
          state.calls ++ failed ++ [⟨.primary, connector, attempt.code, attempt.output⟩]⟩
  | exhausted {used : BitVec 32} {failed : List InitCall} {id : Option ObjectId}
      (unworkable : valid.find? (platform.isWorkable resources state.used) = none)
      (agree : ∀ i < resources.crtcs.length, used.getLsbD i = state.used.getLsbD i)
      (failures : Failures failed)
      (last : id.bind platform.drm.getConnector =
        valid.getLast?.or (lastValid.bind platform.drm.getConnector)) :
      LoopOutcome platform resources planes lastValid state valid
        ⟨false, id, used, state.context, state.calls ++ failed⟩

/-- Marks beyond the last CRTC make no connector workable or unworkable. -/
theorem isWorkable_congr {first second : BitVec 32}
    (agree : ∀ i < resources.crtcs.length, first.getLsbD i = second.getLsbD i) :
    platform.isWorkable resources first = platform.isWorkable resources second := by
  ext connector : 1
  rw [isWorkable, isWorkable, freeCrtc_congr agree]

/-- A valid connector that is not workable is passed over, whether it was tried or not. -/
theorem LoopOutcome.pass {lastValid : Option ObjectId} {id : ObjectId} {connector : Connector}
    {valid : List Connector} {used : BitVec 32} {failed : List InitCall} {ended : LoopEnd}
    (fetched : platform.drm.getConnector id = some connector)
    (unworkable : platform.isWorkable resources state.used connector = false)
    (agree : ∀ i < resources.crtcs.length, used.getLsbD i = state.used.getLsbD i)
    (failures : Failures failed)
    (outcome : LoopOutcome platform resources planes (some id)
      ⟨used, state.context, state.calls ++ failed⟩ valid ended) :
    LoopOutcome platform resources planes lastValid state (connector :: valid) ended := by
  have joined : ∀ {later : List InitCall}, Failures later → Failures (failed ++ later) :=
    fun later call member => (List.mem_append.mp member).elim (failures call) (later call)
  have skipped : (connector :: valid).find? (platform.isWorkable resources state.used) =
      valid.find? (platform.isWorkable resources used) := by
    rw [isWorkable_congr agree, List.find?_cons_of_neg (by simp [unworkable])]
  cases outcome with
  | stopped workable later attempted failures' =>
      rw [List.append_assoc state.calls]
      exact .stopped (skipped.trans workable)
        (fun i inside => (later i inside).trans (agree i inside)) attempted (joined failures')
  | exhausted none later failures' last =>
      rw [List.append_assoc state.calls]
      refine .exhausted (skipped.trans none)
        (fun i inside => (later i inside).trans (agree i inside)) (joined failures') ?_
      rw [last, Option.bind_some, fetched, List.getLast?_cons]
      cases valid.getLast? <;> rfl

/-- The loop over the connectors, by induction on those that are left. -/
theorem tryConnectors_outcome {lastValid : Option ObjectId} {connectors : List ObjectId}
    {ended : LoopEnd}
    (tried : platform.tryConnectors resources planes lastValid state connectors = some ended) :
    LoopOutcome platform resources planes lastValid state
      (platform.validConnectors connectors) ended := by
  induction connectors generalizing lastValid state with
  | nil =>
      obtain rfl := Option.some.inj tried
      have outcome : LoopOutcome platform resources planes lastValid state []
          ⟨false, lastValid, state.used, state.context, state.calls ++ []⟩ :=
        .exhausted rfl (fun _ _ => rfl) failures_nil (by simp)
      rw [List.append_nil] at outcome
      exact outcome
  | cons id rest ih =>
      unfold tryConnectors at tried
      cases fetched : platform.drm.getConnector id with
      | none =>
          rw [fetched] at tried
          rw [validConnectors, List.filterMap_cons_none fetched]
          exact ih tried
      | some connector =>
          rw [fetched] at tried
          rw [validConnectors, List.filterMap_cons_some fetched]
          by_cases connected : connector.connection = .connected
          case neg =>
            simp only [if_neg connected] at tried
            have unworkable : platform.isWorkable resources state.used connector = false := by
              simp [isWorkable, connected]
            refine LoopOutcome.pass fetched unworkable (fun _ _ => rfl) failures_nil ?_
            rw [List.append_nil]
            exact ih tried
          simp only [if_pos connected] at tried
          obtain ⟨done, initialised, tried⟩ := Option.bind_eq_some_iff.mp tried
          obtain ⟨attempt, attempted, rfl⟩ := initOutput_eq initialised
          rcases (initWithConnector_outcome attempted).code_eq_zero with
            ⟨code, free⟩ | ⟨code, busy, kept, agree⟩
          · -- the connector was initialised
            simp only [if_pos code] at tried
            obtain rfl := Option.some.inj tried
            have outcome : LoopOutcome platform resources planes lastValid state
                (connector :: platform.validConnectors rest)
                ⟨true, some id, attempt.used, state.context.setOutput .primary attempt.output,
                  state.calls ++ [] ++
                    [⟨.primary, connector, attempt.code, attempt.output⟩]⟩ := by
              refine .stopped (List.find?_cons_of_pos ?_) (fun _ _ => rfl) attempted failures_nil
              simp [isWorkable, connected, free]
            rw [List.append_nil] at outcome
            exact outcome
          · -- it was refused, which left the output alone
            simp only [if_neg code] at tried
            have unworkable : platform.isWorkable resources state.used connector = false := by
              simp [isWorkable, busy]
            have same : state.context.setOutput .primary attempt.output = state.context := by
              rw [kept]
              rfl
            rw [same] at tried
            refine LoopOutcome.pass fetched unworkable agree ?_ (ih tried)
            intro call member
            rw [List.mem_singleton.mp member]
            exact code

/-- The second part of `init_kms`, if it returns 0, makes its last call for the primary output
with the connector to fall back on. -/
theorem initAny_outcome {result : InitResult}
    (ended : platform.initAny resources planes state = some result) (code : result.code = 0) :
    ∃ connector used attempt failed,
      platform.fallbackConnector resources state.used = some connector ∧
      (∀ i < resources.crtcs.length, used.getLsbD i = state.used.getLsbD i) ∧
      platform.initWithConnector resources planes used state.context.primaryOutput connector =
        some attempt ∧
      Failures failed ∧
      result.state = ⟨attempt.used, state.context.setOutput .primary attempt.output,
        state.calls ++ failed ++ [⟨.primary, connector, attempt.code, attempt.output⟩]⟩ := by
  obtain ⟨tried, loop, ended⟩ := Option.bind_eq_some_iff.mp ended
  have outcome := tryConnectors_outcome loop
  cases outcome with
  | stopped workable agree attempted failures =>
      rw [if_pos rfl] at ended
      obtain rfl := Option.some.inj ended
      refine ⟨_, _, _, _, ?_, agree, attempted, failures, rfl⟩
      rw [fallbackConnector, workable, Option.some_or]
  | exhausted unworkable agree failures last =>
      rename_i used failed id
      rw [if_neg Bool.false_ne_true] at ended
      cases id with
      | none =>
          obtain rfl := Option.some.inj ended
          cases code
      | some id =>
          obtain ⟨connector, fetched, ended⟩ := Option.bind_eq_some_iff.mp ended
          obtain ⟨done, initialised, rfl⟩ := Option.map_eq_some_iff.mp ended
          obtain ⟨attempt, attempted, rfl⟩ := initOutput_eq initialised
          refine ⟨connector, used, attempt, failed, ?_, agree, attempted, failures, rfl⟩
          rw [Option.bind_some, fetched, Option.bind_none, Option.or_none] at last
          rw [fallbackConnector, unworkable, Option.none_or, ← last]

/-- Marks beyond the last CRTC make no difference to what a connector is given. -/
theorem serves_congr {first second : BitVec 32} {connector : Connector} {i : Nat}
    (agree : ∀ i < resources.crtcs.length, first.getLsbD i = second.getLsbD i) :
    platform.Serves resources planes first connector i ↔
      platform.Serves resources planes second connector i := by
  rw [Serves, Serves, freeCrtc_congr agree]

/-- The connector to fall back on is one of the card. -/
theorem exists_of_fallback {used : BitVec 32} {connector : Connector}
    (fallback : platform.fallbackConnector resources used = some connector) :
    ∃ id ∈ resources.connectors, platform.drm.getConnector id = some connector := by
  apply exists_of_valid
  rcases Option.or_eq_some_iff.mp fallback with workable | ⟨-, last⟩
  · exact List.mem_of_find?_eq_some workable
  · exact List.mem_of_getLast? last

/-- A connected connector of a type is one of the card. -/
theorem exists_of_connectedOf {type : BitVec 32} {connector : Connector}
    (listed : connector ∈ platform.connectedOf type resources.connectors) :
    ∃ id ∈ resources.connectors, platform.drm.getConnector id = some connector :=
  exists_of_valid (List.mem_of_mem_filter listed)

/-- An initialisation that returns 0 has gone through the first part of `init_kms`, and through
the second one unless the primary output counts as active. -/
theorem initKms_cases {used : BitVec 32} {context : KmsContext}
    (returned : platform.initKms used context = some ⟨0, state⟩) :
    ∃ resources planes after, platform.drm.getResources = some resources ∧
      platform.drm.getPlaneResources = some planes ∧
      platform.initHdmi resources planes
        ⟨used, { context with resources := some resources, planeResources := some planes }, []⟩ =
          some after ∧
      ((after.context.primaryOutput.active ≠ 0 ∧ state = after.armPosts) ∨
        (after.context.primaryOutput.active = 0 ∧ ∃ result,
          platform.initAny resources planes after = some result ∧ result.code = 0 ∧
            state = result.state.armPosts)) := by
  unfold initKms at returned
  by_cases universal : platform.drm.setClientCap .universalPlanes ≠ 0
  · rw [if_pos universal] at returned
    exact absurd (congrArg InitResult.code (Option.some.inj returned)) universal
  rw [if_neg universal] at returned
  by_cases atomic : platform.drm.setClientCap .atomic ≠ 0
  · rw [if_pos atomic] at returned
    exact absurd (congrArg InitResult.code (Option.some.inj returned)) atomic
  rw [if_neg atomic] at returned
  cases fetched : platform.drm.getResources with
  | none =>
      rw [fetched] at returned
      cases congrArg InitResult.code (Option.some.inj returned)
  | some resources =>
      cases listed : platform.drm.getPlaneResources with
      | none =>
          rw [fetched, listed] at returned
          cases congrArg InitResult.code (Option.some.inj returned)
      | some planes =>
          rw [fetched, listed] at returned
          obtain ⟨after, hdmi, returned⟩ := Option.bind_eq_some_iff.mp returned
          refine ⟨resources, planes, after, rfl, rfl, hdmi, ?_⟩
          by_cases active : after.context.primaryOutput.active = 0
          · rw [if_neg (not_not_intro active)] at returned
            obtain ⟨result, ended, finished⟩ := Option.map_eq_some_iff.mp returned
            by_cases code : result.code = 0
            · rw [finishInit, if_pos code] at finished
              exact .inr ⟨active, result, ended, code,
                (congrArg InitResult.state finished).symm⟩
            · rw [finishInit, if_neg code] at finished
              exact absurd (congrArg InitResult.code finished) code
          · rw [if_pos active, finishInit, if_pos rfl] at returned
            exact .inl ⟨active, (congrArg InitResult.state (Option.some.inj returned)).symm⟩

end Runs

/-! ## The outputs -/

section Outputs

variable {platform} {resources : DrmResources} {planes : List ObjectId} {used : BitVec 32}
  {context : KmsContext} {state : InitState}

/-- With an HDMI connector, the primary output counts as active, whatever became of it. -/
theorem primary_active_of_cons {primary : Connector} {others : List Connector}
    (connected : platform.connectedOf drmModeConnectorHdmia resources.connectors =
      primary :: others) {before : InitState}
    (ended : platform.initHdmi resources planes before = some state) :
    state.context.primaryOutput.active = 1 := by
  cases others with
  | nil =>
      obtain ⟨attempt, -, primaryOutput, -⟩ := initHdmi_of_single connected ended
      rw [primaryOutput]
  | cons secondary others =>
      obtain ⟨first, second, -, -, primaryOutput, -⟩ := initHdmi_of_pair connected ended
      rw [primaryOutput]

/-- Two HDMI connectors: each output is that of its connector. -/
theorem soundOutputs_of_pair {primary secondary : Connector} {others : List Connector}
    (pair : platform.connectedOf drmModeConnectorHdmia resources.connectors =
      primary :: secondary :: others)
    (ended : platform.initHdmi resources planes ⟨used, context, []⟩ = some state) :
    platform.SoundOutputs resources planes state ↔
      ∃ i j, platform.Serves resources planes used primary i ∧
        platform.Serves resources planes (used ||| BitVec.twoPow 32 i) secondary j := by
  obtain ⟨first, second, attempted, reattempted, primaryOutput, secondaryOutput, calls⟩ :=
    initHdmi_of_pair pair ended
  have outcome := initWithConnector_outcome attempted
  have outcome' := initWithConnector_outcome reattempted
  have listed : primary ∈ platform.connectedOf drmModeConnectorHdmia resources.connectors := by
    simp [pair]
  have listed' : secondary ∈ platform.connectedOf drmModeConnectorHdmia
      resources.connectors := by
    simp [pair]
  rw [List.nil_append] at calls
  have initialised : platform.InitialisedIn resources planes state.calls .primary
      state.context.primaryOutput ↔ Succeeded platform resources planes primary first := by
    rw [primaryOutput, calls]
    refine initialisedIn_iff (by simp) ?_ (exists_of_connectedOf listed)
    simp
  have initialised' : platform.InitialisedIn resources planes state.calls .secondary
      state.context.secondaryOutput ↔ Succeeded platform resources planes secondary second := by
    rw [secondaryOutput, calls]
    refine initialisedIn_iff (by simp) ?_ (exists_of_connectedOf listed')
    simp
  have active : state.context.isDisplay2Active = true := by
    rw [KmsContext.isDisplay2Active, secondaryOutput]
    rfl
  rw [SoundOutputs, initialised, initialised', outcome.succeeded_iff, outcome'.succeeded_iff]
  constructor
  · rintro ⟨⟨i, serves⟩, served⟩
    obtain ⟨j, serves'⟩ := served active
    rw [outcome.used_of_serves serves] at serves'
    exact ⟨i, j, serves, serves'⟩
  · rintro ⟨i, j, serves, serves'⟩
    refine ⟨⟨i, serves⟩, fun _ => ⟨j, ?_⟩⟩
    rw [outcome.used_of_serves serves]
    exact serves'

/-- One HDMI connector: the secondary output is not initialised. -/
theorem soundOutputs_of_single {primary : Connector}
    (single : platform.connectedOf drmModeConnectorHdmia resources.connectors = [primary])
    (ended : platform.initHdmi resources planes ⟨used, context, []⟩ = some state) :
    platform.SoundOutputs resources planes state ↔
      context.secondaryOutput.active ≠ 1 ∧
        ∃ i, platform.Serves resources planes used primary i := by
  obtain ⟨attempt, attempted, primaryOutput, secondaryOutput, calls⟩ :=
    initHdmi_of_single single ended
  have listed : primary ∈ platform.connectedOf drmModeConnectorHdmia resources.connectors := by
    simp [single]
  rw [List.nil_append] at calls
  have initialised : platform.InitialisedIn resources planes state.calls .primary
      state.context.primaryOutput ↔ Succeeded platform resources planes primary attempt := by
    rw [primaryOutput, calls]
    refine initialisedIn_iff (by simp) ?_ (exists_of_connectedOf listed)
    simp
  have uninitialised : ¬ platform.InitialisedIn resources planes state.calls .secondary
      state.context.secondaryOutput := by
    apply not_initialisedIn
    simp [calls]
  have active : state.context.isDisplay2Active = true ↔ context.secondaryOutput.active = 1 := by
    rw [KmsContext.isDisplay2Active, secondaryOutput, decide_eq_true_iff]
  rw [SoundOutputs, initialised, (initWithConnector_outcome attempted).succeeded_iff, active]
  constructor
  · rintro ⟨serves, claimed⟩
    exact ⟨fun set => uninitialised (claimed set), serves⟩
  · rintro ⟨clear, serves⟩
    exact ⟨serves, fun set => absurd set clear⟩

/-- No HDMI connector: neither output is initialised, or the primary one is that of the
connector to fall back on. -/
theorem soundOutputs_of_fallback {result : InitResult} (calls : state.calls = [])
    (ended : platform.initAny resources planes state = some result) (code : result.code = 0) :
    platform.SoundOutputs resources planes result.state ↔
      state.context.secondaryOutput.active ≠ 1 ∧
        ∃ connector i, platform.fallbackConnector resources state.used = some connector ∧
          platform.Serves resources planes state.used connector i := by
  obtain ⟨connector, marked, attempt, failed, fallback, agree, attempted, failures, same⟩ :=
    initAny_outcome ended code
  rw [same, calls, List.nil_append]
  have initialised : platform.InitialisedIn resources planes
      (failed ++ [⟨.primary, connector, attempt.code, attempt.output⟩]) .primary
      attempt.output ↔ Succeeded platform resources planes connector attempt := by
    refine initialisedIn_iff (by simp) ?_ (exists_of_fallback fallback)
    intro call member named succeeded
    rcases List.mem_append.mp member with early | last
    · exact absurd succeeded (failures call early)
    · exact List.mem_singleton.mp last
  have uninitialised : ¬ platform.InitialisedIn resources planes
      (failed ++ [⟨.primary, connector, attempt.code, attempt.output⟩]) .secondary
      state.context.secondaryOutput := by
    apply not_initialisedIn
    intro call member named
    rcases List.mem_append.mp member with early | last
    · exact failures call early
    · rw [List.mem_singleton.mp last] at named
      cases named
  have active : (state.context.setOutput .primary attempt.output).isDisplay2Active = true ↔
      state.context.secondaryOutput.active = 1 := by
    rw [KmsContext.isDisplay2Active, decide_eq_true_iff]
    rfl
  rw [SoundOutputs, active]
  refine Iff.trans (and_congr_left' (initialised.trans
    (initWithConnector_outcome attempted).succeeded_iff)) ?_
  constructor
  · rintro ⟨⟨i, serves⟩, claimed⟩
    exact ⟨fun set => uninitialised (claimed set), connector, i, fallback,
      (serves_congr agree).mp serves⟩
  · rintro ⟨clear, other, i, also, serves⟩
    rw [fallback] at also
    cases also
    exact ⟨⟨i, (serves_congr agree).mpr serves⟩, fun set => absurd set clear⟩

/-- Arming the posts changes nothing of the outputs. -/
theorem soundOutputs_armPosts :
    platform.SoundOutputs resources planes state.armPosts ↔
      platform.SoundOutputs resources planes state := Iff.rfl

end Outputs

/-- What holds on the card that the kernel reports. -/
theorem exists_card_iff {platform : Platform} {resources : DrmResources} {planes : List ObjectId}
    {property : DrmResources → List ObjectId → Prop}
    (fetched : platform.drm.getResources = some resources)
    (listed : platform.drm.getPlaneResources = some planes) :
    (∃ resources planes, platform.drm.getResources = some resources ∧
      platform.drm.getPlaneResources = some planes ∧ property resources planes) ↔
      property resources planes := by
  constructor
  · rintro ⟨others, otherPlanes, fetched', listed', holds⟩
    rw [fetched] at fetched'
    rw [listed] at listed'
    cases fetched'
    cases listed'
    exact holds
  · exact fun holds => ⟨resources, planes, fetched, listed, holds⟩

/-- After an initialisation that returns 0, the outputs are sound exactly if the card and the
memory provided what it needs. -/
theorem initKms_sound_iff (used : BitVec 32) (context : KmsContext) (state : InitState)
    (returned : platform.initKms used context = some ⟨0, state⟩) :
    platform.SoundSetup state ↔ platform.Provided used context := by
  obtain ⟨resources, planes, after, fetched, listed, hdmi, ended⟩ := initKms_cases returned
  have setup : platform.SoundSetup state ↔ platform.SoundOutputs resources planes state :=
    exists_card_iff fetched listed
  have provided : platform.Provided used context ↔
      platform.ProvidedFor resources planes used context := exists_card_iff fetched listed
  rw [setup, provided, ProvidedFor]
  cases connected : platform.connectedOf drmModeConnectorHdmia resources.connectors with
  | nil =>
      rw [initHdmi_of_nil connected] at hdmi
      obtain rfl := Option.some.inj hdmi
      rcases ended with ⟨active, rfl⟩ | ⟨inactive, result, fallback, code, rfl⟩
      · -- the memory says that the primary output is active
        constructor
        · rintro ⟨⟨call, member, -⟩, -⟩
          cases member
        · rintro ⟨inactive, -⟩
          exact absurd inactive active
      · rw [soundOutputs_armPosts, soundOutputs_of_fallback rfl fallback code]
        exact ⟨fun needs => ⟨inactive, needs⟩, fun needs => needs.2⟩
  | cons primary others =>
      have armed : state = after.armPosts := by
        rcases ended with ⟨-, same⟩ | ⟨inactive, -⟩
        · exact same
        · rw [primary_active_of_cons connected hdmi] at inactive
          exact absurd inactive (by decide)
      rw [armed, soundOutputs_armPosts]
      cases others with
      | nil =>
          have sound := soundOutputs_of_single connected hdmi
          exact sound
      | cons secondary others =>
          have sound := soundOutputs_of_pair connected hdmi
          exact sound

/-- A mode that is not trimmed. -/
def exampleMode : ModeInfo := ⟨148500, 1920, 1080, 60, drmModeTypePreferred⟩

/-- A card with some CRTCs, two connected HDMI connectors, an encoder for the first two CRTCs
and a primary plane for each of these. -/
def exampleCard (crtcs : List ObjectId) : Platform where
  drm := {
    setClientCap _ := 0
    getResources := some ⟨crtcs, [10, 11]⟩
    getPlaneResources := some [30, 31]
    getConnector id := some ⟨id, drmModeConnectorHdmia, .connected, [20], [exampleMode], 0, 0⟩
    getEncoder _ := some 3
    getPlane id := some (if id = 30 then 1 else 2)
    getObjectProperties _ kind :=
      match kind with
      | .plane => some [(40, 1), (41, 0), (42, 0)]
      | .crtc => some [(43, 0)]
    getProperty id := some ⟨id,
      if id = 40 then "type" else if id = 41 then "FB_ID" else if id = 42 then "CRTC_ID"
      else "OUT_FENCE_PTR"⟩ }
  arithmetic := ⟨fun _ _ _ => exampleMode, fun _ _ => 75⟩
  properties := ⟨"", ""⟩

/-- An output in zeroed memory. -/
def zeroedOutput : KmsOutput := ⟨0, 0, 0, 0, ⟨0, 0, 0, 0, 0⟩, 0, 0, 0, 0, 0, 0, 0⟩

/-- A context in zeroed memory. -/
def zeroedContext : KmsContext := ⟨none, none, 0, zeroedOutput, zeroedOutput, 0, 0⟩

/-- With a CRTC for each connector, the initialisation is sound. -/
theorem initKms_sound_example :
    ∃ state, (exampleCard [1, 2]).initKms 0 zeroedContext = some ⟨0, state⟩ ∧
      (exampleCard [1, 2]).SoundSetup state := by
  obtain ⟨state, returned⟩ :
      ∃ state, (exampleCard [1, 2]).initKms 0 zeroedContext = some ⟨0, state⟩ := ⟨_, rfl⟩
  refine ⟨state, returned,
    (initKms_sound_iff (exampleCard [1, 2]) 0 zeroedContext state returned).mpr ?_⟩
  have plane (i : Nat) (planeId : ObjectId)
      (listed : planeId ∈ ([30, 31] : List ObjectId))
      (usable : (if planeId = 30 then (1 : BitVec 32) else 2).getLsbD i = true) :
      (exampleCard [1, 2]).PrimaryPlane [30, 31] i planeId :=
    ⟨listed, ⟨_, rfl, usable⟩, _, rfl, rfl⟩
  exact ⟨_, _, rfl, rfl, 0, 1, ⟨rfl, 30, plane 0 30 (by decide) (by decide)⟩, rfl, 31,
    plane 1 31 (by decide) (by decide)⟩

/-- With one CRTC for both connectors, the secondary output counts as active although its
connector was refused. -/
theorem initKms_not_always_sound :
    ¬ ∀ (platform : Platform) (used : BitVec 32) (context : KmsContext) (state : InitState),
      platform.initKms used context = some ⟨0, state⟩ → platform.SoundSetup state := by
  intro claim
  obtain ⟨state, returned, refused, active⟩ :
      ∃ state, (exampleCard [1]).initKms 0 zeroedContext = some ⟨0, state⟩ ∧
        (∀ call ∈ state.calls, call.name = .secondary → call.code ≠ 0) ∧
        state.context.isDisplay2Active = true := ⟨_, rfl, by decide, by decide⟩
  obtain ⟨resources, planes, -, -, -, secondary⟩ := claim _ _ _ _ returned
  exact not_initialisedIn refused (secondary active)

end Platform

end Arpi.Composer
