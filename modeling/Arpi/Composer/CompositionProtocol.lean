import Arpi.Composer.DeviceEffects

/-!
# The composition protocol

`Protocol` says what the device is for: every live layer has an effective composition
type. It follows the calls and their answers only. `Refines` ties the device to it; the
relation holds after every run, while what a validation reports and what a presentation
shows are right as long as the number of dirty layers fits into the count that the
device hands out.
-/

namespace Arpi.Composer

open Arpi.Gralloc Arpi.Semantics

variable {context : HwcContext}

/-- The composition type of a layer that nobody has set. -/
def hwc2CompositionInvalid : Composition := 0

/-- The effective composition type of every live layer. -/
@[ext] structure Protocol where
  effective : LayerId → Option Composition

namespace Protocol

/-- No layer is live. -/
def empty : Protocol := ⟨fun _ => none⟩

/-- Give a layer a type, or remove it. -/
def set (protocol : Protocol) (layer : LayerId) (type : Option Composition) : Protocol :=
  ⟨Function.update protocol.effective layer type⟩

/-- Turn every live layer to client composition. -/
def accept (protocol : Protocol) : Protocol :=
  ⟨fun layer => (protocol.effective layer).map fun _ => hwc2CompositionClient⟩

/-- What a call that received this answer does to the types. -/
def apply (protocol : Protocol) : DeviceCall × DeviceAnswer → Protocol
  | (.createLayer _, answer) =>
      match answer.layer with
      | some layer => protocol.set layer (some hwc2CompositionInvalid)
      | none => protocol
  | (.destroyLayer _ layer, answer) =>
      if answer.error = hwc2ErrorNone then protocol.set layer none else protocol
  | (.setLayerCompositionType _ layer type, answer) =>
      if answer.error = hwc2ErrorNone then protocol.set layer (some type) else protocol
  | (.acceptDisplayChanges _, answer) =>
      if answer.error = hwc2ErrorNone then protocol.accept else protocol
  | _ => protocol

/-- The types after a history of calls and answers. -/
def after (history : List (DeviceCall × DeviceAnswer)) : Protocol :=
  history.foldl apply empty

/-- The layers that are not composed by the client. -/
def Changing (protocol : Protocol) (layer : LayerId) : Prop :=
  ∃ type, protocol.effective layer = some type ∧ type ≠ hwc2CompositionClient

/-- Every live layer is composed by the client. -/
def AllClient (protocol : Protocol) : Prop :=
  ∀ layer type, protocol.effective layer = some type → type = hwc2CompositionClient

@[simp] theorem effective_empty (layer : LayerId) : empty.effective layer = none := rfl

theorem effective_set (protocol : Protocol) (layer other : LayerId) (type : Option Composition) :
    (protocol.set layer type).effective other =
      if other = layer then type else protocol.effective other := by
  simp [set, Function.update_apply]

@[simp] theorem effective_accept (protocol : Protocol) (layer : LayerId) :
    protocol.accept.effective layer =
      (protocol.effective layer).map fun _ => hwc2CompositionClient := rfl

@[simp] theorem after_append (history : List (DeviceCall × DeviceAnswer))
    (last : DeviceCall × DeviceAnswer) :
    after (history ++ [last]) = (after history).apply last := by
  simp [after]

/-- Nothing is changing exactly when everything is composed by the client. -/
theorem allClient_iff (protocol : Protocol) :
    protocol.AllClient ↔ ∀ layer, ¬ protocol.Changing layer := by
  simp only [AllClient, Changing, not_exists, not_and, not_not]

/-- A call that is refused without a layer leaves the types alone. -/
theorem apply_of_isError (protocol : Protocol) (call : DeviceCall) {error : Int}
    (failed : IsError error) : protocol.apply (call, { error := error }) = protocol := by
  have refused : error ≠ hwc2ErrorNone := failed.1
  cases call <;> simp [apply, refused]

end Protocol

/-- The identifiers that a history has handed out, oldest first. -/
def createdLayers (history : List (DeviceCall × DeviceAnswer)) : List LayerId :=
  history.filterMap fun step => step.2.layer

@[simp] theorem createdLayers_append (history : List (DeviceCall × DeviceAnswer))
    (last : DeviceCall × DeviceAnswer) :
    createdLayers (history ++ [last]) = createdLayers history ++ last.2.layer.toList := by
  cases found : last.2.layer <;> simp [createdLayers, found]

/-- The device holds the live layers of the protocol, and its dirty layers are the ones
that are not composed by the client. -/
structure Refines (device : Hwc2Device context) (protocol : Protocol) : Prop where
  layers : ∀ layer, layer ∈ device.layers ↔ protocol.effective layer ≠ none
  dirty : ∀ layer, layer ∈ device.dirtyLayers ↔ protocol.Changing layer

/-- Dirty layers are live, as only live layers have a type. -/
theorem Refines.dirtyLive {device : Hwc2Device context} {protocol : Protocol}
    (refines : Refines device protocol) : DirtyLive device := by
  intro layer dirty
  obtain ⟨type, typed, -⟩ := (refines.dirty layer).mp dirty
  rw [refines.layers, typed]
  exact Option.some_ne_none type

/-- A newly constructed device refines the protocol without layers. -/
theorem refines_new (kms : context.State) :
    Refines (.new kms : Hwc2Device context) .empty where
  layers layer := by simp [Hwc2Device.new]
  dirty layer := by simp [Hwc2Device.new, Protocol.Changing]

/-- Every outcome of a device call moves the protocol along. -/
theorem DeviceOutcome.refines {device after : Hwc2Device context} {call : DeviceCall}
    {answer : DeviceAnswer} (outcome : DeviceOutcome device call answer after)
    {protocol : Protocol} (refines : Refines device protocol) :
    Refines after (protocol.apply (call, answer)) := by
  cases outcome with
  | refused failed =>
      rw [protocol.apply_of_isError call failed]
      exact refines
  | vsync | targeted | validated | changed | presented | listed =>
      exact ⟨refines.layers, refines.dirty⟩
  | created known =>
      constructor
      · intro layer
        simp only [Protocol.apply, Protocol.effective_set, UnorderedSet.mem_insert, refines.layers]
        split <;> simp_all
      · intro layer
        simp only [Protocol.apply, Protocol.Changing, Protocol.effective_set,
          UnorderedSet.mem_insert, refines.dirty]
        split <;> simp_all [hwc2CompositionInvalid, hwc2CompositionClient]
  | destroyed known live =>
      constructor
      · intro layer
        simp only [Protocol.apply, if_true, Protocol.effective_set, UnorderedSet.mem_erase,
          refines.layers]
        split <;> simp_all
      · intro layer
        simp only [Protocol.apply, if_true, Protocol.Changing, Protocol.effective_set,
          UnorderedSet.mem_erase, refines.dirty]
        split <;> simp_all
  | accepted known validated =>
      constructor
      · intro layer
        simp [Protocol.apply, refines.layers]
      · intro layer
        simp [Protocol.apply, Protocol.Changing]
  | @typed _ target type known live =>
      constructor
      · intro layer
        simp only [Protocol.apply, if_true, Protocol.effective_set, refines.layers]
        split
        · subst layer
          simp [(refines.layers target).mp live]
        · rfl
      · intro layer
        simp only [Protocol.apply, if_true, Protocol.Changing, Protocol.effective_set]
        by_cases client : type = hwc2CompositionClient
        · simp only [client, if_true, UnorderedSet.mem_erase, refines.dirty, Protocol.Changing]
          split <;> simp_all
        · simp only [client, if_false, UnorderedSet.mem_insert, refines.dirty, Protocol.Changing]
          split <;> simp_all

/-- The identifiers handed out so far are the first numbers, in order. -/
structure Numbered (last : LayerId) (created : List LayerId) : Prop where
  last : last = .ofNat 64 created.length
  numbers : created = (List.range created.length).map fun index => .ofNat 64 (index + 1)

/-- Every outcome keeps the numbering. -/
theorem DeviceOutcome.numbered {device after : Hwc2Device context} {call : DeviceCall}
    {answer : DeviceAnswer} (outcome : DeviceOutcome device call answer after)
    {created : List LayerId} (numbered : Numbered device.nextLayerId created) :
    Numbered after.nextLayerId (created ++ answer.layer.toList) := by
  cases outcome with
  | refused | destroyed | vsync | targeted | validated | changed | presented | accepted | listed
  | typed =>
      simpa using numbered
  | created known =>
      have nextId : device.nextLayerId + 1 = BitVec.ofNat 64 (created.length + 1) := by
        rw [numbered.last, BitVec.ofNat_add]
        rfl
      constructor
      · simp only [Option.toList_some, List.length_append, List.length_singleton, nextId]
      · simp only [Option.toList_some, List.length_append, List.length_singleton, nextId,
          List.range_succ, List.map_append, List.map_singleton]
        rw [← numbered.numbers]

/-- The next number was not handed out before, as long as the numbers do not wrap. -/
theorem Numbered.next_fresh {last : LayerId} {created : List LayerId}
    (numbered : Numbered last created) (few : created.length < 2 ^ 64) :
    last + 1 ∉ created := by
  intro again
  rw [numbered.numbers, numbered.last] at again
  obtain ⟨index, bound, same⟩ := List.mem_map.mp again
  have earlier : index < created.length := List.mem_range.mp bound
  have numbers := congrArg BitVec.toNat same
  have one : (1 : LayerId).toNat = 1 := rfl
  simp only [BitVec.toNat_ofNat, BitVec.toNat_add, one] at numbers
  omega

/-- A validated device has no dirty layer. -/
def Settled (device : Hwc2Device context) : Prop :=
  device.state = .validated → device.dirtyLayers.size = 0

/-- A validation is not made while the number of dirty layers is a positive multiple
of `2 ^ 32`. -/
def Countable (device : Hwc2Device context) : DeviceCall → Prop
  | .validateDisplay _ => device.dirtyLayers.size % 2 ^ 32 = 0 → device.dirtyLayers.size = 0
  | _ => True

theorem dirtyCount_toNat (device : Hwc2Device context) :
    device.dirtyCount.toNat = device.dirtyLayers.size % 2 ^ 32 := by
  simp [Hwc2Device.dirtyCount]

/-- Every countable outcome keeps a validated device free of dirty layers. -/
theorem DeviceOutcome.settled {device after : Hwc2Device context} {call : DeviceCall}
    {answer : DeviceAnswer} (outcome : DeviceOutcome device call answer after)
    (countable : Countable device call) (settled : Settled device) : Settled after := by
  cases outcome with
  | refused | vsync | targeted | presented | listed => exact settled
  | created | destroyed | typed | changed => exact fun validated => nomatch validated
  | accepted => exact fun _ => UnorderedSet.size_empty
  | validated known clean =>
      intro _
      have zero : device.dirtyCount.toNat = 0 := by rw [clean]; rfl
      exact countable (by rw [← dirtyCount_toNat, zero])

/-- The changes reported by a validation: every changing layer once, with client
composition, and nothing else. -/
structure Reports (protocol : Protocol) (changes : List (LayerId × Composition)) : Prop where
  nodup : changes.Nodup
  exactly : ∀ change, change ∈ changes ↔
    protocol.Changing change.1 ∧ change.2 = hwc2CompositionClient

/-- The HAL reports the changing layers of a device whose dirty layers can be counted. -/
theorem Refines.reports {hal : ComposerHal context} {protocol : Protocol}
    (refines : Refines hal.device protocol) (few : hal.device.dirtyLayers.size < 2 ^ 32)
    {display : DisplayId} (succeeded : (hal.validateDisplay display).1 = hwc2ErrorNone) :
    Reports protocol (hal.validateDisplay display).2.1 := by
  by_cases known : KnownDisplay display
  · have counted : hal.device.dirtyCount.toNat = hal.device.dirtyLayers.elements.length := by
      rw [dirtyCount_toNat, Nat.mod_eq_of_lt few]
      rfl
    rw [ComposerHal.validateDisplay_of_known known]
    simp only [ComposerHal.reportedChanges, counted, List.take_length]
    constructor
    · apply hal.device.dirtyLayers.nodup.map
      intro left right same
      exact congrArg Prod.fst same
    · rintro ⟨layer, type⟩
      simp only [List.mem_map, Prod.mk.injEq, ← refines.dirty, UnorderedSet.mem_def]
      constructor
      · rintro ⟨dirty, mem, rfl, rfl⟩
        exact ⟨mem, rfl⟩
      · rintro ⟨mem, rfl⟩
        exact ⟨layer, mem, rfl, rfl⟩
  · rw [ComposerHal.validateDisplay_of_unknown known] at succeeded
    exact absurd succeeded (show hwc2ErrorBadDisplay ≠ hwc2ErrorNone by decide)

/-- What holds when `call` arrives at a device that has lived through `history`. -/
structure Conforms (device : Hwc2Device context)
    (history : List (DeviceCall × DeviceAnswer)) (call : DeviceCall) : Prop where
  refines : Refines device (.after history)
  reports : ∀ hal : ComposerHal context, hal.device = device →
    device.dirtyLayers.size < 2 ^ 32 → ∀ display,
      (hal.validateDisplay display).1 = hwc2ErrorNone →
        Reports (.after history) (hal.validateDisplay display).2.1
  fresh : ∀ layer, ((deviceMachine context).answer device call).layer = some layer →
    (createdLayers history).length < 2 ^ 64 → layer ∉ createdLayers history
  refused : IsError ((deviceMachine context).answer device call).error →
    (deviceMachine context).next device call = device

/-- A presentation that is let through posts the client target, and shows nothing but
client composition. -/
def PresentsClient (device : Hwc2Device context) (history : List (DeviceCall × DeviceAnswer)) :
    DeviceCall → Prop
  | .presentDisplay display =>
      (device.presentDisplay display).1 = hwc2ErrorNone →
        (device.presentDisplay display).2.2.posts =
          ⟨display, device.buffer,
            (context.hwcPost display device.buffer device.hwcContext).1.code⟩ :: device.posts ∧
        (Protocol.after history).AllClient
  | _ => True

/-- A call conforms at every device that refines its history and numbers its layers. -/
theorem conforms_of_refines {device : Hwc2Device context}
    {history : List (DeviceCall × DeviceAnswer)} (refines : Refines device (.after history))
    (numbered : Numbered device.nextLayerId (createdLayers history)) (call : DeviceCall) :
    Conforms device history call := by
  have outcome := device_outcome refines.dirtyLive call
  constructor
  · exact refines
  · rintro hal rfl few display succeeded
    exact refines.reports few succeeded
  · intro layer created few
    generalize (deviceMachine context).answer device call = answer at outcome created
    generalize (deviceMachine context).next device call = after at outcome
    cases outcome with
    | refused | destroyed | vsync | targeted | validated | changed | presented | accepted
    | listed | typed => cases created
    | created known =>
        cases created
        exact numbered.next_fresh few
  · intro failed
    generalize (deviceMachine context).answer device call = answer at outcome failed
    generalize (deviceMachine context).next device call = after at outcome ⊢
    cases outcome with
    | refused => rfl
    | created | destroyed | vsync | targeted | validated | presented | accepted | listed
    | typed => exact absurd rfl failed.1
    | changed => exact absurd rfl failed.2

/-- A settled device presents client composition only. -/
theorem presentsClient_of_settled {device : Hwc2Device context}
    {history : List (DeviceCall × DeviceAnswer)} (refines : Refines device (.after history))
    (settled : Settled device) (call : DeviceCall) : PresentsClient device history call := by
  cases call with
  | presentDisplay display =>
      intro succeeded
      by_cases known : KnownDisplay display
      case neg =>
        rw [Hwc2Device.presentDisplay, if_pos known] at succeeded
        exact absurd succeeded (show hwc2ErrorBadDisplay ≠ hwc2ErrorNone by decide)
      by_cases validated : device.state = .validated
      · rw [Hwc2Device.presentDisplay_of_validated known validated]
        refine ⟨rfl, ?_⟩
        rw [Protocol.allClient_iff]
        intro layer changing
        have clean := UnorderedSet.size_eq_zero.mp (settled validated)
        exact clean layer ((refines.dirty layer).mpr changing)
      · rw [Hwc2Device.presentDisplay_of_not_validated known validated] at succeeded
        exact absurd succeeded (show hwc2ErrorNotValidated ≠ hwc2ErrorNone by decide)
  | _ => trivial

/-- The device refines the protocol along every run, and its presentations do so when
the dirty layers could be counted by every validation. -/
theorem device_refines_protocol (kms : context.State) (calls : List DeviceCall)
    (call : DeviceCall) :
    Conforms ((deviceMachine context).run (.new kms) calls)
        ((deviceMachine context).trace (.new kms) calls) call ∧
      ((deviceMachine context).EachStep Countable (.new kms) calls →
        PresentsClient ((deviceMachine context).run (.new kms) calls)
          ((deviceMachine context).trace (.new kms) calls) call) := by
  have refines : Refines ((deviceMachine context).run (.new kms) calls)
      (.after ((deviceMachine context).trace (.new kms) calls)) := by
    apply (deviceMachine context).history_of_invariant
      (fun device history => Refines device (.after history)) _ (refines_new kms)
    intro device history call refines
    rw [Protocol.after_append]
    exact (device_outcome refines.dirtyLive call).refines refines
  have numbered : DirtyLive ((deviceMachine context).run (.new kms) calls) ∧
      Numbered ((deviceMachine context).run (.new kms) calls).nextLayerId
        (createdLayers ((deviceMachine context).trace (.new kms) calls)) := by
    apply (deviceMachine context).history_of_invariant
      (fun device history =>
        DirtyLive device ∧ Numbered device.nextLayerId (createdLayers history)) _
      ⟨(refines_new kms).dirtyLive, rfl, rfl⟩
    rintro device history call ⟨dirtyLive, numbered⟩
    have outcome := device_outcome dirtyLive call
    rw [createdLayers_append]
    exact ⟨outcome.dirtyLive dirtyLive, outcome.numbered numbered⟩
  refine ⟨conforms_of_refines refines numbered.2 call, fun countable => ?_⟩
  have settled : DirtyLive ((deviceMachine context).run (.new kms) calls) ∧
      Settled ((deviceMachine context).run (.new kms) calls) := by
    have start : DirtyLive (.new kms : Hwc2Device context) ∧
        Settled (.new kms : Hwc2Device context) :=
      ⟨(refines_new kms).dirtyLive, fun validated => nomatch validated⟩
    have preserved : ∀ (device : Hwc2Device context) call,
        DirtyLive device ∧ Settled device → Countable device call →
          DirtyLive ((deviceMachine context).next device call) ∧
            Settled ((deviceMachine context).next device call) := by
      rintro device call ⟨dirtyLive, settled⟩ here
      have outcome := device_outcome dirtyLive call
      exact ⟨outcome.dirtyLive dirtyLive, outcome.settled here settled⟩
    exact ((deviceMachine context).always_of_eachStep preserved start countable).last
  exact presentsClient_of_settled refines settled.2 call

/-- A frame of one layer that is set to client composition, validated and presented. -/
theorem device_refines_protocol_example :
    (((deviceMachine workingContext).run (.new ()) [.createLayer 0,
      .setLayerCompositionType 0 1 hwc2CompositionClient, .validateDisplay 0]).presentDisplay 0).1 =
        hwc2ErrorNone ∧
    (Protocol.after ((deviceMachine workingContext).trace (.new ()) [.createLayer 0,
      .setLayerCompositionType 0 1 hwc2CompositionClient, .validateDisplay 0])).AllClient := by
  have conforms := @device_refines_protocol workingContext ()
    [.createLayer 0, .setLayerCompositionType 0 1 hwc2CompositionClient, .validateDisplay 0]
    (.presentDisplay 0)
  have succeeded : (((deviceMachine workingContext).run (.new ()) [.createLayer 0,
      .setLayerCompositionType 0 1 hwc2CompositionClient,
      .validateDisplay 0]).presentDisplay 0).1 = hwc2ErrorNone := by decide
  exact ⟨succeeded, (conforms.2 ⟨trivial, trivial, fun _ => rfl, trivial⟩ succeeded).2⟩

/-- Creating layers only makes them all dirty. -/
theorem run_createLayer (kms : context.State) (count : Nat) (few : count < 2 ^ 64) :
    let device := (deviceMachine context).run (.new kms) (.replicate count (.createLayer 0))
    device.nextLayerId = .ofNat 64 count ∧ device.dirtyLayers.size = count ∧
      ∀ layer, layer ∈ device.dirtyLayers → layer.toNat ≤ count := by
  induction count with
  | zero => exact ⟨rfl, rfl, fun layer dirty => absurd dirty UnorderedSet.not_mem_empty⟩
  | succ count ih =>
      obtain ⟨last, size, bounded⟩ := ih (by omega)
      rw [List.replicate_succ', Machine.run_append]
      generalize (deviceMachine context).run (.new kms) (.replicate count (.createLayer 0)) =
        device at last size bounded ⊢
      have known : KnownDisplay 0 := .inl rfl
      have nextId : device.nextLayerId + 1 = BitVec.ofNat 64 (count + 1) := by
        rw [last, BitVec.ofNat_add]
        rfl
      have nextNumber : (BitVec.ofNat 64 (count + 1)).toNat = count + 1 := by
        rw [BitVec.toNat_ofNat, Nat.mod_eq_of_lt few]
      have absent : BitVec.ofNat 64 (count + 1) ∉ device.dirtyLayers := by
        intro dirty
        have bound := bounded _ dirty
        omega
      simp only [Machine.run_cons, Machine.run_nil, Machine.next, deviceMachine,
        Hwc2Device.createLayer_of_known known, nextId]
      refine ⟨trivial, ?_, ?_⟩
      · rw [UnorderedSet.size_insert_of_not_mem absent, size]
      · intro layer dirty
        rcases UnorderedSet.mem_insert.mp dirty with rfl | earlier
        · omega
        · exact (bounded layer earlier).trans (by omega)

/-- `2 ^ 32` created layers are counted as none, so that validating them leaves nothing to
accept. -/
theorem device_not_always_refines :
    ¬ ∀ (calls : List DeviceCall) (call : DeviceCall),
      Conforms ((deviceMachine workingContext).run (.new ()) calls)
          ((deviceMachine workingContext).trace (.new ()) calls) call ∧
        PresentsClient ((deviceMachine workingContext).run (.new ()) calls)
          ((deviceMachine workingContext).trace (.new ()) calls) call := by
  intro claim
  obtain ⟨count, few, wraps, positive⟩ :
      ∃ count, count < 2 ^ 64 ∧ BitVec.ofNat 32 count = 0 ∧ 0 < count :=
    ⟨2 ^ 32, by decide, by decide, by decide⟩
  obtain ⟨-, size, -⟩ := @run_createLayer workingContext () count few
  obtain ⟨conforms, presents⟩ := claim
    (.replicate count (.createLayer 0) ++ [.validateDisplay 0]) (.presentDisplay 0)
  have refines := conforms.refines
  rw [Machine.run_append] at presents refines
  generalize Machine.trace _ _ _ = history at presents refines
  generalize (deviceMachine workingContext).run (.new ()) (.replicate count (.createLayer 0)) =
    device at size presents refines
  have known : KnownDisplay 0 := .inl rfl
  have clean : device.dirtyCount = 0 := by
    rw [Hwc2Device.dirtyCount, size, wraps]
  simp only [Machine.run_cons, Machine.run_nil, Machine.next, deviceMachine,
    Hwc2Device.validateDisplay_of_clean known clean] at presents refines
  have allClient := (presents (by rw [Hwc2Device.presentDisplay_of_validated known rfl])).2
  rw [Protocol.allClient_iff] at allClient
  have noneDirty : device.dirtyLayers.size = 0 :=
    UnorderedSet.size_eq_zero.mpr fun layer dirty =>
      allClient layer ((refines.dirty layer).mp dirty)
  omega

end Arpi.Composer
