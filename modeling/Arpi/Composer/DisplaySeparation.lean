import Arpi.Composer.DeviceEffects
import Arpi.Semantics.Interleaving
import Mathlib.Data.Multiset.MapFold

/-!
# Two displays on one device

The device has one validation state, one client target and one set of dirty layers for
both displays. Each display's commands come in turns. As long as no layer is dirty when
the turn changes, and a display relies on the validation state and on the client target
only after it has set them in its turn, what it sees is what it would see alone.
-/

namespace Arpi.Composer

open Arpi.Gralloc Arpi.Semantics

variable {context : HwcContext}

/-- The two displays of the device. -/
inductive Screen where
  | first
  | second
deriving DecidableEq

/-- The identifier of a display. -/
def Screen.display : Screen → DisplayId
  | .first => 0
  | .second => 1

/-- The display next to it. -/
def Screen.other : Screen → Screen
  | .first => .second
  | .second => .first

theorem Screen.eq_other {screen event : Screen} (different : event ≠ screen) :
    event = screen.other := by
  cases screen <;> cases event <;> trivial

@[simp] theorem Screen.other_ne (screen : Screen) : screen.other ≠ screen := by
  cases screen <;> exact nofun

theorem Screen.known (screen : Screen) : KnownDisplay screen.display := by
  cases screen
  · exact .inl rfl
  · exact .inr rfl

theorem Screen.display_ne {screen event : Screen} (different : event ≠ screen) :
    event.display ≠ screen.display := by
  cases screen <;> cases event <;> first | exact absurd rfl different | decide

/-- A command addressed to one display. It names a layer by its place in the list of
layers that were created on the display, so that renaming identifiers does not show. -/
inductive ScreenCommand where
  | createLayer
  | destroyLayer (index : Nat)
  | setVsyncEnabled (enabled : Int)
  | setClientTarget (target : BufferHandle) (dataspace : Int)
  | validateDisplay
  | presentDisplay
  | acceptDisplayChanges
  | getChangedCompositionTypes (capacity : Option (BitVec 32))
  | setLayerCompositionType (index : Nat) (type : Composition)
deriving DecidableEq

namespace ScreenCommand

/-- The device call of a command, given the layers created on its display. -/
def call (screen : Screen) (created : List LayerId) : ScreenCommand → DeviceCall
  | createLayer => .createLayer screen.display
  | destroyLayer index => .destroyLayer screen.display (created.getD index 0)
  | setVsyncEnabled enabled => .setVsyncEnabled screen.display enabled
  | setClientTarget target dataspace => .setClientTarget screen.display target dataspace
  | validateDisplay => .validateDisplay screen.display
  | presentDisplay => .presentDisplay screen.display
  | acceptDisplayChanges => .acceptDisplayChanges screen.display
  | getChangedCompositionTypes capacity => .getChangedCompositionTypes screen.display capacity
  | setLayerCompositionType index type =>
      .setLayerCompositionType screen.display (created.getD index 0) type

/-- The place that a command names. -/
def index : ScreenCommand → Option Nat
  | destroyLayer index | setLayerCompositionType index _ => some index
  | _ => none

/-- Whether the outcome of a command depends on the validation state. -/
def NeedsValidation : ScreenCommand → Prop
  | presentDisplay | acceptDisplayChanges | getChangedCompositionTypes _ => True
  | _ => False

instance (command : ScreenCommand) : Decidable command.NeedsValidation := by
  cases command <;> unfold NeedsValidation <;> infer_instance

end ScreenCommand

/-- What a display is told, with its layers by their places. A layer of the other display
has no place and counts as the number of places. -/
structure Observation where
  error : Int
  layer : Option Nat
  count : BitVec 32
  changed : Multiset (Nat × Composition)
deriving DecidableEq

/-- A device answer as seen by a display that has created these layers. -/
def observe (created : List LayerId) (answer : DeviceAnswer) : Observation where
  error := answer.error
  layer := answer.layer.map created.idxOf
  count := answer.count
  changed := (answer.changed.map fun change => (created.idxOf change.1, change.2) : List _)

/-- The device, and the layers that were created on each display, oldest first. -/
structure Shared (context : HwcContext) where
  device : Hwc2Device context
  created : Screen → List LayerId

/-- A newly constructed device. -/
def Shared.new (kms : context.State) : Shared context := ⟨.new kms, fun _ => []⟩

/-- The device taking the commands of both displays. -/
def sharedMachine (context : HwcContext) :
    Machine (Shared context) (Screen × ScreenCommand) Observation where
  step shared event :=
    let answered := (deviceMachine context).step shared.device
      (event.2.call event.1 (shared.created event.1))
    let created := shared.created event.1 ++ answered.1.layer.toList
    (observe created answered.1, ⟨answered.2, Function.update shared.created event.1 created⟩)

/-- The buffers that were posted on a display, newest first. -/
def postsOn (screen : Screen) (device : Hwc2Device context) : List BufferHandle :=
  (device.posts.filter fun post => post.display = screen.display).map Post.buffer

/-- Whose commands are arriving, and what they have settled since the other display's. -/
structure Turn where
  owner : Option Screen
  validated : Bool
  targeted : Bool
deriving DecidableEq

namespace Turn

/-- Nobody has sent a command yet; the device is as it was constructed. -/
def start : Turn := ⟨none, true, true⟩

/-- A command of this display arrives. -/
def take (screen : Screen) (turn : Turn) : Turn :=
  if turn.owner = some screen.other then ⟨some screen, false, false⟩
  else { turn with owner := some screen }

/-- What a command that was answered without an error settles. -/
def settle (turn : Turn) : ScreenCommand → Turn
  | .createLayer | .destroyLayer _ | .setLayerCompositionType _ _ | .validateDisplay =>
      { turn with validated := true }
  | .setClientTarget _ _ => { turn with targeted := true }
  | _ => turn

/-- The turn after a command. -/
def after (shared : Shared context) (turn : Turn) (event : Screen × ScreenCommand) : Turn :=
  if IsError ((sharedMachine context).answer shared event).error then turn.take event.1
  else (turn.take event.1).settle event.2

@[simp] theorem take_owner (screen : Screen) (turn : Turn) :
    (turn.take screen).owner = some screen := by
  unfold take
  split <;> rfl

@[simp] theorem settle_owner (turn : Turn) (command : ScreenCommand) :
    (turn.settle command).owner = turn.owner := by
  cases command <;> rfl

@[simp] theorem after_owner (shared : Shared context) (turn : Turn)
    (event : Screen × ScreenCommand) : (turn.after shared event).owner = some event.1 := by
  unfold after
  split <;> simp

end Turn

/-- A command that names a layer of its own display. -/
def Named (shared : Shared context) (event : Screen × ScreenCommand) : Prop :=
  ∀ index ∈ event.2.index, index < (shared.created event.1).length

/-- The identifiers of the layers do not wrap around. -/
def Countable64 (shared : Shared context) (event : Screen × ScreenCommand) : Prop :=
  event.2 = .createLayer → shared.device.nextLayerId.toNat + 1 < 2 ^ 64

/-- A command that keeps the displays apart. -/
structure Orderly (shared : Shared context × Turn) (event : Screen × ScreenCommand) : Prop where
  named : Named shared.1 event
  counted : Countable64 shared.1 event
  clean : shared.2.owner ≠ some event.1 → shared.1.device.dirtyLayers.size = 0
  validated : event.2.NeedsValidation → (shared.2.take event.1).validated = true
  targeted : event.2 = .presentDisplay → (shared.2.take event.1).targeted = true
  room : ∀ capacity, event.2 = .getChangedCompositionTypes (some capacity) →
    shared.1.device.dirtyLayers.size ≤ capacity.toNat

/-- Every layer is on the list of the display that created it, and nowhere else. -/
structure Sound (shared : Shared context) : Prop where
  dirtyLive : DirtyLive shared.device
  numbered : ∀ screen, ∀ layer ∈ shared.created screen,
    layer.toNat ≤ shared.device.nextLayerId.toNat
  nodup : ∀ screen, (shared.created screen).Nodup
  apart : ∀ screen, ∀ layer ∈ shared.created screen, layer ∉ shared.created screen.other

theorem sound_new (kms : context.State) : Sound (.new kms : Shared context) where
  dirtyLive layer dirty := absurd dirty UnorderedSet.not_mem_empty
  numbered := by simp [Shared.new]
  nodup := by simp [Shared.new]
  apart := by simp [Shared.new]

/-- Identifiers grow by one as long as they do not wrap. -/
theorem toNat_nextLayer {id : LayerId} (counted : id.toNat + 1 < 2 ^ 64) :
    (id + 1).toNat = id.toNat + 1 := by
  have one : (1 : LayerId).toNat = 1 := rfl
  rw [BitVec.toNat_add, one]
  exact Nat.mod_eq_of_lt counted

/-- The next identifier is on no list. -/
theorem Sound.fresh {shared : Shared context} (sound : Sound shared)
    (counted : shared.device.nextLayerId.toNat + 1 < 2 ^ 64) (screen : Screen) :
    shared.device.nextLayerId + 1 ∉ shared.created screen := by
  intro member
  have bound := sound.numbered screen _ member
  rw [toNat_nextLayer counted] at bound
  exact absurd bound (Nat.not_succ_le_self _)

/-- The place that a command names holds the layer that it is about. -/
theorem getD_eq_getElem {created : List LayerId} {index : Nat} (bound : index < created.length) :
    created.getD index 0 = created[index] := by
  simp [bound]

/-- The next state of the device and of the lists, one command at a time. -/
theorem shared_next (shared : Shared context) (event : Screen × ScreenCommand)
    {answer : DeviceAnswer} {after : Hwc2Device context}
    (answered : (deviceMachine context).step shared.device
      (event.2.call event.1 (shared.created event.1)) = (answer, after)) :
    (sharedMachine context).next shared event = ⟨after, Function.update shared.created event.1
      (shared.created event.1 ++ answer.layer.toList)⟩ := by
  simp only [Machine.next, sharedMachine, answered]

theorem shared_answer (shared : Shared context) (event : Screen × ScreenCommand)
    {answer : DeviceAnswer} {after : Hwc2Device context}
    (answered : (deviceMachine context).step shared.device
      (event.2.call event.1 (shared.created event.1)) = (answer, after)) :
    (sharedMachine context).answer shared event =
      observe (shared.created event.1 ++ answer.layer.toList) answer := by
  simp only [Machine.answer, sharedMachine, answered]

/-- A call that hands out no identifier leaves the lists alone. -/
theorem shared_next_of_none (shared : Shared context) (event : Screen × ScreenCommand)
    {answer : DeviceAnswer} {after : Hwc2Device context}
    (answered : (deviceMachine context).step shared.device
      (event.2.call event.1 (shared.created event.1)) = (answer, after))
    (noLayer : answer.layer = none) :
    (sharedMachine context).next shared event = ⟨after, shared.created⟩ := by
  rw [shared_next shared event answered, noLayer, Option.toList_none, List.append_nil,
    Function.update_eq_self]

/-- The list of a display after it has created a layer is as good as the one before. -/
theorem Sound.create {shared : Shared context} (sound : Sound shared) (screen : Screen)
    (counted : shared.device.nextLayerId.toNat + 1 < 2 ^ 64) {after : Hwc2Device context}
    (dirtyLive : DirtyLive after)
    (nextId : after.nextLayerId = shared.device.nextLayerId + 1) :
    Sound ⟨after, Function.update shared.created screen
      (shared.created screen ++ [shared.device.nextLayerId + 1])⟩ := by
  have fresh := sound.fresh counted
  have number := toNat_nextLayer counted
  constructor
  · exact dirtyLive
  · intro other layer member
    simp only [nextId, number]
    by_cases same : other = screen
    · subst same
      simp only [Function.update_self, List.mem_append, List.mem_singleton] at member
      rcases member with earlier | rfl
      · exact (sound.numbered other layer earlier).trans (Nat.le_succ _)
      · exact number.le
    · simp only [Function.update_of_ne same] at member
      exact (sound.numbered other layer member).trans (Nat.le_succ _)
  · intro other
    by_cases same : other = screen
    · subst same
      simp only [Function.update_self]
      exact List.nodup_append.mpr ⟨sound.nodup other, List.nodup_singleton _,
        fun left leftMember right rightMember equal => fresh other (by
          rw [List.mem_singleton] at rightMember
          rwa [equal, rightMember] at leftMember)⟩
    · simp only [Function.update_of_ne same]
      exact sound.nodup other
  · intro other layer
    by_cases same : other = screen
    · subst same
      simp only [Function.update_self, Function.update_of_ne (Screen.other_ne other),
        List.mem_append, List.mem_singleton]
      rintro (earlier | rfl)
      · exact sound.apart other layer earlier
      · exact fresh _
    · obtain rfl : screen = other.other := Screen.eq_other (Ne.symm same)
      simp only [Function.update_self, Function.update_of_ne same, List.mem_append,
        List.mem_singleton, not_or]
      intro member
      refine ⟨sound.apart other layer member, ?_⟩
      rintro rfl
      exact fresh other member

/-- Lists and identifiers stay sound when nothing was created. -/
theorem Sound.keep {shared : Shared context} (sound : Sound shared) {after : Hwc2Device context}
    (dirtyLive : DirtyLive after) (nextId : after.nextLayerId = shared.device.nextLayerId) :
    Sound ⟨after, shared.created⟩ where
  dirtyLive := dirtyLive
  numbered := by
    rw [nextId]
    exact sound.numbered
  nodup := sound.nodup
  apart := sound.apart

/-- What the other display does to this one: it works on layers that are not on this
display's list, or turns every layer to client composition. -/
structure Undisturbed (screen : Screen) (before after : Shared context) : Prop where
  sound : Sound after
  created : after.created screen = before.created screen
  grows : before.device.nextLayerId.toNat ≤ after.device.nextLayerId.toNat
  live : after.device.layers.among (before.created screen) =
    before.device.layers.among (before.created screen)
  dirty : (∀ layer ∈ before.created screen, layer ∉ before.device.dirtyLayers) →
    ∀ layer ∈ before.created screen, layer ∉ after.device.dirtyLayers
  posts : postsOn screen after.device = postsOn screen before.device

/-- Whatever keeps the layers, the dirty layers and the posts disturbs nobody. -/
theorem Undisturbed.of_same {screen : Screen} {shared : Shared context} (sound : Sound shared)
    {after : Hwc2Device context} (nextId : after.nextLayerId = shared.device.nextLayerId)
    (layers : after.layers = shared.device.layers)
    (dirty : after.dirtyLayers = shared.device.dirtyLayers)
    (posts : postsOn screen after = postsOn screen shared.device) :
    Undisturbed screen shared ⟨after, shared.created⟩ where
  sound := by
    refine sound.keep ?_ nextId
    rw [DirtyLive, layers, dirty]
    exact sound.dirtyLive
  created := rfl
  grows := by simp only [nextId, Nat.le_refl]
  live := by simp only [layers]
  dirty := by
    simp only [dirty]
    exact id
  posts := posts

/-- A post on another display does not show on this one. -/
theorem postsOn_cons_of_ne {screen : Screen} {display : DisplayId} (buffer : BufferHandle)
    (code : Int) (posts : List Post) (different : display ≠ screen.display)
    (device : Hwc2Device context) :
    postsOn screen { device with posts := ⟨display, buffer, code⟩ :: posts } =
      postsOn screen { device with posts := posts } := by
  simp [postsOn, different]

/-- A command of one display leaves the other display undisturbed. -/
theorem undisturbed {shared : Shared context} (sound : Sound shared) {screen : Screen}
    {event : Screen × ScreenCommand} (different : event.1 ≠ screen)
    (named : Named shared event) (counted : Countable64 shared event) :
    Undisturbed screen shared ((sharedMachine context).next shared event) := by
  obtain ⟨author, command⟩ := event
  obtain rfl : author = screen.other := Screen.eq_other different
  have outcome := device_outcome sound.dirtyLive
    (command.call screen.other (shared.created screen.other))
  have dirtyLive := outcome.dirtyLive sound.dirtyLive
  have foreign : ∀ index ∈ command.index,
      (shared.created screen.other).getD index 0 ∉ shared.created screen := by
    intro index member mine
    rw [getD_eq_getElem (named index member)] at mine
    exact sound.apart screen _ mine (List.getElem_mem _)
  have next : (sharedMachine context).next shared (screen.other, command) =
      ⟨(deviceMachine context).next shared.device
          (command.call screen.other (shared.created screen.other)),
        Function.update shared.created screen.other (shared.created screen.other ++
          ((deviceMachine context).answer shared.device
            (command.call screen.other (shared.created screen.other))).layer.toList)⟩ := rfl
  rw [next]
  generalize (deviceMachine context).answer _ _ = answer at outcome ⊢
  generalize (deviceMachine context).next _ _ = after at outcome dirtyLive ⊢
  generalize calls : command.call screen.other (shared.created screen.other) = call at outcome
  cases outcome with
  | refused | vsync | targeted | validated | changed | listed =>
      simp only [Option.toList_none, List.append_nil, Function.update_eq_self]
      exact .of_same sound rfl rfl rfl rfl
  | presented known validated =>
      simp only [Option.toList_none, List.append_nil, Function.update_eq_self]
      refine .of_same sound rfl rfl rfl ?_
      cases command <;> cases calls
      exact postsOn_cons_of_ne _ _ _ (Screen.display_ne different) _
  | created known =>
      cases command <;> cases calls
      have number : shared.device.nextLayerId.toNat + 1 < 2 ^ 64 := counted rfl
      have fresh := sound.fresh number screen
      refine ⟨sound.create _ number dirtyLive rfl, ?_, ?_, ?_, ?_, rfl⟩
      · simp only [Function.update_of_ne different.symm]
      · rw [toNat_nextLayer number]
        exact Nat.le_succ _
      · exact UnorderedSet.among_insert_of_not_mem fresh
      · intro clean layer member
        simp only [UnorderedSet.mem_insert, not_or]
        exact ⟨fun same => fresh (same ▸ member), clean layer member⟩
  | destroyed known live =>
      simp only [Option.toList_none, List.append_nil, Function.update_eq_self]
      cases command <;> cases calls
      refine ⟨sound.keep dirtyLive rfl, rfl, Nat.le_refl _, ?_, ?_, rfl⟩
      · exact UnorderedSet.among_erase_of_not_mem (foreign _ rfl)
      · intro clean layer member
        simp only [UnorderedSet.mem_erase, not_and]
        exact fun _ => clean layer member
  | accepted known validated =>
      simp only [Option.toList_none, List.append_nil, Function.update_eq_self]
      refine ⟨sound.keep dirtyLive rfl, rfl, Nat.le_refl _, rfl, ?_, rfl⟩
      exact fun _ _ _ => UnorderedSet.not_mem_empty
  | @typed _ target type known live =>
      simp only [Option.toList_none, List.append_nil, Function.update_eq_self]
      cases command <;> cases calls
      refine ⟨sound.keep dirtyLive rfl, rfl, Nat.le_refl _, rfl, ?_, rfl⟩
      intro clean layer member
      dsimp only
      split
      · simp only [UnorderedSet.mem_erase, not_and]
        exact fun _ => clean layer member
      · simp only [UnorderedSet.mem_insert, not_or]
        exact ⟨fun same => foreign _ rfl (same ▸ member), clean layer member⟩

/-- What holds in the turn of a display, compared with the run in which it is alone. -/
structure Possesses (screen : Screen) (shared : Shared context) (turn : Turn)
    (alone : Shared context) : Prop where
  inside : ∀ layer ∈ shared.device.dirtyLayers, layer ∈ shared.created screen
  state : turn.validated = true → shared.device.state = alone.device.state
  target : turn.targeted = true → shared.device.buffer = alone.device.buffer

/-- The device as one display sees it, compared with the run in which it is alone. -/
structure Mirrors (screen : Screen) (shared : Shared context × Turn) (alone : Shared context) :
    Prop where
  sound : Sound shared.1
  soundAlone : Sound alone
  behind : alone.device.nextLayerId.toNat ≤ shared.1.device.nextLayerId.toNat
  inside : ∀ layer ∈ alone.device.dirtyLayers, layer ∈ alone.created screen
  live : shared.1.device.layers.among (shared.1.created screen) =
    alone.device.layers.among (alone.created screen)
  dirty : shared.1.device.dirtyLayers.among (shared.1.created screen) =
    alone.device.dirtyLayers.among (alone.created screen)
  posts : postsOn screen shared.1.device = postsOn screen alone.device
  own : shared.2.owner ≠ some screen.other → Possesses screen shared.1 shared.2 alone
  away : shared.2.owner = some screen.other →
    ∀ layer ∈ shared.1.created screen, layer ∉ shared.1.device.dirtyLayers

theorem mirrors_new (screen : Screen) (kms : context.State) :
    Mirrors screen (.new kms, .start) (.new kms : Shared context) where
  sound := sound_new kms
  soundAlone := sound_new kms
  behind := Nat.le_refl _
  inside _ dirty := absurd dirty UnorderedSet.not_mem_empty
  live := rfl
  dirty := rfl
  posts := rfl
  own _ := ⟨fun _ dirty => absurd dirty UnorderedSet.not_mem_empty, fun _ => rfl, fun _ => rfl⟩
  away owner := nomatch owner

/-- A set without an element flags nothing, and conversely. -/
theorem among_eq_of_disjoint {set : UnorderedSet LayerId} {list : List LayerId}
    (disjoint : ∀ layer ∈ list, layer ∉ set) :
    set.among list = List.replicate list.length false := by
  rw [List.eq_replicate_iff]
  refine ⟨UnorderedSet.length_among, ?_⟩
  intro flag member
  obtain ⟨layer, inside, rfl⟩ := List.mem_map.mp member
  exact UnorderedSet.count_eq_false.mpr (disjoint layer inside)

section Own

variable {screen : Screen} {shared : Shared context} {turn : Turn} {alone : Shared context}

/-- The display has created as many layers as it has alone. -/
theorem Mirrors.length (mirrors : Mirrors screen (shared, turn) alone) :
    (shared.created screen).length = (alone.created screen).length := by
  have lengths := congrArg List.length mirrors.live
  simpa using lengths

/-- A place holds a live layer in both runs or in none. -/
theorem Mirrors.live_iff (mirrors : Mirrors screen (shared, turn) alone) {index : Nat}
    (bound : index < (shared.created screen).length) :
    (shared.created screen).getD index 0 ∈ shared.device.layers ↔
      (alone.created screen).getD index 0 ∈ alone.device.layers := by
  have boundAlone : index < (alone.created screen).length := mirrors.length ▸ bound
  have flags := congrArg (fun flags : List Bool => flags[index]?) mirrors.live
  simp only [UnorderedSet.getElem?_among, List.getElem?_eq_getElem bound,
    List.getElem?_eq_getElem boundAlone, Option.map_some, Option.some_inj] at flags
  rw [getD_eq_getElem bound, getD_eq_getElem boundAlone, ← UnorderedSet.count_eq_true, flags,
    UnorderedSet.count_eq_true]

/-- In its turn a display possesses the device, whoever had the turn before. -/
theorem Mirrors.take (mirrors : Mirrors screen (shared, turn) alone)
    (clean : turn.owner ≠ some screen → shared.device.dirtyLayers.size = 0) :
    Possesses screen shared (turn.take screen) alone := by
  by_cases switched : turn.owner = some screen.other
  · have changes : turn.owner ≠ some screen := by simp [switched]
    have empty := UnorderedSet.size_eq_zero.mp (clean changes)
    rw [Turn.take, if_pos switched]
    exact ⟨fun layer dirty => absurd dirty (empty layer), nofun, nofun⟩
  · rw [Turn.take, if_neg switched]
    have possesses := mirrors.own switched
    exact ⟨possesses.inside, possesses.state, possesses.target⟩

/-- The dirty layers stand at the same places in both runs. -/
theorem Possesses.dirty_perm {taken : Turn} (possesses : Possesses screen shared taken alone)
    (mirrors : Mirrors screen (shared, turn) alone) :
    (shared.device.dirtyLayers.elements.map (shared.created screen).idxOf).Perm
      (alone.device.dirtyLayers.elements.map (alone.created screen).idxOf) := by
  have left := UnorderedSet.elements_idxOf_perm (mirrors.sound.nodup screen) possesses.inside
  have right := UnorderedSet.elements_idxOf_perm (mirrors.soundAlone.nodup screen) mirrors.inside
  have places : shared.device.dirtyLayers.among (shared.created screen) =
    alone.device.dirtyLayers.among (alone.created screen) := mirrors.dirty
  rw [places] at left
  exact left.trans right.symm

/-- There are as many dirty layers in both runs. -/
theorem Possesses.size {taken : Turn} (possesses : Possesses screen shared taken alone)
    (mirrors : Mirrors screen (shared, turn) alone) :
    shared.device.dirtyLayers.size = alone.device.dirtyLayers.size := by
  have lengths := (possesses.dirty_perm mirrors).length_eq
  simp only [List.length_map] at lengths
  exact lengths

theorem Possesses.dirtyCount {taken : Turn} (possesses : Possesses screen shared taken alone)
    (mirrors : Mirrors screen (shared, turn) alone) :
    shared.device.dirtyCount = alone.device.dirtyCount := by
  rw [Hwc2Device.dirtyCount, Hwc2Device.dirtyCount, possesses.size mirrors]

/-- A step of both runs that creates nothing, in the turn of the display. -/
theorem mirrors_retouch {next : Turn} (owner : next.owner = some screen) {after afterAlone : Hwc2Device context}
    (sound : Sound ⟨after, shared.created⟩) (soundAlone : Sound ⟨afterAlone, alone.created⟩)
    (behind : afterAlone.nextLayerId.toNat ≤ after.nextLayerId.toNat)
    (insideAlone : ∀ layer ∈ afterAlone.dirtyLayers, layer ∈ alone.created screen)
    (live : after.layers.among (shared.created screen) =
      afterAlone.layers.among (alone.created screen))
    (dirty : after.dirtyLayers.among (shared.created screen) =
      afterAlone.dirtyLayers.among (alone.created screen))
    (posts : postsOn screen after = postsOn screen afterAlone)
    (possesses : Possesses screen ⟨after, shared.created⟩ next ⟨afterAlone, alone.created⟩) :
    Mirrors screen (⟨after, shared.created⟩, next) ⟨afterAlone, alone.created⟩ where
  sound := sound
  soundAlone := soundAlone
  behind := behind
  inside := insideAlone
  live := live
  dirty := dirty
  posts := posts
  own _ := possesses
  away away := by
    rw [owner, Option.some_inj] at away
    exact absurd away.symm (Screen.other_ne screen)

/-- A step keeps the layers, the dirty layers and the identifiers. -/
structure Steady (before after : Hwc2Device context) : Prop where
  nextId : after.nextLayerId = before.nextLayerId
  layers : after.layers = before.layers
  dirty : after.dirtyLayers = before.dirtyLayers

theorem Steady.sound {device after : Hwc2Device context} {created : Screen → List LayerId}
    (steady : Steady device after) (sound : Sound ⟨device, created⟩) : Sound ⟨after, created⟩ := by
  refine sound.keep ?_ steady.nextId
  rw [DirtyLive, steady.layers, steady.dirty]
  exact sound.dirtyLive

/-- A steady step of both runs, in the turn of the display. -/
theorem Mirrors.steady (mirrors : Mirrors screen (shared, turn) alone) {taken next : Turn}
    (possesses : Possesses screen shared taken alone) (owner : next.owner = some screen)
    {after afterAlone : Hwc2Device context} (steady : Steady shared.device after)
    (steadyAlone : Steady alone.device afterAlone)
    (posts : postsOn screen after = postsOn screen afterAlone)
    (state : next.validated = true → after.state = afterAlone.state)
    (target : next.targeted = true → after.buffer = afterAlone.buffer) :
    Mirrors screen (⟨after, shared.created⟩, next) ⟨afterAlone, alone.created⟩ := by
  refine mirrors_retouch owner (steady.sound mirrors.sound)
    (steadyAlone.sound mirrors.soundAlone) ?_ ?_ ?_ ?_ posts ⟨?_, state, target⟩
  · rw [steady.nextId, steadyAlone.nextId]
    exact mirrors.behind
  · rw [steadyAlone.dirty]
    exact mirrors.inside
  · rw [steady.layers, steadyAlone.layers]
    exact mirrors.live
  · rw [steady.dirty, steadyAlone.dirty]
    exact mirrors.dirty
  · rw [steady.dirty]
    exact possesses.inside

/-- A command of the display itself: it is answered as it would be alone, and afterwards
the two runs are alike again. -/
structure OwnStep (screen : Screen) (shared : Shared context) (turn : Turn)
    (alone : Shared context) (command : ScreenCommand) : Prop where
  answer : (sharedMachine context).answer shared (screen, command) =
    (sharedMachine context).answer alone (screen, command)
  mirrors : Mirrors screen ((sharedMachine context).next shared (screen, command),
    turn.after shared (screen, command)) ((sharedMachine context).next alone (screen, command))

/-- The device answers to a command in both runs, and what they leave behind. -/
structure Answered (screen : Screen) (shared alone : Shared context) (command : ScreenCommand)
    (answer answerAlone : DeviceAnswer) (after afterAlone : Hwc2Device context) : Prop where
  shared : (deviceMachine context).step shared.device
    (command.call screen (shared.created screen)) = (answer, after)
  alone : (deviceMachine context).step alone.device
    (command.call screen (alone.created screen)) = (answerAlone, afterAlone)

section Answered

variable {command : ScreenCommand} {answer answerAlone : DeviceAnswer}
  {after afterAlone : Hwc2Device context}

/-- What the command leaves of the turn. -/
theorem Answered.turnAfter (answered : Answered screen shared alone command answer answerAlone
    after afterAlone) :
    turn.after shared (screen, command) =
      if IsError answer.error then turn.take screen else (turn.take screen).settle command := by
  rw [Turn.after, shared_answer shared (screen, command) answered.shared]
  rfl

/-- A command that creates nothing is answered alike when its error and its count are the
same and the reported layers stand at the same places. -/
theorem Answered.ownStep (answered : Answered screen shared alone command answer answerAlone
      after afterAlone) (noLayer : answer.layer = none) (noLayerAlone : answerAlone.layer = none)
    (error : answer.error = answerAlone.error) (count : answer.count = answerAlone.count)
    (changed : (answer.changed.map fun change =>
        ((shared.created screen).idxOf change.1, change.2)).Perm
      (answerAlone.changed.map fun change => ((alone.created screen).idxOf change.1, change.2)))
    (mirrors : Mirrors screen (⟨after, shared.created⟩, turn.after shared (screen, command))
      ⟨afterAlone, alone.created⟩) : OwnStep screen shared turn alone command := by
  constructor
  · rw [shared_answer shared (screen, command) answered.shared,
      shared_answer alone (screen, command) answered.alone, noLayer, noLayerAlone]
    simp only [observe, Option.toList_none, List.append_nil, noLayer, noLayerAlone,
      Option.map_none, error, count, Multiset.coe_eq_coe.mpr changed]
  · rw [shared_next_of_none shared (screen, command) answered.shared noLayer,
      shared_next_of_none alone (screen, command) answered.alone noLayerAlone]
    exact mirrors

/-- A command that is refused in both runs. -/
theorem Mirrors.refused (mirrors : Mirrors screen (shared, turn) alone)
    (possesses : Possesses screen shared (turn.take screen) alone) {error : Int}
    (failed : IsError error) (answered : Answered screen shared alone command
      { error := error } { error := error } shared.device alone.device) :
    OwnStep screen shared turn alone command := by
  refine answered.ownStep rfl rfl rfl rfl (List.Perm.refl _) ?_
  rw [answered.turnAfter, if_pos failed]
  exact mirrors.steady possesses (Turn.take_owner _ _) ⟨rfl, rfl, rfl⟩ ⟨rfl, rfl, rfl⟩
    mirrors.posts possesses.state possesses.target

/-- A command that succeeds in both runs and touches no layer. -/
theorem Mirrors.succeeded (mirrors : Mirrors screen (shared, turn) alone)
    (possesses : Possesses screen shared (turn.take screen) alone)
    (answered : Answered screen shared alone command answer answerAlone after afterAlone)
    (noLayer : answer.layer = none) (noLayerAlone : answerAlone.layer = none)
    (succeeded : ¬ IsError answer.error) (error : answer.error = answerAlone.error)
    (count : answer.count = answerAlone.count)
    (changed : (answer.changed.map fun change =>
        ((shared.created screen).idxOf change.1, change.2)).Perm
      (answerAlone.changed.map fun change => ((alone.created screen).idxOf change.1, change.2)))
    (steady : Steady shared.device after) (steadyAlone : Steady alone.device afterAlone)
    (posts : postsOn screen after = postsOn screen afterAlone)
    (state : ((turn.take screen).settle command).validated = true →
      after.state = afterAlone.state)
    (target : ((turn.take screen).settle command).targeted = true →
      after.buffer = afterAlone.buffer) : OwnStep screen shared turn alone command := by
  refine answered.ownStep noLayer noLayerAlone error count changed ?_
  rw [answered.turnAfter, if_neg succeeded]
  exact mirrors.steady possesses (by simp) steady steadyAlone posts state target

end Answered

theorem Mirrors.setVsyncEnabled (mirrors : Mirrors screen (shared, turn) alone)
    (possesses : Possesses screen shared (turn.take screen) alone) (enabled : Int) :
    OwnStep screen shared turn alone (.setVsyncEnabled enabled) := by
  have accepted : ¬ ¬ KnownDisplay screen.display := not_not.mpr screen.known
  have answers : ∀ device : Hwc2Device context, (deviceMachine context).step device
      (.setVsyncEnabled screen.display enabled) = ({ error := hwc2ErrorNone },
        { device with callbackEnabled := decide (enabled = hwc2VsyncEnable) }) := by
    intro device
    simp only [deviceMachine, Hwc2Device.setVsyncEnabled, if_neg accepted]
  exact mirrors.succeeded possesses ⟨answers _, answers _⟩ rfl rfl not_isError_none rfl rfl (.refl _)
    ⟨rfl, rfl, rfl⟩ ⟨rfl, rfl, rfl⟩ mirrors.posts possesses.state possesses.target

theorem Mirrors.setClientTarget (mirrors : Mirrors screen (shared, turn) alone)
    (possesses : Possesses screen shared (turn.take screen) alone) (target : BufferHandle)
    (dataspace : Int) : OwnStep screen shared turn alone (.setClientTarget target dataspace) := by
  have accepted : ¬ ¬ KnownDisplay screen.display := not_not.mpr screen.known
  by_cases unknown : dataspace = halDataspaceUnknown
  · have answers : ∀ device : Hwc2Device context, (deviceMachine context).step device
        (.setClientTarget screen.display target dataspace) =
          ({ error := hwc2ErrorNone }, { device with buffer := target }) := by
      intro device
      simp only [deviceMachine, Hwc2Device.setClientTarget, if_neg accepted, unknown, ne_eq,
        not_true, if_false]
    exact mirrors.succeeded possesses ⟨answers _, answers _⟩ rfl rfl not_isError_none rfl rfl (.refl _)
      ⟨rfl, rfl, rfl⟩ ⟨rfl, rfl, rfl⟩ mirrors.posts possesses.state fun _ => rfl
  · have answers : ∀ device : Hwc2Device context, (deviceMachine context).step device
        (.setClientTarget screen.display target dataspace) =
          ({ error := hwc2ErrorBadParameter }, device) := by
      intro device
      simp only [deviceMachine, Hwc2Device.setClientTarget, if_neg accepted, ne_eq, unknown,
        not_false_eq_true, if_true]
    exact mirrors.refused possesses (by decide) ⟨answers _, answers _⟩

theorem Mirrors.validateDisplay (mirrors : Mirrors screen (shared, turn) alone)
    (possesses : Possesses screen shared (turn.take screen) alone) :
    OwnStep screen shared turn alone .validateDisplay := by
  have counts := possesses.dirtyCount mirrors
  by_cases clean : shared.device.dirtyCount = 0
  · have answers : ∀ device : Hwc2Device context, device.dirtyCount = 0 →
        (deviceMachine context).step device (.validateDisplay screen.display) =
          ({ error := hwc2ErrorNone, count := 0 }, { device with state := .validated }) := by
      intro device clean
      simp only [deviceMachine, Hwc2Device.validateDisplay_of_clean screen.known clean]
    exact mirrors.succeeded possesses ⟨answers _ clean, answers _ (counts ▸ clean)⟩ rfl rfl
      not_isError_none rfl rfl (.refl _) ⟨rfl, rfl, rfl⟩ ⟨rfl, rfl, rfl⟩ mirrors.posts (fun _ => rfl)
      possesses.target
  · have answers : ∀ device : Hwc2Device context, device.dirtyCount ≠ 0 →
        (deviceMachine context).step device (.validateDisplay screen.display) =
          ({ error := hwc2ErrorHasChanges, count := device.dirtyCount },
            { device with state := .validatedWithChanges }) := by
      intro device dirty
      simp only [deviceMachine, Hwc2Device.validateDisplay_of_dirty screen.known dirty]
    exact mirrors.succeeded possesses ⟨answers _ clean, answers _ (counts ▸ clean)⟩ rfl rfl
      not_isError_hasChanges rfl counts (.refl _) ⟨rfl, rfl, rfl⟩ ⟨rfl, rfl, rfl⟩ mirrors.posts
      (fun _ => rfl) possesses.target

/-- A post on the display itself shows in front of the earlier ones. -/
theorem postsOn_cons (buffer : BufferHandle) (code : Int) (kms : context.State)
    (device : Hwc2Device context) :
    postsOn screen { device with
      hwcContext := kms, posts := ⟨screen.display, buffer, code⟩ :: device.posts } =
      buffer :: postsOn screen device := by
  simp [postsOn]

theorem Mirrors.presentDisplay (mirrors : Mirrors screen (shared, turn) alone)
    (possesses : Possesses screen shared (turn.take screen) alone)
    (states : shared.device.state = alone.device.state)
    (buffers : shared.device.buffer = alone.device.buffer) :
    OwnStep screen shared turn alone .presentDisplay := by
  by_cases validated : shared.device.state = .validated
  · have validatedAlone : alone.device.state = .validated := states ▸ validated
    have answered : ∀ device : Hwc2Device context, device.state = .validated →
        (deviceMachine context).step device (.presentDisplay screen.display) =
          ({ error := hwc2ErrorNone, retireFence := some
              (context.hwcPost screen.display device.buffer device.hwcContext).1.retireFence },
            { device with
              hwcContext := (context.hwcPost screen.display device.buffer device.hwcContext).2
              posts := ⟨screen.display, device.buffer, (context.hwcPost screen.display
                device.buffer device.hwcContext).1.code⟩ :: device.posts }) := by
      intro device validated
      simp only [deviceMachine, Hwc2Device.presentDisplay_of_validated screen.known validated]
    refine mirrors.succeeded possesses ⟨answered _ validated, answered _ validatedAlone⟩ rfl rfl
      not_isError_none rfl rfl (.refl _) ⟨rfl, rfl, rfl⟩ ⟨rfl, rfl, rfl⟩ ?_ (fun _ => states)
      fun _ => buffers
    rw [postsOn_cons, postsOn_cons, buffers]
    exact congrArg _ mirrors.posts
  · have answered : ∀ device : Hwc2Device context, device.state ≠ .validated →
        (deviceMachine context).step device (.presentDisplay screen.display) =
          ({ error := hwc2ErrorNotValidated }, device) := by
      intro device notValidated
      simp only [deviceMachine,
        Hwc2Device.presentDisplay_of_not_validated screen.known notValidated]
    exact mirrors.refused possesses (by decide)
      ⟨answered _ validated, answered _ (states ▸ validated)⟩

theorem Mirrors.acceptDisplayChanges (mirrors : Mirrors screen (shared, turn) alone)
    (possesses : Possesses screen shared (turn.take screen) alone)
    (states : shared.device.state = alone.device.state) :
    OwnStep screen shared turn alone .acceptDisplayChanges := by
  by_cases modified : shared.device.state = .modified
  · have answers : ∀ device : Hwc2Device context, device.state = .modified →
        (deviceMachine context).step device (.acceptDisplayChanges screen.display) =
          ({ error := hwc2ErrorNotValidated }, device) := by
      intro device modified
      simp only [deviceMachine, Hwc2Device.acceptDisplayChanges_of_modified screen.known modified]
    exact mirrors.refused possesses (by decide)
      ⟨answers _ modified, answers _ (states ▸ modified)⟩
  · have answers : ∀ device : Hwc2Device context, device.state ≠ .modified →
        (deviceMachine context).step device (.acceptDisplayChanges screen.display) =
          ({ error := hwc2ErrorNone },
            { device with dirtyLayers := .empty, state := .validated }) := by
      intro device validated
      simp only [deviceMachine,
        Hwc2Device.acceptDisplayChanges_of_validated screen.known validated]
    have answered : Answered screen shared alone .acceptDisplayChanges _ _ _ _ :=
      ⟨answers _ modified, answers _ (states ▸ modified)⟩
    have nothing : ∀ layer : LayerId, layer ∉ (UnorderedSet.empty : UnorderedSet LayerId) :=
      fun _ => UnorderedSet.not_mem_empty
    refine answered.ownStep rfl rfl rfl rfl (.refl _) ?_
    rw [answered.turnAfter, if_neg not_isError_none]
    refine mirrors_retouch (by simp) ?_ ?_ mirrors.behind ?_ mirrors.live ?_ mirrors.posts ?_
    · exact mirrors.sound.keep (fun layer dirty => absurd dirty (nothing layer)) rfl
    · exact mirrors.soundAlone.keep (fun layer dirty => absurd dirty (nothing layer)) rfl
    · exact fun layer dirty => absurd dirty (nothing layer)
    · simp only [among_eq_of_disjoint fun layer _ => nothing layer, mirrors.length]
    · exact ⟨fun layer dirty => absurd dirty (nothing layer), fun _ => rfl, possesses.target⟩

theorem Mirrors.getChangedCompositionTypes (mirrors : Mirrors screen (shared, turn) alone)
    (possesses : Possesses screen shared (turn.take screen) alone)
    (states : shared.device.state = alone.device.state) (capacity : Option (BitVec 32))
    (room : ∀ numElements, capacity = some numElements →
      shared.device.dirtyLayers.size ≤ numElements.toNat) :
    OwnStep screen shared turn alone (.getChangedCompositionTypes capacity) := by
  by_cases modified : shared.device.state = .modified
  · have answers : ∀ device : Hwc2Device context, device.state = .modified →
        (deviceMachine context).step device
          (.getChangedCompositionTypes screen.display capacity) =
            ({ error := hwc2ErrorNotValidated }, device) := by
      intro device modified
      simp only [deviceMachine, Hwc2Device.getChangedCompositionTypes.eq_def,
        if_neg (not_not.mpr screen.known), if_pos modified]
    exact mirrors.refused possesses (by decide)
      ⟨answers _ modified, answers _ (states ▸ modified)⟩
  have counts := possesses.dirtyCount mirrors
  cases capacity with
  | none =>
      have answers : ∀ device : Hwc2Device context, device.state ≠ .modified →
          (deviceMachine context).step device (.getChangedCompositionTypes screen.display none) =
            ({ error := hwc2ErrorNone, count := device.dirtyCount }, device) := by
        intro device validated
        simp only [deviceMachine,
          Hwc2Device.getChangedCompositionTypes_count screen.known validated]
      exact mirrors.succeeded possesses ⟨answers _ modified, answers _ (states ▸ modified)⟩
        rfl rfl not_isError_none rfl counts (.refl _) ⟨rfl, rfl, rfl⟩ ⟨rfl, rfl, rfl⟩
        mirrors.posts possesses.state possesses.target
  | some numElements =>
      have fits := room numElements rfl
      have fitsAlone := possesses.size mirrors ▸ fits
      have answers : ∀ device : Hwc2Device context, device.state ≠ .modified →
          device.dirtyLayers.size ≤ numElements.toNat → (deviceMachine context).step device
            (.getChangedCompositionTypes screen.display (some numElements)) =
              ({ error := hwc2ErrorNone, count := device.dirtyCount
                 changed := device.dirtyLayers.elements.map
                  fun layer => (layer, hwc2CompositionClient) }, device) := by
        intro device validated fits
        simp only [deviceMachine,
          Hwc2Device.getChangedCompositionTypes_of_room screen.known validated fits]
      refine mirrors.succeeded possesses
        ⟨answers _ modified fits, answers _ (states ▸ modified) fitsAlone⟩
        rfl rfl not_isError_none rfl counts ?_ ⟨rfl, rfl, rfl⟩ ⟨rfl, rfl, rfl⟩
        mirrors.posts possesses.state possesses.target
      have places := (possesses.dirty_perm mirrors).map fun index =>
        (index, hwc2CompositionClient)
      simpa only [List.map_map, Function.comp_def] using places

/-- The new identifier stands behind the earlier ones. -/
theorem observe_created {created : List LayerId} {layer : LayerId} (fresh : layer ∉ created) :
    observe (created ++ [layer]) { error := hwc2ErrorNone, layer := some layer } =
      { error := hwc2ErrorNone, layer := some created.length, count := 0, changed := 0 } := by
  simp [observe, List.idxOf_append_of_notMem fresh]

/-- A set that lies in a list still does when both take the same element. -/
theorem inside_concat {set : UnorderedSet LayerId} {created : List LayerId}
    (inside : ∀ layer ∈ set, layer ∈ created) (new : LayerId) :
    ∀ layer ∈ set.insert new, layer ∈ created ++ [new] := by
  intro layer member
  rw [List.mem_append, List.mem_singleton]
  exact (UnorderedSet.mem_insert.mp member).elim .inr fun earlier => .inl (inside layer earlier)

theorem Mirrors.createLayer (mirrors : Mirrors screen (shared, turn) alone)
    (possesses : Possesses screen shared (turn.take screen) alone)
    (counted : shared.device.nextLayerId.toNat + 1 < 2 ^ 64) :
    OwnStep screen shared turn alone .createLayer := by
  have behind : alone.device.nextLayerId.toNat ≤ shared.device.nextLayerId.toNat :=
    mirrors.behind
  have countedAlone : alone.device.nextLayerId.toNat + 1 < 2 ^ 64 := by omega
  have fresh : shared.device.nextLayerId + 1 ∉ shared.created screen :=
    mirrors.sound.fresh counted screen
  have freshAlone := mirrors.soundAlone.fresh countedAlone screen
  have answers : ∀ device : Hwc2Device context, (deviceMachine context).step device
      (.createLayer screen.display) =
        ({ error := hwc2ErrorNone, layer := some (device.nextLayerId + 1) },
          { device with
            nextLayerId := device.nextLayerId + 1
            layers := device.layers.insert (device.nextLayerId + 1)
            dirtyLayers := device.dirtyLayers.insert (device.nextLayerId + 1)
            state := .modified }) := by
    intro device
    simp only [deviceMachine, Hwc2Device.createLayer_of_known screen.known]
  have answered : Answered screen shared alone .createLayer _ _ _ _ := ⟨answers _, answers _⟩
  have outcome : ∀ {device : Hwc2Device context}, DirtyLive device → DirtyLive
      { device with
        nextLayerId := device.nextLayerId + 1
        layers := device.layers.insert (device.nextLayerId + 1)
        dirtyLayers := device.dirtyLayers.insert (device.nextLayerId + 1)
        state := .modified } := fun dirtyLive =>
    (DeviceOutcome.created screen.known).dirtyLive dirtyLive
  constructor
  · rw [shared_answer shared (screen, .createLayer) answered.shared,
      shared_answer alone (screen, .createLayer) answered.alone]
    simp only [Option.toList_some, observe_created fresh, observe_created freshAlone,
      mirrors.length]
  · rw [shared_next shared (screen, .createLayer) answered.shared,
      shared_next alone (screen, .createLayer) answered.alone, answered.turnAfter,
      if_neg not_isError_none]
    constructor
    · exact mirrors.sound.create screen counted (outcome mirrors.sound.dirtyLive) rfl
    · exact mirrors.soundAlone.create screen countedAlone (outcome mirrors.soundAlone.dirtyLive)
        rfl
    · simp only [toNat_nextLayer counted, toNat_nextLayer countedAlone]
      exact Nat.succ_le_succ behind
    · simp only [Function.update_self, Option.toList_some]
      exact inside_concat mirrors.inside _
    · simp only [Function.update_self, Option.toList_some, UnorderedSet.among_append,
        UnorderedSet.among_insert_of_not_mem fresh,
        UnorderedSet.among_insert_of_not_mem freshAlone]
      rw [mirrors.live, UnorderedSet.count_insert_self, UnorderedSet.count_insert_self]
    · simp only [Function.update_self, Option.toList_some, UnorderedSet.among_append,
        UnorderedSet.among_insert_of_not_mem fresh,
        UnorderedSet.among_insert_of_not_mem freshAlone]
      rw [mirrors.dirty, UnorderedSet.count_insert_self, UnorderedSet.count_insert_self]
    · exact mirrors.posts
    · intro _
      refine ⟨?_, fun _ => rfl, possesses.target⟩
      simp only [Function.update_self, Option.toList_some]
      exact inside_concat possesses.inside _
    · intro away
      simp only [Turn.settle_owner, Turn.take_owner, Option.some_inj] at away
      exact absurd away.symm (Screen.other_ne screen)

theorem Mirrors.destroyLayer (mirrors : Mirrors screen (shared, turn) alone)
    (possesses : Possesses screen shared (turn.take screen) alone) {index : Nat}
    (bound : index < (shared.created screen).length) :
    OwnStep screen shared turn alone (.destroyLayer index) := by
  have boundAlone : index < (alone.created screen).length := mirrors.length ▸ bound
  have alike := mirrors.live_iff bound
  by_cases live : (shared.created screen).getD index 0 ∈ shared.device.layers
  · have answers : ∀ (device : Hwc2Device context) (layer : LayerId), layer ∈ device.layers →
        (deviceMachine context).step device (.destroyLayer screen.display layer) =
          ({ error := hwc2ErrorNone },
            { device with
              layers := device.layers.erase layer
              dirtyLayers := device.dirtyLayers.erase layer
              state := .modified }) := by
      intro device layer live
      simp only [deviceMachine, Hwc2Device.destroyLayer_of_live screen.known live]
    have answered : Answered screen shared alone (.destroyLayer index) _ _ _ _ :=
      ⟨answers _ _ live, answers _ _ (alike.mp live)⟩
    refine answered.ownStep rfl rfl rfl rfl (.refl _) ?_
    rw [answered.turnAfter, if_neg not_isError_none]
    refine mirrors_retouch (by simp) ?_ ?_ mirrors.behind ?_ ?_ ?_ mirrors.posts ?_
    · exact mirrors.sound.keep
        ((DeviceOutcome.destroyed screen.known live).dirtyLive mirrors.sound.dirtyLive) rfl
    · exact mirrors.soundAlone.keep ((DeviceOutcome.destroyed screen.known
        (alike.mp live)).dirtyLive mirrors.soundAlone.dirtyLive) rfl
    · exact fun layer dirty => mirrors.inside layer (UnorderedSet.mem_erase.mp dirty).2
    · simp only [getD_eq_getElem bound, getD_eq_getElem boundAlone,
        UnorderedSet.among_erase_getElem (mirrors.sound.nodup screen) bound,
        UnorderedSet.among_erase_getElem (mirrors.soundAlone.nodup screen) boundAlone]
      rw [mirrors.live]
    · simp only [getD_eq_getElem bound, getD_eq_getElem boundAlone,
        UnorderedSet.among_erase_getElem (mirrors.sound.nodup screen) bound,
        UnorderedSet.among_erase_getElem (mirrors.soundAlone.nodup screen) boundAlone]
      rw [mirrors.dirty]
    · exact ⟨fun layer dirty => possesses.inside layer (UnorderedSet.mem_erase.mp dirty).2,
        fun _ => rfl, possesses.target⟩
  · have answers : ∀ (device : Hwc2Device context) (layer : LayerId), DirtyLive device →
        layer ∉ device.layers → (deviceMachine context).step device
          (.destroyLayer screen.display layer) = ({ error := hwc2ErrorBadLayer }, device) := by
      intro device layer dirtyLive absent
      simp only [deviceMachine, Hwc2Device.destroyLayer_of_absent screen.known dirtyLive absent]
    exact mirrors.refused possesses (by decide) ⟨answers _ _ mirrors.sound.dirtyLive live,
      answers _ _ mirrors.soundAlone.dirtyLive (fun other => live (alike.mpr other))⟩

theorem Mirrors.setLayerCompositionType (mirrors : Mirrors screen (shared, turn) alone)
    (possesses : Possesses screen shared (turn.take screen) alone) {index : Nat}
    (bound : index < (shared.created screen).length) (type : Composition) :
    OwnStep screen shared turn alone (.setLayerCompositionType index type) := by
  have boundAlone : index < (alone.created screen).length := mirrors.length ▸ bound
  have alike := mirrors.live_iff bound
  by_cases live : (shared.created screen).getD index 0 ∈ shared.device.layers
  · have answers : ∀ (device : Hwc2Device context) (layer : LayerId), layer ∈ device.layers →
        (deviceMachine context).step device
          (.setLayerCompositionType screen.display layer type) =
            ({ error := hwc2ErrorNone },
              { device with
                dirtyLayers := if type = hwc2CompositionClient then
                  device.dirtyLayers.erase layer else device.dirtyLayers.insert layer
                state := .modified }) := by
      intro device layer live
      simp only [deviceMachine, Hwc2Device.setLayerCompositionType_of_live screen.known live]
    have answered : Answered screen shared alone (.setLayerCompositionType index type) _ _ _ _ :=
      ⟨answers _ _ live, answers _ _ (alike.mp live)⟩
    refine answered.ownStep rfl rfl rfl rfl (.refl _) ?_
    rw [answered.turnAfter, if_neg not_isError_none]
    have inside : ∀ {set : UnorderedSet LayerId} {created : List LayerId},
        (∀ layer ∈ set, layer ∈ created) → index < created.length →
        ∀ layer ∈ (if type = hwc2CompositionClient then set.erase (created.getD index 0)
          else set.insert (created.getD index 0)), layer ∈ created := by
      intro set created inside bound layer dirty
      split at dirty
      · exact inside layer (UnorderedSet.mem_erase.mp dirty).2
      · rcases UnorderedSet.mem_insert.mp dirty with rfl | earlier
        · rw [getD_eq_getElem bound]
          exact List.getElem_mem _
        · exact inside layer earlier
    refine mirrors_retouch (by simp) ?_ ?_ mirrors.behind ?_ mirrors.live ?_ mirrors.posts ?_
    · exact mirrors.sound.keep
        ((DeviceOutcome.typed screen.known live).dirtyLive mirrors.sound.dirtyLive) rfl
    · exact mirrors.soundAlone.keep ((DeviceOutcome.typed screen.known
        (alike.mp live)).dirtyLive mirrors.soundAlone.dirtyLive) rfl
    · exact inside mirrors.inside boundAlone
    · simp only [getD_eq_getElem bound, getD_eq_getElem boundAlone]
      split
      · rw [UnorderedSet.among_erase_getElem (mirrors.sound.nodup screen) bound,
          UnorderedSet.among_erase_getElem (mirrors.soundAlone.nodup screen) boundAlone,
          mirrors.dirty]
      · rw [UnorderedSet.among_insert_getElem (mirrors.sound.nodup screen) bound,
          UnorderedSet.among_insert_getElem (mirrors.soundAlone.nodup screen) boundAlone,
          mirrors.dirty]
    · exact ⟨inside possesses.inside bound, fun _ => rfl, possesses.target⟩
  · have answers : ∀ (device : Hwc2Device context) (layer : LayerId), layer ∉ device.layers →
        (deviceMachine context).step device
          (.setLayerCompositionType screen.display layer type) =
            ({ error := hwc2ErrorBadLayer }, device) := by
      intro device layer absent
      simp only [deviceMachine, Hwc2Device.setLayerCompositionType_of_absent screen.known absent]
    exact mirrors.refused possesses (by decide)
      ⟨answers _ _ live, answers _ _ (fun other => live (alike.mpr other))⟩

/-- An orderly command of the display is answered as it would be alone. -/
theorem Mirrors.ownStep (mirrors : Mirrors screen (shared, turn) alone) {command : ScreenCommand}
    (orderly : Orderly (shared, turn) (screen, command)) :
    OwnStep screen shared turn alone command := by
  have possesses := mirrors.take orderly.clean
  cases command with
  | createLayer => exact mirrors.createLayer possesses (orderly.counted rfl)
  | destroyLayer index => exact mirrors.destroyLayer possesses (orderly.named index rfl)
  | setVsyncEnabled enabled => exact mirrors.setVsyncEnabled possesses enabled
  | setClientTarget target dataspace =>
      exact mirrors.setClientTarget possesses target dataspace
  | validateDisplay => exact mirrors.validateDisplay possesses
  | presentDisplay =>
      exact mirrors.presentDisplay possesses (possesses.state (orderly.validated trivial))
        (possesses.target (orderly.targeted rfl))
  | acceptDisplayChanges =>
      exact mirrors.acceptDisplayChanges possesses (possesses.state (orderly.validated trivial))
  | getChangedCompositionTypes capacity =>
      refine mirrors.getChangedCompositionTypes possesses
        (possesses.state (orderly.validated trivial)) capacity ?_
      rintro numElements rfl
      exact orderly.room numElements rfl
  | setLayerCompositionType index type =>
      exact mirrors.setLayerCompositionType possesses (orderly.named index rfl) type

end Own

/-- An orderly command of the other display leaves the comparison as it is. -/
theorem Mirrors.otherStep {screen : Screen} {shared : Shared context} {turn : Turn}
    {alone : Shared context} (mirrors : Mirrors screen (shared, turn) alone)
    {event : Screen × ScreenCommand} (different : event.1 ≠ screen)
    (orderly : Orderly (shared, turn) event) :
    Mirrors screen ((sharedMachine context).next shared event, turn.after shared event) alone := by
  have kept := undisturbed mirrors.sound different orderly.named orderly.counted
  have author : event.1 = screen.other := Screen.eq_other different
  have clean : ∀ layer ∈ shared.created screen, layer ∉ shared.device.dirtyLayers := by
    by_cases away : turn.owner = some screen.other
    · exact mirrors.away away
    · have none := orderly.clean (by rwa [author])
      exact fun layer _ => UnorderedSet.size_eq_zero.mp none layer
  constructor
  · exact kept.sound
  · exact mirrors.soundAlone
  · exact mirrors.behind.trans kept.grows
  · exact mirrors.inside
  · rw [kept.created, kept.live]
    exact mirrors.live
  · rw [kept.created, ← mirrors.dirty, among_eq_of_disjoint clean,
      among_eq_of_disjoint (kept.dirty clean)]
  · rw [kept.posts]
    exact mirrors.posts
  · intro own
    exact absurd (by rw [Turn.after_owner, author]) own
  · intro _
    rw [kept.created]
    exact kept.dirty clean

/-- Only `setVsyncEnabled` touches the callback. -/
theorem callbackEnabled_next (shared : Shared context) (event : Screen × ScreenCommand) :
    ((sharedMachine context).next shared event).device.callbackEnabled =
      match event.2 with
      | .setVsyncEnabled enabled => decide (enabled = hwc2VsyncEnable)
      | _ => shared.device.callbackEnabled := by
  obtain ⟨screen, command⟩ := event
  have known : ¬ ¬ KnownDisplay screen.display := not_not.mpr screen.known
  cases command <;>
    simp only [Machine.next, sharedMachine, ScreenCommand.call, deviceMachine,
      Hwc2Device.setVsyncEnabled, Hwc2Device.createLayer, Hwc2Device.destroyLayer,
      Hwc2Device.setClientTarget, Hwc2Device.validateDisplay, Hwc2Device.presentDisplay,
      Hwc2Device.acceptDisplayChanges, Hwc2Device.setLayerCompositionType,
      Hwc2Device.markLayerDirty, if_neg known]
  all_goals repeat' split
  all_goals rfl

/-- The callback is enabled as it would be alone, unless the other display sets it. -/
theorem callbackEnabled_run (kms : context.State) (screen : Screen)
    (events : List (Screen × ScreenCommand))
    (untouched : ∀ enabled, (screen.other, .setVsyncEnabled enabled) ∉ events) :
    ((sharedMachine context).run (.new kms) events).device.callbackEnabled =
      ((sharedMachine context).run (.new kms)
        (Machine.inputsOf screen events)).device.callbackEnabled := by
  have alike : ∀ left right : Shared context,
      left.device.callbackEnabled = right.device.callbackEnabled →
        ((sharedMachine context).run left events).device.callbackEnabled =
          ((sharedMachine context).run right
            (Machine.inputsOf screen events)).device.callbackEnabled := by
    induction events with
    | nil => exact fun _ _ alike => alike
    | cons event rest ih =>
        intro left right alike
        have later := ih fun enabled member => untouched enabled (List.mem_cons_of_mem _ member)
        by_cases mine : event.1 = screen
        · simp only [Machine.inputsOf, List.filter_cons, mine, decide_true, if_true,
            Machine.run_cons]
          apply later
          rw [callbackEnabled_next, callbackEnabled_next, alike]
        · simp only [Machine.inputsOf, List.filter_cons, mine, decide_false, Bool.false_eq_true,
            if_false, Machine.run_cons]
          apply later
          obtain ⟨author, command⟩ := event
          obtain rfl : author = screen.other := Screen.eq_other mine
          rw [callbackEnabled_next, ← alike]
          cases command with
          | setVsyncEnabled enabled => exact absurd List.mem_cons_self (untouched enabled)
          | _ => rfl
  exact alike _ _ rfl

/-- A display that takes part in an orderly interleaving is told what it would be told
alone, and the same buffers are posted on it; its vsync callback is enabled as it would be
alone unless the other display sets it. -/
theorem displays_separate (kms : context.State) (screen : Screen)
    (events : List (Screen × ScreenCommand))
    (orderly : ((sharedMachine context).monitored Turn.after).EachStep Orderly
      (.new kms, .start) events) :
    Machine.outputsOf screen ((sharedMachine context).trace (.new kms) events) =
        Machine.outputsOf screen ((sharedMachine context).trace (.new kms)
          (Machine.inputsOf screen events)) ∧
      postsOn screen ((sharedMachine context).run (.new kms) events).device =
        postsOn screen ((sharedMachine context).run (.new kms)
          (Machine.inputsOf screen events)).device ∧
      ((∀ enabled, (screen.other, .setVsyncEnabled enabled) ∉ events) →
        ((sharedMachine context).run (.new kms) events).device.callbackEnabled =
          ((sharedMachine context).run (.new kms)
            (Machine.inputsOf screen events)).device.callbackEnabled) := by
  have own : ∀ (left : Shared context × Turn) (right : Shared context) command,
      Mirrors screen left right → Orderly left (screen, command) →
        Mirrors screen (((sharedMachine context).monitored Turn.after).next left
          (screen, command)) ((sharedMachine context).next right (screen, command)) :=
    fun _ _ _ mirrors orderly => (mirrors.ownStep orderly).mirrors
  have others : ∀ (left : Shared context × Turn) (right : Shared context) event,
      event.1 ≠ screen → Mirrors screen left right → Orderly left event →
        Mirrors screen (((sharedMachine context).monitored Turn.after).next left event) right :=
    fun _ _ _ different mirrors orderly => mirrors.otherStep different orderly
  have agrees : ∀ (left : Shared context × Turn) (right : Shared context) command,
      Mirrors screen left right → Orderly left (screen, command) →
        ((sharedMachine context).monitored Turn.after).answer left (screen, command) =
          (sharedMachine context).answer right (screen, command) :=
    fun _ _ _ mirrors orderly => (mirrors.ownStep orderly).answer
  refine ⟨?_, ?_, callbackEnabled_run kms screen events⟩
  · have outputs := Machine.outputsOf_inputsOf _ (sharedMachine context) agrees own others
      (mirrors_new screen kms) orderly
    rwa [Machine.monitored_trace] at outputs
  · have mirrors := Machine.run_inputsOf _ (sharedMachine context) own others
      (mirrors_new screen kms) orderly
    have posts := mirrors.posts
    rwa [Machine.monitored_run] at posts

/-- A frame of one layer. -/
def frame (screen : Screen) (target : BufferHandle) : List (Screen × ScreenCommand) :=
  [(screen, .createLayer), (screen, .setLayerCompositionType 0 hwc2CompositionClient),
    (screen, .setClientTarget target halDataspaceUnknown), (screen, .validateDisplay),
    (screen, .presentDisplay)]

/-- A frame on the second display after one on the first. -/
theorem displays_separate_example :
    Machine.outputsOf .second ((sharedMachine workingContext).trace (.new ())
        (frame .first 5 ++ frame .second 6)) =
      Machine.outputsOf .second ((sharedMachine workingContext).trace (.new ())
        (frame .second 6)) ∧
    postsOn .second ((sharedMachine workingContext).run (.new ())
        (frame .first 5 ++ frame .second 6)).device =
      postsOn .second ((sharedMachine workingContext).run (.new ()) (frame .second 6)).device := by
  have orderly : ((sharedMachine workingContext).monitored Turn.after).EachStep Orderly
      (.new (), .start) (frame .first 5 ++ frame .second 6) := by
    refine ⟨?_, ?_, ?_, ?_, ?_, ?_, ?_, ?_, ?_, ?_, trivial⟩
    · exact ⟨nofun, fun _ => by decide, fun _ => rfl, nofun, nofun, nofun⟩
    · exact ⟨fun _ place => by cases place; decide, nofun, fun other => absurd rfl other, nofun,
        nofun, nofun⟩
    · exact ⟨nofun, nofun, fun other => absurd rfl other, nofun, nofun, nofun⟩
    · exact ⟨nofun, nofun, fun other => absurd rfl other, nofun, nofun, nofun⟩
    · exact ⟨nofun, nofun, fun other => absurd rfl other, fun _ => by decide,
        fun _ => by decide, nofun⟩
    · exact ⟨nofun, fun _ => by decide, fun _ => by decide, nofun, nofun, nofun⟩
    · exact ⟨fun _ place => by cases place; decide, nofun, fun other => absurd rfl other, nofun,
        nofun, nofun⟩
    · exact ⟨nofun, nofun, fun other => absurd rfl other, nofun, nofun, nofun⟩
    · exact ⟨nofun, nofun, fun other => absurd rfl other, nofun, nofun, nofun⟩
    · exact ⟨nofun, nofun, fun other => absurd rfl other, fun _ => by decide,
        fun _ => by decide, nofun⟩
  have separate := @displays_separate workingContext () .second _ orderly
  exact ⟨separate.1, separate.2.1⟩

/-- The client target of the second display is posted on the first one. -/
theorem displays_not_always_separate :
    ¬ ∀ (screen : Screen) (events : List (Screen × ScreenCommand)),
      (sharedMachine workingContext).EachStep Named (.new ()) events →
        Machine.outputsOf screen ((sharedMachine workingContext).trace (.new ()) events) =
            Machine.outputsOf screen ((sharedMachine workingContext).trace (.new ())
              (Machine.inputsOf screen events)) ∧
          postsOn screen ((sharedMachine workingContext).run (.new ()) events).device =
            postsOn screen ((sharedMachine workingContext).run (.new ())
              (Machine.inputsOf screen events)).device ∧
          ((sharedMachine workingContext).run (.new ()) events).device.callbackEnabled =
            ((sharedMachine workingContext).run (.new ())
              (Machine.inputsOf screen events)).device.callbackEnabled := by
  intro claim
  have separate := claim .first
    [(.first, .setClientTarget 5 halDataspaceUnknown),
      (.second, .setClientTarget 6 halDataspaceUnknown), (.first, .validateDisplay),
      (.first, .presentDisplay)]
    ⟨nofun, nofun, nofun, nofun, trivial⟩
  exact absurd separate.2.1 (by decide)

end Arpi.Composer
