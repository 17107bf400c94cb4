import Arpi.Semantics.Machine
import Arpi.Semantics.Wire
import Mathlib.Data.BitVec

/-!
# Fences on their way to another process

A `Fence` owns the descriptor of a sync file, or none. It is flattened to the number of its
descriptors, in four bytes, and that descriptor. Fences that are flattened one after another
are read back in order, by objects that have no descriptor yet; and a stream that is read as
fences is what these fences are flattened to.
-/

namespace Arpi.Gralloc

open Arpi.Semantics

/-- The `status_t` of `flatten` and `unflatten`. -/
inductive FenceStatus where
  | noError
  | noMemory
  | badValue
  | invalidOperation
deriving DecidableEq

/-- How a `uint32_t` lies in memory, for `FlattenableUtils`. -/
structure WordLayout where
  bytes : BitVec 32 → List (BitVec 8)
  word : List (BitVec 8) → BitVec 32
  length_bytes : ∀ value, (bytes value).length = 4
  word_bytes : ∀ value, word (bytes value) = value
  bytes_word : ∀ memory, memory.length = 4 → bytes (word memory) = memory

/-- The bytes of a word, the least significant one first. -/
def littleEndianBytes (value : BitVec 32) : List (BitVec 8) :=
  [value.extractLsb' 0 8, value.extractLsb' 8 8, value.extractLsb' 16 8, value.extractLsb' 24 8]

/-- The word of four such bytes. -/
def littleEndianWord : List (BitVec 8) → BitVec 32
  | [first, second, third, fourth] => fourth ++ third ++ second ++ first
  | _ => 0

theorem littleEndianWord_bytes (value : BitVec 32) :
    littleEndianWord (littleEndianBytes value) = value := by
  unfold littleEndianWord littleEndianBytes
  ext place
  grind

theorem littleEndianBytes_word :
    ∀ memory : List (BitVec 8), memory.length = 4 →
      littleEndianBytes (littleEndianWord memory) = memory
  | [first, second, third, fourth], _ => by
      simp only [littleEndianBytes, littleEndianWord, List.cons.injEq, and_true]
      refine ⟨?_, ?_, ?_, ?_⟩ <;> ext place <;> simp <;> grind

/-- The layout of the processors that Android runs on. -/
def WordLayout.littleEndian : WordLayout where
  bytes := littleEndianBytes
  word := littleEndianWord
  length_bytes _ := rfl
  word_bytes := littleEndianWord_bytes
  bytes_word := littleEndianBytes_word

/-- Bytes and descriptors, what `buffer` and `fds` point to. -/
@[ext] structure Flattened where
  bytes : List (BitVec 8)
  fds : List Int
deriving DecidableEq

namespace Flattened

instance : Monoid Flattened where
  one := ⟨[], []⟩
  mul front back := ⟨front.bytes ++ back.bytes, front.fds ++ back.fds⟩
  one_mul _ := rfl
  mul_one stream := Flattened.ext (List.append_nil stream.bytes) (List.append_nil stream.fds)
  mul_assoc first second third := Flattened.ext
    (List.append_assoc first.bytes second.bytes third.bytes)
    (List.append_assoc first.fds second.fds third.fds)

@[simp] theorem mul_bytes (front back : Flattened) :
    (front * back).bytes = front.bytes ++ back.bytes := rfl

@[simp] theorem mul_fds (front back : Flattened) :
    (front * back).fds = front.fds ++ back.fds := rfl

end Flattened

/-- Where `flatten` writes to: what was written so far, and the room that is left, `size` and
`count`. -/
@[ext] structure FlatSink where
  written : Flattened
  size : Nat
  count : Nat
deriving DecidableEq

/-- `Fence`, by its `mFenceFd`. -/
structure Fence where
  fenceFd : Int
deriving DecidableEq

namespace Fence

/-- `NO_FENCE`. -/
def noFence : Fence := ⟨-1⟩

/-- `isValid`. -/
def isValid (fence : Fence) : Bool := fence.fenceFd != -1

/-- `getFlattenedSize`. -/
def getFlattenedSize (_ : Fence) : Nat := 4

/-- `getFdCount`. -/
def getFdCount (fence : Fence) : Nat := if fence.isValid then 1 else 0

variable (layout : WordLayout)

/-- `flatten`. -/
def flatten (fence : Fence) (sink : FlatSink) : FenceStatus × FlatSink :=
  if sink.size < fence.getFlattenedSize ∨ sink.count < fence.getFdCount then (.noMemory, sink)
  else
    let word := layout.bytes (BitVec.ofNat 32 fence.getFdCount)
    let sink := { sink with written := sink.written * ⟨word, []⟩, size := sink.size - 4 }
    (.noError,
      if fence.isValid then
        { sink with written := sink.written * ⟨[], [fence.fenceFd]⟩, count := sink.count - 1 }
      else sink)

/-- `unflatten`, off the front of what is left. -/
def unflatten (fence : Fence) (source : Flattened) : (FenceStatus × Fence) × Flattened :=
  if fence.fenceFd ≠ -1 then ((.invalidOperation, fence), source)
  else if source.bytes.length < fence.getFlattenedSize then ((.noMemory, fence), source)
  else
    let numFds := layout.word (source.bytes.take 4)
    let source := { source with bytes := source.bytes.drop 4 }
    if 1 < numFds.toNat then ((.badValue, fence), source)
    else if source.fds.length < numFds.toNat then ((.noMemory, fence), source)
    else if numFds ≠ 0 then
      -- `count` was checked, so there is a descriptor.
      ((.noError, ⟨source.fds.headD (-1)⟩), { source with fds := source.fds.tail })
    else ((.noError, fence), source)

/-- What a fence is flattened to. -/
def flattened (fence : Fence) : Flattened :=
  ⟨layout.bytes (BitVec.ofNat 32 fence.getFdCount),
    if fence.isValid then [fence.fenceFd] else []⟩

/-- The format that `unflatten` reads with objects that have no descriptor. -/
def wire : Wire Fence Flattened where
  encode := flattened layout
  decode source :=
    match noFence.unflatten layout source with
    | ((.noError, fence), rest) => some (fence, rest)
    | _ => none

end Fence

/-- The flattening of fences one after another. -/
def flattenMachine (layout : WordLayout) : Machine FlatSink Fence FenceStatus :=
  ⟨fun sink fence => fence.flatten layout sink⟩

/-- Objects that take their fences off a stream, one after another. -/
def unflattenMachine (layout : WordLayout) : Machine Flattened Fence (FenceStatus × Fence) :=
  ⟨fun source fence => fence.unflatten layout source⟩

section Flattening

variable {layout : WordLayout} {fence : Fence} {sink : FlatSink}

@[simp] theorem Fence.noFence_isValid : Fence.noFence.isValid = false := rfl

theorem Fence.isValid_iff : fence.isValid = true ↔ fence.fenceFd ≠ -1 := bne_iff_ne

theorem Fence.eq_noFence_of_invalid (invalid : fence.isValid = false) : fence = .noFence := by
  obtain ⟨fenceFd⟩ := fence
  exact congrArg Fence.mk (bne_eq_false_iff_eq.mp invalid)

@[simp] theorem Fence.length_flattened_bytes :
    (fence.flattened layout).bytes.length = 4 := layout.length_bytes _

/-- The room that a fence needs. -/
def FlatSink.Fits (sink : FlatSink) (fence : Fence) : Prop :=
  4 ≤ sink.size ∧ fence.getFdCount ≤ sink.count

/-- The sink after a fence that fits. -/
def FlatSink.add (layout : WordLayout) (sink : FlatSink) (fence : Fence) : FlatSink :=
  ⟨sink.written * fence.flattened layout, sink.size - 4, sink.count - fence.getFdCount⟩

theorem Fence.flatten_of_fits (fits : sink.Fits fence) :
    fence.flatten layout sink = (.noError, sink.add layout fence) := by
  have room : ¬ (sink.size < fence.getFlattenedSize ∨ sink.count < fence.getFdCount) :=
    not_or.mpr ⟨Nat.not_lt.mpr fits.1, Nat.not_lt.mpr fits.2⟩
  unfold Fence.flatten
  rw [if_neg room]
  refine Prod.ext rfl (FlatSink.ext (Flattened.ext ?_ ?_) ?_ ?_) <;>
    cases valid : fence.isValid <;> simp [FlatSink.add, Fence.flattened, Fence.getFdCount, valid]

theorem Fence.flatten_of_not_fits (full : ¬ sink.Fits fence) :
    fence.flatten layout sink = (.noMemory, sink) := by
  have short : sink.size < fence.getFlattenedSize ∨ sink.count < fence.getFdCount := by
    by_contra room
    obtain ⟨size, count⟩ := not_or.mp room
    exact full ⟨Nat.not_lt.mp size, Nat.not_lt.mp count⟩
  unfold Fence.flatten
  rw [if_pos short]

end Flattening

/-- What a call of `unflatten` can come to. Only the last two take anything but the four bytes. -/
inductive Fence.Unflattens (layout : WordLayout) (source : Flattened) :
    Fence → FenceStatus × Fence → Flattened → Prop where
  | taken {fence : Fence} (valid : fence.isValid = true) :
      Unflattens layout source fence (.invalidOperation, fence) source
  | short (bytes : source.bytes.length < 4) :
      Unflattens layout source .noFence (.noMemory, .noFence) source
  | refused {status : FenceStatus} (failed : status ≠ .noError) (bytes : 4 ≤ source.bytes.length) :
      Unflattens layout source .noFence (status, .noFence) ⟨source.bytes.drop 4, source.fds⟩
  | empty {rest : Flattened} (front : source = Fence.noFence.flattened layout * rest) :
      Unflattens layout source .noFence (.noError, .noFence) rest
  | filled {fd : Int} {rest : Flattened} (front : source = ⟨layout.bytes 1, [fd]⟩ * rest) :
      Unflattens layout source .noFence (.noError, ⟨fd⟩) rest

section Unflattening

variable {layout : WordLayout}

theorem WordLayout.front {memory : List (BitVec 8)} (enough : 4 ≤ memory.length) :
    memory = layout.bytes (layout.word (memory.take 4)) ++ memory.drop 4 := by
  rw [layout.bytes_word _ (List.length_take_of_le enough), List.take_append_drop]

theorem Fence.unflattens (fence : Fence) (source : Flattened) :
    Unflattens layout source fence (fence.unflatten layout source).1
      (fence.unflatten layout source).2 := by
  unfold Fence.unflatten
  split
  next valid => exact .taken (isValid_iff.mpr valid)
  next invalid =>
    obtain rfl : fence = noFence := congrArg Fence.mk (not_not.mp invalid)
    split
    next short => exact .short short
    next enough =>
      have bytes : 4 ≤ source.bytes.length := Nat.not_lt.mp enough
      dsimp only
      split
      next => exact .refused (by decide) bytes
      next few =>
        split
        next => exact .refused (by decide) bytes
        next present =>
          have front := layout.front bytes
          split
          next one =>
            have counted : layout.word (source.bytes.take 4) = 1 := by
              apply BitVec.eq_of_toNat_eq
              have nonzero : (layout.word (source.bytes.take 4)).toNat ≠ 0 :=
                fun zero => one (BitVec.eq_of_toNat_eq zero)
              change _ = 1
              omega
            rw [counted] at front present
            obtain ⟨memory, fds⟩ := source
            cases fds with
            | nil => exact absurd (show (0 : Nat) < 1 by decide) present
            | cons fd fds => exact .filled (Flattened.ext front rfl)
          next zero =>
            rw [not_not.mp zero] at front
            exact .empty (Flattened.ext front rfl)

/-- `unflatten` takes a fence off the front of what it was flattened to. -/
theorem Fence.unflatten_flattened (fence : Fence) (rest : Flattened) :
    noFence.unflatten layout (fence.flattened layout * rest) = ((.noError, fence), rest) := by
  have memory : (fence.flattened layout * rest).bytes.take 4 =
      (fence.flattened layout).bytes := by
    rw [Flattened.mul_bytes]
    exact List.take_left' length_flattened_bytes
  have drop : (fence.flattened layout * rest).bytes.drop 4 = rest.bytes := by
    rw [Flattened.mul_bytes]
    exact List.drop_left' length_flattened_bytes
  have enough : ¬ (fence.flattened layout * rest).bytes.length < noFence.getFlattenedSize := by
    rw [Flattened.mul_bytes, List.length_append, length_flattened_bytes, getFlattenedSize]
    omega
  unfold unflatten
  rw [if_neg (by decide), if_neg enough, memory, drop]
  cases valid : fence.isValid with
  | true => simp [flattened, getFdCount, valid, layout.word_bytes]
  | false =>
      rw [eq_noFence_of_invalid valid]
      simp [flattened, getFdCount, layout.word_bytes]

theorem Fence.decode_eq_some_iff {source rest : Flattened} {fence : Fence} :
    (Fence.wire layout).decode source = some (fence, rest) ↔
      noFence.unflatten layout source = ((.noError, fence), rest) := by
  change (match noFence.unflatten layout source with
    | ((.noError, fence), rest) => some (fence, rest)
    | _ => none) = _ ↔ _
  rcases noFence.unflatten layout source with ⟨⟨status, after⟩, remaining⟩
  cases status <;> simp

/-- Reading undoes writing, in front of anything. -/
theorem Fence.wire_prefixed : (Fence.wire layout).Prefixed := by
  intro fence rest
  exact decode_eq_some_iff.mpr (fence.unflatten_flattened rest)

/-- No descriptor of the stream is -1. -/
def Flattened.Open (stream : Flattened) : Prop := -1 ∉ stream.fds

theorem Flattened.Open.rest {front rest : Flattened} (opens : (front * rest).Open) : rest.Open :=
  fun member => opens (List.mem_append_right front.fds member)

/-- A descriptor that is taken is one of a fence that is flattened so. -/
theorem Fence.flattened_of_open {fd : Int} {rest : Flattened}
    (opens : (⟨layout.bytes 1, [fd]⟩ * rest : Flattened).Open) :
    (⟨layout.bytes 1, [fd]⟩ : Flattened) = (Fence.mk fd).flattened layout := by
  have valid : (Fence.mk fd).isValid = true := by
    refine isValid_iff.mpr fun none => opens (List.mem_append_left _ ?_)
    exact List.mem_singleton.mpr none.symm
  simp [flattened, getFdCount, valid]

/-- What is read with success is what the fence is flattened to. -/
theorem Fence.Unflattens.exact {source rest : Flattened} {fence after : Fence}
    (unflattens : Unflattens layout source fence (.noError, after) rest) (opens : source.Open) :
    source = after.flattened layout * rest := by
  cases unflattens with
  | refused failed => exact absurd rfl failed
  | empty front => exact front
  | filled front =>
      rw [front] at opens
      rw [front, flattened_of_open opens]

theorem Fence.wire_canonical : (Fence.wire layout).Canonical Flattened.Open := by
  have exact : ∀ {stream : Flattened} {fence rest}, stream.Open →
      (wire layout).decode stream = some (fence, rest) →
      stream = fence.flattened layout * rest := by
    intro stream fence rest opens decoded
    have unflattens : Unflattens layout stream noFence _ _ := noFence.unflattens stream
    rw [decode_eq_some_iff.mp decoded] at unflattens
    exact unflattens.exact opens
  refine ⟨exact, fun opens decoded => ?_⟩
  rw [exact opens decoded] at opens
  exact opens.rest

end Unflattening

section Runs

variable {layout : WordLayout}

/-- No call of a run failed. -/
def NoErrors {Input Output : Type} (status : Output → FenceStatus)
    (trace : List (Input × Output)) : Prop :=
  ∀ entry ∈ trace, status entry.2 = .noError

@[simp] theorem noErrors_cons {Input Output : Type} {status : Output → FenceStatus}
    {entry : Input × Output} {trace : List (Input × Output)} :
    NoErrors status (entry :: trace) ↔ status entry.2 = .noError ∧ NoErrors status trace :=
  List.forall_mem_cons

/-- The descriptors of several fences. -/
def fdCount (fences : List Fence) : Nat := (fences.map Fence.getFdCount).sum

@[simp] theorem fdCount_cons (fence : Fence) (fences : List Fence) :
    fdCount (fence :: fences) = fence.getFdCount + fdCount fences :=
  List.sum_cons

/-- The sink after fences that fit. -/
def FlatSink.addAll (layout : WordLayout) (sink : FlatSink) (fences : List Fence) : FlatSink :=
  ⟨sink.written * (Fence.wire layout).encodeMany fences, sink.size - 4 * fences.length,
    sink.count - fdCount fences⟩

theorem FlatSink.addAll_cons (sink : FlatSink) (fence : Fence) (fences : List Fence) :
    sink.addAll layout (fence :: fences) = (sink.add layout fence).addAll layout fences := by
  apply FlatSink.ext
  · change _ * Wire.encodeMany _ _ = _ * _ * _
    rw [Wire.encodeMany_cons, mul_assoc]
    rfl
  · change _ - 4 * (fences.length + 1) = _ - 4 - _
    omega
  · change _ - fdCount _ = _ - _ - _
    rw [fdCount_cons]
    omega

variable (layout) in
/-- Fences are flattened with success if there is room for all of them. -/
theorem flatten_noErrors_iff (fences : List Fence) (sink : FlatSink) :
    NoErrors id ((flattenMachine layout).trace sink fences) ↔
      4 * fences.length ≤ sink.size ∧ fdCount fences ≤ sink.count := by
  induction fences generalizing sink with
  | nil => simp [NoErrors, fdCount]
  | cons fence rest ih =>
      rw [Machine.trace_cons, noErrors_cons, List.length_cons, fdCount_cons]
      by_cases fits : sink.Fits fence
      · have answered : (flattenMachine layout).step sink fence =
            (.noError, sink.add layout fence) := Fence.flatten_of_fits fits
        rw [Machine.answer, Machine.next, answered, ih]
        obtain ⟨size, count⟩ := fits
        simp only [FlatSink.add, id, true_and]
        omega
      · have answered : (flattenMachine layout).step sink fence = (.noMemory, sink) :=
          Fence.flatten_of_not_fits fits
        rw [Machine.answer, answered]
        refine iff_of_false (fun right => by cases right.1) fun room => fits ⟨?_, ?_⟩
        · omega
        · omega

theorem flatten_run {fences : List Fence} {sink : FlatSink}
    (fits : NoErrors id ((flattenMachine layout).trace sink fences)) :
    (flattenMachine layout).run sink fences = sink.addAll layout fences := by
  induction fences generalizing sink with
  | nil => exact FlatSink.ext (mul_one _).symm rfl rfl
  | cons fence rest ih =>
      rw [Machine.trace_cons, noErrors_cons] at fits
      have fit : sink.Fits fence := by
        by_contra full
        have refused : (flattenMachine layout).answer sink fence = .noMemory :=
          congrArg Prod.fst (Fence.flatten_of_not_fits full)
        rw [refused] at fits
        cases fits.1
      have next : (flattenMachine layout).next sink fence = sink.add layout fence :=
        congrArg Prod.snd (Fence.flatten_of_fits fit)
      rw [next] at fits
      rw [Machine.run_cons, next, ih fits.2, FlatSink.addAll_cons]

/-- Objects without a descriptor read as the wire format does. -/
theorem unflatten_decodeMany (fences : List Fence) (source rest : Flattened) :
    ((unflattenMachine layout).trace source (List.replicate fences.length .noFence) =
          fences.map (fun fence => (.noFence, .noError, fence)) ∧
        (unflattenMachine layout).run source (List.replicate fences.length .noFence) = rest) ↔
      (Fence.wire layout).decodeMany fences.length source = some (fences, rest) := by
  induction fences generalizing source with
  | nil =>
      rw [List.length_nil, Wire.decodeMany, Option.some_inj, Prod.mk.injEq]
      exact ⟨fun right => ⟨rfl, right.2⟩, fun right => ⟨rfl, right.2⟩⟩
  | cons fence fences ih =>
      rw [List.length_cons, List.replicate_succ, Machine.trace_cons, Machine.run_cons, List.map_cons,
        List.cons.injEq, Prod.mk.injEq, and_assoc, ih, Wire.decodeMany]
      constructor
      · rintro ⟨⟨-, answer⟩, later⟩
        have first : (Fence.wire layout).decode source =
            some (fence, (unflattenMachine layout).next source .noFence) :=
          Fence.decode_eq_some_iff.mpr (Prod.ext answer rfl)
        rw [first, Option.bind_some, later, Option.map_some]
      · intro decoded
        obtain ⟨⟨head, between⟩, first, mapped⟩ := Option.bind_eq_some_iff.mp decoded
        obtain ⟨⟨others, last⟩, later, split⟩ := Option.map_eq_some_iff.mp mapped
        obtain ⟨values, rfl⟩ := Prod.mk.inj split
        obtain ⟨rfl, rfl⟩ := List.cons.inj values
        have step := Fence.decode_eq_some_iff.mp first
        have answer : (unflattenMachine layout).answer source .noFence = (.noError, head) :=
          congrArg Prod.fst step
        have next : (unflattenMachine layout).next source .noFence = between :=
          congrArg Prod.snd step
        exact ⟨⟨rfl, answer⟩, next ▸ later⟩

/-- Fences are flattened with success exactly if four bytes for each of them and a place for each
descriptor are left. What is written then is read back, in front of anything, as these fences in
order, and no further. -/
theorem fences_round_trip (layout : WordLayout) (fences : List Fence) (sink : FlatSink) :
    (NoErrors id ((flattenMachine layout).trace sink fences) ↔
        4 * fences.length ≤ sink.size ∧ fdCount fences ≤ sink.count) ∧
      (NoErrors id ((flattenMachine layout).trace sink fences) → ∃ stream : Flattened,
        (flattenMachine layout).run sink fences = ⟨sink.written * stream,
          sink.size - 4 * fences.length, sink.count - fdCount fences⟩ ∧
        ∀ rest : Flattened,
          (unflattenMachine layout).trace (stream * rest)
              (List.replicate fences.length .noFence) =
            fences.map (fun fence => (.noFence, .noError, fence)) ∧
          (unflattenMachine layout).run (stream * rest)
            (List.replicate fences.length .noFence) = rest) := by
  refine ⟨flatten_noErrors_iff layout fences sink, fun fits => ?_⟩
  refine ⟨(Fence.wire layout).encodeMany fences, flatten_run fits, fun rest => ?_⟩
  rw [unflatten_decodeMany]
  exact Fence.wire_prefixed.decodeMany fences rest

/-- The descriptors that objects gained in a run. -/
def gained (trace : List (Fence × FenceStatus × Fence)) : List Int :=
  trace.filterMap fun (before, _, after) => if after = before then none else some after.fenceFd

/-- What reading comes to, of whatever stream: no descriptor is lost, duplicated or put out of
order, a call that fails leaves its object alone and takes at most four bytes, and a stream that
is read without a failure is the one that these fences are flattened to. -/
structure ReadExactly (layout : WordLayout) (fences : List Fence) (source : Flattened) : Prop where
  descriptors : source.fds = gained ((unflattenMachine layout).trace source fences) ++
    ((unflattenMachine layout).run source fences).fds
  bytes : ∃ words ≤ fences.length,
    ((unflattenMachine layout).run source fences).bytes = source.bytes.drop (4 * words)
  failures : ∀ entry ∈ (unflattenMachine layout).trace source fences,
    entry.2.1 ≠ .noError ∨ entry.1.isValid = true → entry.2.2 = entry.1
  canonical : NoErrors Prod.fst ((unflattenMachine layout).trace source fences) →
    ∃ stream : Flattened,
      source = stream * (unflattenMachine layout).run source fences ∧
        ∀ sink : FlatSink, 4 * fences.length ≤ sink.size → fences.length ≤ sink.count →
          ((flattenMachine layout).run sink (((unflattenMachine layout).trace source
            fences).map fun entry => entry.2.2)).written = sink.written * stream

/-- What one call takes. -/
theorem Fence.Unflattens.takes {source rest : Flattened} {fence after : Fence}
    {status : FenceStatus} (unflattens : Unflattens layout source fence (status, after) rest)
    (opens : source.Open) :
    rest.Open ∧ source.fds = gained [(fence, status, after)] ++ rest.fds ∧
      (rest.bytes = source.bytes ∨ rest.bytes = source.bytes.drop 4) ∧
      (status ≠ .noError ∨ fence.isValid = true → after = fence) := by
  cases unflattens with
  | taken => exact ⟨opens, by simp [gained], .inl rfl, fun _ => rfl⟩
  | short => exact ⟨opens, by simp [gained], .inl rfl, fun _ => rfl⟩
  | refused => exact ⟨opens, by simp [gained], .inr rfl, fun _ => rfl⟩
  | empty front =>
      subst front
      refine ⟨opens.rest, by simp [gained, flattened], .inr ?_, fun _ => rfl⟩
      rw [Flattened.mul_bytes, List.drop_left' length_flattened_bytes]
  | filled front =>
      subst front
      rename_i fd
      have some : Fence.mk fd ≠ noFence := by
        intro none
        refine opens (List.mem_append_left _ (List.mem_singleton.mpr ?_))
        exact (congrArg Fence.fenceFd none).symm
      refine ⟨opens.rest, by simp [gained, some], .inr ?_, fun failed => ?_⟩
      · rw [Flattened.mul_bytes, List.drop_left' (layout.length_bytes 1)]
      · rcases failed with failed | valid
        · exact absurd rfl failed
        · cases valid

theorem gained_cons (entry : Fence × FenceStatus × Fence)
    (trace : List (Fence × FenceStatus × Fence)) :
    gained (entry :: trace) = gained [entry] ++ gained trace :=
  List.filterMap_append (l := [entry])

variable (layout) in
/-- What a run takes. -/
theorem unflatten_takes (fences : List Fence) {source : Flattened} (opens : source.Open) :
    source.fds = gained ((unflattenMachine layout).trace source fences) ++
        ((unflattenMachine layout).run source fences).fds ∧
      (∃ words ≤ fences.length,
        ((unflattenMachine layout).run source fences).bytes = source.bytes.drop (4 * words)) ∧
      ∀ entry ∈ (unflattenMachine layout).trace source fences,
        entry.2.1 ≠ .noError ∨ entry.1.isValid = true → entry.2.2 = entry.1 := by
  induction fences generalizing source with
  | nil => exact ⟨rfl, ⟨0, Nat.zero_le _, rfl⟩, fun entry member => absurd member List.not_mem_nil⟩
  | cons fence rest ih =>
      have unflattens : Fence.Unflattens layout source fence _ _ := fence.unflattens source
      obtain ⟨opens', fds, bytes, failed⟩ := unflattens.takes opens
      obtain ⟨later, ⟨words, bound, remaining⟩, failures⟩ := ih opens'
      rw [Machine.trace_cons, Machine.run_cons, gained_cons, List.append_assoc]
      refine ⟨fds.trans (congrArg _ later), ?_, List.forall_mem_cons.mpr ⟨failed, failures⟩⟩
      rcases bytes with same | dropped
      · exact ⟨words, Nat.le_succ_of_le bound, remaining.trans (by rw [same])⟩
      · refine ⟨words + 1, Nat.succ_le_succ bound, remaining.trans ?_⟩
        rw [dropped, List.drop_drop, Nat.mul_succ, Nat.add_comm]

/-- A call that does not fail is made on an object without a descriptor. -/
theorem Fence.Unflattens.fresh {source rest : Flattened} {fence after : Fence}
    {status : FenceStatus} (unflattens : Unflattens layout source fence (status, after) rest)
    (succeeded : status = .noError) : fence = noFence := by
  cases unflattens with
  | taken valid => cases succeeded
  | short | refused | empty | filled => rfl

/-- A run without failures is made on such objects. -/
theorem fresh_of_noErrors {fences : List Fence} {source : Flattened}
    (read : NoErrors Prod.fst ((unflattenMachine layout).trace source fences)) :
    ∀ fence ∈ fences, fence = .noFence := by
  induction fences generalizing source with
  | nil => exact fun fence member => absurd member List.not_mem_nil
  | cons fence rest ih =>
      rw [Machine.trace_cons, noErrors_cons] at read
      have unflattens : Fence.Unflattens layout source fence _ _ := fence.unflattens source
      exact List.forall_mem_cons.mpr ⟨unflattens.fresh read.1, ih read.2⟩

/-- The trace of a run without failures, by the fences that were read. -/
theorem trace_eq_of_noErrors {fences : List Fence} {source : Flattened}
    (read : NoErrors Prod.fst ((unflattenMachine layout).trace source fences)) :
    (unflattenMachine layout).trace source fences =
      (((unflattenMachine layout).trace source fences).map fun entry => entry.2.2).map
        fun fence => (.noFence, .noError, fence) := by
  induction fences generalizing source with
  | nil => rfl
  | cons fence rest ih =>
      obtain rfl : fence = .noFence := fresh_of_noErrors read fence List.mem_cons_self
      rw [Machine.trace_cons, noErrors_cons] at read
      rw [Machine.trace_cons, List.map_cons, List.map_cons, ← ih read.2]
      exact congrArg₂ List.cons (Prod.ext rfl (Prod.ext read.1 rfl)) rfl

variable (layout) in
theorem length_trace (fences : List Fence) (source : Flattened) :
    ((unflattenMachine layout).trace source fences).length = fences.length := by
  induction fences generalizing source with
  | nil => rfl
  | cons fence rest ih => exact congrArg Nat.succ (ih _)

theorem fdCount_le_length (fences : List Fence) : fdCount fences ≤ fences.length := by
  induction fences with
  | nil => exact Nat.zero_le _
  | cons fence rest ih =>
      have one : fence.getFdCount ≤ 1 := by
        unfold Fence.getFdCount
        split <;> omega
      rw [fdCount_cons, List.length_cons]
      omega

/-- A stream that is read without failures is what the fences that were read are flattened to. -/
theorem unflatten_canonical {fences : List Fence} {source : Flattened} (opens : source.Open)
    (read : NoErrors Prod.fst ((unflattenMachine layout).trace source fences)) :
    source = (Fence.wire layout).encodeMany
        (((unflattenMachine layout).trace source fences).map fun entry => entry.2.2) *
      (unflattenMachine layout).run source fences := by
  have answers := trace_eq_of_noErrors read
  have length := length_trace layout fences source
  generalize received : ((unflattenMachine layout).trace source fences).map
    (fun entry => entry.2.2) = fences' at answers ⊢
  have count : fences'.length = fences.length := by
    rw [← received, List.length_map, length]
  obtain rfl : fences = List.replicate fences'.length .noFence :=
    count ▸ List.eq_replicate_of_mem (fresh_of_noErrors read)
  exact (Fence.wire_canonical.decodeMany opens
    ((unflatten_decodeMany fences' source _).mp ⟨answers, rfl⟩)).2

/-- Reading any stream of descriptors that are not -1 is exact. -/
theorem fences_read_exactly (layout : WordLayout) (fences : List Fence) {source : Flattened}
    (opens : source.Open) : ReadExactly layout fences source := by
  obtain ⟨descriptors, bytes, failures⟩ := unflatten_takes layout fences opens
  refine ⟨descriptors, bytes, failures, fun read => ?_⟩
  refine ⟨_, unflatten_canonical opens read, fun sink size count => ?_⟩
  have length : (((unflattenMachine layout).trace source fences).map
      fun entry => entry.2.2).length = fences.length := by
    rw [List.length_map, length_trace]
  have few := fdCount_le_length (((unflattenMachine layout).trace source fences).map
    fun entry => entry.2.2)
  have fits := (flatten_noErrors_iff layout (((unflattenMachine layout).trace source
    fences).map fun entry => entry.2.2) sink).mpr (by omega)
  rw [flatten_run fits]
  rfl

/-- Two objects read a fence, no fence, and leave a byte. -/
theorem fences_read_exactly_example :
    ReadExactly .littleEndian [.noFence, .noFence] ⟨[1, 0, 0, 0, 0, 0, 0, 0, 7], [5]⟩ :=
  fences_read_exactly .littleEndian [.noFence, .noFence] (show (-1 : Int) ∉ [5] by decide)

end Runs

end Arpi.Gralloc
