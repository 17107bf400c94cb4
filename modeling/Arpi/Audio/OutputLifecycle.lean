import Arpi.Semantics.History
import Arpi.Audio.TransferDivisors

/-!
# The life of a PCM

A write opens the PCM of a stream when it finds the stream in standby, and a standby closes it.
What a stream does to its PCM and to the mutexes is read off its calls on the system: each of
them needs a reason in the calls before it.
-/

namespace Arpi.Audio

open Arpi.Semantics

namespace AudioEvent

/-- What makes a call on the system a proper one. A mutex is locked while it is free and
unlocked while it is locked, a PCM that is opened is a new one, only an open PCM is closed or
written, and a thread that sleeps holds no mutex. -/
def Proper (before : List AudioEvent) : AudioEvent → Prop
  | .lock mutex => before.count (.lock mutex) = before.count (.unlock mutex)
  | .unlock mutex => before.count (.lock mutex) = before.count (.unlock mutex) + 1
  | .pcmOpen pcm _ => ∀ ready, .pcmOpen pcm ready ∉ before
  | .pcmClose pcm => ∃ opened ready, pcm = some opened ∧ .pcmOpen opened ready ∈ before ∧
      .pcmClose pcm ∉ before
  | .pcmWrite pcm _ _ => ∃ opened, pcm = some opened ∧ .pcmOpen opened true ∈ before ∧
      .pcmClose pcm ∉ before
  | .usleep _ => ∀ mutex, before.count (.lock mutex) = before.count (.unlock mutex)

/-- A PCM is opened. -/
def opens : AudioEvent → Bool
  | .pcmOpen _ _ => true
  | _ => false

/-- A PCM is closed. -/
def closes : AudioEvent → Bool
  | .pcmClose _ => true
  | _ => false

/-- The frames that are written, if they are. -/
def framesWritten (frameSize : SizeT) : AudioEvent → Nat
  | .pcmWrite _ count result => if result = 0 then count.toNat / frameSize.toNat else 0
  | _ => 0

/-- A call that opens nothing leaves open what was opened before. -/
theorem pcmOpen_mem_append {before : List AudioEvent} {event : AudioEvent}
    (noOpen : event.opens = false) {pcm : PcmId} {ready : Bool} :
    .pcmOpen pcm ready ∈ before ++ [event] ↔ .pcmOpen pcm ready ∈ before := by
  have different : pcmOpen pcm ready ≠ event := by
    rintro rfl
    cases noOpen
  rw [List.mem_append, List.mem_singleton, or_iff_left different]

theorem pcmClose_mem_append {before : List AudioEvent} {event : AudioEvent}
    (noClose : event.closes = false) {pcm : Option PcmId} :
    .pcmClose pcm ∈ before ++ [event] ↔ .pcmClose pcm ∈ before := by
  have different : pcmClose pcm ≠ event := by
    rintro rfl
    cases noClose
  rw [List.mem_append, List.mem_singleton, or_iff_left different]

end AudioEvent

namespace OutputState

/-- The frames of all writes so far that succeeded. -/
def framesWritten (frameSize : SizeT) (state : OutputState) : Nat :=
  (state.events.map (·.framesWritten frameSize)).sum

/-- A PCM is open and ready. -/
def IsReady (pcm : PcmId) (state : OutputState) : Prop :=
  .pcmOpen pcm true ∈ state.events ∧ .pcmClose (some pcm) ∉ state.events

/-- What holds between any two calls on a stream. -/
structure InOrder (header : AudioHeader) (state : OutputState) : Prop where
  started : state.out.standby = false ↔ ∃ pcm, state.out.pcm = some pcm ∧ state.IsReady pcm
  handles : state.events.countP AudioEvent.opens =
    state.events.countP AudioEvent.closes + if state.out.standby then 0 else 1
  proper : Justified AudioEvent.Proper state.events
  written : state.out.written =
    .ofNat 64 (state.framesWritten (audioStreamOutFrameSize header state.out))
  released : ∀ mutex, state.events.count (.lock mutex) = state.events.count (.unlock mutex)

/-- What is known inside of a call: the mutexes that are held, and the PCM that is open with
whether it is ready. -/
structure Ledger (held : List Mutex) (current : Option (PcmId × Bool)) (state : OutputState) :
    Prop where
  proper : Justified AudioEvent.Proper state.events
  locks : ∀ mutex, state.events.count (.lock mutex) =
    state.events.count (.unlock mutex) + held.count mutex
  handles : state.events.countP AudioEvent.opens =
    state.events.countP AudioEvent.closes + if current.isSome then 1 else 0
  pcm : state.out.pcm = current.map Prod.fst
  isOpen : ∀ pcm ready, current = some (pcm, ready) →
    .pcmOpen pcm ready ∈ state.events ∧ .pcmClose (some pcm) ∉ state.events
  openedBefore : ∀ pcm ready, .pcmOpen pcm ready ∈ state.events → pcm < state.nextPcm
  closedBefore : ∀ pcm, .pcmClose (some pcm) ∈ state.events → pcm < state.nextPcm

namespace Ledger

variable {held : List Mutex} {current : Option (PcmId × Bool)} {state : OutputState}

theorem opened : Ledger [] none (.opened defaultOutput) where
  proper := .nil
  locks mutex := rfl
  handles := rfl
  pcm := rfl
  isOpen pcm ready none := by cases none
  openedBefore pcm ready member := by cases member
  closedBefore pcm member := by cases member

/-- Nothing is known of the flag and of the counter. -/
theorem congr (ledger : Ledger held current state) {other : OutputState}
    (events : other.events = state.events) (pcm : other.out.pcm = state.out.pcm)
    (nextPcm : other.nextPcm = state.nextPcm) : Ledger held current other where
  proper := events ▸ ledger.proper
  locks := events ▸ ledger.locks
  handles := events ▸ ledger.handles
  pcm := pcm ▸ ledger.pcm
  isOpen := events ▸ ledger.isOpen
  openedBefore := events ▸ nextPcm ▸ ledger.openedBefore
  closedBefore := events ▸ nextPcm ▸ ledger.closedBefore

theorem setStandby (ledger : Ledger held current state) (standby : Bool) :
    Ledger held current (state.setStandby standby) := ledger.congr rfl rfl rfl

theorem addWritten (ledger : Ledger held current state) (frames : SizeT) :
    Ledger held current (state.addWritten frames) := ledger.congr rfl rfl rfl

/-- No PCM is forgotten by a `pcm_open` that returns none. -/
theorem setPcm_none (ledger : Ledger held none state) : Ledger held none (state.setPcm none) :=
  ledger.congr rfl ledger.pcm.symm rfl

/-- A call that neither opens nor closes a PCM. -/
theorem emit (ledger : Ledger held current state) {event : AudioEvent}
    (proper : event.Proper state.events) {heldThen : List Mutex}
    (locks : ∀ mutex, (state.events ++ [event]).count (.lock mutex) =
      (state.events ++ [event]).count (.unlock mutex) + heldThen.count mutex)
    (noOpen : event.opens = false) (noClose : event.closes = false) :
    Ledger heldThen current (state.emit event) where
  proper := ledger.proper.append proper
  locks := locks
  handles := by
    have handles := ledger.handles
    simpa only [OutputState.emit, List.countP_append, List.countP_singleton, noOpen, noClose,
      Bool.false_eq_true, if_false, Nat.add_zero] using handles
  pcm := ledger.pcm
  isOpen pcm ready here := by
    rw [OutputState.emit, AudioEvent.pcmOpen_mem_append noOpen,
      AudioEvent.pcmClose_mem_append noClose]
    exact ledger.isOpen pcm ready here
  openedBefore pcm ready member :=
    ledger.openedBefore pcm ready ((AudioEvent.pcmOpen_mem_append noOpen).mp member)
  closedBefore pcm member :=
    ledger.closedBefore pcm ((AudioEvent.pcmClose_mem_append noClose).mp member)

theorem lock (ledger : Ledger held current state) {mutex : Mutex} (free : mutex ∉ held) :
    Ledger (mutex :: held) current (state.emit (.lock mutex)) := by
  have proper : AudioEvent.Proper state.events (.lock mutex) := by
    change state.events.count (.lock mutex) = state.events.count (.unlock mutex)
    rw [ledger.locks, List.count_eq_zero_of_not_mem free, Nat.add_zero]
  apply ledger.emit proper _ rfl rfl
  intro other
  have before := ledger.locks other
  simp only [List.count_append, List.count_cons, List.count_nil, before, beq_iff_eq,
    AudioEvent.lock.injEq, reduceCtorEq, if_false]
  omega

theorem unlock (ledger : Ledger held current state) (mutex : Mutex)
    (once : held.count mutex = 1) :
    Ledger (held.erase mutex) current (state.emit (.unlock mutex)) := by
  have proper : AudioEvent.Proper state.events (.unlock mutex) := by
    change state.events.count (.lock mutex) = state.events.count (.unlock mutex) + 1
    rw [ledger.locks, once]
  apply ledger.emit proper _ rfl rfl
  intro other
  have before := ledger.locks other
  simp only [List.count_append, List.count_cons, List.count_nil, List.count_erase, before,
    beq_iff_eq, AudioEvent.unlock.injEq, reduceCtorEq, if_false]
  by_cases same : mutex = other
  · subst same
    simp only [if_true, once]
  · simp only [if_neg same, Nat.add_zero, Nat.sub_zero]

/-- A call takes the device first. -/
theorem lockBoth (ledger : Ledger [] current state) :
    Ledger [.stream, .device] current ((state.emit (.lock .device)).emit (.lock .stream)) := by
  have device : Ledger [.device] current (state.emit (.lock .device)) :=
    ledger.lock List.not_mem_nil
  exact device.lock (by decide)

theorem unlockDevice (ledger : Ledger [.stream, .device] current state) :
    Ledger [.stream] current (state.emit (.unlock .device)) := ledger.unlock .device rfl

theorem unlockStream (ledger : Ledger [.stream] current state) :
    Ledger [] current (state.emit (.unlock .stream)) := ledger.unlock .stream rfl

theorem unlockBoth (ledger : Ledger [.stream, .device] current state) :
    Ledger [] current ((state.emit (.unlock .stream)).emit (.unlock .device)) := by
  have device : Ledger [.device] current (state.emit (.unlock .stream)) :=
    ledger.unlock .stream rfl
  exact device.unlock .device rfl

theorem usleep (ledger : Ledger [] current state) (useconds : BitVec 32) :
    Ledger [] current (state.emit (.usleep useconds)) := by
  have proper : AudioEvent.Proper state.events (.usleep useconds) := ledger.locks
  apply ledger.emit proper _ rfl rfl
  intro mutex
  simpa [List.count_append] using ledger.locks mutex

/-- The PCM of the stream is written. -/
theorem pcmWrite {pcm : PcmId} (ledger : Ledger held (some (pcm, true)) state) (count : SizeT)
    (result : Int) :
    Ledger held (some (pcm, true)) (state.emit (.pcmWrite state.out.pcm count result)) := by
  obtain ⟨opened, notClosed⟩ := ledger.isOpen pcm true rfl
  have current : state.out.pcm = some pcm := ledger.pcm
  have proper : AudioEvent.Proper state.events (.pcmWrite state.out.pcm count result) :=
    ⟨pcm, current, opened, current ▸ notClosed⟩
  apply ledger.emit proper _ rfl rfl
  intro mutex
  simpa [List.count_append] using ledger.locks mutex

/-- A PCM that is opened is none that was opened before, and none that was closed. -/
theorem pcmOpen (ledger : Ledger held none state) (ready : Bool) :
    Ledger held (some (state.nextPcm, ready)) (state.pcmOpen ready) where
  proper := by
    have proper : AudioEvent.Proper state.events (.pcmOpen state.nextPcm ready) := by
      intro given member
      exact absurd (ledger.openedBefore _ given member) (Nat.lt_irrefl _)
    exact ledger.proper.append proper
  locks mutex := by
    simpa [OutputState.pcmOpen, OutputState.emit, OutputState.setPcm, List.count_append] using
      ledger.locks mutex
  handles := by
    have handles := ledger.handles
    simp only [OutputState.pcmOpen, OutputState.emit, OutputState.setPcm, List.countP_append,
      List.countP_singleton, AudioEvent.opens, AudioEvent.closes, Option.isSome_none,
      Option.isSome_some, Bool.false_eq_true, if_false, if_true, Nat.add_zero] at handles ⊢
    omega
  pcm := rfl
  isOpen pcm given here := by
    cases here
    refine ⟨List.mem_append_right _ (List.mem_singleton_self _), fun closed => ?_⟩
    exact absurd (ledger.closedBefore _ ((AudioEvent.pcmClose_mem_append rfl).mp closed))
      (Nat.lt_irrefl _)
  openedBefore pcm given member := by
    rcases List.mem_append.mp member with earlier | now
    · exact Nat.lt_succ_of_lt (ledger.openedBefore _ _ earlier)
    · cases List.mem_singleton.mp now
      exact Nat.lt_succ_self _
  closedBefore pcm member :=
    Nat.lt_succ_of_lt (ledger.closedBefore _ ((AudioEvent.pcmClose_mem_append rfl).mp member))

/-- The PCM that is closed is the open one. -/
theorem pcmClose {pcm : PcmId} {ready : Bool} (ledger : Ledger held (some (pcm, ready)) state) :
    Ledger held none state.pcmClose := by
  obtain ⟨opened, notClosed⟩ := ledger.isOpen pcm ready rfl
  have current : state.out.pcm = some pcm := ledger.pcm
  have events : state.pcmClose.events = state.events ++ [.pcmClose (some pcm)] := by
    rw [← current]
    rfl
  constructor
  · have proper : AudioEvent.Proper state.events (.pcmClose (some pcm)) :=
      ⟨pcm, ready, rfl, opened, notClosed⟩
    rw [events]
    exact ledger.proper.append proper
  · intro mutex
    rw [events]
    simpa [List.count_append] using ledger.locks mutex
  · have handles := ledger.handles
    rw [events]
    simp only [List.countP_append, List.countP_singleton, AudioEvent.opens, AudioEvent.closes,
      Option.isSome_none, Option.isSome_some, Bool.false_eq_true, if_false, if_true,
      Nat.add_zero] at handles ⊢
    omega
  · rfl
  · intro other given none
    cases none
  · intro other given member
    rw [events, AudioEvent.pcmOpen_mem_append rfl] at member
    exact ledger.openedBefore _ _ member
  · intro other member
    rw [events] at member
    rcases List.mem_append.mp member with earlier | now
    · exact ledger.closedBefore _ earlier
    · cases List.mem_singleton.mp now
      exact ledger.openedBefore _ _ opened

end Ledger

/-! ## What each function keeps -/

/-- What is known between two calls: no mutex is held, and unless the stream is in standby a
PCM is open and ready. -/
inductive Between (state : OutputState) : Prop where
  | standby (stopped : state.out.standby = true) (ledger : Ledger [] none state)
  | started (running : state.out.standby = false) (pcm : PcmId)
      (ledger : Ledger [] (some (pcm, true)) state)

section Functions

variable {header : AudioHeader} {state : OutputState} {current : Option (PcmId × Bool)}

/-- At its label a write holds the stream. -/
theorem Ledger.exitWrite (ledger : Ledger [.stream] current state) (bytes : SizeT) (ret : Int) :
    Ledger [] current (state.exitWrite header bytes ret).2 := by
  have unlocked := ledger.unlockStream
  simp only [OutputState.exitWrite]
  split
  · split
    · exact unlocked
    · exact unlocked.usleep _
  · exact unlocked

theorem exitWrite_out (bytes : SizeT) (ret : Int) :
    (state.exitWrite header bytes ret).2.out = state.out := by
  simp only [exitWrite]
  split
  · split <;> rfl
  · rfl

/-- A write that is started holds both mutexes. -/
theorem Ledger.writeStarted {pcm : PcmId}
    (ledger : Ledger [.stream, .device] (some (pcm, true)) state) (bytes inFrames frameSize : SizeT)
    (result : Int) :
    Ledger [] (some (pcm, true))
      (state.writeStarted header bytes inFrames frameSize result).2 := by
  have wrote := ledger.unlockDevice.pcmWrite (inFrames * frameSize) result
  simp only [OutputState.writeStarted]
  split
  · exact wrote.unlockStream
  · split
    · exact (wrote.addWritten inFrames).exitWrite bytes result
    · exact wrote.exitWrite bytes result

theorem writeStarted_standby (bytes inFrames frameSize : SizeT) (result : Int) :
    (state.writeStarted header bytes inFrames frameSize result).2.out.standby =
      state.out.standby := by
  simp only [writeStarted]
  split
  · rfl
  · split <;> rw [exitWrite_out] <;> rfl

/-- A standby closes what is open. -/
theorem Between.outStandby (between : Between state) :
    state.outStandby.2.out.standby = true ∧ Ledger [] none state.outStandby.2 := by
  cases between with
  | standby stopped ledger =>
      have same : state.outStandby.2 = ((((state.emit (.lock .device)).emit (.lock .stream)).emit
          (.unlock .stream)).emit (.unlock .device)) := by
        simp only [OutputState.outStandby, emit_out, stopped, if_true]
      rw [same]
      exact ⟨stopped, ledger.lockBoth.unlockBoth⟩
  | started running pcm ledger =>
      have same : state.outStandby.2 = (((((state.emit (.lock .device)).emit
          (.lock .stream)).pcmClose.setStandby true).emit (.unlock .stream)).emit
            (.unlock .device)) := by
        simp only [OutputState.outStandby, emit_out, running, Bool.false_eq_true, if_false]
      rw [same]
      exact ⟨rfl, (ledger.lockBoth.pcmClose.setStandby true).unlockBoth⟩

/-- A write leaves a ready PCM, or none. -/
theorem Between.outWrite (between : Between state) (bytes : SizeT) (opening : PcmOpening)
    (result : Int) : Between (state.outWrite header bytes opening result).2 := by
  cases frames : divide bytes (audioStreamOutFrameSize header state.out) with
  | none =>
      simp only [OutputState.outWrite, frames]
      exact between
  | some inFrames =>
      cases between with
      | started running pcm ledger =>
          rw [outWrite_of_running frames running]
          exact .started ((writeStarted_standby ..).trans running) pcm
            (ledger.lockBoth.writeStarted ..)
      | standby stopped ledger =>
          cases opening with
          | ready =>
              rw [outWrite_of_ready frames stopped]
              exact .started (writeStarted_standby ..) _
                (((ledger.lockBoth.pcmOpen true).setStandby false).writeStarted ..)
          | null =>
              rw [outWrite_of_notStarted frames stopped (by decide)]
              exact .standby ((congrArg StreamOut.standby (exitWrite_out ..)).trans stopped)
                (ledger.lockBoth.setPcm_none.unlockDevice.exitWrite ..)
          | notReady =>
              rw [outWrite_of_notStarted frames stopped (by decide)]
              exact .standby ((congrArg StreamOut.standby (exitWrite_out ..)).trans stopped)
                ((ledger.lockBoth.pcmOpen false).pcmClose.unlockDevice.exitWrite ..)

/-! ## What is counted -/

/-- The counter of a stream has all its frames. -/
def Counted (frameSize : SizeT) (state : OutputState) : Prop :=
  state.out.written = .ofNat 64 (state.framesWritten frameSize)

variable {frameSize : SizeT}

theorem framesWritten_emit (event : AudioEvent) :
    (state.emit event).framesWritten frameSize =
      state.framesWritten frameSize + event.framesWritten frameSize := by
  simp [framesWritten, emit]

/-- A call that writes no frames. -/
theorem Counted.emit (counted : state.Counted frameSize) {event : AudioEvent}
    (none : event.framesWritten frameSize = 0) : (state.emit event).Counted frameSize := by
  rw [Counted, framesWritten_emit, none, Nat.add_zero]
  exact counted

theorem Counted.pcmOpen (counted : state.Counted frameSize) (ready : Bool) :
    (state.pcmOpen ready).Counted frameSize := by
  have none : (AudioEvent.pcmOpen state.nextPcm ready).framesWritten frameSize = 0 := rfl
  exact counted.emit none

theorem Counted.pcmClose (counted : state.Counted frameSize) :
    state.pcmClose.Counted frameSize := by
  have none : (AudioEvent.pcmClose state.out.pcm).framesWritten frameSize = 0 := rfl
  exact counted.emit none

theorem Counted.exitWrite (counted : state.Counted frameSize) (bytes : SizeT) (ret : Int) :
    (state.exitWrite header bytes ret).2.Counted frameSize := by
  have unlocked : (state.emit (.unlock .stream)).Counted frameSize := counted.emit rfl
  simp only [OutputState.exitWrite]
  split
  · split
    · exact unlocked
    · exact unlocked.emit rfl
  · exact unlocked

/-- The frames of the bytes that are passed are the frames of the write. -/
theorem frames_of_divide {bytes inFrames : SizeT}
    (frames : divide bytes frameSize = some inFrames) :
    (inFrames * frameSize).toNat / frameSize.toNat = inFrames.toNat := by
  have divisible : frameSize ≠ 0 := by
    intro zero
    rw [divide_eq_none_iff.mpr zero] at frames
    cases frames
  have positive : 0 < frameSize.toNat :=
    Nat.pos_of_ne_zero fun zero => divisible (BitVec.eq_of_toNat_eq zero)
  rw [divide, if_neg divisible] at frames
  obtain rfl := Option.some.inj frames
  have bound := bytes.isLt
  have fits : bytes.toNat / frameSize.toNat * frameSize.toNat ≤ bytes.toNat :=
    Nat.div_mul_le_self _ _
  rw [BitVec.toNat_mul, BitVec.toNat_udiv, Nat.mod_eq_of_lt (by omega),
    Nat.mul_div_cancel _ positive]

/-- A write counts its frames exactly if `pcm_write` succeeds. -/
theorem Counted.writeStarted (counted : state.Counted frameSize) {bytes inFrames : SizeT}
    (frames : divide bytes frameSize = some inFrames) (result : Int) :
    (state.writeStarted header bytes inFrames frameSize result).2.Counted frameSize := by
  have unlocked : (state.emit (.unlock .device)).Counted frameSize := counted.emit rfl
  have fails : result ≠ 0 → ((state.emit (.unlock .device)).emit
      (.pcmWrite state.out.pcm (inFrames * frameSize) result)).Counted frameSize :=
    fun failed => unlocked.emit (if_neg failed)
  simp only [OutputState.writeStarted]
  split
  next underrun =>
    have failed : result ≠ 0 := underrun ▸ by decide
    exact (fails failed).emit rfl
  next =>
    split
    next succeeded =>
      have unlock : (AudioEvent.unlock .device).framesWritten frameSize = 0 := rfl
      have write : (AudioEvent.pcmWrite state.out.pcm (inFrames * frameSize)
          result).framesWritten frameSize = inFrames.toNat :=
        (if_pos succeeded).trans (frames_of_divide frames)
      have wrote : (((state.emit (.unlock .device)).emit (.pcmWrite state.out.pcm
          (inFrames * frameSize) result)).addWritten inFrames).Counted frameSize := by
        have before : state.out.written = .ofNat 64 (state.framesWritten frameSize) := counted
        change state.out.written + inFrames = .ofNat 64 (((state.emit (.unlock .device)).emit
          (.pcmWrite state.out.pcm (inFrames * frameSize) result)).framesWritten frameSize)
        rw [framesWritten_emit, framesWritten_emit, unlock, write, before, Nat.add_zero,
          BitVec.ofNat_add, BitVec.ofNat_toNat, BitVec.setWidth_eq]
      exact wrote.exitWrite bytes result
    next failed => exact (fails failed).exitWrite bytes result

theorem Counted.outStandby (counted : state.Counted frameSize) :
    state.outStandby.2.Counted frameSize := by
  have locked : ((state.emit (.lock .device)).emit (.lock .stream)).Counted frameSize :=
    (counted.emit rfl).emit rfl
  simp only [OutputState.outStandby]
  split
  · exact (locked.emit rfl).emit rfl
  · have closed : (((state.emit (.lock .device)).emit (.lock .stream)).pcmClose.setStandby
        true).Counted frameSize := locked.pcmClose
    exact (closed.emit rfl).emit rfl

theorem Counted.outWrite (counted : state.Counted (audioStreamOutFrameSize header state.out))
    (bytes : SizeT) (opening : PcmOpening) (result : Int) :
    (state.outWrite header bytes opening result).2.Counted
      (audioStreamOutFrameSize header state.out) := by
  have locked : ((state.emit (.lock .device)).emit (.lock .stream)).Counted
      (audioStreamOutFrameSize header state.out) := (counted.emit rfl).emit rfl
  cases frames : divide bytes (audioStreamOutFrameSize header state.out) with
  | none =>
      simp only [OutputState.outWrite, frames]
      exact counted
  | some inFrames =>
      cases stopped : state.out.standby with
      | false =>
          rw [outWrite_of_running frames stopped]
          exact locked.writeStarted frames result
      | true =>
          cases opening with
          | ready =>
              have started : ((((state.emit (.lock .device)).emit (.lock .stream)).pcmOpen
                  true).setStandby false).Counted
                    (audioStreamOutFrameSize header state.out) := locked.pcmOpen true
              rw [outWrite_of_ready frames stopped]
              exact started.writeStarted frames result
          | null =>
              have forgotten : (((state.emit (.lock .device)).emit (.lock .stream)).setPcm
                  none).Counted (audioStreamOutFrameSize header state.out) := locked
              rw [outWrite_of_notStarted frames stopped (by decide)]
              exact (forgotten.emit rfl).exitWrite bytes _
          | notReady =>
              rw [outWrite_of_notStarted frames stopped (by decide)]
              exact ((locked.pcmOpen false).pcmClose.emit rfl).exitWrite bytes _

end Functions

theorem Ledger.released {current : Option (PcmId × Bool)} {state : OutputState}
    (ledger : Ledger [] current state) (mutex : Mutex) :
    state.events.count (.lock mutex) = state.events.count (.unlock mutex) := by
  rw [ledger.locks, List.count_nil, Nat.add_zero]

/-- Between two calls everything is in order. -/
theorem Between.inOrder {header : AudioHeader} {state : OutputState} (between : Between state)
    (counted : state.Counted (audioStreamOutFrameSize header state.out)) :
    state.InOrder header := by
  cases between with
  | standby stopped ledger =>
      refine ⟨?_, ?_, ledger.proper, counted, ledger.released⟩
      · rw [stopped, show state.out.pcm = none from ledger.pcm]
        simp
      · rw [stopped]
        exact ledger.handles
  | started running pcm ledger =>
      refine ⟨?_, ?_, ledger.proper, counted, ledger.released⟩
      · have isReady : state.IsReady pcm := ledger.isOpen pcm true rfl
        have current : state.out.pcm = some pcm := ledger.pcm
        exact iff_of_true running ⟨pcm, current, isReady⟩
      · rw [running]
        exact ledger.handles

end OutputState

/-- A call that transfers frames or ends the transfer, and keeps the settings. -/
def OutputCall.Transfers : OutputCall → Prop
  | .setSampleRate _ | .setFormat _ => False
  | .standby | .write _ _ _ => True

section Runs

variable {header : AudioHeader}

/-- What a transfer keeps. -/
structure Playing (header : AudioHeader) (state : OutputState) : Prop where
  settings : state.settings = (OutputState.opened defaultOutput).settings
  between : state.Between
  counted : state.Counted (audioStreamOutFrameSize header state.out)

theorem playing_opened : Playing header (.opened defaultOutput) :=
  ⟨rfl, .standby rfl .opened, rfl⟩

theorem Playing.standby {state : OutputState} (playing : Playing header state) :
    Playing header state.outStandby.2 := by
  have stopped := playing.between.outStandby
  refine ⟨state.outStandby_settings.trans playing.settings, .standby stopped.1 stopped.2, ?_⟩
  rw [OutputState.frameSize_eq, state.outStandby_settings, ← OutputState.frameSize_eq]
  exact playing.counted.outStandby

theorem Playing.next {state : OutputState} (playing : Playing header state) {call : OutputCall}
    (transfers : call.Transfers) : Playing header ((outputMachine header).next state call) := by
  cases call with
  | setSampleRate rate => exact transfers.elim
  | setFormat format => exact transfers.elim
  | standby => exact playing.standby
  | write bytes opening result =>
      have settings := state.outWrite_settings header bytes opening result
      refine ⟨settings.trans playing.settings, playing.between.outWrite bytes opening result, ?_⟩
      change (state.outWrite header bytes opening result).2.Counted _
      rw [OutputState.frameSize_eq, show ((outputMachine header).next state
        (.write bytes opening result)).settings = state.settings from settings,
        ← OutputState.frameSize_eq]
      exact playing.counted.outWrite bytes opening result

/-- A stream that plays has a format of known samples and a rate. -/
theorem Playing.divides (contract : HeaderContract header) {state : OutputState}
    (playing : Playing header state) (call : OutputCall) :
    Divides (outputMachine header) state call := by
  have mask : state.out.channelMask = audioChannelOutStereo :=
    congrArg AudioConfig.channelMask playing.settings
  have format : state.out.format = audioFormatPcm16Bit :=
    congrArg AudioConfig.format playing.settings
  have rate : state.out.sampleRate = stubDefaultSampleRate :=
    congrArg AudioConfig.sampleRate playing.settings
  rw [output_divides_iff contract state mask]
  cases call with
  | setSampleRate rate => trivial
  | setFormat format => trivial
  | standby => trivial
  | write bytes opening result =>
      refine ⟨fun unknown => ?_, fun _ => ?_⟩
      · rw [format, UnknownSample, contract.pcm16Bit.2] at unknown
        exact absurd unknown.2 (by decide)
      · rw [rate]
        decide

/-- In every run of writes and standbys from the opening of a stream, every call returns,
everything is in order between any two of them, and if the stream is closed then every PCM
that was opened has been closed. -/
theorem output_lifecycle (contract : HeaderContract header) {allocated : Bool}
    {config : AudioConfig} {out : StreamOut}
    (opened : adevOpenOutputStream allocated config = (0, some out)) (calls : List OutputCall)
    (transfers : ∀ call ∈ calls, call.Transfers) :
    (outputMachine header).Always (OutputState.InOrder header) (.opened out) calls ∧
      (outputMachine header).EachStep (Divides (outputMachine header)) (.opened out) calls ∧
      (((outputMachine header).run (.opened out) calls).adevCloseOutputStream.InOrder header ∧
        ((outputMachine header).run
          (.opened out) calls).adevCloseOutputStream.out.standby = true) := by
  rw [openedOutput_eq opened]
  have preserved : ∀ state call, Playing header state → call.Transfers →
      Playing header ((outputMachine header).next state call) :=
    fun state call playing transfer => playing.next transfer
  have playing := (outputMachine header).always_of_eachStep preserved playing_opened
    ((outputMachine header).eachStep_of_mem transfers (.opened defaultOutput))
  have closed := playing.last.standby
  have inOrder : ∀ state, Playing header state → state.InOrder header :=
    fun state playing => playing.between.inOrder playing.counted
  exact ⟨playing.mono inOrder, playing.eachStep fun state call plays => plays.divides contract call,
    inOrder _ closed, playing.last.between.outStandby.1⟩

end Runs

/-- A stream that fails to start twice, plays, underruns, stops and plays again. -/
theorem output_lifecycle_example :
    (outputMachine exampleHeader).Always (OutputState.InOrder exampleHeader)
      (.opened defaultOutput)
      [.write 1764 .null 0, .write 1764 .notReady 0, .write 1764 .ready 0,
        .write 1764 .null (-epipe), .standby, .write 1764 .ready 5] :=
  (output_lifecycle exampleHeader_contract
    (show adevOpenOutputStream true defaultOutputConfig = (0, some defaultOutput) by decide)
    [.write 1764 .null 0, .write 1764 .notReady 0, .write 1764 .ready 0,
      .write 1764 .null (-epipe), .standby, .write 1764 .ready 5]
    (by simp [OutputCall.Transfers])).1

end Arpi.Audio
