import Arpi.Audio.OutputLifecycle
import Arpi.Semantics.Locking
import Mathlib.Data.Fintype.EquivFin

/-!
# Streams that threads share

`out_write` and `out_standby` take the mutex of the device, then the one of the stream. A write
gives the device back before it waits in `pcm_write`. Here the statements of the two functions
are turns that any number of threads take in any order, on any number of streams of one device.

A call acts on its stream at once where tinyalsa answers it; that is where it enters the log
of the stream. Only its calls on PCMs are compared, since mutexes and sleeps belong to threads.
-/

namespace Arpi.Audio

open Arpi.Semantics

/-- The mutexes of a device and of all its streams. -/
inductive DeviceMutex (Stream : Type) where
  | device
  | stream (stream : Stream)
deriving DecidableEq

/-- What a client calls. -/
inductive Transfer where
  | standby
  | write (bytes : SizeT)
deriving DecidableEq

/-- What tinyalsa answers in a turn, if it is asked. -/
structure PcmAnswer where
  opening : PcmOpening
  result : Int
deriving DecidableEq

/-- An output stream, and the calls that have acted on it. -/
structure SharedStream where
  state : OutputState
  log : List OutputCall
deriving DecidableEq

/-- A stream that was just opened. -/
def SharedStream.opened (out : StreamOut) : SharedStream := ⟨.opened out, []⟩

/-- The locals of `out_write`. -/
structure WriteLocals where
  bytes : SizeT
  frameSize : SizeT
  inFrames : SizeT
deriving DecidableEq

/-- `pcm_write` on the PCM of the stream. -/
def OutputState.transfer (locals : WriteLocals) (result : Int) (state : OutputState) :
    OutputState :=
  state.emit (.pcmWrite state.out.pcm (locals.inFrames * locals.frameSize) result)

/-- The next statement of `out_standby`. -/
inductive StandbyPoint where
  | lockDevice
  | lockStream
  | stop
  | unlockStream
  | unlockDevice
  | returns
deriving DecidableEq

/-- The next statement of `out_write`. The points after `pcm_open` say how it went, and those
after `pcm_write` what `ret` is. -/
inductive WritePoint where
  | lockDevice
  | lockStream
  | testStandby
  | openPcm
  | closeUnready
  | start
  | unlockDevice
  | unlockUnstarted
  | transfer
  | count
  | unlockUnderrun
  | exit (ret : Int)
  | sleep (ret : Int)
  | returnsUnderrun
deriving DecidableEq

/-- The next statement of a call. A write to frames of no size has none. -/
inductive TransferPoint where
  | standby (point : StandbyPoint)
  | write (locals : WriteLocals) (point : WritePoint)
  | divided
deriving DecidableEq

section Statements

variable {Stream : Type} (header : AudioHeader) (stream : Stream)

/-- The statements of `out_standby`. -/
def standbyStatement (cell : SharedStream) : StandbyPoint →
    Action (DeviceMutex Stream) SharedStream TransferPoint (Option Int)
  | .lockDevice => .acquire .device (.standby .lockStream)
  | .lockStream => .acquire (.stream stream) (.standby .stop)
  | .stop =>
      let state := if cell.state.out.standby then cell.state
        else cell.state.pcmClose.setStandby true
      .update ⟨state, cell.log ++ [.standby]⟩ (.standby .unlockStream)
  | .unlockStream => .release (.stream stream) (.standby .unlockDevice)
  | .unlockDevice => .release .device (.standby .returns)
  | .returns => .finish (some 0)

/-- The statements of `out_write`. -/
def writeStatement (locals : WriteLocals) (answer : PcmAnswer) (cell : SharedStream) :
    WritePoint → Action (DeviceMutex Stream) SharedStream TransferPoint (Option Int)
  | .lockDevice => .acquire .device (.write locals .lockStream)
  | .lockStream => .acquire (.stream stream) (.write locals .testStandby)
  | .testStandby =>
      .update cell (.write locals (if cell.state.out.standby then .openPcm else .unlockDevice))
  | .openPcm =>
      match answer.opening with
      | .null =>
          .update ⟨cell.state.setPcm none, cell.log ++ [.write locals.bytes .null answer.result]⟩
            (.write locals .unlockUnstarted)
      | .notReady =>
          .update ⟨cell.state.pcmOpen false,
            cell.log ++ [.write locals.bytes .notReady answer.result]⟩
            (.write locals .closeUnready)
      | .ready => .update ⟨cell.state.pcmOpen true, cell.log⟩ (.write locals .start)
  | .closeUnready => .update ⟨cell.state.pcmClose, cell.log⟩ (.write locals .unlockUnstarted)
  | .start => .update ⟨cell.state.setStandby false, cell.log⟩ (.write locals .unlockDevice)
  | .unlockDevice => .release .device (.write locals .transfer)
  | .unlockUnstarted => .release .device (.write locals (.exit (-enomem)))
  | .transfer =>
      .update ⟨cell.state.transfer locals answer.result,
          cell.log ++ [.write locals.bytes .ready answer.result]⟩
        (.write locals (if answer.result = -epipe then .unlockUnderrun
          else if answer.result = 0 then .count else .exit answer.result))
  | .count => .update ⟨cell.state.addWritten locals.inFrames, cell.log⟩ (.write locals (.exit 0))
  | .unlockUnderrun => .release (.stream stream) (.write locals .returnsUnderrun)
  | .exit ret => .release (.stream stream) (.write locals (.sleep ret))
  | .sleep ret =>
      if ret ≠ 0 then
        .finish (((divide (locals.bytes * 1000000)
          (audioStreamOutFrameSize header cell.state.out)).bind fun duration =>
            divide duration (cell.state.out.sampleRate.setWidth 64)).map fun _ =>
              locals.bytes.toInt)
      else .finish (some locals.bytes.toInt)
  | .returnsUnderrun => .finish (some (-epipe))

end Statements

/-- The code of the two functions. A write reads the size of a frame before it has a mutex. -/
def transferCode (header : AudioHeader) (Stream : Type) :
    Code (DeviceMutex Stream) Stream SharedStream Transfer TransferPoint PcmAnswer
      (Option Int) where
  guard := .stream
  enter _ call cell :=
    match call with
    | .standby => .standby .lockDevice
    | .write bytes =>
        match divide bytes (audioStreamOutFrameSize header cell.state.out) with
        | none => .divided
        | some inFrames =>
            .write ⟨bytes, audioStreamOutFrameSize header cell.state.out, inFrames⟩ .lockDevice
  act activation answer cell :=
    match activation.point with
    | .standby point => standbyStatement activation.region cell point
    | .write locals point =>
        writeStatement header activation.region locals answer cell point
    | .divided => .finish none

/-! ## What a statement can do -/

section Outcomes

variable {header : AudioHeader} {Stream : Type}

/-- The statements that take a mutex. -/
inductive Acquires (stream : Stream) : TransferPoint → DeviceMutex Stream → TransferPoint → Prop
  | standbyDevice : Acquires stream (.standby .lockDevice) .device (.standby .lockStream)
  | standbyStream : Acquires stream (.standby .lockStream) (.stream stream) (.standby .stop)
  | writeDevice (locals : WriteLocals) :
      Acquires stream (.write locals .lockDevice) .device (.write locals .lockStream)
  | writeStream (locals : WriteLocals) :
      Acquires stream (.write locals .lockStream) (.stream stream) (.write locals .testStandby)

/-- The statements that give a mutex back. -/
inductive Releases (stream : Stream) : TransferPoint → DeviceMutex Stream → TransferPoint → Prop
  | standbyStream :
      Releases stream (.standby .unlockStream) (.stream stream) (.standby .unlockDevice)
  | standbyDevice : Releases stream (.standby .unlockDevice) .device (.standby .returns)
  | started (locals : WriteLocals) :
      Releases stream (.write locals .unlockDevice) .device (.write locals .transfer)
  | unstarted (locals : WriteLocals) :
      Releases stream (.write locals .unlockUnstarted) .device (.write locals (.exit (-enomem)))
  | underrun (locals : WriteLocals) :
      Releases stream (.write locals .unlockUnderrun) (.stream stream)
        (.write locals .returnsUnderrun)
  | exit (locals : WriteLocals) (ret : Int) :
      Releases stream (.write locals (.exit ret)) (.stream stream) (.write locals (.sleep ret))

/-- The statements that may change the stream. -/
inductive Updates (cell : SharedStream) : TransferPoint → SharedStream → TransferPoint → Prop
  | alreadyStopped (stopped : cell.state.out.standby = true) :
      Updates cell (.standby .stop) ⟨cell.state, cell.log ++ [.standby]⟩ (.standby .unlockStream)
  | stopped (running : cell.state.out.standby = false) :
      Updates cell (.standby .stop)
        ⟨cell.state.pcmClose.setStandby true, cell.log ++ [.standby]⟩ (.standby .unlockStream)
  | inStandby (locals : WriteLocals) (stopped : cell.state.out.standby = true) :
      Updates cell (.write locals .testStandby) cell (.write locals .openPcm)
  | running (locals : WriteLocals) (running : cell.state.out.standby = false) :
      Updates cell (.write locals .testStandby) cell (.write locals .unlockDevice)
  | notOpened (locals : WriteLocals) (result : Int) :
      Updates cell (.write locals .openPcm)
        ⟨cell.state.setPcm none, cell.log ++ [.write locals.bytes .null result]⟩
        (.write locals .unlockUnstarted)
  | openedUnready (locals : WriteLocals) (result : Int) :
      Updates cell (.write locals .openPcm)
        ⟨cell.state.pcmOpen false, cell.log ++ [.write locals.bytes .notReady result]⟩
        (.write locals .closeUnready)
  | opened (locals : WriteLocals) :
      Updates cell (.write locals .openPcm) ⟨cell.state.pcmOpen true, cell.log⟩
        (.write locals .start)
  | closedUnready (locals : WriteLocals) :
      Updates cell (.write locals .closeUnready) ⟨cell.state.pcmClose, cell.log⟩
        (.write locals .unlockUnstarted)
  | started (locals : WriteLocals) :
      Updates cell (.write locals .start) ⟨cell.state.setStandby false, cell.log⟩
        (.write locals .unlockDevice)
  | underrun (locals : WriteLocals) :
      Updates cell (.write locals .transfer)
        ⟨cell.state.transfer locals (-epipe), cell.log ++ [.write locals.bytes .ready (-epipe)]⟩
        (.write locals .unlockUnderrun)
  | transferred (locals : WriteLocals) :
      Updates cell (.write locals .transfer)
        ⟨cell.state.transfer locals 0, cell.log ++ [.write locals.bytes .ready 0]⟩
        (.write locals .count)
  | notTransferred (locals : WriteLocals) (result : Int) (noUnderrun : result ≠ -epipe)
      (failed : result ≠ 0) :
      Updates cell (.write locals .transfer)
        ⟨cell.state.transfer locals result, cell.log ++ [.write locals.bytes .ready result]⟩
        (.write locals (.exit result))
  | counted (locals : WriteLocals) :
      Updates cell (.write locals .count) ⟨cell.state.addWritten locals.inFrames, cell.log⟩
        (.write locals (.exit 0))

/-- The points where a call returns. -/
inductive Finishes : TransferPoint → Prop
  | standby : Finishes (.standby .returns)
  | divided : Finishes .divided
  | sleep (locals : WriteLocals) (ret : Int) : Finishes (.write locals (.sleep ret))
  | underrun (locals : WriteLocals) : Finishes (.write locals .returnsUnderrun)

variable {activation : Activation Stream TransferPoint} {answer : PcmAnswer} {cell : SharedStream}

theorem acquires_of_act {mutex : DeviceMutex Stream} {next : TransferPoint}
    (acts : (transferCode header Stream).act activation answer cell = .acquire mutex next) :
    Acquires activation.region activation.point mutex next := by
  obtain ⟨stream, point⟩ := activation
  cases point with
  | divided => cases acts
  | standby point => cases point <;> cases acts <;> constructor
  | write locals point =>
      cases point with
      | lockDevice => cases acts; constructor
      | lockStream => cases acts; constructor
      | openPcm => simp only [transferCode, writeStatement] at acts; split at acts <;> cases acts
      | sleep ret => simp only [transferCode, writeStatement] at acts; split at acts <;> cases acts
      | _ => cases acts

theorem releases_of_act {mutex : DeviceMutex Stream} {next : TransferPoint}
    (acts : (transferCode header Stream).act activation answer cell = .release mutex next) :
    Releases activation.region activation.point mutex next := by
  obtain ⟨stream, point⟩ := activation
  cases point with
  | divided => cases acts
  | standby point => cases point <;> cases acts <;> constructor
  | write locals point =>
      cases point with
      | openPcm => simp only [transferCode, writeStatement] at acts; split at acts <;> cases acts
      | sleep ret => simp only [transferCode, writeStatement] at acts; split at acts <;> cases acts
      | _ => cases acts <;> constructor

theorem updates_of_act {after : SharedStream} {next : TransferPoint}
    (acts : (transferCode header Stream).act activation answer cell = .update after next) :
    Updates cell activation.point after next := by
  obtain ⟨stream, point⟩ := activation
  cases point with
  | divided => cases acts
  | standby point =>
      cases point with
      | stop =>
          obtain ⟨rfl, rfl⟩ := Action.update.inj acts
          cases stopped : cell.state.out.standby with
          | true => exact .alreadyStopped stopped
          | false => exact .stopped stopped
      | _ => cases acts
  | write locals point =>
      cases point with
      | testStandby =>
          obtain ⟨rfl, rfl⟩ := Action.update.inj acts
          cases stopped : cell.state.out.standby with
          | true => exact .inStandby locals stopped
          | false => exact .running locals stopped
      | openPcm =>
          simp only [transferCode, writeStatement] at acts
          split at acts <;> cases acts <;> constructor
      | transfer =>
          obtain ⟨rfl, rfl⟩ := Action.update.inj acts
          by_cases underrun : answer.result = -epipe
          · rw [underrun, if_pos rfl]
            exact .underrun locals
          · rw [if_neg underrun]
            by_cases succeeded : answer.result = 0
            · rw [succeeded, if_pos rfl]
              exact .transferred locals
            · rw [if_neg succeeded]
              exact .notTransferred locals _ underrun succeeded
      | sleep ret => simp only [transferCode, writeStatement] at acts; split at acts <;> cases acts
      | _ => cases acts <;> constructor

theorem finishes_of_act {returned : Option Int}
    (acts : (transferCode header Stream).act activation answer cell = .finish returned) :
    Finishes activation.point := by
  obtain ⟨stream, point⟩ := activation
  cases point with
  | divided => constructor
  | standby point =>
      cases point with
      | returns => constructor
      | _ => cases acts
  | write locals point =>
      cases point with
      | openPcm => simp only [transferCode, writeStatement] at acts; split at acts <;> cases acts
      | sleep ret => constructor
      | returnsUnderrun => constructor
      | _ => cases acts

end Outcomes

/-! ## Which mutexes are held -/

namespace TransferPoint

/-- The mutex of the device is held. -/
def HoldsDevice : TransferPoint → Prop
  | .standby .lockDevice | .standby .returns => False
  | .standby _ => True
  | .write _ .lockStream | .write _ .testStandby | .write _ .openPcm | .write _ .closeUnready
  | .write _ .start | .write _ .unlockDevice | .write _ .unlockUnstarted => True
  | .write _ _ => False
  | .divided => False

/-- The mutex of the stream is held. -/
def HoldsStream : TransferPoint → Prop
  | .standby .stop | .standby .unlockStream => True
  | .standby _ => False
  | .write _ .lockDevice | .write _ .lockStream | .write _ (.sleep _)
  | .write _ .returnsUnderrun => False
  | .write _ _ => True
  | .divided => False

/-- How many turns a call takes from here, at most. -/
def remaining : TransferPoint → Nat
  | .standby .lockDevice => 6
  | .standby .lockStream => 5
  | .standby .stop => 4
  | .standby .unlockStream => 3
  | .standby .unlockDevice => 2
  | .standby .returns => 1
  | .write _ .lockDevice => 10
  | .write _ .lockStream => 9
  | .write _ .testStandby => 8
  | .write _ .openPcm => 7
  | .write _ .start | .write _ .closeUnready => 6
  | .write _ .unlockDevice => 5
  | .write _ .transfer => 4
  | .write _ .unlockUnstarted => 4
  | .write _ .count => 3
  | .write _ (.exit _) | .write _ .unlockUnderrun => 2
  | .write _ (.sleep _) | .write _ .returnsUnderrun => 1
  | .divided => 1

end TransferPoint

section Locks

variable {header : AudioHeader} {Stream : Type}

/-- The mutexes that a call holds. -/
def heldMutexes (activation : Activation Stream TransferPoint) : Set (DeviceMutex Stream)
  | .device => activation.point.HoldsDevice
  | .stream stream => stream = activation.region ∧ activation.point.HoldsStream

/-- The device is taken before a stream. -/
def DeviceMutex.rank : DeviceMutex Stream → Fin 2
  | .device => 0
  | .stream _ => 1

@[simp] theorem device_mem_heldMutexes {activation : Activation Stream TransferPoint} :
    .device ∈ heldMutexes activation ↔ activation.point.HoldsDevice := Iff.rfl

@[simp] theorem stream_mem_heldMutexes {activation : Activation Stream TransferPoint}
    {stream : Stream} :
    .stream stream ∈ heldMutexes activation ↔
      stream = activation.region ∧ activation.point.HoldsStream := Iff.rfl

/-- A call that moves on with the mutexes it holds. -/
theorem heldMutexes_moveTo {activation : Activation Stream TransferPoint} {next : TransferPoint}
    (device : next.HoldsDevice ↔ activation.point.HoldsDevice)
    (stream : next.HoldsStream ↔ activation.point.HoldsStream) :
    heldMutexes (activation.moveTo next) = heldMutexes activation := by
  ext mutex
  cases mutex with
  | device => exact device
  | stream other => exact and_congr Iff.rfl stream

/-- A call that takes a mutex. -/
theorem Acquires.held {activation : Activation Stream TransferPoint}
    {mutex : DeviceMutex Stream} {next : TransferPoint}
    (acquires : Acquires activation.region activation.point mutex next) :
    mutex ∉ heldMutexes activation ∧
      heldMutexes (activation.moveTo next) = insert mutex (heldMutexes activation) := by
  obtain ⟨stream, point⟩ := activation
  cases acquires with
  | standbyDevice | standbyStream | writeDevice locals | writeStream locals =>
      refine ⟨by simp [TransferPoint.HoldsDevice, TransferPoint.HoldsStream], ?_⟩
      ext other
      cases other <;>
        simp [Activation.moveTo, TransferPoint.HoldsDevice, TransferPoint.HoldsStream]

/-- A call that gives a mutex back. -/
theorem Releases.held {activation : Activation Stream TransferPoint}
    {mutex : DeviceMutex Stream} {next : TransferPoint}
    (releases : Releases activation.region activation.point mutex next) :
    mutex ∈ heldMutexes activation ∧
      heldMutexes (activation.moveTo next) = heldMutexes activation \ {mutex} := by
  obtain ⟨stream, point⟩ := activation
  cases releases with
  | standbyStream | standbyDevice | started locals | unstarted locals | underrun locals
  | exit locals ret =>
      refine ⟨by simp [TransferPoint.HoldsDevice, TransferPoint.HoldsStream], ?_⟩
      ext other
      cases other <;>
        simp [Activation.moveTo, TransferPoint.HoldsDevice, TransferPoint.HoldsStream]

/-- A call that changes the stream holds it, and goes on with the same mutexes. -/
theorem Updates.held {cell after : SharedStream} {point next : TransferPoint}
    (updates : Updates cell point after next) :
    point.HoldsStream ∧ next.HoldsStream ∧ (next.HoldsDevice ↔ point.HoldsDevice) := by
  cases updates <;> simp [TransferPoint.HoldsDevice, TransferPoint.HoldsStream]

theorem transferCode_disciplined : (transferCode header Stream).Disciplined heldMutexes where
  enter stream call cell := by
    have none : ∀ point : TransferPoint, ¬ point.HoldsDevice → ¬ point.HoldsStream →
        heldMutexes ⟨stream, point⟩ = ∅ := by
      intro point noDevice noStream
      ext mutex
      cases mutex <;> simp [noDevice, noStream]
    apply none <;>
    · simp only [transferCode]
      split
      · exact not_false
      · split <;> exact not_false
  acquire acts := (acquires_of_act acts).held
  release acts := (releases_of_act acts).held
  update acts := by
    obtain ⟨before, after, device⟩ := (updates_of_act acts).held
    exact heldMutexes_moveTo device (iff_of_true after before)
  finish {activation answer cell returned} acts := by
    obtain ⟨stream, point⟩ := activation
    ext mutex
    cases finishes_of_act acts <;> cases mutex <;>
      simp [TransferPoint.HoldsDevice, TransferPoint.HoldsStream]

/-- Who waits for a stream holds the device alone. -/
theorem Acquires.ranks {activation : Activation Stream TransferPoint}
    {mutex : DeviceMutex Stream} {next : TransferPoint}
    (acquires : Acquires activation.region activation.point mutex next) :
    ∀ held ∈ heldMutexes activation, held.rank < mutex.rank := by
  obtain ⟨stream, point⟩ := activation
  intro held holds
  cases acquires <;> cases held <;>
    simp_all [TransferPoint.HoldsDevice, TransferPoint.HoldsStream, DeviceMutex.rank]

theorem Acquires.shorter {stream : Stream} {mutex : DeviceMutex Stream}
    {point next : TransferPoint} (acquires : Acquires stream point mutex next) :
    next.remaining < point.remaining := by
  cases acquires <;> simp [TransferPoint.remaining]

theorem Releases.shorter {stream : Stream} {mutex : DeviceMutex Stream}
    {point next : TransferPoint} (releases : Releases stream point mutex next) :
    next.remaining < point.remaining := by
  cases releases <;> simp [TransferPoint.remaining]

theorem Updates.shorter {cell after : SharedStream} {point next : TransferPoint}
    (updates : Updates cell point after next) : next.remaining < point.remaining := by
  cases updates <;> simp [TransferPoint.remaining]

theorem Finishes.shorter {point : TransferPoint} (finishes : Finishes point) :
    0 < point.remaining := by
  cases finishes <;> simp [TransferPoint.remaining]

theorem transferCode_shortens :
    (transferCode header Stream).Shortens TransferPoint.remaining where
  acquire acts := (acquires_of_act acts).shorter
  release acts := (releases_of_act acts).shorter
  update acts := (updates_of_act acts).shorter
  finish acts := (finishes_of_act acts).shorter

end Locks

/-! ## The calls on PCMs -/

/-- A call on a PCM. -/
def AudioEvent.OnPcm : AudioEvent → Bool
  | .pcmOpen _ _ | .pcmClose _ | .pcmWrite _ _ _ => true
  | .lock _ | .unlock _ | .usleep _ => false

namespace OutputState

/-- The stream with its calls on PCMs alone. -/
def pcmCalls (state : OutputState) : OutputState :=
  { state with events := state.events.filter AudioEvent.OnPcm }

variable {header : AudioHeader} (state : OutputState)

@[simp] theorem pcmCalls_out : state.pcmCalls.out = state.out := rfl

@[simp] theorem pcmCalls_settings : state.pcmCalls.settings = state.settings := rfl

@[simp] theorem pcmCalls_emit_lock (mutex : Mutex) :
    (state.emit (.lock mutex)).pcmCalls = state.pcmCalls := by
  simp [pcmCalls, emit, AudioEvent.OnPcm]

@[simp] theorem pcmCalls_emit_unlock (mutex : Mutex) :
    (state.emit (.unlock mutex)).pcmCalls = state.pcmCalls := by
  simp [pcmCalls, emit, AudioEvent.OnPcm]

@[simp] theorem pcmCalls_emit_usleep (useconds : BitVec 32) :
    (state.emit (.usleep useconds)).pcmCalls = state.pcmCalls := by
  simp [pcmCalls, emit, AudioEvent.OnPcm]

@[simp] theorem pcmCalls_setPcm (pcm : Option PcmId) :
    (state.setPcm pcm).pcmCalls = state.pcmCalls.setPcm pcm := rfl

@[simp] theorem pcmCalls_setStandby (standby : Bool) :
    (state.setStandby standby).pcmCalls = state.pcmCalls.setStandby standby := rfl

@[simp] theorem pcmCalls_addWritten (frames : SizeT) :
    (state.addWritten frames).pcmCalls = state.pcmCalls.addWritten frames := rfl

@[simp] theorem pcmCalls_pcmOpen (ready : Bool) :
    (state.pcmOpen ready).pcmCalls = state.pcmCalls.pcmOpen ready := by
  simp [pcmCalls, pcmOpen, emit, setPcm, AudioEvent.OnPcm]

@[simp] theorem pcmCalls_pcmClose : state.pcmClose.pcmCalls = state.pcmCalls.pcmClose := by
  simp [pcmCalls, pcmClose, emit, setPcm, AudioEvent.OnPcm]

@[simp] theorem pcmCalls_transfer (locals : WriteLocals) (result : Int) :
    (state.transfer locals result).pcmCalls = state.pcmCalls.transfer locals result := by
  simp [pcmCalls, transfer, emit, AudioEvent.OnPcm]

@[simp] theorem pcmCalls_exitWrite (bytes : SizeT) (ret : Int) :
    (state.exitWrite header bytes ret).2.pcmCalls = state.pcmCalls := by
  simp only [exitWrite]
  split
  · split <;> simp
  · simp

/-- What is left to do once `pcm_write` has returned. -/
def afterTransfer (locals : WriteLocals) (result : Int) (state : OutputState) : OutputState :=
  if result = 0 then state.addWritten locals.inFrames else state

theorem pcmCalls_writeStarted (locals : WriteLocals) (result : Int) :
    (state.writeStarted header locals.bytes locals.inFrames locals.frameSize result).2.pcmCalls =
      (state.pcmCalls.transfer locals result).afterTransfer locals result := by
  have transferred : ((state.emit (.unlock .device)).emit (.pcmWrite state.out.pcm
      (locals.inFrames * locals.frameSize) result)).pcmCalls =
        state.pcmCalls.transfer locals result := by
    rw [← pcmCalls_emit_unlock state .device, ← pcmCalls_transfer]
    rfl
  simp only [writeStarted]
  split
  next underrun =>
    have failed : result ≠ 0 := underrun ▸ by decide
    rw [pcmCalls_emit_unlock, afterTransfer, if_neg failed]
    exact transferred
  next =>
    split
    next succeeded =>
      rw [pcmCalls_exitWrite, afterTransfer, if_pos succeeded, pcmCalls_addWritten]
      exact congrArg (addWritten locals.inFrames) transferred
    next failed =>
      rw [pcmCalls_exitWrite, afterTransfer, if_neg failed]
      exact transferred

theorem pcmCalls_outStandby :
    state.outStandby.2.pcmCalls =
      if state.out.standby then state.pcmCalls else state.pcmCalls.pcmClose.setStandby true := by
  cases standby : state.out.standby <;> simp [outStandby, standby]

section Writes

variable {state} {locals : WriteLocals}
  (size : audioStreamOutFrameSize header state.out = locals.frameSize)
  (frames : divide locals.bytes locals.frameSize = some locals.inFrames)
include size frames

theorem pcmCalls_outWrite_of_running (running : state.out.standby = false) (opening : PcmOpening)
    (result : Int) :
    (state.outWrite header locals.bytes opening result).2.pcmCalls =
      (state.pcmCalls.transfer locals result).afterTransfer locals result := by
  rw [← size] at frames
  rw [outWrite_of_running frames running, size, pcmCalls_writeStarted, pcmCalls_emit_lock,
    pcmCalls_emit_lock]

theorem pcmCalls_outWrite_of_ready (stopped : state.out.standby = true) (result : Int) :
    (state.outWrite header locals.bytes .ready result).2.pcmCalls =
      (((state.pcmCalls.pcmOpen true).setStandby false).transfer locals result).afterTransfer
        locals result := by
  rw [← size] at frames
  rw [outWrite_of_ready frames stopped, size, pcmCalls_writeStarted, pcmCalls_setStandby,
    pcmCalls_pcmOpen, pcmCalls_emit_lock, pcmCalls_emit_lock]

theorem pcmCalls_outWrite_of_notStarted (stopped : state.out.standby = true)
    {opening : PcmOpening} (notReady : opening ≠ .ready) (result : Int) :
    (state.outWrite header locals.bytes opening result).2.pcmCalls =
      (state.pcmCalls.startOutputStream opening).2 := by
  rw [← size] at frames
  rw [outWrite_of_notStarted frames stopped notReady, pcmCalls_exitWrite, pcmCalls_emit_unlock]
  cases opening <;> simp [startOutputStream]

end Writes

end OutputState

/-! ## What the mutex of a stream protects -/

section Atomic

variable {header : AudioHeader}

variable (header) in
/-- The stream after calls that come one after the other. -/
def committed (calls : List OutputCall) : OutputState :=
  (outputMachine header).run (.opened defaultOutput) calls

theorem committed_append (calls : List OutputCall) (call : OutputCall) :
    committed header (calls ++ [call]) = (outputMachine header).next (committed header calls) call := by
  rw [committed, Machine.run_append]
  rfl

theorem playing_committed {calls : List OutputCall} (transfers : ∀ call ∈ calls, call.Transfers) :
    Playing header (committed header calls) := by
  have preserved : ∀ state call, Playing header state → call.Transfers →
      Playing header ((outputMachine header).next state call) :=
    fun state call playing transfer => playing.next transfer
  exact ((outputMachine header).always_of_eachStep preserved playing_opened
    ((outputMachine header).eachStep_of_mem transfers (.opened defaultOutput))).last

namespace SharedStream

variable (header) in
/-- The calls of the log have acted, but for the rest of the last one. -/
def Owes (rest : OutputState → OutputState) (cell : SharedStream) : Prop :=
  (∀ call ∈ cell.log, call.Transfers) ∧ rest cell.state = (committed header cell.log).pcmCalls

variable (header) in
/-- The calls of the log have acted. -/
def Settled (cell : SharedStream) : Prop := cell.Owes header id

variable (header) in
/-- A write is about to transfer its frames, whatever `pcm_write` returns. -/
def Awaits (locals : WriteLocals) (rest : OutputState → OutputState) (cell : SharedStream) :
    Prop :=
  (∀ call ∈ cell.log, call.Transfers) ∧
    ∀ result, ((rest cell.state).transfer locals result).afterTransfer locals result =
      (committed header (cell.log ++ [.write locals.bytes .ready result])).pcmCalls

end SharedStream

variable (header) in
/-- The frames of a write are those of its bytes. -/
def WriteLocals.Proper (locals : WriteLocals) : Prop :=
  locals.frameSize = audioStreamOutFrameSize header defaultOutput ∧
    divide locals.bytes locals.frameSize = some locals.inFrames

variable (header) in
/-- What holds of a call and, while it has the mutex, of its stream. -/
def TransferPoint.Valid : TransferPoint → SharedStream → Prop
  | .standby .stop, cell | .standby .unlockStream, cell => cell.Settled header
  | .standby _, _ => True
  | .divided, _ => False
  | .write locals .testStandby, cell => locals.Proper header ∧ cell.Settled header
  | .write locals .openPcm, cell =>
      locals.Proper header ∧ cell.Settled header ∧ cell.state.out.standby = true
  | .write locals .closeUnready, cell => locals.Proper header ∧ cell.Owes header (·.pcmClose)
  | .write locals .start, cell =>
      locals.Proper header ∧ cell.Awaits header locals (·.setStandby false)
  | .write locals .unlockDevice, cell | .write locals .transfer, cell =>
      locals.Proper header ∧ cell.Awaits header locals id
  | .write locals .count, cell =>
      locals.Proper header ∧ cell.Owes header (·.addWritten locals.inFrames)
  | .write locals .unlockUnstarted, cell | .write locals .unlockUnderrun, cell
  | .write locals (.exit _), cell => locals.Proper header ∧ cell.Settled header
  | .write locals _, _ => locals.Proper header

namespace SharedStream

variable {cell : SharedStream} {locals : WriteLocals}

theorem Owes.settings {rest : OutputState → OutputState} (owes : cell.Owes header rest)
    (keeps : ∀ state, (rest state).settings = state.settings) :
    cell.state.settings = (OutputState.opened defaultOutput).settings := by
  rw [← keeps, owes.2]
  exact (playing_committed owes.1).settings

theorem Settled.settings (settled : cell.Settled header) :
    cell.state.settings = (OutputState.opened defaultOutput).settings :=
  Owes.settings settled fun _ => rfl

/-- A call that is made enters the log. -/
theorem transfers_append {log : List OutputCall} (transfers : ∀ call ∈ log, call.Transfers)
    (last : OutputCall) (transfer : last.Transfers) : ∀ call ∈ log ++ [last], call.Transfers := by
  intro call member
  rcases List.mem_append.mp member with earlier | now
  · exact transfers call earlier
  · rwa [List.mem_singleton.mp now]

theorem Awaits.settings {rest : OutputState → OutputState}
    (awaits : cell.Awaits header locals rest)
    (keeps : ∀ state, (rest state).settings = state.settings) :
    cell.state.settings = (OutputState.opened defaultOutput).settings := by
  have underrun := awaits.2 (-epipe)
  have transfers := transfers_append awaits.1 (.write locals.bytes .ready (-epipe)) trivial
  have settings := congrArg OutputState.settings underrun
  rw [OutputState.afterTransfer, if_neg (by decide), OutputState.transfer, OutputState.emit_settings,
    keeps, OutputState.pcmCalls_settings] at settings
  exact settings.trans (playing_committed transfers).settings

/-- What `out_standby` does to a stream with its mutex. -/
theorem Settled.stopped (settled : cell.Settled header) :
    (⟨if cell.state.out.standby then cell.state else cell.state.pcmClose.setStandby true,
      cell.log ++ [.standby]⟩ : SharedStream).Settled header := by
  obtain ⟨transfers, state⟩ := settled
  refine ⟨transfers_append transfers .standby trivial, ?_⟩
  have stopped := (committed header cell.log).pcmCalls_outStandby
  rw [id_eq] at state
  rw [committed_append, id_eq, state]
  exact stopped.symm

/-- The frame size that a write has read is the one of the stream. -/
theorem frameSize_committed {log : List OutputCall} (transfers : ∀ call ∈ log, call.Transfers) :
    audioStreamOutFrameSize header (committed header log).out =
      audioStreamOutFrameSize header defaultOutput := by
  rw [OutputState.frameSize_eq, (playing_committed transfers).settings]
  rfl

/-- A write to a running stream. -/
theorem Settled.awaits (proper : locals.Proper header) (settled : cell.Settled header)
    (running : cell.state.out.standby = false) : cell.Awaits header locals id := by
  obtain ⟨transfers, state⟩ := settled
  have started : (committed header cell.log).out.standby = false := by
    rwa [← OutputState.pcmCalls_out, ← state]
  refine ⟨transfers, fun result => ?_⟩
  rw [committed_append, state]
  exact (OutputState.pcmCalls_outWrite_of_running
    ((frameSize_committed transfers).trans proper.1.symm) proper.2 started .ready result).symm

/-- A write that opens the PCM of a stream. -/
theorem Settled.opened (proper : locals.Proper header) (settled : cell.Settled header)
    (stopped : cell.state.out.standby = true) :
    (⟨cell.state.pcmOpen true, cell.log⟩ : SharedStream).Awaits header locals
      (·.setStandby false) := by
  obtain ⟨transfers, state⟩ := settled
  rw [id_eq] at state
  have standby : (committed header cell.log).out.standby = true := by
    rwa [← OutputState.pcmCalls_out, ← state]
  refine ⟨transfers, fun result => ?_⟩
  rw [committed_append, state]
  exact (OutputState.pcmCalls_outWrite_of_ready
    ((frameSize_committed transfers).trans proper.1.symm) proper.2 standby result).symm

/-- A write that does not start a stream. -/
theorem Settled.notStarted (proper : locals.Proper header) (settled : cell.Settled header)
    (stopped : cell.state.out.standby = true) {opening : PcmOpening} (notReady : opening ≠ .ready)
    (result : Int) :
    (cell.state.startOutputStream opening).2 =
      (committed header (cell.log ++ [.write locals.bytes opening result])).pcmCalls := by
  obtain ⟨transfers, state⟩ := settled
  rw [id_eq] at state
  have standby : (committed header cell.log).out.standby = true := by
    rwa [← OutputState.pcmCalls_out, ← state]
  rw [committed_append, state]
  exact (OutputState.pcmCalls_outWrite_of_notStarted
    ((frameSize_committed transfers).trans proper.1.symm) proper.2 standby notReady result).symm

/-- A write that has transferred its frames, or has not. -/
theorem Awaits.transferred (awaits : cell.Awaits header locals id) (result : Int) :
    (⟨cell.state.transfer locals result,
      cell.log ++ [.write locals.bytes .ready result]⟩ : SharedStream).Owes header
        (·.afterTransfer locals result) :=
  ⟨transfers_append awaits.1 (.write locals.bytes .ready result) trivial, awaits.2 result⟩

end SharedStream

/-- Every change of a stream is the next one of the call. -/
theorem Updates.valid {cell after : SharedStream} {point next : TransferPoint}
    (updates : Updates cell point after next) (valid : point.Valid header cell) :
    next.Valid header after := by
  cases updates with
  | alreadyStopped stopped =>
      have settled : SharedStream.Settled header _ := SharedStream.Settled.stopped valid
      rwa [stopped, if_pos rfl] at settled
  | stopped running =>
      have settled : SharedStream.Settled header _ := SharedStream.Settled.stopped valid
      rwa [running, if_neg (by decide)] at settled
  | inStandby locals stopped => exact ⟨valid.1, valid.2, stopped⟩
  | running locals running => exact ⟨valid.1, valid.2.awaits valid.1 running⟩
  | notOpened locals result =>
      obtain ⟨proper, settled, stopped⟩ := valid
      exact ⟨proper,
        SharedStream.transfers_append settled.1 (.write locals.bytes .null result) trivial,
        settled.notStarted proper stopped (by decide : PcmOpening.null ≠ .ready) result⟩
  | openedUnready locals result =>
      obtain ⟨proper, settled, stopped⟩ := valid
      exact ⟨proper,
        SharedStream.transfers_append settled.1 (.write locals.bytes .notReady result) trivial,
        settled.notStarted proper stopped (by decide : PcmOpening.notReady ≠ .ready) result⟩
  | opened locals => exact ⟨valid.1, valid.2.1.opened valid.1 valid.2.2⟩
  | closedUnready locals => exact valid
  | started locals => exact valid
  | underrun locals =>
      exact ⟨valid.1, valid.2.transferred (-epipe)⟩
  | transferred locals => exact ⟨valid.1, valid.2.transferred 0⟩
  | notTransferred locals result noUnderrun failed =>
      have transferred := valid.2.transferred result
      simp only [SharedStream.Owes, OutputState.afterTransfer, if_neg failed] at transferred
      exact ⟨valid.1, transferred⟩
  | counted locals => exact valid

/-- While a call has the mutex the settings of the stream are known. -/
theorem TransferPoint.Valid.settings {point : TransferPoint} {cell : SharedStream}
    (valid : point.Valid header cell) (holds : point.HoldsStream) :
    cell.state.settings = (OutputState.opened defaultOutput).settings := by
  cases point with
  | divided => exact valid.elim
  | standby point =>
      cases point with
      | stop | unlockStream => exact SharedStream.Settled.settings valid
      | _ => exact holds.elim
  | write locals point =>
      cases point with
      | testStandby | unlockUnstarted | unlockUnderrun | exit ret => exact valid.2.settings
      | openPcm => exact valid.2.1.settings
      | closeUnready => exact valid.2.settings fun state => rfl
      | count => exact valid.2.settings fun state => rfl
      | start => exact valid.2.settings fun state => rfl
      | unlockDevice | transfer => exact valid.2.settings fun state => rfl
      | _ => exact holds.elim

/-- Without the mutex nothing is known of the stream. -/
theorem TransferPoint.Valid.outside {point : TransferPoint} {cell : SharedStream}
    (valid : point.Valid header cell) (free : ¬ point.HoldsStream) (other : SharedStream) :
    point.Valid header other := by
  cases point with
  | divided => exact valid.elim
  | standby point =>
      cases point with
      | stop | unlockStream => exact absurd trivial free
      | _ => trivial
  | write locals point =>
      cases point with
      | lockDevice | lockStream | sleep ret | returnsUnderrun => exact valid
      | _ => exact absurd trivial free

/-- A frame of the only configuration has two samples of two bytes. -/
theorem frameSize_defaultOutput (contract : HeaderContract header) :
    audioStreamOutFrameSize header defaultOutput = 4 := by
  change header.frameSize (header.channelCountFromOutMask audioChannelOutStereo)
    audioFormatPcm16Bit = 4
  rw [AudioHeader.frameSize, contract.pcm16Bit.1, contract.pcm16Bit.2, contract.outStereo]
  decide

variable {Stream : Type}

/-- A write finds frames of a known size, whoever has the stream. -/
theorem enter_valid (contract : HeaderContract header) (stream : Stream) {cell : SharedStream}
    (settings : cell.state.settings = (OutputState.opened defaultOutput).settings)
    (call : Transfer) (other : SharedStream) :
    ((transferCode header Stream).enter stream call cell).Valid header other := by
  have size : audioStreamOutFrameSize header cell.state.out =
      audioStreamOutFrameSize header defaultOutput := by
    rw [OutputState.frameSize_eq, settings]
    rfl
  cases call with
  | standby => trivial
  | write bytes =>
      simp only [transferCode]
      cases frames : divide bytes (audioStreamOutFrameSize header cell.state.out) with
      | none =>
          rw [divide_eq_none_iff, size, frameSize_defaultOutput contract] at frames
          exact absurd frames (by decide)
      | some inFrames => exact ⟨size, frames⟩

/-- The mutex of a stream protects it. -/
theorem transferCode_monitors (contract : HeaderContract header) :
    (transferCode header Stream).Monitors heldMutexes (fun _ cell => cell.Settled header)
      (fun activation cell => activation.point.Valid header cell) where
  own holds := holds.1.symm
  enter_settled {stream cell} settled call other :=
    enter_valid contract stream settled.settings call other
  enter_valid {activation cell} holds valid call other :=
    enter_valid contract activation.region (valid.settings holds.2) call other
  outside free valid other := valid.outside (fun holds => free ⟨rfl, holds⟩) other
  acquire {activation answer cell mutex next} acts valid settled := by
    obtain ⟨stream, point⟩ := activation
    cases acquires_of_act acts with
    | standbyDevice => trivial
    | standbyStream => exact settled rfl
    | writeDevice locals => exact valid
    | writeStream locals => exact ⟨valid, settled rfl⟩
  release {activation answer cell mutex next} acts valid := by
    obtain ⟨stream, point⟩ := activation
    cases releases_of_act acts with
    | standbyStream => exact ⟨trivial, fun _ => valid⟩
    | standbyDevice => exact ⟨trivial, fun other => by cases other⟩
    | started locals => exact ⟨valid, fun other => by cases other⟩
    | unstarted locals => exact ⟨valid, fun other => by cases other⟩
    | underrun locals | exit locals ret => exact ⟨valid.1, fun _ => valid.2⟩
  update acts valid :=
    ⟨⟨rfl, (updates_of_act acts).held.1⟩, (updates_of_act acts).valid valid⟩

/-! ## What threads keep -/

/-- A proper call on a PCM stays proper without the calls on mutexes. -/
theorem AudioEvent.Proper.pcmCalls {before : List AudioEvent} {event : AudioEvent}
    (onPcm : event.OnPcm = true) (proper : event.Proper before) :
    event.Proper (before.filter AudioEvent.OnPcm) := by
  cases event with
  | lock mutex | unlock mutex | usleep useconds => cases onPcm
  | pcmOpen pcm given =>
      intro ready member
      exact proper ready (List.mem_filter.mp member).1
  | pcmClose pcm =>
      obtain ⟨opened, ready, same, wasOpened, notClosed⟩ := proper
      refine ⟨opened, ready, same, List.mem_filter.mpr ⟨wasOpened, rfl⟩, fun member => ?_⟩
      exact notClosed (List.mem_filter.mp member).1
  | pcmWrite pcm count result =>
      obtain ⟨opened, same, wasOpened, notClosed⟩ := proper
      refine ⟨opened, same, List.mem_filter.mpr ⟨wasOpened, rfl⟩, fun member => ?_⟩
      exact notClosed (List.mem_filter.mp member).1

namespace SharedStream

variable {cell : SharedStream} {locals : WriteLocals}

variable (header) in
/-- The calls on PCMs so far are the first ones of a sequence of calls: of the log, and at most
one more. -/
def Underway (cell : SharedStream) : Prop :=
  ∃ calls, (∀ call ∈ calls, call.Transfers) ∧ cell.log <+: calls ∧
    calls.length ≤ cell.log.length + 1 ∧
    cell.state.events <+: (committed header calls).pcmCalls.events

theorem Owes.underway {rest : OutputState → OutputState} (owes : cell.Owes header rest)
    (extends_ : ∀ state, state.events <+: (rest state).events) : cell.Underway header :=
  ⟨cell.log, owes.1, List.prefix_rfl, Nat.le_succ _, owes.2 ▸ extends_ cell.state⟩

theorem Awaits.underway {rest : OutputState → OutputState} (awaits : cell.Awaits header locals rest)
    (keeps : ∀ state, (rest state).events = state.events) : cell.Underway header := by
  refine ⟨cell.log ++ [.write locals.bytes .ready 0],
    transfers_append awaits.1 (.write locals.bytes .ready 0) trivial, List.prefix_append _ _,
    by simp, ?_⟩
  rw [← awaits.2 0, ← keeps cell.state]
  exact List.prefix_append _ _

/-- Every call on a PCM so far is a proper one. -/
theorem Underway.proper (underway : cell.Underway header) :
    Justified AudioEvent.Proper cell.state.events := by
  obtain ⟨calls, transfers, -, -, initial⟩ := underway
  have playing : Playing header (committed header calls) := playing_committed transfers
  have inOrder := playing.between.inOrder playing.counted
  exact (inOrder.proper.filter fun before event onPcm proper =>
    proper.pcmCalls onPcm).initialPart initial

end SharedStream

/-- A call that has the mutex is underway. -/
theorem TransferPoint.Valid.underway {point : TransferPoint} {cell : SharedStream}
    (valid : point.Valid header cell) (holds : point.HoldsStream) : cell.Underway header := by
  cases point with
  | divided => exact valid.elim
  | standby point =>
      cases point with
      | stop | unlockStream =>
          exact SharedStream.Owes.underway valid fun state => List.prefix_rfl
      | _ => exact holds.elim
  | write locals point =>
      cases point with
      | testStandby | unlockUnstarted | unlockUnderrun | exit ret =>
          exact valid.2.underway fun state => List.prefix_rfl
      | openPcm => exact valid.2.1.underway fun state => List.prefix_rfl
      | closeUnready => exact valid.2.underway fun state => List.prefix_append _ _
      | count => exact valid.2.underway fun state => List.prefix_rfl
      | start => exact valid.2.underway fun state => rfl
      | unlockDevice | transfer => exact valid.2.underway fun state => rfl
      | _ => exact holds.elim

variable {Thread : Type}

/-- The threads that use the streams of a device. -/
abbrev StreamThreads (Thread Stream : Type) :=
  Threads Thread (DeviceMutex Stream) Stream SharedStream TransferPoint

variable (header) in
/-- What holds of the streams of a device whatever its threads do. Between the calls a stream
is what the calls of its log have made of it, one after the other; within a call it is on the
way from one such state to the next. -/
structure StreamsInOrder (threads : StreamThreads Thread Stream) : Prop where
  exclusive : ∀ first second left right, threads.activations first = some left →
    threads.activations second = some right → left.region = right.region →
      left.point.HoldsStream → right.point.HoldsStream → first = second
  atomic : ∀ stream, threads.holder (.stream stream) = none →
    (threads.cells stream).Settled header
  underway : ∀ stream, (threads.cells stream).Underway header
  proper : ∀ stream, Justified AudioEvent.Proper (threads.cells stream).state.events

variable (header) in
/-- What holds in every turn: only a thread that has the mutex of a stream changes it, and no
call divides by zero. -/
def TurnInOrder [DecidableEq Thread] [DecidableEq Stream]
    (threads : StreamThreads Thread Stream) (turn : Turn Thread Stream Transfer PcmAnswer) :
    Prop :=
  (∀ stream, ((transferCode header Stream).machine.next threads turn).cells stream ≠
      threads.cells stream →
    ∃ thread answer, turn = .act thread answer ∧
      threads.holder (.stream stream) = some thread) ∧
    (transferCode header Stream).machine.answer threads turn ≠ some none

/-- The threads are in order, and so are the mutexes. -/
abbrev SoundStreams (header : AudioHeader) (threads : StreamThreads Thread Stream) : Prop :=
  threads.Agrees heldMutexes ∧
    (transferCode header Stream).Sound (fun _ cell => cell.Settled header)
      (fun activation cell => activation.point.Valid header cell) threads

variable {threads : StreamThreads Thread Stream}

theorem SoundStreams.inOrder (contract : HeaderContract header)
    (sound : SoundStreams header threads) : StreamsInOrder header threads := by
  obtain ⟨agrees, sound⟩ := sound
  have underway : ∀ stream, (threads.cells stream).Underway header := by
    intro stream
    rcases sound.known agrees (transferCode_monitors contract) stream with
      settled | ⟨activation, held, -, valid⟩
    · exact SharedStream.Owes.underway settled fun state => List.prefix_rfl
    · exact valid.underway held.2
  refine ⟨fun first second left right inFirst inSecond same byFirst bySecond => ?_,
    sound.settled, underway, fun stream => (underway stream).proper⟩
  have held : .stream left.region ∈ heldMutexes left := ⟨rfl, byFirst⟩
  have alsoHeld : .stream left.region ∈ heldMutexes right := ⟨same, bySecond⟩
  exact agrees.exclusive inFirst inSecond held alsoHeld

/-- The settings of every stream are known at any time. -/
theorem SoundStreams.settings (contract : HeaderContract header)
    (sound : SoundStreams header threads) (stream : Stream) :
    (threads.cells stream).state.settings = (OutputState.opened defaultOutput).settings := by
  rcases sound.2.known sound.1 (transferCode_monitors contract) stream with
    settled | ⟨activation, held, -, valid⟩
  · exact SharedStream.Settled.settings settled
  · exact valid.settings held.2

/-- A call returns a number if the settings allow its divisions. -/
theorem returned_ne_none (contract : HeaderContract header)
    {activation : Activation Stream TransferPoint} {answer : PcmAnswer} {cell : SharedStream}
    (settings : cell.state.settings = (OutputState.opened defaultOutput).settings)
    (valid : activation.point.Valid header cell) {returned : Option Int}
    (acts : (transferCode header Stream).act activation answer cell = .finish returned) :
    returned ≠ none := by
  obtain ⟨stream, point⟩ := activation
  cases finishes_of_act acts with
  | standby => cases acts; simp
  | divided => exact valid.elim
  | underrun locals => cases acts; simp
  | sleep locals ret =>
      rintro rfl
      simp only [transferCode, writeStatement] at acts
      split at acts
      · have divides := duration_eq_none_iff (locals.bytes * 1000000)
          (audioStreamOutFrameSize header cell.state.out) cell.state.out.sampleRate
        have size : audioStreamOutFrameSize header cell.state.out = 4 := by
          rw [OutputState.frameSize_eq, settings]
          exact frameSize_defaultOutput contract
        have rate : cell.state.out.sampleRate = stubDefaultSampleRate :=
          congrArg AudioConfig.sampleRate settings
        have zero := divides.mp (by simpa using acts)
        rw [size, rate] at zero
        exact absurd zero (by decide)
      · cases acts

variable [DecidableEq Thread] [DecidableEq Stream]

theorem SoundStreams.turn (contract : HeaderContract header)
    (sound : SoundStreams header threads) (turn : Turn Thread Stream Transfer PcmAnswer) :
    TurnInOrder header threads turn := by
  refine ⟨fun stream changes =>
    (transferCode_monitors contract).changed sound.1 sound.2 changes, ?_⟩
  cases turn with
  | begin thread stream call => simp [Machine.answer, Code.machine]
  | act thread answer =>
      intro divided
      obtain ⟨activation, busy, acts⟩ := Code.finish_of_turn divided
      exact returned_ne_none contract (sound.settings contract activation.region)
        (sound.2.valid thread activation busy) acts rfl

/-- Any threads that write to the streams of a device and put them in standby, in any order of
their turns. -/
theorem threads_share_streams (contract : HeaderContract header) {allocated : Bool}
    {config : AudioConfig} {out : StreamOut}
    (opened : adevOpenOutputStream allocated config = (0, some out))
    (turns : List (Turn Thread Stream Transfer PcmAnswer)) :
    (transferCode header Stream).machine.Always (StreamsInOrder header)
        (Threads.idle fun _ => .opened out) turns ∧
      (transferCode header Stream).machine.EachStep (TurnInOrder header)
        (Threads.idle fun _ => .opened out) turns := by
  rw [openedOutput_eq opened]
  have settled : (SharedStream.opened defaultOutput).Settled header :=
    ⟨fun call none => absurd none List.not_mem_nil, rfl⟩
  have start : (transferCode header Stream).Sound (fun _ cell => cell.Settled header)
      (fun activation cell => activation.point.Valid header cell)
      (Threads.idle fun _ => .opened defaultOutput : StreamThreads Thread Stream) :=
    ⟨fun stream free => settled, fun thread activation busy => by cases busy⟩
  have always := (transferCode_monitors contract).always transferCode_disciplined
    (Threads.agrees_idle _) start turns
  exact ⟨always.mono fun threads sound => SoundStreams.inOrder contract sound,
    always.eachStep fun threads turn sound => SoundStreams.turn contract sound turn⟩

/-- A thread that writes to a stream and one that puts it in standby. The second one waits
until the first one is done. -/
theorem threads_share_streams_example :
    (transferCode exampleHeader Unit).machine.Always (StreamsInOrder exampleHeader)
      (Threads.idle fun _ => .opened defaultOutput : StreamThreads Bool Unit)
      ([.begin true () (.write 1764), .begin false () .standby] ++
        List.replicate 9 (.act true ⟨.ready, 0⟩) ++ List.replicate 2 (.act false ⟨.ready, 0⟩)) :=
  (threads_share_streams exampleHeader_contract
    (show adevOpenOutputStream true defaultOutputConfig = (0, some defaultOutput) by decide)
    _).1

/-- However threads write to the streams of a device and put them in standby, from every state
that they reach their calls return after at most ten turns for each thread that is in one, if
the threads that can go on do so. Then every mutex is free. -/
theorem threads_complete_transfers [Fintype Thread]
    (cells : Stream → SharedStream) (turns : List (Turn Thread Stream Transfer PcmAnswer)) :
    (transferCode header Stream).machine.Always
      ((transferCode header Stream).Completes (Fintype.card Thread * 10))
      (Threads.idle cells) turns := by
  have kept : ∀ (threads : StreamThreads Thread Stream) turn, threads.Agrees heldMutexes →
      ((transferCode header Stream).machine.next threads turn).Agrees heldMutexes :=
    fun threads turn agrees => transferCode_disciplined.next agrees turn
  have bounded : ∀ point : TransferPoint, point.remaining ≤ 10 := by
    intro point
    unfold TransferPoint.remaining
    split <;> decide
  have agrees := Machine.always_of_invariant _ kept (Threads.agrees_idle cells) turns
  have : Nonempty PcmAnswer := ⟨⟨.null, 0⟩⟩
  exact agrees.mono fun threads agrees => transferCode_disciplined.completes
    (fun acts => (acquires_of_act acts).ranks) transferCode_shortens bounded agrees

end Atomic

end Arpi.Audio
