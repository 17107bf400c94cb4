import Arpi.Semantics.Machine
import Mathlib.Algebra.BigOperators.Group.Finset.Basic
import Mathlib.Algebra.Order.BigOperators.Group.Finset
import Mathlib.Data.Set.Insert
import Mathlib.Order.WellFounded

/-!
# Threads and locks

Threads make calls on regions of a memory. In one turn the code of a call takes a lock,
gives one back, changes the cell of its region, or returns; a thread that wants a lock which
is taken loses its turn. `Code.Disciplined` says which locks are held where. From it follow
mutual exclusion, and with an order on the locks that some thread can always go on.

Every region has a lock that guards it. `Code.Monitors` is the rule for what the guards
protect: what a region owes to whoever takes its lock, and what a thread knows in between.
-/

namespace Arpi.Semantics

/-- A call in progress: its region, and the point that its code has reached. -/
structure Activation (Region Point : Type*) where
  region : Region
  point : Point

/-- The same call at another point. -/
def Activation.moveTo {Region Point : Type*} (activation : Activation Region Point) (point : Point) :
    Activation Region Point :=
  { activation with point := point }

/-- What a thread does in one turn. -/
inductive Action (Lock Cell Point Answer : Type*) where
  | acquire (lock : Lock) (next : Point)
  | release (lock : Lock) (next : Point)
  | update (cell : Cell) (next : Point)
  | finish (answer : Answer)

/-- The code of calls, and the lock of every region. What a call reads before it has a lock
is read when it is entered. -/
structure Code (Lock Region Cell Call Point Input Answer : Type*) where
  guard : Region → Lock
  enter : Region → Call → Cell → Point
  act : Activation Region Point → Input → Cell → Action Lock Cell Point Answer

/-- Who holds each lock, what is in the memory, and where the threads are. -/
structure Threads (Thread Lock Region Cell Point : Type*) where
  holder : Lock → Option Thread
  cells : Region → Cell
  activations : Thread → Option (Activation Region Point)

/-- A thread begins a call, or goes on with the one it has begun. -/
inductive Turn (Thread Region Call Input : Type*) where
  | begin (thread : Thread) (region : Region) (call : Call)
  | act (thread : Thread) (input : Input)

/-- No thread is in a call, and no lock is held. -/
def Threads.idle {Thread Lock Region Cell Point : Type*} (cells : Region → Cell) :
    Threads Thread Lock Region Cell Point :=
  ⟨fun _ => none, cells, fun _ => none⟩

variable {Thread Lock Region Cell Call Point Input Answer : Type*}

namespace Code

variable (code : Code Lock Region Cell Call Point Input Answer)

section Turns

variable [DecidableEq Thread] [DecidableEq Lock] [DecidableEq Region]

/-- Begin a call, unless the thread is in one. -/
def begin (thread : Thread) (region : Region) (call : Call)
    (threads : Threads Thread Lock Region Cell Point) : Threads Thread Lock Region Cell Point :=
  match threads.activations thread with
  | some _ => threads
  | none =>
      { threads with
        activations := Function.update threads.activations thread
          (some ⟨region, code.enter region call (threads.cells region)⟩) }

/-- One turn of a thread: what its call returns, if it returns, and what is left behind. -/
def turn (thread : Thread) (input : Input) (threads : Threads Thread Lock Region Cell Point) :
    Option Answer × Threads Thread Lock Region Cell Point :=
  match threads.activations thread with
  | none => (none, threads)
  | some activation =>
      match code.act activation input (threads.cells activation.region) with
      | .acquire lock next =>
          match threads.holder lock with
          | some _ => (none, threads)
          | none =>
              (none, { threads with
                holder := Function.update threads.holder lock (some thread)
                activations := Function.update threads.activations thread
                  (some (activation.moveTo next)) })
      | .release lock next =>
          (none, { threads with
            holder := Function.update threads.holder lock none
            activations := Function.update threads.activations thread
              (some (activation.moveTo next)) })
      | .update cell next =>
          (none, { threads with
            cells := Function.update threads.cells activation.region cell
            activations := Function.update threads.activations thread
              (some (activation.moveTo next)) })
      | .finish answer =>
          (some answer, { threads with
            activations := Function.update threads.activations thread none })

/-- Threads taking turns in any order. -/
def machine : Machine (Threads Thread Lock Region Cell Point) (Turn Thread Region Call Input)
    (Option Answer) where
  step threads
    | .begin thread region call => (none, code.begin thread region call threads)
    | .act thread input => code.turn thread input threads

/-- A thread wants a lock that is taken. -/
def Blocked (thread : Thread) (input : Input)
    (threads : Threads Thread Lock Region Cell Point) : Prop :=
  ∃ activation lock next, threads.activations thread = some activation ∧
    code.act activation input (threads.cells activation.region) = .acquire lock next ∧
    threads.holder lock ≠ none

/-- What a turn can do. -/
inductive TurnOutcome (thread : Thread) (input : Input)
    (threads : Threads Thread Lock Region Cell Point) :
    Option Answer × Threads Thread Lock Region Cell Point → Prop where
  | idle (unused : threads.activations thread = none) :
      TurnOutcome thread input threads (none, threads)
  | blocked (waits : code.Blocked thread input threads) :
      TurnOutcome thread input threads (none, threads)
  | acquired {activation : Activation Region Point} {lock : Lock} {next : Point}
      (busy : threads.activations thread = some activation)
      (acts : code.act activation input (threads.cells activation.region) = .acquire lock next)
      (free : threads.holder lock = none) :
      TurnOutcome thread input threads (none,
        ⟨Function.update threads.holder lock (some thread), threads.cells,
          Function.update threads.activations thread (some (activation.moveTo next))⟩)
  | released {activation : Activation Region Point} {lock : Lock} {next : Point}
      (busy : threads.activations thread = some activation)
      (acts : code.act activation input (threads.cells activation.region) = .release lock next) :
      TurnOutcome thread input threads (none,
        ⟨Function.update threads.holder lock none, threads.cells,
          Function.update threads.activations thread (some (activation.moveTo next))⟩)
  | updated {activation : Activation Region Point} {cell : Cell} {next : Point}
      (busy : threads.activations thread = some activation)
      (acts : code.act activation input (threads.cells activation.region) = .update cell next) :
      TurnOutcome thread input threads (none,
        ⟨threads.holder, Function.update threads.cells activation.region cell,
          Function.update threads.activations thread (some (activation.moveTo next))⟩)
  | finished {activation : Activation Region Point} {answer : Answer}
      (busy : threads.activations thread = some activation)
      (acts : code.act activation input (threads.cells activation.region) = .finish answer) :
      TurnOutcome thread input threads (some answer,
        ⟨threads.holder, threads.cells, Function.update threads.activations thread none⟩)

/-- The specification of a turn. -/
theorem turn_outcome (thread : Thread) (input : Input)
    (threads : Threads Thread Lock Region Cell Point) :
    code.TurnOutcome thread input threads (code.turn thread input threads) := by
  cases busy : threads.activations thread with
  | none =>
      simp only [turn, busy]
      exact .idle busy
  | some activation =>
      cases acts : code.act activation input (threads.cells activation.region) with
      | acquire lock next =>
          cases free : threads.holder lock with
          | none =>
              simp only [turn, busy, acts, free]
              exact .acquired busy acts free
          | some other =>
              simp only [turn, busy, acts, free]
              exact .blocked ⟨activation, lock, next, busy, acts, by simp [free]⟩
      | release lock next =>
          simp only [turn, busy, acts]
          exact .released busy acts
      | update cell next =>
          simp only [turn, busy, acts]
          exact .updated busy acts
      | finish answer =>
          simp only [turn, busy, acts]
          exact .finished busy acts

variable {code} in
/-- A turn that returns is one where the call finishes. -/
theorem finish_of_turn {thread : Thread} {input : Input}
    {threads : Threads Thread Lock Region Cell Point} {answer : Answer}
    (returns : (code.turn thread input threads).1 = some answer) :
    ∃ activation, threads.activations thread = some activation ∧
      code.act activation input (threads.cells activation.region) = .finish answer := by
  have outcome := code.turn_outcome thread input threads
  revert returns outcome
  generalize code.turn thread input threads = result
  intro returns outcome
  cases outcome with
  | finished busy acts =>
      obtain rfl := Option.some.inj returns
      exact ⟨_, busy, acts⟩
  | _ => cases returns

end Turns

/-! ## Which locks are held -/

/-- The locks that a call holds at each of its points. -/
structure Disciplined (holds : Activation Region Point → Set Lock) : Prop where
  enter : ∀ region call cell, holds ⟨region, code.enter region call cell⟩ = ∅
  acquire : ∀ {activation input cell lock next},
    code.act activation input cell = .acquire lock next →
      lock ∉ holds activation ∧ holds (activation.moveTo next) = insert lock (holds activation)
  release : ∀ {activation input cell lock next},
    code.act activation input cell = .release lock next →
      lock ∈ holds activation ∧ holds (activation.moveTo next) = holds activation \ {lock}
  update : ∀ {activation input cell after next},
    code.act activation input cell = .update after next →
      holds (activation.moveTo next) = holds activation
  finish : ∀ {activation input cell answer},
    code.act activation input cell = .finish answer → holds activation = ∅

end Code

/-- The holders of the locks are the threads that hold them where they are. -/
def Threads.Agrees (holds : Activation Region Point → Set Lock)
    (threads : Threads Thread Lock Region Cell Point) : Prop :=
  ∀ lock thread, threads.holder lock = some thread ↔
    ∃ activation, threads.activations thread = some activation ∧ lock ∈ holds activation

namespace Threads

variable {holds : Activation Region Point → Set Lock}
  {threads : Threads Thread Lock Region Cell Point}

theorem agrees_idle (cells : Region → Cell) :
    (idle cells : Threads Thread Lock Region Cell Point).Agrees holds := by
  intro lock thread
  simp [idle]

/-- No two threads hold one lock. -/
theorem Agrees.exclusive (agrees : threads.Agrees holds) {lock : Lock} {first second : Thread}
    {left right : Activation Region Point} (inFirst : threads.activations first = some left)
    (inSecond : threads.activations second = some right) (byFirst : lock ∈ holds left)
    (bySecond : lock ∈ holds right) : first = second := by
  have firstHolds := (agrees lock first).mpr ⟨left, inFirst, byFirst⟩
  have secondHolds := (agrees lock second).mpr ⟨right, inSecond, bySecond⟩
  exact Option.some.inj (firstHolds.symm.trans secondHolds)

/-- A lock that is free is held nowhere. -/
theorem Agrees.not_held (agrees : threads.Agrees holds) {lock : Lock} {thread : Thread}
    {activation : Activation Region Point} (free : threads.holder lock = none)
    (busy : threads.activations thread = some activation) : lock ∉ holds activation := by
  intro held
  rw [(agrees lock thread).mpr ⟨activation, busy, held⟩] at free
  cases free

variable [DecidableEq Thread]

/-- A thread that moves to a point with the same locks. -/
theorem Agrees.moved (agrees : threads.Agrees holds) {thread : Thread}
    {before after : Activation Region Point} {cells : Region → Cell}
    (busy : threads.activations thread = some before) (same : holds after = holds before) :
    (⟨threads.holder, cells, Function.update threads.activations thread (some after)⟩ :
      Threads Thread Lock Region Cell Point).Agrees holds := by
  intro lock other
  refine (agrees lock other).trans ?_
  by_cases here : other = thread
  · subst here
    simp [busy, same]
  · simp [Function.update_of_ne here]

/-- A thread without locks that begins a call or ends one. -/
theorem Agrees.without (agrees : threads.Agrees holds) {thread : Thread}
    {after : Option (Activation Region Point)} {cells : Region → Cell}
    (before : ∀ activation, threads.activations thread = some activation → holds activation = ∅)
    (none : ∀ activation, after = some activation → holds activation = ∅) :
    (⟨threads.holder, cells, Function.update threads.activations thread after⟩ :
      Threads Thread Lock Region Cell Point).Agrees holds := by
  intro lock other
  refine (agrees lock other).trans ?_
  by_cases here : other = thread
  · subst here
    refine iff_of_false ?_ ?_
    · rintro ⟨activation, busy, held⟩
      rw [before activation busy] at held
      exact held
    · rintro ⟨activation, busy, held⟩
      rw [none activation (by simpa using busy)] at held
      exact held
  · simp [Function.update_of_ne here]

variable [DecidableEq Lock]

theorem Agrees.acquired (agrees : threads.Agrees holds) {thread : Thread} {lock : Lock}
    {before after : Activation Region Point}
    (busy : threads.activations thread = some before) (free : threads.holder lock = none)
    (gains : holds after = insert lock (holds before)) :
    (⟨Function.update threads.holder lock (some thread), threads.cells,
      Function.update threads.activations thread (some after)⟩ :
        Threads Thread Lock Region Cell Point).Agrees holds := by
  intro other user
  by_cases sameLock : other = lock
  · subst sameLock
    by_cases here : user = thread
    · subst here
      simp [gains]
    · have nowhere : ∀ activation, threads.activations user = some activation →
          other ∉ holds activation := fun activation => agrees.not_held free
      simpa [here, Ne.symm here] using nowhere
  · dsimp only
    rw [Function.update_of_ne sameLock, agrees other user]
    by_cases here : user = thread
    · subst here
      simp [busy, gains, sameLock]
    · simp [Function.update_of_ne here]

theorem Agrees.released (agrees : threads.Agrees holds) {thread : Thread} {lock : Lock}
    {before after : Activation Region Point}
    (busy : threads.activations thread = some before) (held : lock ∈ holds before)
    (loses : holds after = holds before \ {lock}) :
    (⟨Function.update threads.holder lock none, threads.cells,
      Function.update threads.activations thread (some after)⟩ :
        Threads Thread Lock Region Cell Point).Agrees holds := by
  intro other user
  by_cases sameLock : other = lock
  · subst sameLock
    by_cases here : user = thread
    · subst here
      simp [loses]
    · have nowhere : ∀ activation, threads.activations user = some activation →
          other ∉ holds activation :=
        fun activation inUser heldThere =>
          here (agrees.exclusive inUser busy heldThere held)
      simpa [here] using nowhere
  · dsimp only
    rw [Function.update_of_ne sameLock, agrees other user]
    by_cases here : user = thread
    · subst here
      simp [busy, loses, sameLock]
    · simp [Function.update_of_ne here]

end Threads

namespace Code

variable {code : Code Lock Region Cell Call Point Input Answer}
  {holds : Activation Region Point → Set Lock} {threads : Threads Thread Lock Region Cell Point}

section Runs

variable [DecidableEq Thread]

theorem Disciplined.begin (discipline : code.Disciplined holds) (agrees : threads.Agrees holds)
    (thread : Thread) (region : Region) (call : Call) :
    (code.begin thread region call threads).Agrees holds := by
  unfold Code.begin
  split
  · exact agrees
  next unused =>
    refine agrees.without (fun activation busy => ?_) fun activation entered => ?_
    · rw [unused] at busy
      cases busy
    · obtain rfl := Option.some.inj entered
      exact discipline.enter ..

variable [DecidableEq Lock] [DecidableEq Region]

theorem Disciplined.turn (discipline : code.Disciplined holds) (agrees : threads.Agrees holds)
    {thread : Thread} {input : Input} {result : Option Answer × Threads Thread Lock Region Cell Point}
    (outcome : code.TurnOutcome thread input threads result) : result.2.Agrees holds := by
  cases outcome with
  | idle unused => exact agrees
  | blocked waits => exact agrees
  | acquired busy acts free => exact agrees.acquired busy free (discipline.acquire acts).2
  | released busy acts =>
      exact agrees.released busy (discipline.release acts).1 (discipline.release acts).2
  | updated busy acts => exact agrees.moved busy (discipline.update acts)
  | finished busy acts =>
      refine agrees.without (fun activation same => ?_) fun activation entered => by cases entered
      obtain rfl := Option.some.inj (busy.symm.trans same)
      exact discipline.finish acts

theorem Disciplined.next (discipline : code.Disciplined holds) (agrees : threads.Agrees holds)
    (step : Turn Thread Region Call Input) : (code.machine.next threads step).Agrees holds := by
  cases step with
  | begin thread region call => exact discipline.begin agrees thread region call
  | act thread input => exact discipline.turn agrees (code.turn_outcome thread input threads)

end Runs

/-! ## Going on -/

section Progress

variable {Rank : Type*} [Preorder Rank] [WellFoundedGT Rank] {rank : Lock → Rank}

/-- Deadlock freedom: if every lock that is taken ranks above the locks that are held, then
whenever a call is in progress some call can go on, whatever the inputs of the threads. -/
theorem exists_unblocked
    (ordered : ∀ {activation input cell lock next},
      code.act activation input cell = .acquire lock next →
        ∀ held ∈ holds activation, rank held < rank lock)
    (agrees : threads.Agrees holds) (inputs : Thread → Input) {thread : Thread}
    (busy : threads.activations thread ≠ none) :
    ∃ other, threads.activations other ≠ none ∧ ¬ code.Blocked other (inputs other) threads := by
  by_contra stuck
  push Not at stuck
  -- The thread that wants the lock of the highest rank waits for another blocked thread.
  have nobody : ∀ lock thread activation next, threads.activations thread = some activation →
      code.act activation (inputs thread) (threads.cells activation.region) =
        .acquire lock next → threads.holder lock = none := by
    intro lock
    induction lock using WellFounded.induction
      (InvImage.wf rank (wellFounded_gt : WellFounded ((· > ·) : Rank → Rank → Prop))) with
    | _ lock ih =>
        intro thread activation next inThread acts
        cases taken : threads.holder lock with
        | none => rfl
        | some holder =>
            obtain ⟨holding, inHolder, held⟩ := (agrees lock holder).mp taken
            obtain ⟨same, wanted, after, found, waits, unavailable⟩ :=
              stuck holder (by rw [inHolder]; simp)
            obtain rfl := Option.some.inj (inHolder.symm.trans found)
            exact absurd (ih wanted (ordered waits lock held) holder holding after inHolder waits)
              unavailable
  obtain ⟨activation, lock, next, inThread, acts, taken⟩ := stuck thread busy
  exact taken (nobody lock thread activation next inThread acts)

variable (code) in
/-- How many turns a call takes from each of its points, at most. -/
structure Shortens (remaining : Point → Nat) : Prop where
  acquire : ∀ {activation input cell lock next},
    code.act activation input cell = .acquire lock next →
      remaining next < remaining activation.point
  release : ∀ {activation input cell lock next},
    code.act activation input cell = .release lock next →
      remaining next < remaining activation.point
  update : ∀ {activation input cell after next},
    code.act activation input cell = .update after next →
      remaining next < remaining activation.point
  finish : ∀ {activation input cell answer},
    code.act activation input cell = .finish answer → 0 < remaining activation.point

/-- The turns that the calls of all threads take together, at most. -/
def turnsLeft [Fintype Thread] (remaining : Point → Nat)
    (threads : Threads Thread Lock Region Cell Point) : Nat :=
  ∑ thread, (threads.activations thread).elim 0 fun activation => remaining activation.point

variable [Fintype Thread] [DecidableEq Thread] {remaining : Point → Nat}

/-- A thread gets nearer to its end, the others stay where they are. -/
theorem turnsLeft_lt {thread : Thread} {activation : Activation Region Point}
    {after : Option (Activation Region Point)} {holder : Lock → Option Thread}
    {cells : Region → Cell} (busy : threads.activations thread = some activation)
    (shorter : (after.elim 0 fun activation => remaining activation.point) <
      remaining activation.point) :
    turnsLeft remaining
        (⟨holder, cells, Function.update threads.activations thread after⟩ :
          Threads Thread Lock Region Cell Point) <
      turnsLeft remaining threads := by
  refine Finset.sum_lt_sum (fun other _ => ?_) ⟨thread, Finset.mem_univ thread, ?_⟩
  · by_cases here : other = thread
    · subst here
      simp only [Function.update_self, busy, Option.elim_some]
      exact shorter.le
    · simp only [Function.update_of_ne here, le_refl]
  · simp only [Function.update_self, busy, Option.elim_some]
    exact shorter

omit [DecidableEq Thread] in
theorem turnsLeft_le {most : Nat} (bounded : ∀ point, remaining point ≤ most) :
    turnsLeft remaining threads ≤ Fintype.card Thread * most := by
  refine Finset.sum_le_card_nsmul _ _ _ fun thread _ => ?_
  cases threads.activations thread with
  | none => exact Nat.zero_le most
  | some activation => exact bounded activation.point

variable [DecidableEq Lock] [DecidableEq Region]

/-- A turn of a call that is not blocked leaves fewer turns. -/
theorem Shortens.turn (shortens : code.Shortens remaining) {thread : Thread} {input : Input}
    (busy : threads.activations thread ≠ none) (unblocked : ¬ code.Blocked thread input threads)
    {result : Option Answer × Threads Thread Lock Region Cell Point}
    (outcome : code.TurnOutcome thread input threads result) :
    turnsLeft remaining result.2 < turnsLeft remaining threads := by
  cases outcome with
  | idle unused => exact absurd unused busy
  | blocked waits => exact absurd waits unblocked
  | acquired busy acts free => exact turnsLeft_lt busy (shortens.acquire acts)
  | released busy acts => exact turnsLeft_lt busy (shortens.release acts)
  | updated busy acts => exact turnsLeft_lt busy (shortens.update acts)
  | finished busy acts => exact turnsLeft_lt busy (shortens.finish acts)

variable (code) in
/-- A turn that gets a call on. -/
def GoesOn (threads : Threads Thread Lock Region Cell Point) :
    Turn Thread Region Call Input → Prop
  | .begin .. => False
  | .act thread input =>
      threads.activations thread ≠ none ∧ ¬ code.Blocked thread input threads

/-- Calls that go on come to an end. -/
theorem Shortens.run (shortens : code.Shortens remaining)
    {steps : List (Turn Thread Region Call Input)}
    (goesOn : code.machine.EachStep code.GoesOn threads steps) :
    steps.length + turnsLeft remaining (code.machine.run threads steps) ≤
      turnsLeft remaining threads := by
  induction steps generalizing threads with
  | nil => simp
  | cons step rest ih =>
      obtain ⟨here, later⟩ := goesOn
      cases step with
      | begin thread region call => exact here.elim
      | act thread input =>
          have fewer := shortens.turn here.1 here.2 (code.turn_outcome thread input threads)
          have shorter := ih later
          rw [List.length_cons, Machine.run_cons]
          have moved : code.machine.next threads (.act thread input) =
              (code.turn thread input threads).2 := rfl
          rw [moved] at shorter ⊢
          omega

variable (code) in
/-- However the threads go on, they take no more turns than this; and where none of them can,
every call has returned and every lock is free. -/
def Completes (most : Nat) (threads : Threads Thread Lock Region Cell Point) : Prop :=
  ∀ steps, code.machine.EachStep code.GoesOn threads steps →
    steps.length ≤ most ∧
      ((∀ step, ¬ code.GoesOn (code.machine.run threads steps) step) →
        (∀ thread, (code.machine.run threads steps).activations thread = none) ∧
          ∀ lock, (code.machine.run threads steps).holder lock = none)

/-- Calls that take their locks in order complete. -/
theorem Disciplined.completes (discipline : code.Disciplined holds)
    (ordered : ∀ {activation input cell lock next},
      code.act activation input cell = .acquire lock next →
        ∀ held ∈ holds activation, rank held < rank lock)
    (shortens : code.Shortens remaining) {most : Nat} (bounded : ∀ point, remaining point ≤ most)
    [Nonempty Input] (agrees : threads.Agrees holds) :
    code.Completes (Fintype.card Thread * most) threads := by
  intro steps goesOn
  have short := shortens.run goesOn
  have few : turnsLeft remaining threads ≤ Fintype.card Thread * most := turnsLeft_le bounded
  refine ⟨by omega, fun stuck => ?_⟩
  have kept : ∀ (threads : Threads Thread Lock Region Cell Point) step, threads.Agrees holds →
      (code.machine.next threads step).Agrees holds :=
    fun threads step agrees => discipline.next agrees step
  have after := (Machine.always_of_invariant _ kept agrees steps).last
  have returned : ∀ thread, (code.machine.run threads steps).activations thread = none := by
    intro thread
    by_contra busy
    obtain ⟨other, running, unblocked⟩ :=
      exists_unblocked ordered after (fun _ => Classical.arbitrary Input) busy
    exact stuck (.act other (Classical.arbitrary Input)) ⟨running, unblocked⟩
  refine ⟨returned, fun lock => ?_⟩
  cases held : (code.machine.run threads steps).holder lock with
  | none => rfl
  | some thread =>
      obtain ⟨activation, busy, -⟩ := (after lock thread).mp held
      rw [returned] at busy
      cases busy

end Progress

/-! ## What the guards protect -/

/-- What a region owes to whoever takes its lock (`settled`), and what holds of a call and,
while it has the lock, of its region (`valid`). -/
structure Monitors (code : Code Lock Region Cell Call Point Input Answer)
    (holds : Activation Region Point → Set Lock) (settled : Region → Cell → Prop)
    (valid : Activation Region Point → Cell → Prop) : Prop where
  own : ∀ {activation region}, code.guard region ∈ holds activation → activation.region = region
  enter_settled : ∀ {region cell}, settled region cell → ∀ call other,
    valid ⟨region, code.enter region call cell⟩ other
  enter_valid : ∀ {activation cell}, code.guard activation.region ∈ holds activation →
    valid activation cell → ∀ call other,
      valid ⟨activation.region, code.enter activation.region call cell⟩ other
  outside : ∀ {activation cell}, code.guard activation.region ∉ holds activation →
    valid activation cell → ∀ other, valid activation other
  acquire : ∀ {activation input cell lock next},
    code.act activation input cell = .acquire lock next → valid activation cell →
      (lock = code.guard activation.region → settled activation.region cell) →
        valid (activation.moveTo next) cell
  release : ∀ {activation input cell lock next},
    code.act activation input cell = .release lock next → valid activation cell →
      valid (activation.moveTo next) cell ∧
        (lock = code.guard activation.region → settled activation.region cell)
  update : ∀ {activation input cell after next},
    code.act activation input cell = .update after next → valid activation cell →
      code.guard activation.region ∈ holds activation ∧ valid (activation.moveTo next) after

/-- The regions whose locks are free are settled, and every call is valid. -/
structure Sound (code : Code Lock Region Cell Call Point Input Answer)
    (settled : Region → Cell → Prop) (valid : Activation Region Point → Cell → Prop)
    (threads : Threads Thread Lock Region Cell Point) : Prop where
  settled : ∀ region, threads.holder (code.guard region) = none →
    settled region (threads.cells region)
  valid : ∀ thread activation, threads.activations thread = some activation →
    valid activation (threads.cells activation.region)

/-- What is known of a region: it is settled, or the call that has its lock is valid. -/
theorem Sound.known {settled : Region → Cell → Prop}
    {valid : Activation Region Point → Cell → Prop} (sound : code.Sound settled valid threads)
    (agrees : threads.Agrees holds) (monitors : code.Monitors holds settled valid)
    (region : Region) :
    settled region (threads.cells region) ∨
      ∃ activation, code.guard region ∈ holds activation ∧ activation.region = region ∧
        valid activation (threads.cells region) := by
  cases taken : threads.holder (code.guard region) with
  | none => exact .inl (sound.settled region taken)
  | some thread =>
      obtain ⟨activation, busy, held⟩ := (agrees _ thread).mp taken
      obtain rfl := monitors.own held
      exact .inr ⟨activation, held, rfl, sound.valid thread activation busy⟩

section Guards

variable [DecidableEq Thread] {settled : Region → Cell → Prop}
  {valid : Activation Region Point → Cell → Prop}

/-- Entering a call is valid: its region is settled, or valid for the holder of its lock. -/
theorem Monitors.begin (monitors : code.Monitors holds settled valid)
    (agrees : threads.Agrees holds) (sound : code.Sound settled valid threads) (thread : Thread)
    (region : Region) (call : Call) :
    code.Sound settled valid (code.begin thread region call threads) := by
  unfold Code.begin
  split
  · exact sound
  · refine ⟨sound.settled, fun other activation busy => ?_⟩
    by_cases here : other = thread
    · subst here
      obtain rfl : _ = activation := Option.some.inj (by simpa using busy)
      cases taken : threads.holder (code.guard region) with
      | none => exact monitors.enter_settled (sound.settled region taken) call _
      | some holder =>
          obtain ⟨holding, inHolder, held⟩ := (agrees _ holder).mp taken
          obtain rfl := monitors.own held
          exact monitors.enter_valid held (sound.valid holder holding inHolder) call _
    · exact sound.valid other activation (by simpa [here] using busy)

/-- A turn that leaves the memory alone. -/
theorem Sound.moved (sound : code.Sound settled valid threads) {thread : Thread}
    {holder : Lock → Option Thread} {after : Option (Activation Region Point)}
    (owed : ∀ region, holder (code.guard region) = none →
      threads.holder (code.guard region) = none ∨ settled region (threads.cells region))
    (here : ∀ activation, after = some activation →
      valid activation (threads.cells activation.region)) :
    code.Sound settled valid
      (⟨holder, threads.cells, Function.update threads.activations thread after⟩ :
        Threads Thread Lock Region Cell Point) := by
  refine ⟨fun region free => ?_, fun other activation busy => ?_⟩
  · rcases owed region free with before | now
    · exact sound.settled region before
    · exact now
  · by_cases same : other = thread
    · subst same
      exact here activation (by simpa using busy)
    · exact sound.valid other activation (by simpa [same] using busy)

variable [DecidableEq Region]

/-- A turn that changes the memory: the lock of the region is held, so no other call has it. -/
theorem Monitors.updated (monitors : code.Monitors holds settled valid)
    (agrees : threads.Agrees holds) (sound : code.Sound settled valid threads) {thread : Thread}
    {activation : Activation Region Point} {input : Input} {cell : Cell} {next : Point}
    (busy : threads.activations thread = some activation)
    (acts : code.act activation input (threads.cells activation.region) = .update cell next) :
    code.Sound settled valid
      (⟨threads.holder, Function.update threads.cells activation.region cell,
        Function.update threads.activations thread (some (activation.moveTo next))⟩ :
          Threads Thread Lock Region Cell Point) := by
  obtain ⟨held, valid⟩ := monitors.update acts (sound.valid thread activation busy)
  have taken := (agrees _ thread).mpr ⟨activation, busy, held⟩
  refine ⟨fun region free => ?_, fun other elsewhere inOther => ?_⟩
  · have different : region ≠ activation.region := by
      rintro rfl
      rw [taken] at free
      cases free
    dsimp only
    rw [Function.update_of_ne different]
    exact sound.settled region free
  · by_cases same : other = thread
    · subst same
      obtain rfl : activation.moveTo next = elsewhere := Option.some.inj (by simpa using inOther)
      simpa [Activation.moveTo] using valid
    · have inOther : threads.activations other = some elsewhere := by simpa [same] using inOther
      have before := sound.valid other elsewhere inOther
      by_cases together : elsewhere.region = activation.region
      · have free : code.guard elsewhere.region ∉ holds elsewhere := by
          rw [together]
          exact fun alsoHeld => same (agrees.exclusive inOther busy alsoHeld held)
        exact monitors.outside free before _
      · dsimp only
        rwa [Function.update_of_ne together]

variable [DecidableEq Lock]

/-- Who changes a region has its lock. -/
theorem Monitors.changed (monitors : code.Monitors holds settled valid)
    (agrees : threads.Agrees holds) (sound : code.Sound settled valid threads)
    {step : Turn Thread Region Call Input} {region : Region}
    (changes : (code.machine.next threads step).cells region ≠ threads.cells region) :
    ∃ thread input, step = .act thread input ∧
      threads.holder (code.guard region) = some thread := by
  cases step with
  | begin thread other call =>
      refine absurd ?_ changes
      change (code.begin thread other call threads).cells region = _
      unfold Code.begin
      split <;> rfl
  | act thread input =>
      change (code.turn thread input threads).2.cells region ≠ _ at changes
      have outcome := code.turn_outcome thread input threads
      revert changes outcome
      generalize code.turn thread input threads = result
      intro changes outcome
      cases outcome with
      | @updated activation cell next busy acts =>
          obtain ⟨held, -⟩ := monitors.update acts (sound.valid thread activation busy)
          have own : region = activation.region := by
            by_contra different
            exact changes (Function.update_of_ne different _ _)
          exact ⟨thread, input, rfl, (agrees _ thread).mpr ⟨activation, busy, own ▸ held⟩⟩
      | _ => exact absurd rfl changes

/-- Turns keep regions settled and calls valid. -/
theorem Monitors.turn (monitors : code.Monitors holds settled valid)
    (discipline : code.Disciplined holds) (agrees : threads.Agrees holds)
    (sound : code.Sound settled valid threads) {thread : Thread} {input : Input}
    {result : Option Answer × Threads Thread Lock Region Cell Point}
    (outcome : code.TurnOutcome thread input threads result) :
    code.Sound settled valid result.2 := by
  cases outcome with
  | idle unused => exact sound
  | blocked waits => exact sound
  | @acquired activation lock next busy acts free =>
      refine sound.moved (fun region still => ?_) fun after same => ?_
      · by_cases taken : code.guard region = lock
        · simp [taken] at still
        · exact .inl (by simpa [taken] using still)
      · obtain rfl := Option.some.inj same
        refine monitors.acquire acts (sound.valid thread activation busy) fun own => ?_
        exact sound.settled _ (own ▸ free)
  | @released activation lock next busy acts =>
      obtain ⟨valid, owed⟩ := monitors.release acts (sound.valid thread activation busy)
      refine sound.moved (fun region free => ?_) fun after same => ?_
      · by_cases given : code.guard region = lock
        · obtain rfl : activation.region = region :=
            monitors.own (given ▸ (discipline.release acts).1)
          exact .inr (owed given.symm)
        · exact .inl (by simpa [given] using free)
      · obtain rfl := Option.some.inj same
        exact valid
  | updated busy acts => exact monitors.updated agrees sound busy acts
  | finished busy acts =>
      exact sound.moved (fun region free => .inl free) fun after same => by cases same

/-- The run rule: the holders agree, the regions are settled and the calls valid, whatever
turns the threads take. -/
theorem Monitors.always (monitors : code.Monitors holds settled valid)
    (discipline : code.Disciplined holds) (agrees : threads.Agrees holds)
    (sound : code.Sound settled valid threads) (steps : List (Turn Thread Region Call Input)) :
    code.machine.Always
      (fun threads => threads.Agrees holds ∧ code.Sound settled valid threads) threads steps := by
  refine Machine.always_of_invariant _ (fun threads step invariant => ?_) ⟨agrees, sound⟩ steps
  obtain ⟨agrees, sound⟩ := invariant
  refine ⟨discipline.next agrees step, ?_⟩
  cases step with
  | begin thread region call => exact monitors.begin agrees sound thread region call
  | act thread input =>
      exact monitors.turn discipline agrees sound (code.turn_outcome thread input threads)

end Guards

end Code

end Arpi.Semantics
