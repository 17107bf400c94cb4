import Mathlib.Data.Multiset.AddSub

/-!
# Objects that are got and freed

A computation gets objects, uses them and frees them. To use or free an object that is not live
is a fault of its own, `dangling`; whatever else stops a computation is a `crash`.

`Yields` compares a computation with what it should come to, a value or a crash. The computation
may use the objects that it is lent, and must account for those that it owns: it frees them or
leaves them behind, and does not touch any other. There is a rule for each operation; `call` is
the one for a part that borrows what the rest owns.
-/

namespace Arpi.Semantics

/-- Why a computation stops. -/
inductive Fault where
  | crash
  | dangling
deriving DecidableEq

/-- An object, by its name and its kind. -/
abbrev Object (Kind : Type) := Nat × Kind

/-- The objects that are live. Names are given out in order, and never again. -/
structure Objects (Kind : Type) where
  next : Nat
  live : Multiset (Object Kind)
  fresh : ∀ object ∈ live, object.1 < next
  nodup : live.Nodup

/-- Computations on objects. -/
abbrev Owning (Kind α : Type) := StateT (Objects Kind) (Except Fault) α

namespace Objects

variable {Kind : Type}

/-- No object is live. -/
def none : Objects Kind := ⟨0, 0, fun _ member => absurd member (Multiset.notMem_zero _),
  Multiset.nodup_zero⟩

/-- One more object. -/
def add (kind : Kind) (objects : Objects Kind) : Objects Kind where
  next := objects.next + 1
  live := (objects.next, kind) ::ₘ objects.live
  fresh object member := by
    rcases Multiset.mem_cons.mp member with rfl | before
    · exact Nat.lt_succ_self _
    · exact Nat.lt_succ_of_lt (objects.fresh object before)
  nodup := Multiset.nodup_cons.mpr
    ⟨fun member => Nat.lt_irrefl _ (objects.fresh _ member), objects.nodup⟩

/-- One object less. -/
def remove [DecidableEq Kind] (object : Object Kind) (objects : Objects Kind) : Objects Kind where
  next := objects.next
  live := objects.live.erase object
  fresh other member := objects.fresh other (Multiset.mem_of_mem_erase member)
  nodup := objects.nodup.erase object

end Objects

namespace Owning

variable {Kind α β : Type}

/-- Gets an object. -/
def get (kind : Kind) : Owning Kind (Object Kind) :=
  fun objects => .ok ((objects.next, kind), objects.add kind)

/-- Stops for a reason other than an object. -/
def crash : Owning Kind α := fun _ => .error .crash

/-- Stops where there is nothing to go on with. -/
def ofOption : Option α → Owning Kind α
  | none => crash
  | some value => pure value

/-- Reads or writes an object. -/
def use [DecidableEq Kind] (object : Object Kind) : Owning Kind Unit :=
  fun objects => if object ∈ objects.live then .ok ((), objects) else .error .dangling

/-- Frees an object. -/
def free [DecidableEq Kind] (object : Object Kind) : Owning Kind Unit :=
  fun objects =>
    if object ∈ objects.live then .ok ((), objects.remove object) else .error .dangling

/-- The computation comes to what is expected. It uses what it is lent, and what it leaves behind
takes the place of what it owned. -/
def Yields {Expected : Type} (program : Owning Kind α) (lent : Set (Object Kind))
    (owned : Multiset (Object Kind)) (expected : Option Expected)
    (result : Expected → α → Multiset (Object Kind) → Prop) : Prop :=
  ∀ (objects : Objects Kind) (rest : Multiset (Object Kind)), objects.live = owned + rest →
    (∀ object ∈ lent, object ∈ rest) →
      expected.elim (program objects = .error .crash) fun value =>
        ∃ (answer : α) (after : Objects Kind) (left : Multiset (Object Kind)),
          program objects = .ok (answer, after) ∧ after.live = left + rest ∧
            result value answer left

/-- The computation only borrows: it comes to the value that is expected and leaves nothing
behind. -/
def Returns (program : Owning Kind α) (lent : Set (Object Kind)) (expected : Option α) : Prop :=
  Yields program lent 0 expected fun value answer left => answer = value ∧ left = 0

section Rules

variable {Expected Partial : Type} {lent : Set (Object Kind)} {owned : Multiset (Object Kind)}
  {expected : Option Expected} {result : Expected → α → Multiset (Object Kind) → Prop}
  {object : Object Kind}

theorem yields_pure {value : Expected} {answer : α} (right : result value answer owned) :
    Yields (pure answer) lent owned (some value) result :=
  fun objects _ live _ => ⟨answer, objects, owned, rfl, live, right⟩

theorem yields_option {given : Option β} {rest : β → Owning Kind α} {next : β → Option Expected}
    (yields : ∀ value, given = some value →
      Yields (rest value) lent owned (next value) result) :
    Yields (ofOption given >>= rest) lent owned (given.bind next) result := by
  cases given with
  | none => exact fun _ _ _ _ => rfl
  | some value => exact yields value rfl

/-- What is used is lent or owned. -/
theorem yields_use [DecidableEq Kind] {rest : Owning Kind α} (held : object ∈ lent ∨ object ∈ owned)
    (yields : Yields rest lent owned expected result) :
    Yields (use object >>= fun _ => rest) lent owned expected result := by
  intro objects others live borrowed
  have member : object ∈ objects.live := by
    rw [live, Multiset.mem_add]
    exact held.symm.imp id (borrowed object)
  have used : (use object >>= fun _ => rest) objects = rest objects := by
    change Except.bind (use object objects) _ = _
    rw [use, if_pos member]
    rfl
  rw [used]
  exact yields objects others live borrowed

/-- What is got is owned. -/
theorem yields_get {kind : Kind} {rest : Object Kind → Owning Kind α}
    (yields : ∀ name, Yields (rest (name, kind)) lent ((name, kind) ::ₘ owned) expected result) :
    Yields (get kind >>= rest) lent owned expected result := by
  intro objects others live borrowed
  refine yields objects.next (objects.add kind) others ?_ borrowed
  rw [Multiset.cons_add, ← live]
  rfl

/-- What is freed was owned, and is not any more. -/
theorem yields_free [DecidableEq Kind] {rest : Owning Kind α} (yields : Yields rest lent owned expected result) :
    Yields (free object >>= fun _ => rest) lent (object ::ₘ owned) expected result := by
  intro objects others live borrowed
  have member : object ∈ objects.live := by
    rw [live, Multiset.cons_add]
    exact Multiset.mem_cons_self object _
  have freed : (free object >>= fun _ => rest) objects = rest (objects.remove object) := by
    change Except.bind (free object objects) _ = _
    rw [free, if_pos member]
    rfl
  rw [freed]
  refine yields (objects.remove object) others ?_ borrowed
  change objects.live.erase object = _
  rw [live, Multiset.cons_add, Multiset.erase_cons_head]

/-- A part is given some of what is owned, and lent the rest of it and what the whole is lent.
What the part leaves behind is owned again. -/
theorem yields_give {first : Owning Kind β} {rest : β → Owning Kind α}
    {between : Option Partial} {borrowed : Set (Object Kind)} {given : Multiset (Object Kind)}
    {middle : Partial → β → Multiset (Object Kind) → Prop} {next : Partial → Option Expected}
    (yields : Yields first borrowed given between middle)
    (held : ∀ object ∈ borrowed, object ∈ lent ∨ object ∈ owned)
    (later : ∀ value answer left, between = some value → middle value answer left →
      Yields (rest answer) lent (left + owned) (next value) result) :
    Yields (first >>= rest) lent (given + owned) (between.bind next) result := by
  intro objects others live lentLive
  have enters := yields objects (owned + others) (by rw [live, Multiset.add_assoc])
    fun object member => by
      rw [Multiset.mem_add]
      exact (held object member).symm.imp id (lentLive object)
  cases between with
  | none =>
      change Except.bind (first objects) _ = _
      rw [show first objects = _ from enters]
      rfl
  | some value =>
      obtain ⟨answer, after, left, ran, kept, right⟩ := enters
      have entered : (first >>= rest) objects = rest answer after := by
        change Except.bind (first objects) _ = _
        rw [ran]
        rfl
      rw [entered]
      exact later value answer left rfl right after others (by rw [kept, Multiset.add_assoc])
        lentLive

/-- A part that is given nothing. -/
theorem yields_call {first : Owning Kind β} {rest : β → Owning Kind α}
    {between : Option Partial} {borrowed : Set (Object Kind)}
    {middle : Partial → β → Multiset (Object Kind) → Prop} {next : Partial → Option Expected}
    (yields : Yields first borrowed 0 between middle)
    (held : ∀ object ∈ borrowed, object ∈ lent ∨ object ∈ owned)
    (later : ∀ value answer left, between = some value → middle value answer left →
      Yields (rest answer) lent (left + owned) (next value) result) :
    Yields (first >>= rest) lent owned (between.bind next) result := by
  have given := yields_give yields held later
  rwa [Multiset.zero_add] at given

/-- A part that does not crash. -/
theorem yields_total {first : Owning Kind β} {rest : β → Owning Kind α} {value : Partial}
    {borrowed : Set (Object Kind)} {middle : Partial → β → Multiset (Object Kind) → Prop}
    (yields : Yields first borrowed 0 (some value) middle)
    (held : ∀ object ∈ borrowed, object ∈ lent ∨ object ∈ owned)
    (later : ∀ answer left, middle value answer left →
      Yields (rest answer) lent (left + owned) expected result) :
    Yields (first >>= rest) lent owned expected result := by
  have called : Yields (first >>= rest) lent owned ((some value).bind fun _ => expected) result :=
    yields_call yields held fun other answer left known right => by
      obtain rfl := Option.some.inj known
      exact later answer left right
  exact called

/-- A part that only borrows. -/
theorem yields_borrow {first : Owning Kind β} {rest : β → Owning Kind α} {between : Option β}
    {borrowed : Set (Object Kind)} {next : β → Option Expected}
    (returns : Returns first borrowed between)
    (held : ∀ object ∈ borrowed, object ∈ lent ∨ object ∈ owned)
    (later : ∀ value, between = some value → Yields (rest value) lent owned (next value) result) :
    Yields (first >>= rest) lent owned (between.bind next) result :=
  yields_call returns held fun value answer left known right => by
    obtain ⟨rfl, rfl⟩ := right
    rw [Multiset.zero_add]
    exact later answer known

/-- What is owned otherwise is left as it is. -/
theorem yields_frame {program : Owning Kind α}
    {framed : Expected → α → Multiset (Object Kind) → Prop}
    (yields : Yields program lent 0 expected result)
    (weaker : ∀ value answer left, result value answer left → framed value answer (left + owned)) :
    Yields program lent owned expected framed := by
  intro objects others live borrowed
  have came := yields objects (owned + others) (by rw [Multiset.zero_add, live])
    fun object member => Multiset.mem_add.mpr (.inr (borrowed object member))
  cases expected with
  | none => exact came
  | some value =>
      obtain ⟨answer, after, left, ran, kept, right⟩ := came
      exact ⟨answer, after, left + owned, ran, by rw [kept, Multiset.add_assoc],
        weaker value answer left right⟩

end Rules

end Owning

end Arpi.Semantics
