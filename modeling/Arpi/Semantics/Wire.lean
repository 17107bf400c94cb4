import Mathlib.Algebra.BigOperators.Group.List.Basic

/-!
# Wire formats

A wire format writes a value as a piece of a stream and reads it back off the front of one.
It reads back what it wrote if the rest of the stream does not matter (`Prefixed`), and it reads
nothing else if what it accepts is what it would have written (`Canonical`). Values that are
written one after another are then read back in order, and a stream that is read as values is
these values written one after another.

A format may be canonical on some streams only. These must be closed under taking a value off
the front.
-/

namespace Arpi.Semantics

universe u v

/-- How values are written to streams and read off their fronts. -/
structure Wire (Value : Type u) (Stream : Type v) where
  encode : Value → Stream
  decode : Stream → Option (Value × Stream)

namespace Wire

variable {Value : Type u} {Stream : Type v} (wire : Wire Value Stream)

/-- Reads values off the front. -/
def decodeMany : Nat → Stream → Option (List Value × Stream)
  | 0, stream => some ([], stream)
  | count + 1, stream =>
      (wire.decode stream).bind fun first =>
        (decodeMany count first.2).map fun others => (first.1 :: others.1, others.2)

variable [Monoid Stream]

/-- The values one after another. -/
def encodeMany (values : List Value) : Stream := (values.map wire.encode).prod

/-- Reads back what it wrote, whatever comes after. -/
def Prefixed : Prop :=
  ∀ value rest, wire.decode (wire.encode value * rest) = some (value, rest)

/-- Reads, off these streams, nothing but what it would have written. -/
structure Canonical (fit : Stream → Prop) : Prop where
  exact : ∀ {stream value rest}, fit stream → wire.decode stream = some (value, rest) →
    stream = wire.encode value * rest
  rest : ∀ {stream value rest}, fit stream → wire.decode stream = some (value, rest) → fit rest

@[simp] theorem encodeMany_nil : wire.encodeMany [] = 1 := rfl

@[simp] theorem encodeMany_cons (value : Value) (values : List Value) :
    wire.encodeMany (value :: values) = wire.encode value * wire.encodeMany values :=
  List.prod_cons

variable {wire}

/-- Values that were written one after another are read back in order. -/
theorem Prefixed.decodeMany (format : wire.Prefixed) (values : List Value) (rest : Stream) :
    wire.decodeMany values.length (wire.encodeMany values * rest) = some (values, rest) := by
  induction values with
  | nil => rw [encodeMany_nil, one_mul, List.length_nil, Wire.decodeMany]
  | cons value values ih =>
      rw [encodeMany_cons, mul_assoc, List.length_cons, Wire.decodeMany, format, Option.bind_some,
        ih, Option.map_some]

/-- A stream that is read as values is these values, one after another. -/
theorem Canonical.decodeMany {fit : Stream → Prop} (canonical : wire.Canonical fit)
    {count : Nat} {stream rest : Stream} {values : List Value} (start : fit stream)
    (decoded : wire.decodeMany count stream = some (values, rest)) :
    values.length = count ∧ stream = wire.encodeMany values * rest := by
  induction count generalizing stream values with
  | zero =>
      obtain ⟨rfl, rfl⟩ := Prod.mk.inj (Option.some.inj decoded)
      exact ⟨rfl, (one_mul stream).symm⟩
  | succ count ih =>
      obtain ⟨⟨value, between⟩, first, mapped⟩ := Option.bind_eq_some_iff.mp decoded
      obtain ⟨⟨later, last⟩, others, split⟩ := Option.map_eq_some_iff.mp mapped
      obtain ⟨rfl, rfl⟩ := Prod.mk.inj split
      obtain ⟨length, remaining⟩ := ih (canonical.rest start first) others
      refine ⟨congrArg Nat.succ length, ?_⟩
      rw [canonical.exact start first, encodeMany_cons, mul_assoc, ← remaining]

end Wire

end Arpi.Semantics
