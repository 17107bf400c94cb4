import Mathlib.Data.List.Basic
import Mathlib.Data.List.TakeWhile
import Mathlib.Data.List.TakeDrop

/-!
# Decimal numbers in a text

A numeral is blanks, a sign and digits. It is read off the front of a text as far as its digits
go. Numerals with a separator between each two make fields. What a text is read as is unique:
`scan_eq_some_iff` says which texts are read as which numeral.
-/

namespace Arpi.Semantics

/-- The sign of a numeral. -/
inductive Sign where
  | none
  | plus
  | minus
deriving DecidableEq

namespace Sign

def text : Sign → List Char
  | none => []
  | plus => ['+']
  | minus => ['-']

/-- A number with this sign. -/
def apply : Sign → Nat → Int
  | minus, magnitude => -magnitude
  | _, magnitude => magnitude

/-- The sign at the front of a text, and what follows it. -/
def read : List Char → Sign × List Char
  | '+' :: rest => (plus, rest)
  | '-' :: rest => (minus, rest)
  | text => (none, text)

theorem text_read (text : List Char) : (read text).1.text ++ (read text).2 = text := by
  unfold read
  split <;> rfl

/-- A sign is read back in front of anything that does not begin with one. -/
theorem read_text (sign : Sign) {rest : List Char}
    (unsigned : ∀ char ∈ rest.head?, char ≠ '+' ∧ char ≠ '-') :
    read (sign.text ++ rest) = (sign, rest) := by
  cases sign with
  | none =>
      unfold read
      split
      · rename_i tail same
        exact absurd rfl (unsigned '+' (by simp [show rest = _ from same])).1
      · rename_i tail same
        exact absurd rfl (unsigned '-' (by simp [show rest = _ from same])).2
      · rfl
  | plus => rfl
  | minus => rfl

end Sign

/-- Blanks, a sign and digits. -/
structure Numeral (blank : Char → Bool) where
  blanks : List Char
  sign : Sign
  digits : List Char
  blanks_blank : ∀ char ∈ blanks, blank char = true
  digits_digit : ∀ char ∈ digits, char.isDigit = true
  nonempty : digits ≠ []

namespace Numeral

variable {blank : Char → Bool}

def text (numeral : Numeral blank) : List Char :=
  numeral.blanks ++ (numeral.sign.text ++ numeral.digits)

def value (numeral : Numeral blank) : Int :=
  numeral.sign.apply (Nat.ofDigitChars 10 numeral.digits 0)

/-- Digits do not go on in what follows. -/
def Stops (rest : List Char) : Prop := ∀ char ∈ rest.head?, char.isDigit = false

/-- The numeral at the front of a text, and what follows it. -/
def scan (blank : Char → Bool) (text : List Char) : Option (Numeral blank × List Char) :=
  let signed := Sign.read (text.dropWhile blank)
  if nonempty : signed.2.takeWhile Char.isDigit ≠ [] then
    some (⟨text.takeWhile blank, signed.1, signed.2.takeWhile Char.isDigit,
      fun _ => List.mem_takeWhile_imp, fun _ => List.mem_takeWhile_imp, nonempty⟩,
      signed.2.dropWhile Char.isDigit)
  else none

/-- What a predicate holds of is taken off the front of a text as far as it goes. -/
theorem takeWhile_dropWhile_append {property : Char → Bool} {front back : List Char}
    (front_all : ∀ char ∈ front, property char = true)
    (back_not : ∀ char ∈ back.head?, property char = false) :
    (front ++ back).takeWhile property = front ∧ (front ++ back).dropWhile property = back := by
  have stops : back.takeWhile property = [] ∧ back.dropWhile property = back := by
    cases back with
    | nil => exact ⟨rfl, rfl⟩
    | cons head tail =>
        have outside := back_not head (by simp)
        exact ⟨List.takeWhile_cons_of_neg (by simp [outside]),
          List.dropWhile_cons_of_neg (by simp [outside])⟩
  rw [List.takeWhile_append_of_pos front_all, List.dropWhile_append_of_pos front_all, stops.1,
    stops.2, List.append_nil]
  exact ⟨rfl, rfl⟩

/-- Blanks are neither signs nor digits. -/
def BlanksApart (blank : Char → Bool) : Prop :=
  ∀ char, blank char = true → char.isDigit = false ∧ char ≠ '+' ∧ char ≠ '-'

/-- What follows the blanks begins with a sign or a digit, so that no blank goes on. -/
theorem head_not_blank (apart : BlanksApart blank) (numeral : Numeral blank) (rest : List Char) :
    ∀ char ∈ (numeral.sign.text ++ (numeral.digits ++ rest)).head?, blank char = false := by
  intro char member
  by_contra isBlank
  obtain ⟨not_digit, not_plus, not_minus⟩ := apart char (by simpa using isBlank)
  obtain ⟨first, more, digits⟩ := List.exists_cons_of_ne_nil numeral.nonempty
  cases sign : numeral.sign with
  | none =>
      rw [sign, digits] at member
      obtain rfl : first = char := by simpa [Sign.text] using member
      have digit := numeral.digits_digit first (by simp [digits])
      exact Bool.false_ne_true (not_digit.symm.trans digit)
  | plus =>
      rw [sign] at member
      exact not_plus (by simpa [Sign.text] using member.symm)
  | minus =>
      rw [sign] at member
      exact not_minus (by simpa [Sign.text] using member.symm)

/-- Digits begin with a digit, which no sign is. -/
theorem digits_unsigned (numeral : Numeral blank) (rest : List Char) :
    ∀ char ∈ (numeral.digits ++ rest).head?, char ≠ '+' ∧ char ≠ '-' := by
  intro char member
  obtain ⟨first, more, digits⟩ := List.exists_cons_of_ne_nil numeral.nonempty
  rw [digits] at member
  obtain rfl : first = char := by simpa using member
  have digit := numeral.digits_digit first (by simp [digits])
  constructor
  · rintro rfl
    exact absurd digit (by decide)
  · rintro rfl
    exact absurd digit (by decide)

/-- A numeral is read off a text exactly when the text is this numeral and a rest in which its
digits do not go on. -/
theorem scan_eq_some_iff (apart : BlanksApart blank) {text rest : List Char}
    {numeral : Numeral blank} :
    scan blank text = some (numeral, rest) ↔ text = numeral.text ++ rest ∧ Stops rest := by
  constructor
  · intro read
    unfold scan at read
    dsimp only at read
    split at read
    case isFalse => cases read
    obtain ⟨rfl, rfl⟩ := Prod.mk.inj (Option.some.inj read)
    refine ⟨?_, fun char member => ?_⟩
    · simp only [Numeral.text, List.append_assoc, List.takeWhile_append_dropWhile,
        Sign.text_read]
    · have stopped := List.head?_dropWhile_not Char.isDigit
        (Sign.read (text.dropWhile blank)).2
      rw [Option.mem_def.mp member] at stopped
      exact stopped
  · rintro ⟨rfl, stops⟩
    obtain ⟨blanks, afterBlanks⟩ := takeWhile_dropWhile_append numeral.blanks_blank
      (head_not_blank apart numeral rest)
    obtain ⟨digits, afterDigits⟩ := takeWhile_dropWhile_append numeral.digits_digit stops
    have signed := Sign.read_text numeral.sign (digits_unsigned numeral rest)
    have split : numeral.text ++ rest =
        numeral.blanks ++ (numeral.sign.text ++ (numeral.digits ++ rest)) := by
      simp only [Numeral.text, List.append_assoc]
    unfold scan
    simp only [split, blanks, afterBlanks, signed, digits, afterDigits]
    rw [dif_pos numeral.nonempty]

/-- The decimal digits of a number are digits. -/
theorem digits_isDigit (magnitude : Nat) :
    ∀ char ∈ Nat.toDigits 10 magnitude, char.isDigit = true :=
  fun _ => Nat.isDigit_of_mem_toDigits (by decide) (by decide)

/-- How a number is printed. -/
def ofInt (value : Int) : Numeral blank where
  blanks := []
  sign := if value < 0 then .minus else .none
  digits := Nat.toDigits 10 value.natAbs
  blanks_blank := fun _ member => nomatch member
  digits_digit := digits_isDigit value.natAbs
  nonempty := Nat.toDigits_ne_nil

theorem value_ofInt (value : Int) : (ofInt value : Numeral blank).value = value := by
  unfold Numeral.value ofInt
  simp only [Nat.ofDigitChars_ten_toDigits]
  by_cases negative : value < 0
  · rw [if_pos negative]
    show -(value.natAbs : Int) = value
    omega
  · rw [if_neg negative]
    show (value.natAbs : Int) = value
    omega

theorem text_ofInt (value : Int) : (ofInt value : Numeral blank).text = value.repr.toList := by
  rw [Int.repr_eq_if]
  by_cases negative : value < 0
  · rw [if_neg (by omega), String.toList_append, Nat.toList_repr,
      show (-value).toNat = value.natAbs by omega]
    simp only [Numeral.text, ofInt, if_pos negative]
    rfl
  · rw [if_pos (by omega), Nat.toList_repr, show value.toNat = value.natAbs by omega]
    simp only [Numeral.text, ofInt, if_neg negative]
    rfl

end Numeral

/-- Numerals with a separator between each two, in front of a rest in which the digits of the
last do not go on. -/
inductive Fields {blank : Char → Bool} : (separators : List Char) → List (Numeral blank) →
    List Char → Prop
  | last {numeral rest} (stops : Numeral.Stops rest) :
      Fields [] [numeral] (numeral.text ++ rest)
  | next {separator separators numeral numerals text} (fields : Fields separators numerals text) :
      Fields (separator :: separators) (numeral :: numerals)
        (numeral.text ++ separator :: text)

namespace Fields

variable {blank : Char → Bool} {separators : List Char} {numerals : List (Numeral blank)}
  {text : List Char}

/-- There is one numeral more than separators. -/
theorem length_eq (fields : Fields separators numerals text) :
    numerals.length = separators.length + 1 := by
  induction fields with
  | last _ => rfl
  | next _ ih => simp only [List.length_cons, ih]

/-- A separator that is no digit ends the numeral in front of it. -/
theorem stops_separator {separator : Char} (apart : separator.isDigit = false) :
    Numeral.Stops (separator :: text) := by
  intro char member
  obtain rfl : separator = char := by simpa using member
  exact apart

/-- The last fields may be left to the rest. -/
theorem dropLast {separator : Char} {last : Numeral blank} (apart : separator.isDigit = false)
    (fields : Fields (separators ++ [separator]) (numerals ++ [last]) text) :
    Fields separators numerals text := by
  induction separators generalizing numerals text with
  | nil =>
      cases numerals with
      | nil => exact absurd fields.length_eq (by simp)
      | cons head tail =>
          obtain rfl : tail = [] := by simpa using fields.length_eq
          cases fields with
          | next _ => exact .last (stops_separator apart)
  | cons first separators ih =>
      cases numerals with
      | nil => exact absurd fields.length_eq (by simp)
      | cons head tail =>
          cases fields with
          | next fields => exact .next (ih fields)

end Fields

end Arpi.Semantics
