import Arpi.Semantics.Numeral
import Arpi.Composer.ModeSelection

/-!
# The text of a mode

What `find_mode` takes from a property, as a language: numerals with `x` and `@` between them.
A text that names the resolution and the rate of a mode of the connector gets this mode.
-/

namespace Arpi.Composer

open Arpi.Semantics

/-! ## Numbers -/

/-- The number that `%d` stores for a numeral. -/
def storedNumeral (numeral : Numeral isSpace) : BitVec 32 :=
  BitVec.ofInt 32 (max (-(2 ^ 63)) (min (2 ^ 63 - 1) numeral.value))

/-- No blank is a sign or a digit. -/
theorem isSpace_apart : Numeral.BlanksApart isSpace := by
  intro char blank
  have code : char.toNat = 32 ∨ (9 ≤ char.toNat ∧ char.toNat ≤ 13) := by
    simp only [isSpace, Bool.or_eq_true, Bool.and_eq_true, decide_eq_true_eq, Char.le_def,
      UInt32.le_iff_toNat_le] at blank
    rcases blank with rfl | between
    · exact .inl rfl
    · exact .inr between
  refine ⟨?_, ?_, ?_⟩
  · have outside : ¬(48 ≤ char.toNat ∧ char.toNat ≤ 57) := by omega
    simpa [Char.isDigit, UInt32.le_iff_toNat_le] using outside
  · rintro rfl
    exact absurd code (by decide)
  · rintro rfl
    exact absurd code (by decide)

/-- A magnitude with its sign is clamped as the number is. -/
theorem storedInt_eq (numeral : Numeral isSpace) :
    storedInt (numeral.sign = .minus) numeral.digits = storedNumeral numeral := by
  have magnitude : numeral.digits.foldl
      (fun value digit => 10 * value + (digit.toNat - '0'.toNat)) 0 =
        Nat.ofDigitChars 10 numeral.digits 0 := by
    rw [Nat.ofDigitChars_eq_foldl]
  unfold storedInt storedNumeral Numeral.value
  dsimp only
  rw [magnitude]
  generalize Nat.ofDigitChars 10 numeral.digits 0 = size
  cases sign : numeral.sign with
  | minus =>
      have clamped : max (-(2 ^ 63)) (min (2 ^ 63 - 1) (-(size : Int))) =
          max (-(2 ^ 63)) (-(size : Int)) := by omega
      rw [if_pos (by decide), Sign.apply, clamped]
  | none | plus =>
      have clamped : max (-(2 ^ 63)) (min (2 ^ 63 - 1) (size : Int)) =
          min (2 ^ 63 - 1) (size : Int) := by omega
      rw [if_neg (by decide), ← clamped]
      rfl

/-- A sign is read where a text begins with one. -/
theorem sign_read (text : List Char) :
    ((Sign.read text).1 = .minus ↔ text.head? = some '-') ∧
      (Sign.read text).2 =
        if text.head? = some '-' ∨ text.head? = some '+' then text.tail else text := by
  unfold Sign.read
  split
  · simp
  · simp
  · rename_i not_plus not_minus
    cases text with
    | nil => simp
    | cons head tail =>
        have plus : head ≠ '+' := fun same => not_plus tail (by rw [same])
        have minus : head ≠ '-' := fun same => not_minus tail (by rw [same])
        simp [plus, minus]

/-- `%d` reads one numeral. -/
theorem scanInt_eq (text : List Char) :
    scanInt text =
      (Numeral.scan isSpace text).map fun read => (storedNumeral read.1, read.2) := by
  obtain ⟨sign, unsigned⟩ := sign_read (text.dropWhile isSpace)
  unfold scanInt Numeral.scan
  dsimp only
  rw [← unsigned]
  by_cases none : (Sign.read (text.dropWhile isSpace)).2.takeWhile Char.isDigit = []
  · rw [if_pos none, dif_neg (not_not.mpr none)]
    rfl
  · rw [if_neg none, dif_pos none, Option.map_some, ← storedInt_eq, decide_eq_decide.mpr sign]

theorem scanInt_eq_some_iff {text rest : List Char} {value : BitVec 32} :
    scanInt text = some (value, rest) ↔
      ∃ numeral, text = numeral.text ++ rest ∧ Numeral.Stops rest ∧
        storedNumeral numeral = value := by
  rw [scanInt_eq, Option.map_eq_some_iff]
  constructor
  · rintro ⟨⟨numeral, _⟩, read, same⟩
    obtain ⟨rfl, rfl⟩ := Prod.mk.inj same
    obtain ⟨whole, stops⟩ := (Numeral.scan_eq_some_iff isSpace_apart).mp read
    exact ⟨numeral, whole, stops, rfl⟩
  · rintro ⟨numeral, whole, stops, rfl⟩
    exact ⟨(numeral, rest), (Numeral.scan_eq_some_iff isSpace_apart).mpr ⟨whole, stops⟩, rfl⟩

theorem scanInt_text (numeral : Numeral isSpace) {rest : List Char}
    (stops : Numeral.Stops rest) :
    scanInt (numeral.text ++ rest) = some (storedNumeral numeral, rest) :=
  scanInt_eq_some_iff.mpr ⟨numeral, rfl, stops, rfl⟩

/-! ## Fields -/

/-- The fields of a format, with the blanks that `%d` skips. -/
abbrev Scanned (separators : List Char) (numerals : List (Numeral isSpace)) (text : List Char) :
    Prop :=
  Fields separators numerals text

/-- `sscanf` stores what it reads until a field or a separator is missing. -/
theorem sscanf_cons_of_separator {separator : Char} {separators text rest : List Char}
    {value : BitVec 32} (read : scanInt text = some (value, separator :: rest)) :
    sscanf (separator :: separators) text = value :: sscanf separators rest := by
  rw [sscanf, read]
  exact congrArg (value :: ·) (if_pos rfl)

/-- Without its separator behind it, a field is the last. -/
theorem sscanf_cons_of_ne {separator : Char} {separators text rest : List Char}
    {value : BitVec 32} (read : scanInt text = some (value, rest))
    (missing : rest.head? ≠ some separator) :
    sscanf (separator :: separators) text = [value] := by
  unfold sscanf
  rw [read]
  cases rest with
  | nil => rfl
  | cons char rest =>
      have other : char ≠ separator := fun same => missing (congrArg some same)
      exact congrArg (value :: ·) (if_neg other)

/-- A number is stored for every field exactly when the text has a field for each, and it is
the number of this field. -/
theorem sscanf_complete_iff {separators text : List Char} {values : List (BitVec 32)}
    (apart : ∀ separator ∈ separators, separator.isDigit = false) :
    sscanf separators text = values ∧ values.length = separators.length + 1 ↔
      ∃ numerals, Scanned separators numerals text ∧ values = numerals.map storedNumeral := by
  induction separators generalizing text values with
  | nil =>
      constructor
      · rintro ⟨rfl, complete⟩
        cases read : scanInt text with
        | none =>
            unfold sscanf at complete
            rw [read] at complete
            cases complete
        | some found =>
            obtain ⟨numeral, rfl, stops, same⟩ := scanInt_eq_some_iff.mp read
            refine ⟨[numeral], .last stops, ?_⟩
            unfold sscanf
            rw [read, List.map_singleton, same]
      · rintro ⟨numerals, scanned, rfl⟩
        cases scanned with
        | last stops =>
            refine ⟨?_, rfl⟩
            unfold sscanf
            rw [scanInt_text _ stops]
            rfl
  | cons separator separators ih =>
      have later : ∀ other ∈ separators, other.isDigit = false :=
        fun other member => apart other (List.mem_cons_of_mem _ member)
      constructor
      · rintro ⟨rfl, complete⟩
        cases read : scanInt text with
        | none =>
            unfold sscanf at complete
            rw [read] at complete
            cases complete
        | some found =>
            obtain ⟨value, rest⟩ := found
            by_cases separated : rest.head? = some separator
            · obtain ⟨tail, rfl⟩ := List.head?_eq_some_iff.mp separated
              rw [sscanf_cons_of_separator read] at complete ⊢
              obtain ⟨numerals, scanned, same⟩ := (ih later).mp
                ⟨rfl, Nat.succ.inj complete⟩
              obtain ⟨numeral, rfl, -, rfl⟩ := scanInt_eq_some_iff.mp read
              exact ⟨numeral :: numerals, .next scanned, by rw [same, List.map_cons]⟩
            · rw [sscanf_cons_of_ne read separated] at complete
              cases complete
      · rintro ⟨numerals, scanned, rfl⟩
        cases scanned with
        | @next _ _ numeral numerals rest scanned =>
            obtain ⟨stored, complete⟩ := (ih later).mpr ⟨numerals, scanned, rfl⟩
            have stops : Numeral.Stops (separator :: rest) :=
              Fields.stops_separator (apart separator List.mem_cons_self)
            rw [sscanf_cons_of_separator (scanInt_text numeral stops), stored]
            exact ⟨rfl, congrArg Nat.succ complete⟩

/-! ## Requests -/

theorem sizeSeparators_apart : ∀ separator ∈ ['x'], separator.isDigit = false :=
  List.forall_mem_singleton.mpr rfl

theorem rateSeparators_apart : ∀ separator ∈ ['x', '@'], separator.isDigit = false :=
  List.forall_mem_cons.mpr ⟨rfl, List.forall_mem_singleton.mpr rfl⟩

/-- A rate follows the size, in which case the size alone is there too. -/
theorem Scanned.size {xres yres rate : Numeral isSpace} {text : List Char}
    (scanned : Scanned ['x', '@'] [xres, yres, rate] text) :
    Scanned ['x'] [xres, yres] text := by
  have whole : Fields (['x'] ++ ['@']) ([xres, yres] ++ [rate]) text := scanned
  exact whole.dropLast rfl

/-- The texts that ask for a mode, and what they ask for. What follows the last field counts
for nothing. -/
inductive ModeText (text : List Char) : ModeRequest → Prop
  | complete {xres yres rate} (scanned : Scanned ['x', '@'] [xres, yres, rate] text) :
      ModeText text ⟨storedNumeral xres, storedNumeral yres, storedNumeral rate, false⟩
  | size {xres yres} (scanned : Scanned ['x'] [xres, yres] text)
      (noRate : ∀ numerals, ¬Scanned ['x', '@'] numerals text) :
      ModeText text ⟨storedNumeral xres, storedNumeral yres, 60, false⟩
  | other (noSize : ∀ numerals, ¬Scanned ['x'] numerals text) :
      ModeText text ⟨0, 0, 60, false⟩

/-- Three fields are stored if and only if the text has a size and a rate. -/
theorem sscanf_rate_iff {text : List Char} {xres yres rate : BitVec 32} :
    sscanf ['x', '@'] text = [xres, yres, rate] ↔
      ∃ x y r, Scanned ['x', '@'] [x, y, r] text ∧
        xres = storedNumeral x ∧ yres = storedNumeral y ∧ rate = storedNumeral r := by
  have stored : sscanf ['x', '@'] text = [xres, yres, rate] ∧ 3 = 3 ↔ _ :=
    sscanf_complete_iff rateSeparators_apart
  constructor
  · intro read
    obtain ⟨numerals, scanned, same⟩ := stored.mp ⟨read, rfl⟩
    match numerals, scanned.length_eq with
    | [x, y, r], _ =>
        obtain ⟨rfl, later⟩ := List.cons.inj same
        obtain ⟨rfl, last⟩ := List.cons.inj later
        exact ⟨x, y, r, scanned, rfl, rfl, List.head_eq_of_cons_eq last⟩
  · rintro ⟨x, y, r, scanned, rfl, rfl, rfl⟩
    exact (stored.mpr ⟨_, scanned, rfl⟩).1

/-- Two numbers are stored if and only if the text has a size. -/
theorem sscanf_size_iff {text : List Char} {xres yres : BitVec 32} :
    sscanf ['x'] text = [xres, yres] ↔
      ∃ x y, Scanned ['x'] [x, y] text ∧ xres = storedNumeral x ∧ yres = storedNumeral y := by
  have stored : sscanf ['x'] text = [xres, yres] ∧ 2 = 2 ↔ _ :=
    sscanf_complete_iff sizeSeparators_apart
  constructor
  · intro read
    obtain ⟨numerals, scanned, same⟩ := stored.mp ⟨read, rfl⟩
    match numerals, scanned.length_eq with
    | [x, y], _ =>
        obtain ⟨rfl, later⟩ := List.cons.inj same
        exact ⟨x, y, scanned, rfl, List.head_eq_of_cons_eq later⟩
  · rintro ⟨x, y, scanned, rfl, rfl⟩
    exact (stored.mpr ⟨_, scanned, rfl⟩).1

/-- What `find_mode` reads from a property is what the text asks for. -/
theorem modeText_parse (value : String) : ModeText value.toList (ModeRequest.parse value) := by
  unfold ModeRequest.parse
  split
  · rename_i xres yres rate stored
    obtain ⟨x, y, r, scanned, rfl, rfl, rfl⟩ := sscanf_rate_iff.mp stored
    exact .complete scanned
  · rename_i incomplete
    have noRate : ∀ numerals, ¬Scanned ['x', '@'] numerals value.toList := by
      intro numerals scanned
      match numerals, scanned.length_eq with
      | [x, y, r], _ => exact incomplete _ _ _ (sscanf_rate_iff.mpr ⟨x, y, r, scanned, rfl, rfl, rfl⟩)
    split
    · rename_i xres yres stored
      obtain ⟨x, y, scanned, rfl, rfl⟩ := sscanf_size_iff.mp stored
      exact .size scanned noRate
    · rename_i noSize
      refine .other fun numerals scanned => ?_
      match numerals, scanned.length_eq with
      | [x, y], _ => exact noSize _ _ (sscanf_size_iff.mpr ⟨x, y, scanned, rfl, rfl⟩)

/-- A text asks for nothing else than what is read from it. -/
theorem ModeText.parse_eq {value : String} {request : ModeRequest}
    (text : ModeText value.toList request) : ModeRequest.parse value = request := by
  unfold ModeRequest.parse
  cases text with
  | complete scanned =>
      rw [sscanf_rate_iff.mpr ⟨_, _, _, scanned, rfl, rfl, rfl⟩]
  | size scanned noRate =>
      rw [sscanf_size_iff.mpr ⟨_, _, scanned, rfl, rfl⟩]
      split
      · rename_i stored
        obtain ⟨_, _, _, rated, -⟩ := sscanf_rate_iff.mp stored
        exact absurd rated (noRate _)
      · rfl
  | other noSize =>
      split
      · rename_i stored
        obtain ⟨_, _, _, rated, -⟩ := sscanf_rate_iff.mp stored
        exact absurd rated.size (noSize _)
      · split
        · rename_i stored
          obtain ⟨_, _, scanned, -⟩ := sscanf_size_iff.mp stored
          exact absurd scanned (noSize _)
        · rfl

/-- What a property asks for is read from it, and nothing else. -/
theorem parse_eq_iff (value : String) (request : ModeRequest) :
    ModeRequest.parse value = request ↔ ModeText value.toList request := by
  constructor
  · rintro rfl
    exact modeText_parse value
  · exact ModeText.parse_eq

/-! ## Names -/

/-- How a mode is named in a property. -/
def modeName (xres yres rate : BitVec 32) : String :=
  (xres.toNat : Int).repr ++ "x" ++ (yres.toNat : Int).repr ++ "@" ++ (rate.toNat : Int).repr

/-- A word is stored as it was printed. -/
theorem storedNumeral_ofInt (word : BitVec 32) :
    storedNumeral (Numeral.ofInt word.toNat) = word := by
  have bound := word.isLt
  unfold storedNumeral
  rw [Numeral.value_ofInt, min_eq_right (by omega), max_eq_right (by omega),
    BitVec.ofInt_natCast, BitVec.ofNat_toNat, BitVec.setWidth_eq]

/-- A name is read back. -/
theorem parse_modeName (xres yres rate : BitVec 32) :
    ModeRequest.parse (modeName xres yres rate) = ⟨xres, yres, rate, false⟩ := by
  apply ModeText.parse_eq
  have scanned : Scanned ['x', '@']
      [.ofInt xres.toNat, .ofInt yres.toNat, .ofInt rate.toNat]
      (modeName xres yres rate).toList := by
    have text : (modeName xres yres rate).toList =
        (Numeral.ofInt xres.toNat : Numeral isSpace).text ++ 'x' ::
          ((Numeral.ofInt yres.toNat : Numeral isSpace).text ++ '@' ::
            ((Numeral.ofInt rate.toNat : Numeral isSpace).text ++ [])) := by
      simp only [modeName, String.toList_append, Numeral.text_ofInt, List.append_assoc,
        List.append_nil]
      rfl
    rw [text]
    exact .next (.next (.last (fun _ member => nomatch member)))
  have named := ModeText.complete scanned
  rwa [storedNumeral_ofInt, storedNumeral_ofInt, storedNumeral_ofInt] at named

theorem modeName_ne_empty (xres yres rate : BitVec 32) : modeName xres yres rate ≠ "" := by
  intro empty
  have separated : 'x' ∈ (modeName xres yres rate).toList := by
    simp [modeName, String.toList_append]
  rw [empty] at separated
  exact nomatch separated

/-- A mode that is forced is taken from the list, or it is generated. -/
theorem pickMode_of_forced (arithmetic : FloatArithmetic) {request : ModeRequest}
    (complete : request.Complete) (forced : request.forcemode = true) (modes : List ModeInfo) :
    pickMode arithmetic request modes =
      some ((modes.find? (ModeInfo.Matches request)).getD
        (arithmetic.generateMode request.xres request.yres request.rate)) := by
  cases listed : modes.find? (ModeInfo.Matches request) with
  | some mode => rw [pickMode_of_matched complete listed, Option.getD_some]
  | none =>
      unfold pickMode
      rw [if_pos complete, listed, Option.getD_none]
      exact if_pos forced

/-- A mode is found by its name. The first mode of the list with this resolution and rate is
taken, whatever the second property says; if the second property names it, it is generated
where the list has none. -/
theorem named_mode_found (arithmetic : FloatArithmetic) (modes : List ModeInfo)
    {xres yres rate : BitVec 32} (complete : xres ≠ 0 ∧ yres ≠ 0 ∧ rate ≠ 0) :
    (∀ mode, modes.find? (ModeInfo.Matches ⟨xres, yres, rate, false⟩) = some mode → ∀ force,
      findMode arithmetic ⟨modeName xres yres rate, force⟩ modes = some mode.trimClock) ∧
    findMode arithmetic ⟨"", modeName xres yres rate⟩ modes =
      some ((modes.find? (ModeInfo.Matches ⟨xres, yres, rate, false⟩)).getD
        (arithmetic.generateMode xres yres rate)).trimClock := by
  have named := modeName_ne_empty xres yres rate
  have request := parse_modeName xres yres rate
  have whole (forced : Bool) : ModeRequest.Complete ⟨xres, yres, rate, forced⟩ := complete
  constructor
  · intro mode listed force
    have asked : ModeRequest.ofProperties ⟨modeName xres yres rate, force⟩ =
        ⟨xres, yres, rate, false⟩ := by
      rw [ModeRequest.ofProperties, if_pos named, request]
    rw [findMode, asked, pickMode_of_matched (whole false) listed, Option.map_some]
  · have asked : ModeRequest.ofProperties ⟨"", modeName xres yres rate⟩ =
        ⟨xres, yres, rate, true⟩ := by
      rw [ModeRequest.ofProperties, if_neg (fun set => set rfl), if_pos named, request]
      dsimp only
      rw [decide_eq_true (whole false)]
    rw [findMode, asked, pickMode_of_forced arithmetic (whole true) rfl, Option.map_some]
    rfl

/-- 720p by its name, the second of two modes. Its clock is trimmed. -/
theorem named_mode_found_example :
    findMode ⟨fun _ _ _ => ⟨0, 0, 0, 0, 0⟩, fun _ _ => 0⟩ ⟨"1280x720@60", ""⟩
      [⟨148500, 1920, 1080, 60, 8⟩, ⟨74250, 1280, 720, 60, 0⟩] =
        some ⟨75000, 1280, 720, 60, 0⟩ :=
  (@named_mode_found ⟨fun _ _ _ => ⟨0, 0, 0, 0, 0⟩, fun _ _ => 0⟩
    [⟨148500, 1920, 1080, 60, 8⟩, ⟨74250, 1280, 720, 60, 0⟩] 1280 720 60 (by decide)).1
    ⟨74250, 1280, 720, 60, 0⟩ rfl ""

end Arpi.Composer
