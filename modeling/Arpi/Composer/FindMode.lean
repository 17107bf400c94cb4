import Mathlib.Data.BitVec

/-!
# Choosing a mode

`find_mode` picks the mode of an output from the modes that its connector lists. Two
properties ask for a resolution: the first for the closest mode of the list, the second for
this mode and no other, which is then generated if the list does not have it.
-/

namespace Arpi.Composer

/-- `drmModeModeInfo`, as far as the code looks into it. -/
structure ModeInfo where
  clock : BitVec 32
  hdisplay : BitVec 16
  vdisplay : BitVec 16
  vrefresh : BitVec 32
  type : BitVec 32
deriving DecidableEq

/-- What the code computes with floating point numbers: `generate_mode`, and the dots per
inch of a side with so many pixels and millimetres. -/
structure FloatArithmetic where
  generateMode : BitVec 32 → BitVec 32 → BitVec 32 → ModeInfo
  dotsPerInch : BitVec 16 → BitVec 32 → Int

/-! ## What the properties ask for -/

/-- `isspace`. -/
def isSpace (char : Char) : Bool := char = ' ' || ('\t' ≤ char && char ≤ '\r')

/-- The number that `%d` stores. What does not fit is clamped to 64 bits and cut to 32. -/
def storedInt (negative : Bool) (digits : List Char) : BitVec 32 :=
  let magnitude := digits.foldl (fun value digit => 10 * value + (digit.toNat - '0'.toNat)) 0
  if negative then BitVec.ofInt 32 (max (-(2 ^ 63)) (-(magnitude : Int)))
  else BitVec.ofInt 32 (min (2 ^ 63 - 1) (magnitude : Int))

/-- `%d`: the number at the beginning of a text, after blanks, and what follows it. -/
def scanInt (text : List Char) : Option (BitVec 32 × List Char) :=
  let text := text.dropWhile isSpace
  let signed := text.head? = some '-' ∨ text.head? = some '+'
  let unsigned := if signed then text.tail else text
  let digits := unsigned.takeWhile Char.isDigit
  if digits = [] then none
  else some (storedInt (text.head? = some '-') digits, unsigned.dropWhile Char.isDigit)

/-- `sscanf` for a format of numbers with a character between each two: the numbers that it
stores. -/
def sscanf : (separators text : List Char) → List (BitVec 32)
  | separators, text =>
      match scanInt text with
      | none => []
      | some (value, rest) =>
          match separators, rest with
          | separator :: separators, char :: rest =>
              value :: if char = separator then sscanf separators rest else []
          | _, _ => [value]

/-- `debug.drm.mode` and `debug.drm.mode.force`; empty if they are not set. -/
structure ModeProperties where
  mode : String
  force : String
deriving DecidableEq

/-- The mode that is asked for. -/
structure ModeRequest where
  xres : BitVec 32
  yres : BitVec 32
  rate : BitVec 32
  forcemode : Bool
deriving DecidableEq

namespace ModeRequest

/-- A property `<xres>x<yres>[@<refreshrate>]`. -/
def parse (value : String) : ModeRequest :=
  match sscanf ['x', '@'] value.toList with
  | [xres, yres, rate] => ⟨xres, yres, rate, false⟩
  | _ =>
      match sscanf ['x'] value.toList with
      | [xres, yres] => ⟨xres, yres, 60, false⟩
      | _ => ⟨0, 0, 60, false⟩

/-- Resolution and rate are all given. -/
def Complete (request : ModeRequest) : Prop :=
  request.xres ≠ 0 ∧ request.yres ≠ 0 ∧ request.rate ≠ 0

instance (request : ModeRequest) : Decidable request.Complete :=
  inferInstanceAs (Decidable (_ ∧ _ ∧ _))

/-- What `find_mode` reads from the properties. The second counts if the first is not set. -/
def ofProperties (properties : ModeProperties) : ModeRequest :=
  if properties.mode ≠ "" then parse properties.mode
  else if properties.force ≠ "" then
    let request := parse properties.force
    { request with forcemode := request.Complete }
  else ⟨0, 0, 0, false⟩

end ModeRequest

/-! ## The search -/

/-- `DRM_MODE_TYPE_PREFERRED`. -/
def drmModeTypePreferred : BitVec 32 := 8

/-- `INT_MAX`. -/
def intMax : BitVec 32 := 0x7fffffff

/-- The mode is exactly the one that is asked for. -/
def ModeInfo.Matches (request : ModeRequest) (mode : ModeInfo) : Prop :=
  mode.hdisplay.setWidth 32 = request.xres ∧ mode.vdisplay.setWidth 32 = request.yres ∧
    mode.vrefresh = request.rate

instance (request : ModeRequest) : DecidablePred (ModeInfo.Matches request) :=
  fun _ => inferInstanceAs (Decidable (_ ∧ _ ∧ _))

/-- `tmp`: how far a mode is from the resolution that is asked for, in 32 bits. Without one,
a preferred mode is at no distance and the others are as far as the best so far. -/
def ModeInfo.distance (request : ModeRequest) (dist : BitVec 32) (mode : ModeInfo) : BitVec 32 :=
  if request.xres ≠ 0 ∧ request.yres ≠ 0 then
    (mode.hdisplay.setWidth 32 - request.xres) * (mode.hdisplay.setWidth 32 - request.xres) +
      (mode.vdisplay.setWidth 32 - request.yres) * (mode.vdisplay.setWidth 32 - request.yres)
  else if mode.type &&& drmModeTypePreferred ≠ 0 then 0 else dist

/-- The second loop of `find_mode`, from the best mode so far and its distance. -/
def closestMode (request : ModeRequest) :
    (best : Option ModeInfo) → (dist : BitVec 32) → List ModeInfo → Option ModeInfo
  | best, _, [] => best
  | best, dist, mode :: rest =>
      let tmp := mode.distance request dist
      if tmp.slt dist then
        if tmp = 0 then some mode else closestMode request (some mode) tmp rest
      else closestMode request best dist rest

/-- Avoid interference with Wifi. -/
def ModeInfo.trimClock (mode : ModeInfo) : ModeInfo :=
  if 74200 ≤ mode.clock.toNat ∧ mode.clock.toNat < 74500 then { mode with clock := 75000 }
  else mode

/-- The mode that `find_mode` settles on before it trims the clock. Without any mode to fall
back on, it points into the empty list. -/
def pickMode (arithmetic : FloatArithmetic) (request : ModeRequest) (modes : List ModeInfo) :
    Option ModeInfo :=
  match if request.Complete then modes.find? (ModeInfo.Matches request) else none with
  | some mode => some mode
  | none =>
      if request.forcemode then
        some (arithmetic.generateMode request.xres request.yres request.rate)
      else
        match closestMode request none intMax modes with
        | some mode => some mode
        | none => modes.head?

/-- `find_mode`. -/
def findMode (arithmetic : FloatArithmetic) (properties : ModeProperties)
    (modes : List ModeInfo) : Option ModeInfo :=
  (pickMode arithmetic (.ofProperties properties) modes).map ModeInfo.trimClock

/-! ## Where the mode comes from -/

/-- The second loop keeps a mode of the list. -/
theorem closestMode_mem {request : ModeRequest} {best : Option ModeInfo} {dist : BitVec 32}
    {modes : List ModeInfo} {mode : ModeInfo}
    (chosen : closestMode request best dist modes = some mode) :
    best = some mode ∨ mode ∈ modes := by
  induction modes generalizing best dist with
  | nil => exact .inl chosen
  | cons head rest ih =>
      simp only [closestMode] at chosen
      split at chosen
      · split at chosen
        · obtain rfl := Option.some.inj chosen
          exact .inr List.mem_cons_self
        · rcases ih chosen with same | later
          · obtain rfl := Option.some.inj same
            exact .inr List.mem_cons_self
          · exact .inr (List.mem_cons_of_mem _ later)
      · rcases ih chosen with same | later
        · exact .inl same
        · exact .inr (List.mem_cons_of_mem _ later)

/-- The mode before the trim is of the list, or it is the generated one. -/
theorem pickMode_source {arithmetic : FloatArithmetic} {request : ModeRequest}
    {modes : List ModeInfo} {mode : ModeInfo}
    (picked : pickMode arithmetic request modes = some mode) :
    mode ∈ modes ∨ (request.forcemode = true ∧
      mode = arithmetic.generateMode request.xres request.yres request.rate) := by
  unfold pickMode at picked
  split at picked
  · rename_i found matched
    obtain rfl := Option.some.inj picked
    split at matched
    · exact .inl (List.mem_of_find?_eq_some matched)
    · cases matched
  · split at picked
    · rename_i forced
      exact .inr ⟨forced, (Option.some.inj picked).symm⟩
    · split at picked
      · rename_i found closest
        obtain rfl := Option.some.inj picked
        rcases closestMode_mem closest with none | listed
        · cases none
        · exact .inl listed
      · exact .inl (List.mem_of_head? picked)

/-- `find_mode` copies a mode of the list or generates one, and changes at most its clock. -/
theorem findMode_source {arithmetic : FloatArithmetic} {properties : ModeProperties}
    {modes : List ModeInfo} {mode : ModeInfo}
    (found : findMode arithmetic properties modes = some mode) :
    (∃ entry ∈ modes, mode = entry.trimClock) ∨
      ((ModeRequest.ofProperties properties).forcemode = true ∧
        mode = (arithmetic.generateMode (ModeRequest.ofProperties properties).xres
          (ModeRequest.ofProperties properties).yres
          (ModeRequest.ofProperties properties).rate).trimClock) := by
  obtain ⟨picked, source, rfl⟩ := Option.map_eq_some_iff.mp found
  rcases pickMode_source source with listed | ⟨forced, rfl⟩
  · exact .inl ⟨picked, listed, rfl⟩
  · exact .inr ⟨forced, rfl⟩

end Arpi.Composer
