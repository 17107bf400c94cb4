import Arpi.Composer.FindMode
import Arpi.Semantics.LeastSearch
import Mathlib.Algebra.Order.Ring.Int

/-!
# The mode that is asked for

What a request specifies, with numbers instead of 32-bit words: the first mode that is
exactly the one asked for; otherwise the first one closest to the resolution; without a
resolution the first preferred mode, or just the first. `find_mode` computes distances in
32 bits, where a large one can come out small or negative.
-/

namespace Arpi.Composer

open Arpi.Semantics

namespace ModeInfo

/-- The mode is exactly the one asked for. -/
def Exact (request : ModeRequest) (mode : ModeInfo) : Prop :=
  (mode.hdisplay.toNat : Int) = request.xres.toInt ∧
    (mode.vdisplay.toNat : Int) = request.yres.toInt ∧
    (mode.vrefresh.toNat : Int) = request.rate.toInt

instance (request : ModeRequest) : DecidablePred (ModeInfo.Exact request) :=
  fun _ => inferInstanceAs (Decidable (_ ∧ _ ∧ _))

/-- The square of the distance to the resolution asked for. -/
def squaredDistance (request : ModeRequest) (mode : ModeInfo) : Int :=
  ((mode.hdisplay.toNat : Int) - request.xres.toInt) ^ 2 +
    ((mode.vdisplay.toNat : Int) - request.yres.toInt) ^ 2

/-- The driver prefers the mode. -/
def Preferred (mode : ModeInfo) : Prop := mode.type &&& drmModeTypePreferred ≠ 0

instance : DecidablePred ModeInfo.Preferred := fun _ => inferInstanceAs (Decidable (_ ≠ _))

/-- The mode has the resolution asked for. -/
def OfResolution (request : ModeRequest) (mode : ModeInfo) : Prop :=
  mode.hdisplay.setWidth 32 = request.xres ∧ mode.vdisplay.setWidth 32 = request.yres

instance (request : ModeRequest) : DecidablePred (ModeInfo.OfResolution request) :=
  fun _ => inferInstanceAs (Decidable (_ ∧ _))

end ModeInfo

namespace ModeRequest

/-- A resolution is given. -/
def Sized (request : ModeRequest) : Prop := request.xres ≠ 0 ∧ request.yres ≠ 0

instance (request : ModeRequest) : Decidable request.Sized :=
  inferInstanceAs (Decidable (_ ∧ _))

/-- The mode of the list that the request specifies. -/
def selectedMode (request : ModeRequest) (modes : List ModeInfo) : Option ModeInfo :=
  (if request.Complete then modes.find? (ModeInfo.Exact request) else none).or
    (if request.Sized then firstLeast (ModeInfo.squaredDistance request) modes
      else (modes.find? ModeInfo.Preferred).or modes.head?)

end ModeRequest

/-! ## Words and numbers -/

/-- Comparing a 16-bit word with an int compares the numbers. -/
theorem setWidth_eq_iff {display : BitVec 16} {resolution : BitVec 32} :
    display.setWidth 32 = resolution ↔ (display.toNat : Int) = resolution.toInt := by
  have extended : (display.setWidth 32).toInt = display.toNat := by
    have small := display.isLt
    rw [BitVec.toInt_eq_toNat_of_lt (by rw [BitVec.toNat_setWidth]; omega), BitVec.toNat_setWidth,
      Nat.mod_eq_of_lt (by omega)]
  rw [← BitVec.toInt_inj, extended]

/-- Comparing a rate with an int compares the numbers, unless the int is negative. -/
theorem eq_and_nonnegative_iff {refresh rate : BitVec 32} :
    refresh = rate ∧ 0 ≤ rate.toInt ↔ (refresh.toNat : Int) = rate.toInt := by
  have bound := refresh.isLt
  have rateBound := rate.isLt
  constructor
  · rintro ⟨rfl, nonnegative⟩
    rw [BitVec.toInt_eq_toNat_cond] at nonnegative ⊢
    split at nonnegative
    next small => rw [if_pos small]
    next large => omega
  · intro same
    have nonnegative : 0 ≤ rate.toInt := by omega
    refine ⟨?_, nonnegative⟩
    rw [BitVec.toInt_eq_toNat_cond] at same nonnegative
    split at same
    · exact BitVec.eq_of_toNat_eq (by omega)
    · omega

variable {request : ModeRequest} {mode : ModeInfo} {modes : List ModeInfo}

theorem exact_iff : mode.Exact request ↔ mode.Matches request ∧ 0 ≤ request.rate.toInt := by
  simp only [ModeInfo.Exact, ModeInfo.Matches, setWidth_eq_iff, ← eq_and_nonnegative_iff, and_assoc]

/-- The distance that the code computes is the right one as long as it fits into an int. -/
theorem distance_toInt (sized : request.Sized) (dist : BitVec 32) :
    (mode.distance request dist).toInt = (mode.squaredDistance request).bmod (2 ^ 32) := by
  have horizontal := setWidth_eq_iff.mp (rfl : mode.hdisplay.setWidth 32 = _)
  have vertical := setWidth_eq_iff.mp (rfl : mode.vdisplay.setWidth 32 = _)
  rw [ModeInfo.distance, if_pos (show request.xres ≠ 0 ∧ request.yres ≠ 0 from sized),
    ModeInfo.squaredDistance, horizontal, vertical]
  simp only [BitVec.toInt_add, BitVec.toInt_mul, BitVec.toInt_sub, pow_two, Int.mul_bmod_bmod,
    Int.bmod_mul_bmod, Int.add_bmod_bmod, Int.bmod_add_bmod]

theorem squaredDistance_nonneg (mode : ModeInfo) : 0 ≤ mode.squaredDistance request :=
  add_nonneg (sq_nonneg _) (sq_nonneg _)

theorem squaredDistance_eq_zero_iff :
    mode.squaredDistance request = 0 ↔ mode.OfResolution request := by
  rw [ModeInfo.squaredDistance, add_eq_zero_iff_of_nonneg (sq_nonneg _) (sq_nonneg _),
    sq_eq_zero_iff, sq_eq_zero_iff, sub_eq_zero, sub_eq_zero, ← setWidth_eq_iff, ← setWidth_eq_iff,
    ModeInfo.OfResolution]

/-! ## The loop -/

/-- The squared distance as an int holds it. -/
def ModeInfo.wrappedDistance (request : ModeRequest) (mode : ModeInfo) : Int :=
  (mode.squaredDistance request).bmod (2 ^ 32)

/-- With a resolution, the second loop scans for the least distance in an int. -/
theorem closestMode_eq_searchLeast (sized : request.Sized) (best : Option ModeInfo)
    (dist : BitVec 32) (modes : List ModeInfo) :
    closestMode request best dist modes =
      searchLeast (ModeInfo.wrappedDistance request) best dist.toInt modes := by
  induction modes generalizing best dist with
  | nil => rfl
  | cons head rest ih =>
      have closer : (head.distance request dist).slt dist ↔
          head.wrappedDistance request < dist.toInt := by
        rw [BitVec.slt_iff_toInt_lt, distance_toInt sized, ModeInfo.wrappedDistance]
      have zero : head.distance request dist = 0 ↔ head.wrappedDistance request = 0 := by
        rw [← BitVec.toInt_inj, distance_toInt sized, ModeInfo.wrappedDistance,
          show (0 : BitVec 32).toInt = 0 from BitVec.toInt_zero]
      simp only [closestMode, searchLeast, closer, zero, ih]
      rw [distance_toInt sized, ModeInfo.wrappedDistance]

/-- Without one, it finds the first preferred mode. -/
theorem closestMode_eq_find? (unsized : ¬ request.Sized) (modes : List ModeInfo) :
    closestMode request none intMax modes = modes.find? ModeInfo.Preferred := by
  induction modes with
  | nil => rfl
  | cons head rest ih =>
      have same : head.distance request intMax = if head.Preferred then 0 else intMax :=
        if_neg (show ¬ (request.xres ≠ 0 ∧ request.yres ≠ 0) from unsized)
      by_cases preferred : head.Preferred
      · rw [if_pos preferred] at same
        rw [List.find?_cons_of_pos (by simpa using preferred)]
        simp only [closestMode, same]
        rfl
      · rw [if_neg preferred] at same
        rw [List.find?_cons_of_neg (by simpa using preferred), ← ih]
        simp only [closestMode, same]
        rfl

/-- With a resolution, the scan or its fall-back settles on the mode that wins in ints. -/
theorem closestMode_or_head_iff (sized : request.Sized) :
    (closestMode request none intMax modes).or modes.head? = some mode ↔
      Wins (ModeInfo.wrappedDistance request) modes mode := by
  rw [closestMode_eq_searchLeast sized]
  apply searchLeast_or_head_eq_some_iff (by decide)
  intro entry _
  have bound : (entry.squaredDistance request).bmod (2 ^ 32) < ((2 ^ 32 : Nat) + 1) / 2 :=
    Int.bmod_lt (by decide)
  rw [ModeInfo.wrappedDistance, show intMax.toInt = 2 ^ 31 - 1 by decide]
  omega

/-! ## What is picked -/

/-- The second loop and the fall-back, where nothing is generated. -/
theorem pickMode_of_unmatched {arithmetic : FloatArithmetic} (unforced : request.forcemode = false)
    (unmatched : ¬ (request.Complete ∧ ∃ mode ∈ modes, mode.Matches request)) :
    pickMode arithmetic request modes =
      (closestMode request none intMax modes).or modes.head? := by
  have none : (if request.Complete then modes.find? (ModeInfo.Matches request) else none) =
      none := by
    split
    next complete =>
      rw [List.find?_eq_none]
      intro mode listed found
      exact unmatched ⟨complete, mode, listed, of_decide_eq_true found⟩
    next => rfl
  simp only [pickMode, none, unforced]
  cases closestMode request .none intMax modes <;> rfl

/-- The first mode that matches. -/
theorem pickMode_of_matched {arithmetic : FloatArithmetic} (complete : request.Complete)
    (matched : modes.find? (ModeInfo.Matches request) = some mode) :
    pickMode arithmetic request modes = some mode := by
  simp only [pickMode, if_pos complete, matched]

/-- Where the search is right: if a mode matches, no negative rate made it do so, or it is the
first of its resolution; otherwise the closest mode wins in ints too. -/
def ModeRequest.SearchesRight (request : ModeRequest) (modes : List ModeInfo) : Prop :=
  if request.Complete ∧ ∃ mode ∈ modes, mode.Matches request then
    0 ≤ request.rate.toInt ∨
      ∃ mode, modes.find? (ModeInfo.OfResolution request) = some mode ∧ mode.Matches request
  else
    request.Sized → ∀ closest, firstLeast (ModeInfo.squaredDistance request) modes = some closest →
      Wins (ModeInfo.wrappedDistance request) modes closest

/-- A mode that matches is what is asked for, unless only a negative rate made it match. -/
theorem selectedMode_of_matched (complete : request.Complete)
    (matched : modes.find? (ModeInfo.Matches request) = some mode) :
    request.selectedMode modes = some mode ↔ 0 ≤ request.rate.toInt ∨
      ∃ first, modes.find? (ModeInfo.OfResolution request) = some first ∧
        first.Matches request := by
  have meets : mode.Matches request := by simpa using List.find?_some matched
  rw [ModeRequest.selectedMode, if_pos complete]
  by_cases nonnegative : 0 ≤ request.rate.toInt
  · have exact : modes.find? (ModeInfo.Exact request) = some mode :=
      find?_of_narrower (fun entry exact => (exact_iff.mp exact).1) matched
        (exact_iff.mpr ⟨meets, nonnegative⟩)
    rw [exact, Option.some_or]
    exact iff_of_true rfl (.inl nonnegative)
  · have inexact : modes.find? (ModeInfo.Exact request) = none := by
      rw [List.find?_eq_none]
      intro entry _ exact
      exact nonnegative (exact_iff.mp (of_decide_eq_true exact)).2
    have closest : firstLeast (ModeInfo.squaredDistance request) modes =
        modes.find? (ModeInfo.OfResolution request) := by
      rw [firstLeast_eq_find? (fun entry _ => squaredDistance_nonneg entry)
        ⟨mode, List.mem_of_find?_eq_some matched,
          squaredDistance_eq_zero_iff.mpr ⟨meets.1, meets.2.1⟩⟩]
      simp only [squaredDistance_eq_zero_iff]
    rw [inexact, Option.none_or, if_pos (show request.Sized from ⟨complete.1, complete.2.1⟩),
      closest]
    constructor
    · intro first
      exact .inr ⟨mode, first, meets⟩
    · rintro (absurdly | ⟨first, found, firstMatches⟩)
      · exact absurd absurdly nonnegative
      · have narrower : ∀ entry : ModeInfo, entry.Matches request → entry.OfResolution request :=
          fun entry exactly => ⟨exactly.1, exactly.2.1⟩
        rw [found, ← find?_of_narrower narrower found firstMatches, matched]

/-- Where no mode matches, none is exact. -/
theorem selectedMode_of_unmatched
    (unmatched : ¬ (request.Complete ∧ ∃ mode ∈ modes, mode.Matches request)) :
    request.selectedMode modes =
      if request.Sized then firstLeast (ModeInfo.squaredDistance request) modes
      else (modes.find? ModeInfo.Preferred).or modes.head? := by
  have inexact : (if request.Complete then modes.find? (ModeInfo.Exact request) else none) =
      none := by
    split
    next complete =>
      rw [List.find?_eq_none]
      intro mode listed exact
      exact unmatched ⟨complete, mode, listed, (exact_iff.mp (of_decide_eq_true exact)).1⟩
    next => rfl
  rw [ModeRequest.selectedMode, inexact, Option.none_or]

/-- The search is right when no squared distance is too large for an int. -/
theorem searchesRight_of_small (nonnegative : 0 ≤ request.rate.toInt)
    (small : ∀ mode ∈ modes, mode.squaredDistance request < 2 ^ 31) :
    request.SearchesRight modes := by
  unfold ModeRequest.SearchesRight
  split
  · exact .inl nonnegative
  · intro _ closest smallest
    have wins := wins_of_firstLeast (fun entry _ => squaredDistance_nonneg entry) smallest
    refine wins.congr fun mode listed => ?_
    have bound := small mode listed
    have positive : 0 ≤ mode.squaredDistance request := squaredDistance_nonneg mode
    exact (Int.bmod_eq_of_le (by omega) (by omega)).symm

/-- Only a complete request forces a mode. -/
theorem ModeRequest.complete_of_forced {properties : ModeProperties}
    (forced : (ModeRequest.ofProperties properties).forcemode = true) :
    (ModeRequest.ofProperties properties).Complete := by
  have parsed : ∀ value, (ModeRequest.parse value).forcemode = false := by
    intro value
    unfold ModeRequest.parse
    split
    · rfl
    · split <;> rfl
  unfold ModeRequest.ofProperties at forced ⊢
  split at forced
  next set => rw [parsed] at forced; cases forced
  next unset =>
    split at forced
    next forceSet =>
      rw [if_neg unset, if_pos forceSet]
      exact of_decide_eq_true forced
    next => cases forced

/-- Trimming changes the clock only. -/
theorem ModeInfo.trimClock_eq (mode : ModeInfo) :
    ∃ clock, mode.trimClock = { mode with clock := clock } := by
  unfold ModeInfo.trimClock
  split
  · exact ⟨75000, rfl⟩
  · exact ⟨mode.clock, rfl⟩

/-- `find_mode` picks the mode that is asked for, out of the list, and changes at most its
clock. -/
def SelectsSpecified (arithmetic : FloatArithmetic) (properties : ModeProperties)
    (modes : List ModeInfo) : Prop :=
  ∃ picked ∈ modes, pickMode arithmetic (.ofProperties properties) modes = some picked ∧
    (ModeRequest.ofProperties properties).selectedMode modes = some picked ∧
    ∃ clock, findMode arithmetic properties modes = some { picked with clock := clock }

/-- A pick of the list is as specified when the request selects it. -/
theorem selectsSpecified_iff {arithmetic : FloatArithmetic} {properties : ModeProperties}
    (picked : pickMode arithmetic (.ofProperties properties) modes = some mode)
    (listed : mode ∈ modes) :
    SelectsSpecified arithmetic properties modes ↔
      (ModeRequest.ofProperties properties).selectedMode modes = some mode := by
  constructor
  · rintro ⟨other, -, picked', selected, -⟩
    rw [selected, ← picked', picked]
  · intro selected
    obtain ⟨clock, trimmed⟩ := mode.trimClock_eq
    exact ⟨mode, listed, picked, selected, clock,
      by rw [findMode, picked, Option.map_some, trimmed]⟩

/-- Unless a mode is generated, the one that is asked for is picked exactly where the search
is right. -/
theorem findMode_selects_iff {arithmetic : FloatArithmetic} {properties : ModeProperties}
    {modes : List ModeInfo} (nonempty : modes ≠ [])
    (ungenerated : (ModeRequest.ofProperties properties).forcemode = true →
      ∃ mode ∈ modes, mode.Matches (.ofProperties properties)) :
    SelectsSpecified arithmetic properties modes ↔
      (ModeRequest.ofProperties properties).SearchesRight modes := by
  generalize asked : ModeRequest.ofProperties properties = request at ungenerated
  by_cases matched : request.Complete ∧ ∃ mode ∈ modes, mode.Matches request
  · obtain ⟨complete, entry, listed, entryMatches⟩ := matched
    obtain ⟨mode, found⟩ : ∃ mode, modes.find? (ModeInfo.Matches request) = some mode := by
      rw [← Option.isSome_iff_exists, List.find?_isSome]
      exact ⟨entry, listed, decide_eq_true entryMatches⟩
    rw [selectsSpecified_iff (by rw [asked]; exact pickMode_of_matched complete found)
      (List.mem_of_find?_eq_some found), asked, selectedMode_of_matched complete found,
      ModeRequest.SearchesRight, if_pos ⟨complete, entry, listed, entryMatches⟩]
  · have unforced : request.forcemode = false := by
      by_contra forced
      rw [Bool.not_eq_false] at forced
      exact matched ⟨asked ▸ ModeRequest.complete_of_forced (asked ▸ forced), ungenerated forced⟩
    obtain ⟨mode, picked⟩ : ∃ mode, (closestMode request none intMax modes).or modes.head? =
        some mode := by
      rw [← Option.isSome_iff_exists, Option.isSome_or]
      simp [nonempty]
    have source : pickMode arithmetic request modes = _ := pickMode_of_unmatched unforced matched
    have listed : mode ∈ modes := by
      rcases pickMode_source (source.trans picked) with listed | ⟨forced, -⟩
      · exact listed
      · rw [unforced] at forced
        cases forced
    rw [selectsSpecified_iff (by rw [asked, source, picked]) listed, asked,
      selectedMode_of_unmatched matched, ModeRequest.SearchesRight, if_neg matched]
    by_cases sized : request.Sized
    · have settles := (closestMode_or_head_iff sized).mp picked
      rw [if_pos sized]
      constructor
      · intro closest _ other smallest
        rw [closest] at smallest
        exact Option.some.inj smallest ▸ settles
      · intro wins
        cases smallest : firstLeast (ModeInfo.squaredDistance request) modes with
        | none => exact absurd (firstLeast_eq_none.mp smallest) nonempty
        | some closest => rw [Wins.unique (wins sized closest smallest) settles]
    · rw [if_neg sized, ← closestMode_eq_find? sized, picked]
      exact iff_of_true rfl fun given => absurd given sized

/-- Full HD and VGA. -/
def exampleModes : List ModeInfo := [⟨148500, 1920, 1080, 60, 0⟩, ⟨25175, 640, 480, 60, 0⟩]

/-- Nothing is generated in the examples. -/
def exampleArithmetic : FloatArithmetic := ⟨fun _ _ _ => ⟨0, 0, 0, 0, 0⟩, fun _ _ => 75⟩

/-- What the examples ask for. -/
def exampleRequest (xres yres : BitVec 32) : ModeRequest := ⟨xres, yres, 60, false⟩

theorem findMode_selects_example :
    SelectsSpecified exampleArithmetic ⟨"1280x1024", ""⟩ exampleModes := by
  have asked : ModeRequest.ofProperties ⟨"1280x1024", ""⟩ = exampleRequest 1280 1024 := by decide
  refine (findMode_selects_iff (by decide) (by rw [asked]; decide)).mpr ?_
  rw [asked]
  exact searchesRight_of_small (by decide) (by decide)

/-- The square of the smaller mode's distance does not fit into an int. The mode seems the
closer one then. -/
theorem findMode_not_always_selects :
    ¬ SelectsSpecified exampleArithmetic ⟨"47000x1080", ""⟩ exampleModes := by
  have asked : ModeRequest.ofProperties ⟨"47000x1080", ""⟩ = exampleRequest 47000 1080 := by decide
  rintro ⟨mode, -, picked, selected, -⟩
  rw [asked] at picked selected
  have smaller : pickMode exampleArithmetic (exampleRequest 47000 1080) exampleModes =
      some ⟨25175, 640, 480, 60, 0⟩ := by decide
  have closest : (exampleRequest 47000 1080).selectedMode exampleModes =
      some ⟨148500, 1920, 1080, 60, 0⟩ := by decide
  have same := (smaller.symm.trans picked).trans (selected.symm.trans closest)
  revert same
  decide

end Arpi.Composer
