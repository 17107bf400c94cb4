import Arpi.Gralloc.AllocateBatch

/-!
# All or nothing

The duplicates of a batch are made while every lease is still held, so their descriptors are
none of those that are closed with the leases. A call of `allocate` hands out the whole batch
or nothing and keeps nothing else, unless its count is negative and `reserve` aborts the
process.
-/

namespace Arpi.Gralloc.Allocator

open Arpi.Semantics

/-- A duplicate of a handle of an object: the same words, and a descriptor that was not open
before, is open now and refers to the object, unless the handle has no descriptor itself. -/
structure DuplicateOf (before after : Descriptors) (object : BoId)
    (original copy : PrivateHandle) : Prop where
  words : copy = { original with fd := copy.fd }
  opened : 0 ≤ original.fd → 0 ≤ copy.fd ∧ before.lookup copy.fd = none ∧
    after.lookup copy.fd = some object
  unopened : original.fd < 0 → copy.fd = -1

/-- The result of a successful call that has ended: as many buffers as were asked for, each a
duplicate of the one that its turn has made, all with the stride that is reported. No open
descriptor is handed out twice, and none of them is one of those that were closed. -/
structure Duplicated (descriptor : BufferDescriptorInfo) (call : AllocateCall)
    (result : AllocationResult) (before after : AllocatorState) : Prop where
  count : (result.buffers.length : Int) = call.count.toInt
  each : ∀ (index : Nat) copy, result.buffers[index]? = some copy →
    ∃ bo, (call.outcomes index).created = some bo ∧
      DuplicateOf before.descriptors after.descriptors (before.gralloc.bos.next + index)
        (madeContents descriptor bo) copy ∧
      bo.stride / grallocGbmGetBpp descriptor.format = result.stride
  distinct : ∀ (first second : Nat) copy other, result.buffers[first]? = some copy →
    result.buffers[second]? = some other → 0 ≤ copy.fd → copy.fd = other.fd → first = second
  apart : ∀ copy ∈ result.buffers, 0 ≤ copy.fd → ∀ index < result.buffers.length, ∀ bo,
    (call.outcomes index).created = some bo → copy.fd ≠ bo.fd

/-- A call returns a status, fills in the whole result or leaves it alone, and keeps nothing
but the open descriptors of a result that it has filled in. -/
def AllOrNothing (maxSize : Nat) (state : AllocatorState) (call : AllocateCall) : Prop :=
  ∃ status result after, allocate maxSize call state = (some (status, result), after) ∧
    (status = 0 →
      (∃ descriptor, call.decoded = .ok descriptor ∧
        Duplicated descriptor call result state after) ∧
      SameHoldings (result.buffers.map PrivateHandle.fd) state after) ∧
    (status ≠ 0 → result = call.outResult ∧ SameHoldings [] state after)

/-- The count is not negative, or the descriptor cannot be decoded. -/
def CountFits (call : AllocateCall) : Prop :=
  0 ≤ call.count.toInt ∨ ∃ ret, call.decoded = .error ret

/-- `max_size` of a vector of pointers on a platform whose `size_t` has 64 bits. -/
structure VectorLimit (maxSize : Nat) : Prop where
  positive : 2 ^ 31 ≤ maxSize
  negative : maxSize < 2 ^ 64 - 2 ^ 31

/-! ## The duplicates -/

/-- A copy has a descriptor only if the original has one. -/
theorem DuplicateOf.described {before after : Descriptors} {object : BoId}
    {original copy : PrivateHandle} (duplicate : DuplicateOf before after object original copy)
    (proper : 0 ≤ copy.fd) : 0 ≤ original.fd := by
  by_contra negative
  have unopened := duplicate.unopened (Int.not_le.mp negative)
  omega

/-- Each copy is a duplicate of what the lease in its place contains, and nothing else was
opened. -/
structure Duplicates (before after : Descriptors) (leases : List Lease)
    (copies : List PrivateHandle) : Prop where
  length : copies.length = leases.length
  each : ∀ (index : Nat) copy, copies[index]? = some copy → ∃ lease,
    leases[index]? = some lease ∧ DuplicateOf before after lease.bo lease.contents copy
  others : AgreeOff (copies.map PrivateHandle.fd) before.lookup after.lookup

namespace Duplicates

variable {before after : Descriptors} {lease : Lease} {leases : List Lease}
  {copies : List PrivateHandle} {copy : PrivateHandle} {fd : Int}

theorem nil (descriptors : Descriptors) : Duplicates descriptors descriptors [] [] where
  length := rfl
  each _ _ found := by cases found
  others := .refl _

/-- The descriptors of the copies were not open. -/
theorem new (duplicates : Duplicates before after leases copies) (member : copy ∈ copies)
    (proper : 0 ≤ copy.fd) : before.lookup copy.fd = none := by
  obtain ⟨index, found⟩ := List.mem_iff_getElem?.mp member
  obtain ⟨lease, -, duplicate⟩ := duplicates.each index copy found
  exact (duplicate.opened (duplicate.described proper)).2.1

/-- A handle without a descriptor is copied first. -/
theorem unopened (later : Duplicates before after leases copies) (negative : lease.fd < 0)
    (words : copy = { lease.contents with fd := copy.fd }) (failed : copy.fd = -1) :
    Duplicates before after (lease :: leases) (copy :: copies) where
  length := congrArg Nat.succ later.length
  each index other found := by
    cases index with
    | zero =>
        obtain rfl := Option.some.inj found
        exact ⟨lease, rfl, words, fun proper => absurd proper (Int.not_le.mpr negative),
          fun _ => failed⟩
    | succ index => exact later.each index other found
  others other free := later.others other fun member => free (List.mem_cons_of_mem _ member)

/-- A descriptor is duplicated first. -/
theorem opened (later : Duplicates (before.insert copy.fd lease.bo) after leases copies)
    (described : 0 ≤ lease.fd) (words : copy = { lease.contents with fd := copy.fd })
    (proper : 0 ≤ copy.fd) (closed : before.lookup copy.fd = none) :
    Duplicates before after (lease :: leases) (copy :: copies) where
  length := congrArg Nat.succ later.length
  each index other found := by
    cases index with
    | zero =>
        obtain rfl := Option.some.inj found
        have notAgain : copy.fd ∉ copies.map PrivateHandle.fd := by
          intro again
          obtain ⟨other, member, same⟩ := List.mem_map.mp again
          have new := later.new member (same ▸ proper)
          rw [same, Finmap.lookup_insert] at new
          cases new
        have now : after.lookup copy.fd = some lease.bo :=
          (later.others _ notAgain).trans (Finmap.lookup_insert _)
        exact ⟨lease, rfl, words, fun _ => ⟨proper, closed, now⟩,
          fun negative => absurd described (Int.not_le.mpr negative)⟩
    | succ index =>
        obtain ⟨another, place, duplicate⟩ := later.each index other found
        refine ⟨another, place, duplicate.words, fun described => ?_, duplicate.unopened⟩
        obtain ⟨positive, new, now⟩ := duplicate.opened described
        have different : other.fd ≠ copy.fd := by
          intro same
          rw [same, Finmap.lookup_insert] at new
          cases new
        rw [Finmap.lookup_insert_of_ne _ different] at new
        exact ⟨positive, new, now⟩
  others other free := by
    obtain ⟨different, notLater⟩ := List.ne_and_not_mem_of_not_mem_cons free
    exact (later.others other notLater).trans (Finmap.lookup_insert_of_ne _ different)

end Duplicates

/-- The specification of the second loop, which finds the descriptors of the leases open. -/
theorem duplicateBuffers_outcome {dupToAidl : Nat → DupToAidl}
    (contract : ∀ index, DupToAidlContract (dupToAidl index)) (leases : List Lease) (index : Nat)
    (state : AllocatorState)
    (contents : ∀ lease ∈ leases, state.gralloc.memory lease.handle = lease.contents)
    (opened : ∀ lease ∈ leases, state.descriptors.lookup lease.fd = lease.file) :
    ∃ copies descriptors,
      duplicateBuffers dupToAidl (leases.map Lease.handle) index state =
        (copies, { state with descriptors := descriptors }) ∧
      Duplicates state.descriptors descriptors leases copies := by
  induction leases generalizing index state with
  | nil => exact ⟨[], state.descriptors, rfl, .nil _⟩
  | cons lease leases ih =>
      rw [List.forall_mem_cons] at contents opened
      obtain ⟨here, contents⟩ := contents
      obtain ⟨file, opened⟩ := opened
      have words := (contract index).words state.descriptors lease.contents
      rw [List.map_cons, duplicateBuffers, here]
      by_cases described : 0 ≤ lease.fd
      · rw [Lease.file, if_pos described] at file
        obtain ⟨proper, closed, inserted⟩ := (contract index).opened _ _ _ file
        generalize dupToAidl index state.descriptors lease.contents = answer at *
        obtain ⟨copy, descriptors⟩ := answer
        dsimp only at *
        subst inserted
        have stillOpened : ∀ other ∈ leases,
            (state.descriptors.insert copy.fd lease.bo).lookup other.fd = other.file := by
          intro other member
          have before := opened other member
          have different : other.fd ≠ copy.fd := by
            intro same
            rw [same, closed, Lease.file, if_pos (same ▸ proper)] at before
            cases before
          rw [Finmap.lookup_insert_of_ne _ different, before]
        obtain ⟨copies, after, answer, later⟩ := ih (index + 1)
          { state with descriptors := state.descriptors.insert copy.fd lease.bo } contents
          stillOpened
        rw [answer]
        exact ⟨copy :: copies, after, rfl, later.opened described words proper closed⟩
      · rw [Lease.file, if_neg described] at file
        obtain ⟨failed, same⟩ := (contract index).unopened _ _ file
        generalize dupToAidl index state.descriptors lease.contents = answer at *
        obtain ⟨copy, descriptors⟩ := answer
        dsimp only at *
        subst same
        obtain ⟨copies, after, answer, later⟩ := ih (index + 1) state contents opened
        rw [answer]
        exact ⟨copy :: copies, after, rfl, later.unopened (Int.not_le.mp described) words failed⟩

/-- What is open once the descriptors of some leases are closed. -/
def closing (leases : List Lease) (descriptors : Descriptors) : Descriptors :=
  leases.foldl (fun descriptors lease => descriptors.erase lease.fd) descriptors

section Closing

variable {before now : AllocatorState} {leases : List Lease} {descriptors : Descriptors} {fd : Int}

theorem lookup_closing_of_notMem (kept : fd ∉ leases.map Lease.fd) :
    (closing leases descriptors).lookup fd = descriptors.lookup fd := by
  induction leases generalizing descriptors with
  | nil => rfl
  | cons lease leases ih =>
      obtain ⟨different, notLater⟩ := List.ne_and_not_mem_of_not_mem_cons kept
      exact (ih notLater).trans (Finmap.lookup_erase_ne different)

theorem lookup_closing_of_mem (closed : fd ∈ leases.map Lease.fd) :
    (closing leases descriptors).lookup fd = none := by
  induction leases generalizing descriptors with
  | nil => cases closed
  | cons lease leases ih =>
      by_cases again : fd ∈ leases.map Lease.fd
      · exact ih again
      · obtain rfl := (List.mem_cons.mp closed).resolve_right again
        exact (lookup_closing_of_notMem again).trans (Finmap.lookup_erase _ _)

/-- Whatever was opened meanwhile: the process holds the leases, and else what it will hold
once they are given back. -/
theorem Leased.meanwhile (leased : Leased before now leases) (descriptors : Descriptors) :
    Leased { before with descriptors := closing leases descriptors }
      { now with descriptors := descriptors } leases where
  entries := leased.entries
  objects := leased.objects
  handles := leased.handles
  descriptors _ free := (lookup_closing_of_notMem free).symm
  each lease member :=
    let held := leased.each lease member
    { held with newDescriptor := lookup_closing_of_mem (List.mem_map_of_mem member) }
  distinct := leased.distinct
  later := leased.later

end Closing

/-! ## The call -/

/-- The count as a `size_t` fits exactly when it is not negative. -/
theorem reserve_fits_iff {maxSize : Nat} (limit : VectorLimit maxSize) (count : U32) :
    (count.signExtend 64).toNat ≤ maxSize ↔ 0 ≤ count.toInt := by
  have widened : (count.signExtend 64).toInt = count.toInt :=
    BitVec.toInt_signExtend_of_le (by decide)
  rw [BitVec.toInt_eq_toNat_cond] at widened
  have lower := BitVec.le_toInt count
  have upper := BitVec.toInt_lt (x := count)
  have positive := limit.positive
  have negative := limit.negative
  have bound := (count.signExtend 64).isLt
  split at widened <;> omega

section Call

variable {maxSize : Nat} {state : AllocatorState} {call : AllocateCall}

/-- No open descriptor of a copy is closed with the leases. -/
theorem Duplicates.notClosed {before after : Descriptors} {leases : List Lease}
    {copies : List PrivateHandle} (duplicates : Duplicates before after leases copies)
    (opened : ∀ lease ∈ leases, before.lookup lease.fd = lease.file) {copy : PrivateHandle}
    (member : copy ∈ copies) (proper : 0 ≤ copy.fd) : copy.fd ∉ leases.map Lease.fd := by
  intro closed
  obtain ⟨lease, held, same⟩ := List.mem_map.mp closed
  have still := opened lease held
  rw [Lease.file, if_pos (same ▸ proper), same, duplicates.new member proper] at still
  cases still

section Ending

variable {built : AllocatorState} {descriptor : BufferDescriptorInfo} {turns : Nat} {stride : U32}
  {buffers : List BufferHandle} {leases : List Lease} {copies : List PrivateHandle}
  {descriptors : Descriptors}

/-- What is left once the buffers are duplicated and freed. -/
theorem Progress.freed
    (progress : Progress state built call.outcomes descriptor turns stride buffers leases)
    (descriptors : Descriptors) :
    SameHoldings [] { state with descriptors := closing leases descriptors }
      (freeBuffers buffers { built with descriptors := descriptors }) := by
  rw [progress.buffers]
  exact (progress.leased.meanwhile descriptors).freeBuffers

/-- Of what the call has done, only the descriptors of the copies are left. -/
theorem Progress.sameHoldings
    (progress : Progress state built call.outcomes descriptor turns stride buffers leases)
    (duplicates : Duplicates built.descriptors descriptors leases copies) :
    SameHoldings (copies.map PrivateHandle.fd) state
      (freeBuffers buffers { built with descriptors := descriptors }) := by
  have freed := progress.freed descriptors
  refine ⟨freed.entries, freed.objects, freed.handles, fun fd kept => ?_⟩
  rw [freed.descriptors.eq]
  by_cases closed : fd ∈ leases.map Lease.fd
  · obtain ⟨lease, member, rfl⟩ := List.mem_map.mp closed
    exact (lookup_closing_of_mem closed).trans
      (progress.leased.each lease member).newDescriptor.symm
  · calc (closing leases descriptors).lookup fd
        = descriptors.lookup fd := lookup_closing_of_notMem closed
      _ = built.descriptors.lookup fd := duplicates.others fd kept
      _ = state.descriptors.lookup fd := progress.leased.descriptors fd closed

/-- A copy is still the duplicate of what was made. -/
theorem Progress.duplicateOf
    (progress : Progress state built call.outcomes descriptor turns stride buffers leases)
    (duplicates : Duplicates built.descriptors descriptors leases copies) {lease : Lease}
    {copy : PrivateHandle} (member : copy ∈ copies)
    (duplicate : DuplicateOf built.descriptors descriptors lease.bo lease.contents copy) :
    DuplicateOf state.descriptors
      (freeBuffers buffers { built with descriptors := descriptors }).descriptors lease.bo
      lease.contents copy where
  words := duplicate.words
  unopened := duplicate.unopened
  opened described := by
    obtain ⟨proper, new, now⟩ := duplicate.opened described
    have kept := duplicates.notClosed progress.opened member proper
    refine ⟨proper, (progress.leased.descriptors _ kept).symm.trans new, ?_⟩
    calc (freeBuffers buffers { built with descriptors := descriptors }).descriptors.lookup copy.fd
        = (closing leases descriptors).lookup copy.fd :=
          congrFun (progress.freed descriptors).descriptors.eq copy.fd
      _ = descriptors.lookup copy.fd := lookup_closing_of_notMem kept
      _ = some lease.bo := now

/-- What the loop made, duplicated, is the result of the call. -/
theorem Progress.duplicated (positive : 0 ≤ call.count.toInt)
    (progress : Progress state built call.outcomes descriptor call.count.toInt.toNat stride buffers
      leases)
    (duplicates : Duplicates built.descriptors descriptors leases copies) :
    Duplicated descriptor call ⟨stride, copies⟩ state
      (freeBuffers buffers { built with descriptors := descriptors }) where
  count := by
    rw [duplicates.length, progress.length]
    exact Int.toNat_of_nonneg positive
  each index copy found := by
    obtain ⟨lease, place, duplicate⟩ := duplicates.each index copy found
    have made := progress.made index lease place
    obtain ⟨bo, created, contents, same⟩ := made.created
    have still := progress.duplicateOf duplicates (List.mem_of_getElem? found) duplicate
    rw [made.bo, contents] at still
    exact ⟨bo, created, still, same⟩
  distinct first second copy other found again proper same := by
    obtain ⟨lease, place, duplicate⟩ := duplicates.each first copy found
    obtain ⟨another, elsewhere, duplicate'⟩ := duplicates.each second other again
    have left := (duplicate.opened (duplicate.described proper)).2.2
    have right := (duplicate'.opened (duplicate'.described (same ▸ proper))).2.2
    rw [same, right, (progress.made first lease place).bo,
      (progress.made second another elsewhere).bo] at left
    exact (Nat.add_left_cancel (Option.some.inj left)).symm
  apart copy member proper index bound bo created same := by
    have kept := duplicates.notClosed progress.opened member proper
    rw [duplicates.length] at bound
    have made := progress.made index leases[index] (List.getElem?_eq_getElem bound)
    obtain ⟨other, created', contents, -⟩ := made.created
    obtain rfl := Option.some.inj (created.symm.trans created')
    have fd : leases[index].fd = copy.fd := by
      rw [same, Lease.fd, contents]
      rfl
    exact kept (fd ▸ List.mem_map_of_mem (List.getElem_mem bound))

end Ending

/-- A call from a process that registers only private handles is all or nothing exactly when
its count fits. -/
theorem allOrNothing_iff (limit : VectorLimit maxSize) (registered : HandlesRegistered state)
    (contract : AllocateContract state call) :
    AllOrNothing maxSize state call ↔ CountFits call := by
  cases decoded : call.decoded with
  | error ret =>
      have answer : allocate maxSize call state = (some (ret, call.outResult), state) := by
        rw [allocate, decoded]
      have status := contract.decoding ret decoded
      exact iff_of_true
        ⟨ret, call.outResult, state, answer, fun zero => absurd zero status,
          fun _ => ⟨rfl, .refl state⟩⟩
        (.inr ⟨ret, decoded⟩)
  | ok descriptor =>
      have fits : CountFits call ↔ 0 ≤ call.count.toInt := by
        simp [CountFits, decoded]
      rw [fits, ← reserve_fits_iff limit]
      by_cases reserved : (call.count.signExtend 64).toNat ≤ maxSize
      case neg =>
        have answer : allocate maxSize call state = (none, state) := by
          simp only [allocate, decoded]
          rw [if_pos (Nat.lt_of_not_le reserved)]
        refine iff_of_false ?_ reserved
        rintro ⟨status, result, after, returned, -⟩
        rw [answer] at returned
        cases returned
      refine iff_of_true ?_ reserved
      have positive := (reserve_fits_iff limit call.count).mp reserved
      have start : Progress state state call.outcomes descriptor 0 0 [] [] :=
        ⟨.refl state, rfl, rfl, fun _ _ found => (by cases found), rfl,
          fun _ member => absurd member List.not_mem_nil, fun _ => rfl⟩
      have outcome := allocateBuffers_outcome registered contract decoded call.count.toInt.toNat
        start
      rw [Nat.zero_add] at outcome
      simp only [AllOrNothing, allocate, decoded, if_neg (Nat.not_lt.mpr reserved)]
      generalize allocateBuffers call.outcomes descriptor _ 0 0 [] state = answer at outcome ⊢
      cases outcome with
      | @failed status after nonzero same =>
          exact ⟨status, call.outResult, after, rfl, fun zero => absurd zero nonzero,
            fun _ => ⟨rfl, same⟩⟩
      | @finished stride buffers built leases progress =>
          obtain ⟨copies, descriptors, answer, duplicates⟩ :=
            duplicateBuffers_outcome contract.duplication leases 0 built
              (fun lease member => (progress.leased.each lease member).contents) progress.opened
          rw [← progress.buffers] at answer
          simp only [answer]
          exact ⟨0, ⟨stride, copies⟩, _, rfl,
            fun _ => ⟨⟨descriptor, rfl, progress.duplicated positive duplicates⟩,
              progress.sameHoldings duplicates⟩,
            fun nonzero => absurd rfl nonzero⟩

/-- A process whose holdings are the same registers only private handles. -/
theorem HandlesRegistered.same {handedOut : List Int} {after : AllocatorState}
    (registered : HandlesRegistered state) (same : SameHoldings handedOut state after) :
    HandlesRegistered after := by
  intro handle entry
  rw [same.entries] at entry
  rw [same.handles]
  exact registered handle entry

/-- A call that is all or nothing registers only private handles. -/
theorem HandlesRegistered.called (registered : HandlesRegistered state)
    (kept : AllOrNothing maxSize state call) :
    HandlesRegistered (allocate maxSize call state).2 := by
  obtain ⟨status, result, after, answer, succeeded, failed⟩ := kept
  rw [answer]
  by_cases zero : status = 0
  · exact registered.same (succeeded zero).2
  · exact registered.same (failed zero).2

/-- A reply closes descriptors and registers nothing. -/
theorem HandlesRegistered.replied (registered : HandlesRegistered state)
    (result : AllocationResult) :
    HandlesRegistered ((allocatorMachine maxSize).next state (.reply result)) := by
  simp only [Machine.next, allocatorMachine]
  generalize result.buffers = copies
  induction copies generalizing state with
  | nil => exact registered
  | cons copy copies ih => exact ih registered

end Call

/-- Along every run of allocator calls and replies, whatever each allocation yields, every call
returns a status, fills in the whole result or leaves it alone, and leaves nothing behind
but what it hands out, exactly when no call with a decodable descriptor has a negative count. -/
theorem allocate_allOrNothing_iff {maxSize : Nat} (limit : VectorLimit maxSize)
    (memory : BufferHandle → PrivateHandle) (calls : List AllocatorCall)
    (contract : (allocatorMachine maxSize).EachStep
      (fun state call => call.Allocates (AllocateContract state)) (.fresh memory) calls) :
    (allocatorMachine maxSize).EachStep
        (fun state call => call.Allocates (AllOrNothing maxSize state)) (.fresh memory) calls ↔
      (allocatorMachine maxSize).EachStep (fun _ call => call.Allocates CountFits) (.fresh memory)
        calls := by
  have start : HandlesRegistered (.fresh memory) := fun _ entry => absurd rfl entry
  refine (allocatorMachine maxSize).eachStep_iff_eachStep ?_ ?_ start contract
  · intro state call registered environment fits
    cases call with
    | allocate call =>
        exact registered.called ((allOrNothing_iff limit registered environment).mpr fits)
    | reply result => exact registered.replied result
  · intro state call registered environment
    cases call with
    | allocate call => exact allOrNothing_iff limit registered environment
    | reply result => exact Iff.rfl

/-- There is a number that is not open. -/
theorem exists_closed (descriptors : Descriptors) : ∃ fd : Nat, (fd : Int) ∉ descriptors := by
  obtain ⟨fd, free⟩ := Infinite.exists_notMem_finset (descriptors.keys.image Int.toNat)
  refine ⟨fd, fun member => free ?_⟩
  exact Finset.mem_image.mpr ⟨fd, Finmap.mem_keys.mpr member, Int.toNat_natCast fd⟩

/-- A duplication as a kernel with room for descriptors does it: a duplicate gets the lowest
number that is not open. -/
def dupLowest : DupToAidl := fun descriptors handle =>
  match descriptors.lookup handle.fd with
  | none => ({ handle with fd := -1 }, descriptors)
  | some object =>
      let fd : Int := Nat.find (exists_closed descriptors)
      ({ handle with fd := fd }, descriptors.insert fd object)

theorem dupLowest_contract : DupToAidlContract dupLowest where
  words descriptors handle := by
    unfold dupLowest
    split <;> rfl
  opened descriptors handle object found := by
    let fd : Int := Nat.find (exists_closed descriptors)
    have answer : dupLowest descriptors handle =
        ({ handle with fd := fd }, descriptors.insert fd object) := by
      simp only [dupLowest, found, fd]
    rw [answer]
    exact ⟨Int.natCast_nonneg _,
      Finmap.lookup_eq_none.mpr (Nat.find_spec (exists_closed descriptors)), rfl⟩
  unopened descriptors handle closed := by
    simp only [dupLowest, closed, and_self]

/-- A call for some buffers of 16 by 16 pixels, all of which GBM makes with the same stride. -/
def exampleCall (count : U32) : AllocateCall where
  decoded := .ok ⟨16, 16, halPixelFormatRgba8888, 0x66⟩
  count := count
  outResult := ⟨0, []⟩
  outcomes index := ⟨index + 1, some ⟨index + 3, 64⟩, 0⟩
  dupToAidl _ := dupLowest

theorem exampleCall_contract (count : U32) (memory : BufferHandle → PrivateHandle) :
    AllocateContract (.fresh memory) (exampleCall count) where
  decoding ret failed := by cases failed
  unused _ := Finset.notMem_empty _
  distinct _ _ same := Nat.succ.inj same
  errno _ none := by cases none
  stride index bo descriptor created decoded := by
    cases created
    cases decoded
    exact show grallocGbmGetBpp halPixelFormatRgba8888 ≤ 64 by decide
  descriptor _ _ _ := Finmap.lookup_empty _
  descriptors first second bo other created again _ same := by
    cases created
    cases again
    dsimp only at same
    omega
  duplication _ := dupLowest_contract

theorem exampleLimit : VectorLimit (2 ^ 60 - 1) := ⟨by decide, by decide⟩

/-- Two buffers are made, duplicated and freed again. -/
theorem allocate_allOrNothing_example :
    (allocatorMachine (2 ^ 60 - 1)).EachStep
      (fun state call => call.Allocates (AllOrNothing (2 ^ 60 - 1) state))
      (.fresh fun _ => .new 0 0 0 0 0) [.allocate (exampleCall 2)] :=
  (allocate_allOrNothing_iff exampleLimit (fun _ => .new 0 0 0 0 0) [.allocate (exampleCall 2)]
    ⟨exampleCall_contract 2 _, trivial⟩).mpr ⟨.inl (by decide), trivial⟩

/-- A client that asks for minus one buffer aborts the allocator. -/
theorem allocate_not_always_allOrNothing :
    ¬ ∀ (maxSize : Nat), VectorLimit maxSize →
      ∀ (memory : BufferHandle → PrivateHandle) (calls : List AllocatorCall),
        (allocatorMachine maxSize).EachStep
            (fun state call => call.Allocates (AllocateContract state)) (.fresh memory) calls →
        (allocatorMachine maxSize).EachStep
          (fun state call => call.Allocates (AllOrNothing maxSize state)) (.fresh memory)
          calls := by
  intro claim
  obtain ⟨⟨status, result, after, returned, -⟩, -⟩ := claim (2 ^ 60 - 1) exampleLimit
    (fun _ => .new 0 0 0 0 0) [.allocate (exampleCall (-1))]
    ⟨exampleCall_contract (-1) _, trivial⟩
  have aborted : (allocate (2 ^ 60 - 1) (exampleCall (-1))
      (.fresh fun _ => .new 0 0 0 0 0)).1 = none := by decide
  rw [returned] at aborted
  cases aborted

end Arpi.Gralloc.Allocator
