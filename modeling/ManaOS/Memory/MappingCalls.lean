/-
One call of `map_private`.

* `mapPrivate_ok`: what a returning call has done;
* `failed_map_private_changes_nothing_iff` (**failure**): when a failed call has changed nothing.
-/
import ManaOS.Memory.MappingFills
import ManaOS.Memory.StackSlots

namespace ManaOS
open Checked UserMappingRange
namespace UserMappings

variable (mappings : UserMappings)

/-- The slots whose record ends above a candidate start. -/
def slotsAbove (candidate : UserPageStart) : Finset ℕ := (Finset.range
  maxUserMappings).filter fun index => ∃ record ∈ mappings.slot index, candidate.asU64 < record.stop

lemma Lawful.slotsAbove_ssubset {mappings : UserMappings} (h : mappings.Lawful)
  (hlast : mappings.overlappingRecordEnd range = some last) :
  mappings.slotsAbove last ⊂ mappings.slotsAbove range.start := by
  obtain ⟨index, record, hslot, ⟨_, _⟩, _⟩ := h.overlappingRecordEnd_eq_some hlast
  refine Finset.ssubset_iff_of_subset (fun j hj => ?_) |>.2 ⟨index, ?_, ?_⟩
  · obtain ⟨hlt, r, hr, habove⟩ := Finset.mem_filter.1 hj
    exact Finset.mem_filter.2 ⟨hlt, r, hr, by omega⟩
  · exact Finset.mem_filter.2 ⟨Finset.mem_range.2 (lt_of_slot hslot), record, hslot, by omega⟩
  intro hmem
  obtain ⟨-, r, hr, _⟩ := Finset.mem_filter.1 hmem
  obtain rfl := Option.some.inj (hslot.symm.trans hr)
  omega

lemma start_of_fromByteLen (h : fromByteLen candidate byteLen = some range) :
    range.start = candidate := by
  rw [fromByteLen] at h
  split_ifs at h
  obtain ⟨_, -, hnew⟩ := Option.bind_eq_some_iff.1 h
  exact (new_eq_some.1 hnew).1

/-- **The search ends** after one turn for each record above the candidate. -/
lemma Lawful.nextAvailableStartLoop_eq {mappings : UserMappings} (h : mappings.Lawful) (byteLen : ℕ)
  (hturns : (mappings.slotsAbove candidate).card < turns)
  (hturns' : (mappings.slotsAbove candidate).card < turns') :
  mappings.nextAvailableStartLoop byteLen turns candidate =
    mappings.nextAvailableStartLoop byteLen turns' candidate := by
  induction turns generalizing turns' candidate with
  | zero => exact absurd hturns (Nat.not_lt_zero _)
  | succ _ ih =>
    obtain ⟨_, rfl⟩ := Nat.exists_eq_add_one_of_ne_zero
      (Nat.ne_of_gt (Nat.zero_lt_of_lt hturns'))
    rw [nextAvailableStartLoop, nextAvailableStartLoop]
    cases hrg : fromByteLen candidate byteLen with
    | none => rfl
    | some range =>
      simp only [Option.bind_some]
      cases hlast : mappings.overlappingRecordEnd range with
      | none => rfl
      | some _ =>
        have hfewer := Finset.card_lt_card (h.slotsAbove_ssubset hlast)
        rw [start_of_fromByteLen hrg] at hfewer
        exact ih (by omega) (by omega)

lemma Lawful.nextAvailableStart_eq {mappings : UserMappings} (h : mappings.Lawful) (byteLen : ℕ)
  (hturns : maxUserMappings < turns) (candidate : UserPageStart) :
  mappings.nextAvailableStartLoop byteLen turns candidate =
    mappings.nextAvailableStart candidate byteLen := by
  have hcard : (mappings.slotsAbove candidate).card ≤ maxUserMappings := by
    rw [← Finset.card_range maxUserMappings]
    exact Finset.card_filter_le _ _
  exact h.nextAvailableStartLoop_eq byteLen (Nat.lt_of_le_of_lt hcard hturns)
    (Nat.lt_succ_of_le hcard)

/-! ### The checks before the first change -/

/-- The range that `map_private` starts to map, or the error before any change. -/
def admitted (plan : UserMappingPlan) :
  Except UserMappingError UserMappingRange :=
  match mappings.startAddressForPlacement plan.placement plan.length.pageCount.byteLen with
  | .error error => .error error
  | .ok start =>
    match UserMappingRange.new start plan.length.pageCount with
    | none => .error .invalidRequest
    | some range =>
      match plan.placement with
      | .fixedReplace _ =>
        match mappings.ensureReplaceRecordCapacity range with
        | .error error => .error error
        | .ok () => .ok range
      | _ =>
        match mappings.nextEmptyRecordIndex with
        | none => .error .outOfMemory
        | some _ => .ok range

/-- The table with the record of a plan. -/
def recorded (index : ℕ) (plan : UserMappingPlan)
  (range : UserMappingRange) : UserMappings :=
  let mappings := mappings.setRecord index (some ⟨range.start, plan.length.pageCount, plan.source⟩)
  match plan.placement with
  | .any => { mappings with nextStart := range.endExclusive }
  | _ => mappings

/-- What `map_private` returns after the mapping of the pages. -/
def concluded {σ : Type} (index : ℕ) (plan : UserMappingPlan)
  (range : UserMappingRange) (replaced : ℕ) :
  Except UserMappingError Unit × Memory × σ →
    Except UserMappingError UserMappingAllocation × UserMappings × Memory × σ
  | (.error error, memory, captured) => (.error error, mappings, memory, captured)
  | (.ok (), memory, captured) =>
    (.ok ⟨range.start.asAddress, range.pageCount, replaced⟩, mappings.recorded index plan range,
      memory, captured)

section Cases
variable {mapper : PageMapper} {space : UserAddressSpace} {mappings : UserMappings} {σ : Type}
  {initializePage : PageInitializer σ} {captured : σ} {memory : Memory}

lemma admitted_eq_ok (h : mappings.admitted plan = .ok range) :
    ∃ start,
      mappings.startAddressForPlacement plan.placement plan.length.pageCount.byteLen = .ok start ∧
      UserMappingRange.new start plan.length.pageCount = some range ∧
      ((∃ fixed,
         plan.placement = .fixedReplace fixed ∧
         mappings.ensureReplaceRecordCapacity range = .ok ()) ∨
       (∀ fixed, plan.placement ≠ .fixedReplace fixed) ∧
       ∃ index, mappings.nextEmptyRecordIndex = some index) := by
  rw [admitted] at h
  split at h
  · cases h
  next start hst =>
    split at h
    · cases h
    next _ hrg =>
      refine ⟨start, hst, ?_⟩
      split at h
      next fixed hplc =>
        split at h <;> cases h
        next hcap => exact ⟨hrg, .inl ⟨fixed, hplc, hcap⟩⟩
      next hplc =>
        split at h <;> cases h
        next index hidx => exact ⟨hrg, .inr ⟨hplc, index, hidx⟩⟩

variable (mapper space memory) in
lemma prepareReplacement_of_ne (h : ∀ fixed, placement ≠ .fixedReplace fixed) :
    prepareReplacement mapper space mappings memory placement range =
      .ok (.ok 0, mappings, memory) := by
  cases placement with
  | fixedReplace fixed => exact absurd rfl (h fixed)
  | _ => rfl

variable (mapper space memory initializePage captured) in
lemma mapPrivate_of_refused (h : mappings.admitted plan = .error error) :
    mappings.mapPrivate mapper space memory plan initializePage captured =
      .ok (.error error, mappings, memory, captured) := by
  rw [admitted] at h
  rw [mapPrivate]
  cases hst : mappings.startAddressForPlacement plan.placement
      plan.length.pageCount.byteLen with
  | error _ =>
    rw [hst] at h
    cases h
    rfl
  | ok start =>
    rw [hst] at h
    dsimp only at h ⊢
    cases hrg : UserMappingRange.new start plan.length.pageCount with
    | none =>
      rw [hrg] at h
      cases h
      rfl
    | some requested =>
      rw [hrg] at h
      dsimp only at h ⊢
      by_cases hplc : ∀ fixed, plan.placement ≠ .fixedReplace fixed
      · have hidx : mappings.nextEmptyRecordIndex = none ∧ error = .outOfMemory := by
          cases hidx : mappings.nextEmptyRecordIndex <;>
            cases hplan : plan.placement <;> rw [hplan] at h <;> dsimp only at h <;>
            first
            | exact absurd hplan (hplc _)
            | (rw [hidx] at h; cases h; exact ⟨rfl, rfl⟩)
            | (rw [hidx] at h; cases h)
        rw [prepareReplacement_of_ne mapper space memory hplc, ok_bind]
        simp only [mapIntoRecord, hidx.1, hidx.2]
        rfl
      push Not at hplc
      obtain ⟨_, hplc⟩ := hplc
      rw [hplc] at h ⊢
      dsimp only at h
      rw [prepareReplacement]
      cases hcap : mappings.ensureReplaceRecordCapacity requested with
      | error _ =>
        rw [hcap] at h
        cases h
        rfl
      | ok _ =>
        rw [hcap] at h
        cases h

lemma mapIntoRecord_eq (hidx : mappings.nextEmptyRecordIndex = some index) (replaced : ℕ) :
    mapIntoRecord mapper space mappings memory plan range replaced initializePage captured =
      (mapPages mapper space memory range.start plan.length.byteLen plan.length.pageCount
        plan.writable initializePage captured).map
      (mappings.concluded index plan range replaced) := by
  rw [mapIntoRecord, hidx]
  dsimp only
  cases mapPages mapper space memory range.start plan.length.byteLen plan.length.pageCount
    plan.writable initializePage captured with
  | error _ => rfl
  | ok p =>
    obtain ⟨mapped, _, _⟩ := p
    cases mapped with
    | error _ => rfl
    | ok _ => rfl

end Cases

/-! ### The call -/

/-- The pages that a fixed replacement takes out of the records first. -/
def replaced (mappings : UserMappings) (range : UserMappingRange) : List UserPageStart :=
  mappings.replacedPages range (List.range maxUserMappings)

/-- The range has left the records and the tables, and a slot is empty. -/
structure Emptied (mappings : UserMappings) (memory : Memory) (s : PageState) (root : ℕ)
    (range : UserMappingRange) (mappings' : UserMappings) (memory' : Memory) (s' : PageState)
    (index : ℕ) : Prop where
  cleared : Cleared s root (mappings.replaced range) s'
  realizes : memory'.Realizes s'
  memory_eq : memory' = { memory with tables := memory'.tables, allocator := memory'.allocator }
  backed : mappings'.Backed s' root
  trimmed : mappings.Trimmed range.start.asU64 range.endExclusive.asU64 mappings'
  unchanged : mappings.replaced range = [] → mappings' = mappings ∧ memory' = memory
  next_eq : mappings'.nextEmptyRecordIndex = some index

section Call
variable {mapper : PageMapper} {space : UserAddressSpace} {mappings : UserMappings}
  {plan : UserMappingPlan} {range : UserMappingRange} {σ : Type}
  {initializePage : PageInitializer σ} {captured : σ} {memory : Memory} {s : PageState}

lemma replaced_eq_nil (hlaw : mappings.Lawful) : mappings.replaced range = [] ↔
  ∀ {index record}, mappings.slot index = some record → ¬ record.Meets range := by
  rw [List.eq_nil_iff_forall_not_mem]
  constructor
  · intro hnone index record hslot hmeet
    obtain ⟨_, _, overlap, -, -, -, -, -, hpages⟩ :=
      exists_overlap (hlaw.base_le hslot) (hlaw.le_end hslot) hmeet
    have hmem : overlap.start ∈ sharedPages range (some record) := by
      rw [← hpages, overlap.mem_pages]
      exact ⟨Nat.le_refl _, overlap.start_lt_end⟩
    refine hnone overlap.start (mem_replacedPages.2 ?_)
    obtain ⟨hrg, hrec⟩ := mem_sharedPages.1 hmem
    exact ⟨hrg, index, List.mem_range.2 (lt_of_slot hslot), record, hslot, hrec⟩
  · intro hnone _ hpage
    obtain ⟨⟨_, _⟩, _, -, _, hslot, _, _⟩ := mem_replacedPages.1 hpage
    exact hnone hslot ⟨by omega, by omega⟩

lemma trimmed_self (hlaw : mappings.Lawful) (hnone : mappings.replaced range = []) :
  mappings.Trimmed range.start.asU64 range.endExclusive.asU64 mappings := by
  refine ⟨hlaw, fun {page source} => ⟨fun hholds => ⟨hholds, fun hin => ?_⟩, And.left⟩, rfl⟩
  obtain ⟨_, _, hslot, hpage, -⟩ := hholds
  obtain ⟨_, _⟩ := hpage
  exact (replaced_eq_nil hlaw).1 hnone hslot ⟨by omega, by omega⟩

lemma replaceOverlappingPages_of_nil (hlaw : mappings.Lawful)
  (hnone : mappings.replaced range = []) :
  mappings.replaceOverlappingPages mapper space memory range = .ok (mappings, memory, 0) := by
  rw [replaceOverlappingPages]
  induction List.range maxUserMappings with
  | nil => rfl
  | cons _ _ ih =>
    rw [List.foldlM_cons, replaceRecord_skip hlaw fun record hslot =>
      (replaced_eq_nil hlaw).1 hnone hslot, ok_bind, ih]

variable (hmapper : mapper.Walks) (h : memory.Realizes s)
  (hroot : s.place space.level4Frame.asAddress = some (space.level4Frame.asAddress, []))
  (hbacked : mappings.Backed s space.level4Frame.asAddress)
include hmapper h hroot hbacked in
lemma prepareReplacement_spec (hadm : mappings.admitted plan = .ok range) :
    (¬ s.labels.CanFree (s.tables.framesOf space.root (mappings.replaced range)) ∧
     prepareReplacement mapper space mappings memory plan.placement range =
       .error capacityExhausted) ∨
    s.labels.CanFree (s.tables.framesOf space.root (mappings.replaced range)) ∧
    ∃ count mappings' memory' s' index,
      prepareReplacement mapper space mappings memory plan.placement range =
        .ok (.ok count, mappings', memory') ∧
      Emptied mappings memory s space.root range mappings' memory' s' index := by
  have hlaw := hbacked.lawful
  obtain ⟨_, hst, hrg, ⟨_, hplc, hcap⟩ | ⟨hplc, index, hidx⟩⟩ := admitted_eq_ok hadm
  · rw [hplc, prepareReplacement, hcap]
    rcases replaceOverlappingPages_spec hmapper h hroot hbacked
      (hlaw.ensureReplaceRecordCapacity_ok.1 hcap) with ⟨hfree, herr⟩ | ⟨hfree, mappings',
        s', memory', count, hok, hclear, h', heq, hbacked', htrim, hact⟩
    · exact .inl ⟨hfree, by simp only [herr]; rfl⟩
    obtain ⟨index, hidx⟩ := exists_nextEmptyRecordIndex hact
    refine .inr ⟨hfree, count, mappings', memory', s', index, by simp only [hok]; rfl, hclear, h',
      heq, hbacked', htrim, fun hnone => ?_, hidx⟩
    rw [replaceOverlappingPages_of_nil hlaw hnone] at hok
    cases hok
    exact ⟨rfl, rfl⟩
  · have hnone : mappings.replaced range = [] := (replaced_eq_nil hlaw).2 <|
      hlaw.overlappingRecordEnd_eq_none (startAddressForPlacement_ok hst hrg hplc)
    rw [prepareReplacement_of_ne mapper space memory hplc, hnone]
    exact .inr ⟨.nil, 0, mappings, memory, s, index, rfl, by rw [hnone]; exact .refl h.housed _, h,
      rfl, hbacked, trimmed_self hlaw hnone, fun _ => ⟨rfl, rfl⟩, hidx⟩

variable (initializePage captured) in
include hmapper h hroot hbacked in
/-- **The call of an admitted plan.** -/
lemma mapPrivate_of_admitted (hadm : mappings.admitted plan = .ok range) :
    (¬ s.labels.CanFree (s.tables.framesOf space.level4Frame.asAddress (mappings.replaced range)) ∧
     mappings.mapPrivate mapper space memory plan initializePage captured =
       .error capacityExhausted) ∨
    s.labels.CanFree (s.tables.framesOf space.level4Frame.asAddress (mappings.replaced range)) ∧
    ∃ count mappings' memory' s' index,
      Emptied mappings memory s space.level4Frame.asAddress range mappings' memory' s' index ∧
      mappings.mapPrivate mapper space memory plan initializePage captured =
        (mapPages mapper space memory' range.start plan.length.byteLen plan.length.pageCount
          plan.writable initializePage captured).map
        (mappings'.concluded index plan range count) := by
  obtain ⟨_, hst, hrg, -⟩ := admitted_eq_ok hadm
  rw [mapPrivate, hst]
  simp only [hrg]
  rcases prepareReplacement_spec hmapper h hroot hbacked hadm with
    ⟨hfree, herr⟩ | ⟨hfree, count, mappings', memory', s', index, hok, hemptied⟩
  · exact .inl ⟨hfree, by rw [herr]; rfl⟩
  · refine .inr ⟨hfree, count, mappings', memory', s', index, hemptied, ?_⟩
    simp only [hok, ok_bind]
    exact mapIntoRecord_eq hemptied.next_eq count

/-- How the mapping of an admitted plan ends, as the frame map decides it once the replaced frames
are free. -/
def Maps (mappings : UserMappings) (s : PageState) (root : ℕ) (plan : UserMappingPlan)
  (range : UserMappingRange) (initializePage : PageInitializer σ) (captured : σ)
  (result : Except UserMappingError Unit) : Prop :=
  Fills (s.tables.newTables root)
    (fun page => page ∈ mappings.replaced range ∨ s.tables.leaf root page.asU64 = none)
    range.start plan.length.byteLen initializePage plan.length.pageCount.asU64 0 []
    (s.labels.freeAll (s.tables.framesOf root (mappings.replaced range))) captured result

lemma pageCount_of_admitted (hadm : mappings.admitted plan = .ok range) :
  range.pageCount = plan.length.pageCount := by
  obtain ⟨_, -, hrg, -⟩ := admitted_eq_ok hadm
  exact (new_eq_some.1 hrg).2

section Pages
variable {mappings₁ : UserMappings} {memory₁ : Memory} {s₁ : PageState} {index : ℕ}
  (hcnt : range.pageCount = plan.length.pageCount)
  (hemptied : Emptied mappings memory s space.level4Frame.asAddress range mappings₁ memory₁ s₁
    index)
include hroot hemptied in
lemma Emptied.vacant_iff {page : UserPageStart} (hpage : userMappingBase ≤ page.asU64) :
  (page ∈ mappings.replaced range ∨ s.tables.leaf space.root page.asU64 = none) ↔
    s₁.tables.leaf space.root page.asU64 = none := by
  rw [hemptied.cleared.leaf_eq hroot (inWindow_of_region hpage)]
  simp only [true_and]
  split_ifs with hmem
  · simp only [hmem, true_or]
  · simp only [hmem, false_or]

include hmapper hroot hcnt hemptied in
lemma Emptied.mapPages_ok
    (hok : mapPages mapper space memory₁ range.start plan.length.byteLen plan.length.pageCount
        plan.writable initializePage captured =
        .ok (mapped, memory', captured')) :
    mappings.Maps s space.root plan range initializePage captured mapped ∧
    (initializePage.KeepsLength → KeepsBytes s₁ memory₁ memory') ∧
    ∃ s', FillEnd s₁ space.root range.pages memory₁ mapped memory' s' := by
  have hroot1 := (hemptied.cleared.table_iff (by simp)).2 hroot
  obtain ⟨hfills, hbytes, s', hend⟩ := mapPagesLoop_ok hmapper rfl rfl hroot1 range.base_le
    (fun earlier {page} hpage => (hemptied.cleared.newTables_eq hpage earlier).symm)
    (fun {page} hpage => hemptied.vacant_iff hroot hpage)
    (by rw [Nat.zero_add, ← hcnt]; exact range.stop_le) hemptied.realizes
    (.refl s₁ _ _) hok
  rw [hemptied.cleared.labels_eq] at hfills
  rw [Nat.zero_add, ← hcnt] at hend
  exact ⟨hfills, hbytes, s', hend⟩

include hmapper hroot hcnt hemptied in
lemma Emptied.exists_mapPages
    (hmaps : mappings.Maps s space.root plan range initializePage captured mapped) :
    ∃ memory' captured',
      mapPages mapper space memory₁ range.start plan.length.byteLen plan.length.pageCount
        plan.writable initializePage captured =
        .ok (mapped, memory', captured') := by
  have hroot1 := (hemptied.cleared.table_iff (by simp)).2 hroot
  rw [Maps, ← hemptied.cleared.labels_eq] at hmaps
  exact exists_mapPagesLoop hmapper rfl rfl hroot1 range.base_le
    (fun earlier {page} hpage => (hemptied.cleared.newTables_eq hpage earlier).symm)
    (fun {page} hpage => hemptied.vacant_iff hroot hpage)
    (by rw [Nat.zero_add, ← hcnt]; exact range.stop_le) hemptied.realizes
    (.refl s₁ _ _) hmaps

end Pages

/-- What a returning call of an admitted plan has done. -/
structure Called (mappings : UserMappings) (memory : Memory) (s : PageState) (root : ℕ)
    (plan : UserMappingPlan) (range : UserMappingRange) (initializePage : PageInitializer σ)
    (captured : σ) (result : Except UserMappingError UserMappingAllocation)
    (mappings' : UserMappings) (memory' : Memory) (s' : PageState) : Prop where
  canFree : s.labels.CanFree (s.tables.framesOf root (mappings.replaced range))
  outcome : ∃ mapped mappings₁ memory₁ s₁ index,
    Emptied mappings memory s root range mappings₁ memory₁ s₁ index ∧
    mappings.Maps s root plan range initializePage captured mapped ∧ (initializePage.KeepsLength →
    KeepsBytes s₁ memory₁ memory') ∧ FillEnd s₁ root range.pages memory₁ mapped memory' s' ∧
    ((∃ error, mapped = .error error ∧ result = .error error ∧ mappings' = mappings₁) ∨ mapped = .ok
    () ∧ (∃ allocation, result = .ok allocation) ∧ mappings' = mappings₁.recorded index plan range)

include hmapper h hroot hbacked in
/-- **A returning call.** -/
lemma mapPrivate_ok
    (hok : mappings.mapPrivate mapper space memory plan initializePage captured =
        .ok (result, mappings', memory', captured')) :
    (∃ error,
      mappings.admitted plan = .error error ∧
      result = .error error ∧
      mappings' = mappings ∧
      memory' = memory) ∨
    ∃ range s',
      mappings.admitted plan = .ok range ∧
      Called mappings memory s space.root plan range initializePage captured result mappings'
        memory' s' := by
  cases hadm : mappings.admitted plan with
  | error error =>
    rw [mapPrivate_of_refused mapper space initializePage captured memory hadm] at hok
    cases hok
    exact .inl ⟨error, rfl, rfl, rfl, rfl⟩
  | ok range =>
    rcases mapPrivate_of_admitted initializePage captured hmapper h hroot hbacked hadm with
      ⟨-, herr⟩ | ⟨hfree, count, mappings₁, memory₁, s₁, index, hemptied, hcall⟩
    · rw [herr] at hok
      cases hok
    rw [hcall] at hok
    cases hpages : mapPages mapper space memory₁ range.start plan.length.byteLen
      plan.length.pageCount plan.writable initializePage captured with
    | error _ =>
      rw [hpages] at hok
      cases hok
    | ok p =>
      obtain ⟨mapped, _, _⟩ := p
      rw [hpages] at hok
      obtain ⟨hmaps, hbytes, s', hend⟩ := hemptied.mapPages_ok hmapper hroot
        (pageCount_of_admitted hadm) hpages
      cases mapped with
      | error error =>
        cases hok
        exact .inr ⟨range, s', rfl, hfree, _, _, memory₁, s₁, index, hemptied,
          hmaps, hbytes, hend, .inl ⟨error, rfl, rfl, rfl⟩⟩
      | ok _ =>
        cases hok
        exact .inr ⟨range, s', rfl, hfree, _, _, memory₁, s₁, index, hemptied,
          hmaps, hbytes, hend, .inr ⟨rfl, ⟨_, rfl⟩, rfl⟩⟩

include hmapper h hroot hbacked in
lemma exists_mapPrivate (hadm : mappings.admitted plan = .ok range)
    (hfree : s.labels.CanFree (s.tables.framesOf space.root (mappings.replaced range)))
    (hmaps : mappings.Maps s space.root plan range initializePage captured mapped) :
    ∃ result mappings' memory' captured',
      mappings.mapPrivate mapper space memory plan initializePage captured =
        .ok (result, mappings', memory', captured') ∧
      (∀ error, mapped = .error error → result = .error error) := by
  rcases mapPrivate_of_admitted initializePage captured hmapper h hroot hbacked hadm with
    ⟨hnot, -⟩ | ⟨-, count, mappings₁, memory₁, s₁, index, hemptied, hcall⟩
  · exact absurd hfree hnot
  obtain ⟨_, _, hpages⟩ := hemptied.exists_mapPages hmapper hroot
    (pageCount_of_admitted hadm) hmaps
  rw [hcall, hpages]
  refine ⟨_, _, _, _, rfl, ?_⟩
  rintro _ rfl
  rfl

end Call
end UserMappings

/-! ### Failed calls -/

/-- A page keeps its frame and its contents. -/
def Memory.KeepsPage (memory memory' : Memory) (root page : ℕ) : Prop :=
  memory'.tables.leaf root page = memory.tables.leaf root page ∧
  ∀ entry offset, memory.tables.leaf root page = some entry → offset < pageSize →
  memory'.bytes (entry.address.asAddress + offset) = memory.bytes (entry.address.asAddress + offset)

lemma Memory.KeepsPage.refl (memory : Memory) (root page : ℕ) : memory.KeepsPage memory root page :=
  ⟨rfl, fun _ _ _ _ => rfl⟩

lemma KeepsBytes.keepsPage (hbytes : KeepsBytes s memory memory') (hs : s.Housed)
  (hroot : s.IsRoot root) (hpage : InWindow page)
  (hleaf : memory.tables.leaf root page = s.tables.leaf root page)
  (hleaf' : memory'.tables.leaf root page = s.tables.leaf root page) :
  memory.KeepsPage memory' root page :=
  ⟨hleaf'.trans hleaf.symm, fun _ offset hent hoff =>
    hbytes _ _ offset (hs.forest.place_of_leaf hroot hpage (hleaf ▸ hent)) hoff⟩

namespace UserMappings

/-- The records, the pages of the region with their contents and the mapping frames are the same. -/
structure Unchanged (root : ℕ) (mappings : UserMappings) (memory : Memory)
    (mappings' : UserMappings) (memory' : Memory) : Prop where
  records_eq : mappings'.records = mappings.records
  keepsPage : ∀ page : UserPageStart, userMappingBase ≤ page.asU64 → page.asU64 < userMappingEnd →
    memory.KeepsPage memory' root page.asU64
  frames_iff : ∀ f, memory'.allocator.frameMap f = some (.used, .userMapping) ↔
    memory.allocator.frameMap f = some (.used, .userMapping)

lemma Unchanged.refl (root : ℕ) (mappings : UserMappings) (memory : Memory) : Unchanged
  root mappings memory mappings memory := ⟨rfl, fun _ _ _ => .refl _ _ _, fun _ => Iff.rfl⟩

section Failure
variable {mapper : PageMapper} {space : UserAddressSpace} {mappings : UserMappings}
  {plan : UserMappingPlan} {range : UserMappingRange} {σ : Type}
  {initializePage : PageInitializer σ} {captured : σ} {memory : Memory} {s : PageState}

lemma Emptied.records_ne
    (hemptied : Emptied mappings memory s root range mappings₁ memory₁ s₁ index)
    (hrepl : mappings.replaced range ≠ []) : mappings₁.records ≠ mappings.records := by
  intro hrecs
  obtain ⟨_, hpage⟩ := List.exists_mem_of_ne_nil _ hrepl
  obtain ⟨hrg, i, -, record, hslot, hcov⟩ := mem_replacedPages.1 hpage
  have hslot1 : mappings₁.slot i = some record := by rw [slot, hrecs]; exact hslot
  exact (hemptied.trimmed.holds_iff.1 ⟨i, record, hslot1, hcov, rfl⟩).2 hrg

lemma Emptied.unchanged_of_fillEnd (hroot : s.IsRoot root)
  (hemptied : Emptied mappings memory s root range mappings₁ memory₁ s₁ index)
  (hnone : mappings.replaced range = []) (hbytes : KeepsBytes s₁ memory₁ memory')
  (hend : FillEnd s₁ root range.pages memory₁ (.error error) memory' s') :
  Unchanged root mappings memory mappings₁ memory' := by
  obtain ⟨rfl, rfl⟩ := hemptied.unchanged hnone
  have hroot1 := (hemptied.cleared.table_iff (by simp)).2 hroot
  have hrest := hend.restored error rfl
  refine ⟨rfl, fun page hbase _ => ?_, fun f => ?_⟩
  · have hwin := inWindow_of_region hbase
    refine hbytes.keepsPage hemptied.realizes.housed hroot1 hwin
      (by rw [hemptied.realizes.tables_eq]) ?_
    rw [hend.realizes.tables_eq, hrest.leaf_eq hroot1 hwin]
  · rw [hend.realizes.represents.frameMap_eq, hemptied.realizes.represents.frameMap_eq,
      hrest.labels_iff]

/-- **Failed calls.**  A call that returns an error has changed nothing, except when a fixed
replacement has already removed pages of a record and the mapping of the new ones fails. -/
theorem failed_map_private_changes_nothing_iff (hmapper : mapper.Walks) (h : memory.Realizes s)
    (hroot : s.place space.level4Frame.asAddress = some (space.level4Frame.asAddress, []))
    (hbacked : mappings.Backed s space.level4Frame.asAddress)
    (hlength : initializePage.KeepsLength) :
    (∀ error mappings' memory' captured',
      mappings.mapPrivate mapper space memory plan initializePage captured =
        .ok (.error error, mappings', memory', captured') →
      Unchanged space.level4Frame.asAddress mappings memory mappings' memory') ↔
      ¬ ∃ range error,
          mappings.admitted plan = .ok range ∧
          (∃ index record, mappings.slot index = some record ∧ record.Meets range) ∧
          s.labels.CanFree
            (s.tables.framesOf space.level4Frame.asAddress (mappings.replaced range)) ∧
          mappings.Maps s space.level4Frame.asAddress plan range initializePage captured
            (.error error) := by
  constructor
  · rintro hunchanged ⟨range, error, hadmitted, ⟨i, record, hslot, hmeets⟩, hfree, hmaps⟩
    obtain ⟨_, mappings', memory', captured', hok, hresult⟩ :=
      exists_mapPrivate hmapper h hroot hbacked hadmitted hfree hmaps
    obtain rfl := hresult error rfl
    rcases mapPrivate_ok hmapper h hroot hbacked hok with ⟨_, hrefused, -⟩ |
      ⟨range', s', hadmitted', -, _, mappings₁, memory₁, s₁, index, hemptied, -, -, -,
        ⟨_, -, -, rfl⟩ | ⟨-, ⟨_, hcontra⟩, -⟩⟩
    · rw [hadmitted] at hrefused
      cases hrefused
    · obtain rfl : range = range' := Except.ok.inj (hadmitted.symm.trans hadmitted')
      refine hemptied.records_ne (fun hnone => ?_)
        (hunchanged _ _ _ _ hok).records_eq
      exact (replaced_eq_nil hbacked.lawful).1 hnone hslot hmeets
    · cases hcontra
  intro hcondition _ _ _ _ hok
  rcases mapPrivate_ok hmapper h hroot hbacked hok with ⟨_, -, -, rfl, rfl⟩ |
    ⟨range, _, hadmitted, hfree, _, _, _, _, _, hemptied, hmaps, hbytes, hend,
      ⟨error', rfl, -, rfl⟩ | ⟨-, ⟨_, hcontra⟩, -⟩⟩
  · exact .refl _ _ _
  · refine hemptied.unchanged_of_fillEnd hroot ?_ (hbytes hlength) hend
    refine (replaced_eq_nil hbacked.lawful).2 fun {i record} hslot hmeets => ?_
    exact hcondition ⟨range, error', hadmitted, ⟨i, record, hslot, hmeets⟩, hfree, hmaps⟩
  · cases hcontra

end Failure

/-! ### Calls after boot -/

def onePagePlan (placement : UserMappingPlacement) : UserMappingPlan :=
  ⟨placement, ⟨pageSize, onePage⟩, true, .anonymous⟩

/-- The page at the base of the mapping region. -/
def basePage : UserPageStart := UserMappings.new.nextStart

/-- The initializer of anonymous mappings: the page stays zero. -/
def keepZero : PageInitializer Unit := fun _ _ buffer => (.ok buffer, ())

/-- An initializer that fails, as one that reads a file can. -/
def rejectPage : PageInitializer Unit := fun _ _ _ => (.error .initializationFailed, ())

lemma exists_createdSpace {memory : Memory} (halloc : memory.allocator.Consistent)
  (hsome : (createUserAddressSpace memory).toOption.isSome = true) :
  ∃ space created s, createUserAddressSpace memory = .ok (space, created) ∧ created.Realizes s ∧
    s.IsRoot space.root ∧ ∀ page, InWindow page → s.tables.leaf space.root page = none := by
  cases hcr : createUserAddressSpace memory with
  | error _ =>
    rw [hcr] at hsome
    cases hsome
  | ok p =>
    obtain ⟨-, -, s, hten, hcrd, -⟩ := halloc.tenancy hcr
    exact ⟨p.1, p.2, s, rfl, hten.realizes, hten.root_placed,
      fun _ hpage => hcrd.leaf_eq_none hpage⟩

lemma exists_bootSpace : ∃ space created s,
  createUserAddressSpace bootMemory = .ok (space, created) ∧
  created.Realizes s ∧
  s.IsRoot space.root ∧
  ∀ page, InWindow page → s.tables.leaf space.root page = none :=
  exists_createdSpace bootMemory_consistent (by decide +kernel)

lemma backed_new (s : PageState) (root : ℕ) : UserMappings.new.Backed s root :=
  ⟨lawful_new, fun hholds => absurd hholds not_holds_new⟩

/-- One page is mapped, then a replacement of it fails: the records before and after it. -/
def rejectedReplacement : Panicking (Except UserMappingError UserMappingAllocation ×
  List (Option UserMapping) × List (Option UserMapping)) := do
  let (space, memory) ← createUserAddressSpace bootMemory
  let (_, mappings, memory, _) ←
    UserMappings.new.mapPrivate walkMapper space memory (onePagePlan .any) keepZero ()
  let (result, mappings', _, _) ← mappings.mapPrivate walkMapper space memory
    (onePagePlan (.fixedReplace basePage)) rejectPage ()
  return (result, mappings.records, mappings'.records)

set_option maxRecDepth 100000 in
/-- The failed replacement has dropped the record. -/
theorem rejected_replacement_drops_record : ∃ error before after,
  rejectedReplacement = .ok (.error error, before, after) ∧ after ≠ before := by
  have hrun : rejectedReplacement.toOption.map (fun p =>
    (p.1.toOption.isNone, decide (p.2.2 ≠ p.2.1))) = some (true, true) := by decide +kernel
  cases hcall : rejectedReplacement with
  | error _ =>
    rw [hcall] at hrun
    cases hrun
  | ok p =>
    obtain ⟨result, before, after⟩ := p
    rw [hcall] at hrun
    obtain ⟨hresult, hne⟩ := Prod.mk.inj (Option.some.inj hrun)
    cases result with
    | ok _ => cases hresult
    | error error => exact ⟨error, before, after, rfl, of_decide_eq_true hne⟩

lemma rejectPage_keepsLength : rejectPage.KeepsLength := fun h => by cases h

/-- The first page after boot has an initializer that fails. -/
def rejectedPage : Panicking (Except UserMappingError UserMappingAllocation) := do
  let (space, memory) ← createUserAddressSpace bootMemory
  let (result, _) ←
    UserMappings.new.mapPrivate walkMapper space memory (onePagePlan .any) rejectPage ()
  return result

set_option maxRecDepth 100000 in
/-- The call returns the error of its initializer, and nothing has changed. -/
theorem failed_map_private_changes_nothing_boot :
    ∃ space created error mappings' memory' captured',
      createUserAddressSpace bootMemory = .ok (space, created) ∧
      UserMappings.new.mapPrivate walkMapper space created (onePagePlan .any) rejectPage () =
        .ok (.error error, mappings', memory', captured') ∧
      Unchanged space.level4Frame.asAddress UserMappings.new created mappings' memory' := by
  have hrun : rejectedPage.toOption.map (fun result => result.toOption.isNone) = some true := by
    decide +kernel
  obtain ⟨space, created, s, hcreate, h, hroot, -⟩ := exists_bootSpace
  rw [rejectedPage, hcreate, ok_bind] at hrun
  dsimp only at hrun
  cases hcall : UserMappings.new.mapPrivate walkMapper space created (onePagePlan .any)
      rejectPage () with
  | error _ =>
    rw [hcall] at hrun
    cases hrun
  | ok p =>
    obtain ⟨result, mappings', memory', captured'⟩ := p
    rw [hcall] at hrun
    cases result with
    | ok _ => cases hrun
    | error error =>
      refine ⟨space, created, error, mappings', memory', captured', hcreate, hcall, ?_⟩
      refine (failed_map_private_changes_nothing_iff walkMapper_walks h hroot (backed_new s _)
        rejectPage_keepsLength).2 ?_ _ _ _ _ hcall
      rintro ⟨_, _, -, ⟨_, _, hslot, -⟩, -⟩
      rw [slot_new] at hslot
      cases hslot

end UserMappings
end ManaOS
