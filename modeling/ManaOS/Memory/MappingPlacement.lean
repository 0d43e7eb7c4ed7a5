/-
Room for a private mapping: record slots and addresses (`memory/user_mapping.rs`).

The preflight of a replacement counts the records that will be left; the search for an address
jumps to the end of the records in its way.

* `replacement_finds_slots`: the preflight reserves the slots;
* `nextAvailableStart_least`: the search returns the lowest gap after its cursor;
* `automatic_placement_iff` (**placement**): when a request without an address is answered.
-/
import ManaOS.Memory.FrameFailures
import ManaOS.Memory.MappingRuns

namespace ManaOS
open Checked UserMappings
open UserMappingRange (exists_new fromByteLen fromByteLen_eq_some new_eq_some)
namespace UserMappings

/-! ### Slots for a replacement -/

/-- The messages of a missing slot for a split record. -/
def splitMessages : List String :=
  ["replacement preflight must reserve split records", "middle unmap must reserve a split record"]

section Slots
variable (mapper : PageMapper) (space : UserAddressSpace)

lemma failsOnly_unmapPages (memory : Memory) (start : UserPageStart) (pageCount : PageCount) :
  FailsOnly (· ∉ splitMessages) (unmapPages mapper space memory start pageCount) := by
  rw [unmapPages]
  generalize List.range pageCount.asU64 = indices
  induction indices generalizing memory with
  | nil => exact .ok _
  | cons _ _ ih =>
    rw [unmapIndices]
    refine .bind (.expect fun _ => by decide) fun page _ => ?_
    refine .bind ?_ fun result _ => .bind (.require fun _ => by decide) fun _ _ => ih _
    rw [UserAddressSpace.unmapUserPageFor]
    split
    · exact .ok _
    · refine .bind (failsOnly_oneFrameRange _ (by decide) (by decide)) fun _ _ => ?_
      refine .bind (failsOnly_freeFramesFor (by decide) _ _ _) fun _ _ => ?_
      exact .bind (.require fun _ => by decide) fun _ _ => .pure _

variable {mappings : UserMappings} {range : UserMappingRange} {index : ℕ}

lemma replaceRecord_turn (hlaw : mappings.Lawful)
    (hspare : ∀ record,
        mappings.slot index = some record →
        record.start.asU64 < range.start.asU64 →
        range.endExclusive.asU64 < record.stop →
        mappings.activeRecords < maxUserMappings) (memory : Memory) (replacedPages : ℕ) :
    ∃ (unmap : Panicking Memory) (mappings' : UserMappings) (replacedPages' : ℕ),
      replaceRecord mapper space range (mappings, memory, replacedPages) index =
        (unmap >>= fun memory' => .ok (mappings', memory', replacedPages')) ∧
      FailsOnly (· ∉ splitMessages) unmap ∧
      mappings'.Lawful ∧
      mappings.Undisturbed range index mappings' ∧
      mappings'.activeRecords + slotsMet range (mappings.slot index) =
        mappings.activeRecords + piecesLeft range (mappings.slot index) := by
  by_cases hskip : ∀ record, mappings.slot index = some record → ¬ record.Meets range
  · exact ⟨.ok memory, mappings, replacedPages, replaceRecord_skip hlaw hskip _, .ok _, hlaw,
      fun j _ => .inl rfl, active_of_skip hskip⟩
  simp only [not_forall, not_not, exists_prop] at hskip
  obtain ⟨record, hslot, hmeet⟩ := hskip
  obtain ⟨_, mappings', replacedPages', -, -, -, hcall, htrim, hoth, hact⟩ :=
    replaceRecord_overlap mapper space memory hlaw hslot hmeet (hspare record hslot)
      replacedPages
  exact ⟨_, mappings', replacedPages', hcall, failsOnly_unmapPages mapper space _ _ _,
    htrim.lawful, hoth, hact⟩

lemma foldlM_replaceRecord_slots {indices : List ℕ} (hnodup : indices.Nodup)
  (hlaw : mappings.Lawful) (hspare : mappings.HasSpare range indices) (memory : Memory)
  (replaced : ℕ) :
  FailsOnly (· ∉ splitMessages)
      (indices.foldlM (replaceRecord mapper space range) (mappings, memory, replaced)) ∧
    ∀ result, indices.foldlM (replaceRecord mapper space range) (mappings, memory, replaced) =
      .ok result → result.1.activeRecords < maxUserMappings := by
  induction indices generalizing mappings memory replaced with
  | nil =>
    refine ⟨.pure _, fun result hres => ?_⟩
    cases hres
    simpa [HasSpare] using hspare
  | cons _ _ ih =>
    obtain ⟨hidx, hnodup⟩ := List.nodup_cons.1 hnodup
    obtain ⟨_, _, replaced', hturn, hfails, hlaw', hoth, hact⟩ :=
      replaceRecord_turn mapper space hlaw (fun record => hspare.active_lt hlaw hidx)
        memory replaced
    have hspare' := hspare.tail hoth hact hidx
    rw [List.foldlM_cons, hturn]
    refine ⟨.bind (.bind hfails fun _ _ => .ok _) fun state hsta => ?_, fun result hres => ?_⟩
    · obtain ⟨memory', -, hsta⟩ := bind_eq_ok.1 hsta
      cases hsta
      exact (ih hnodup hlaw' hspare' memory' replaced').1
    obtain ⟨_, hsta, hres⟩ := bind_eq_ok.1 hres
    obtain ⟨memory', -, hsta⟩ := bind_eq_ok.1 hsta
    cases hsta
    exact (ih hnodup hlaw' hspare' memory' replaced').2 result hres

/-- **The preflight reserves the slots.**  Once `ensure_replace_record_capacity` has passed, the
replacement finds a slot for every split record, and a slot is left for the new record. -/
theorem replacement_finds_slots (hlawful : mappings.Lawful)
    (hok : mappings.ensureReplaceRecordCapacity range = .ok ()) (memory : Memory) :
    (∀ message ∈ splitMessages,
      mappings.replaceOverlappingPages mapper space memory range ≠ .error message) ∧
    ∀ mappings' memory' replaced,
      mappings.replaceOverlappingPages mapper space memory range =
        .ok (mappings', memory', replaced) →
      ∃ index, mappings'.nextEmptyRecordIndex = some index := by
  obtain ⟨hfails, hactive⟩ := foldlM_replaceRecord_slots mapper space List.nodup_range hlawful
    (hlawful.ensureReplaceRecordCapacity_ok.1 hok) memory 0
  exact ⟨fun message hmessage herror => hfails message herror hmessage,
    fun mappings' memory' replaced hcall => exists_nextEmptyRecordIndex (hactive _ hcall)⟩

end Slots

/-- The second page of the mapping region. -/
def secondPage : UserPageStart :=
  ⟨⟨userMappingBase + pageSize, by decide, by decide⟩, by decide⟩

lemma three_le_maxPageCount : 3 ≤ wordMax / pageSize := by decide

/-- A record of three pages at the base of the region. -/
def threePages : UserMapping := ⟨basePage, ⟨3, Nat.succ_pos 2, three_le_maxPageCount⟩, .anonymous⟩

lemma lawful_threePages : (new.setRecord 0 (some threePages)).Lawful := by
  refine lawful_new.setRecord (by decide) (fun r hr => ?_) fun r j r' _ _ hr' => ?_
  · cases hr
    decide
  · rw [slot_new] at hr'
    cases hr'

/-- A replacement of the second of three pages splits their record. -/
theorem replacement_finds_slots_middle :
    ∃ range,
      UserMappingRange.new secondPage onePage = some range ∧
      ∀ space memory mappings' memory' replaced,
        (new.setRecord 0 (some threePages)).replaceOverlappingPages walkMapper space memory range =
          .ok (mappings', memory', replaced) →
        ∃ index, mappings'.nextEmptyRecordIndex = some index := by
  obtain ⟨range, hrange⟩ := @UserMappingRange.exists_new onePage secondPage (by decide) (by decide)
  have hok : (UserMappingRange.new secondPage onePage).map (fun range =>
    (new.setRecord 0 (some threePages)).ensureReplaceRecordCapacity range) =
    some (.ok ()) := by decide +kernel
  rw [hrange] at hok
  exact ⟨range, hrange, fun space memory => (replacement_finds_slots walkMapper space
    lawful_threePages (Option.some.inj hok) memory).2⟩

/-! ### The search for an address -/

/-- A free range of the region: page aligned, inside it and apart from every record. -/
structure HasGap (mappings : UserMappings) (byteLen address : ℕ) : Prop where
  aligned : address % pageSize = 0
  base_le : userMappingBase ≤ address
  le_end : address + byteLen ≤ userMappingEnd
  apart : ∀ {index record}, mappings.slot index = some record →
    record.stop ≤ address ∨ address + byteLen ≤ record.start.asU64

/-- The runs of the loop of `next_available_start` that end, with their results. -/
inductive Search (mappings : UserMappings) (byteLen : ℕ) :
    UserPageStart → Option UserPageStart → Prop
  | outside {candidate : UserPageStart}
      (hrange : UserMappingRange.fromByteLen candidate byteLen = none) :
      Search mappings byteLen candidate none
  | found {candidate : UserPageStart} {range : UserMappingRange}
      (hrange : UserMappingRange.fromByteLen candidate byteLen = some range)
      (hfree : mappings.overlappingRecordEnd range = none) :
      Search mappings byteLen candidate (some candidate)
  | jump {candidate last : UserPageStart} {range : UserMappingRange}
      {result : Option UserPageStart}
      (hrange : UserMappingRange.fromByteLen candidate byteLen = some range)
      (hlast : mappings.overlappingRecordEnd range = some last)
      (hrest : Search mappings byteLen last result) : Search mappings byteLen candidate result

section Search
variable {mappings : UserMappings} {count : PageCount}

lemma Lawful.search (h : mappings.Lawful) (byteLen : ℕ)
    (hturns : (mappings.slotsAbove candidate).card < turns) :
    Search mappings byteLen candidate
      (mappings.nextAvailableStartLoop byteLen turns candidate) := by
  induction turns generalizing candidate with
  | zero => exact absurd hturns (Nat.not_lt_zero _)
  | succ _ ih =>
    rw [nextAvailableStartLoop]
    cases hrg : fromByteLen candidate byteLen with
    | none => exact .outside hrg
    | some range =>
      rw [Option.bind_some]
      cases hlast : mappings.overlappingRecordEnd range with
      | none => exact .found hrg hlast
      | some _ =>
        have hfewer := Finset.card_lt_card (h.slotsAbove_ssubset hlast)
        rw [start_of_fromByteLen hrg] at hfewer
        exact .jump hrg hlast (ih (by omega))

lemma Lawful.nextAvailableStart_search (h : mappings.Lawful) (cursor : UserPageStart)
    (byteLen : ℕ) :
    Search mappings byteLen cursor (mappings.nextAvailableStart cursor byteLen) := by
  refine h.search byteLen (Nat.lt_succ_of_le ?_)
  rw [← Finset.card_range maxUserMappings]
  exact Finset.card_filter_le _ _

lemma Lawful.hasGap (h : mappings.Lawful) (hfree : mappings.overlappingRecordEnd range = none) :
  mappings.HasGap range.pageCount.byteLen range.start.asU64 := by
  have hend := range.end_eq
  refine ⟨range.start.asU64_mod, range.base_le, hend ▸ range.le_end, fun {index record} hslot => ?_⟩
  have hmeet := h.overlappingRecordEnd_eq_none hfree hslot
  by_contra hboth
  exact hmeet ⟨by omega, by omega⟩

lemma Lawful.not_hasGap_of_jump (h : mappings.Lawful)
  (hlast : mappings.overlappingRecordEnd range = some last)
  (hlow : range.start.asU64 ≤ address) (hhigh : address < last.asU64) :
  ¬ mappings.HasGap range.pageCount.byteLen address := by
  intro hgap
  obtain ⟨_, _, hslot, ⟨-, _⟩, _⟩ := h.overlappingRecordEnd_eq_some hlast
  have hend := range.end_eq
  have := hgap.apart hslot
  omega

lemma Search.least (h : mappings.Lawful) (hsearch : Search mappings count.byteLen candidate result)
  (hbase : userMappingBase ≤ candidate.asU64) :
  (∀ start, result = some start → candidate.asU64 ≤ start.asU64 ∧
    mappings.HasGap count.byteLen start.asU64) ∧
  ∀ address, candidate.asU64 ≤ address → mappings.HasGap count.byteLen address →
    ∃ start, result = some start ∧ start.asU64 ≤ address := by
  induction hsearch with
  | outside hrg =>
    refine ⟨fun start hst => (by cases hst), fun address hlow hgap => ?_⟩
    -- a range from the candidate would not leave the region either
    obtain ⟨range, hnew⟩ := exists_new hbase
      ((Nat.add_le_add_right hlow count.byteLen).trans hgap.le_end)
    rw [fromByteLen_eq_some.2 hnew] at hrg
    cases hrg
  | found hrg hfree =>
    rename_i candidate range
    obtain ⟨rfl, hcnt⟩ := new_eq_some.1
      (fromByteLen_eq_some.1 hrg)
    rw [← hcnt]
    refine ⟨fun start hst => ?_, fun address hlow _ => ⟨range.start, rfl, hlow⟩⟩
    cases hst
    exact ⟨Nat.le_refl _, h.hasGap hfree⟩
  | jump hrg hlast _ ih =>
    rename_i candidate last range result _
    obtain ⟨rfl, hcnt⟩ := new_eq_some.1
      (fromByteLen_eq_some.1 hrg)
    obtain ⟨_, _, _, ⟨_, -⟩, _⟩ := h.overlappingRecordEnd_eq_some hlast
    have hlow : range.start.asU64 ≤ last.asU64 := by omega
    obtain ⟨hres, hleast⟩ := ih (hbase.trans hlow)
    refine ⟨fun start hst => ⟨hlow.trans (hres start hst).1, (hres start hst).2⟩,
      fun address haddr hgap => hleast address ?_ hgap⟩
    by_contra hbef
    rw [← hcnt] at hgap
    exact h.not_hasGap_of_jump hlast haddr (Nat.not_le.1 hbef) hgap

/-- **`next_available_start`** ends, and returns the lowest address at or after the cursor with a
gap of the length, or nothing when there is none. -/
theorem nextAvailableStart_least (h : mappings.Lawful) {cursor : UserPageStart}
  (hcursor : userMappingBase ≤ cursor.asU64) {byteLen : ℕ} (hpos : 0 < byteLen)
  (hmod : byteLen % pageSize = 0) (hword : byteLen < wordSize) :
  Search mappings byteLen cursor (mappings.nextAvailableStart cursor byteLen) ∧
  (∀ start : UserPageStart, mappings.nextAvailableStart cursor byteLen = some start ↔
    IsLeast {address | cursor.asU64 ≤ address ∧ mappings.HasGap byteLen address} start.asU64) ∧
  (mappings.nextAvailableStart cursor byteLen = none ↔
    ∀ address, cursor.asU64 ≤ address → ¬ mappings.HasGap byteLen address) := by
  obtain ⟨count, rfl⟩ : ∃ count : PageCount, count.byteLen = byteLen := by
    refine ⟨⟨byteLen / pageSize, ?_, ?_⟩, Nat.div_mul_cancel (Nat.dvd_of_mod_eq_zero hmod)⟩
    · exact Nat.div_pos (Nat.le_of_dvd hpos (Nat.dvd_of_mod_eq_zero hmod)) (by decide)
    · exact Nat.div_le_div_right (Nat.le_sub_one_of_lt hword)
  have hsearch := h.nextAvailableStart_search cursor count.byteLen
  obtain ⟨hresult, hleast⟩ := hsearch.least h hcursor
  refine ⟨hsearch, fun start => ⟨fun hstart => ⟨hresult start hstart, ?_⟩, fun hstart => ?_⟩, ?_⟩
  · rintro address ⟨hlow, hgap⟩
    obtain ⟨start', hstart', hle⟩ := hleast address hlow hgap
    rw [hstart] at hstart'
    cases hstart'
    exact hle
  · obtain ⟨_, hstart', hle⟩ := hleast start.asU64 hstart.1.1 hstart.1.2
    rw [hstart', UserPageStart.eq_of_asU64 (Nat.le_antisymm hle (hstart.2 (hresult _ hstart')))]
  constructor
  · intro hnone address hlow hgap
    obtain ⟨start, hstart, -⟩ := hleast address hlow hgap
    rw [hnone] at hstart
    cases hstart
  intro hgap
  cases hfound : mappings.nextAvailableStart cursor count.byteLen with
  | none => rfl
  | some start =>
    obtain ⟨hlow, hgap'⟩ := hresult start hfound
    exact absurd hgap' (hgap _ hlow)

end Search

/-- Behind the three pages there is room for one. -/
theorem nextAvailableStart_least_threePages :
    IsLeast
      {address | userMappingBase ≤ address ∧ (new.setRecord 0 (some threePages)).HasGap pageSize
        address}
      (userMappingBase + 3 * pageSize) := by
  have hsearch : ((new.setRecord 0 (some threePages)).nextAvailableStart basePage
    pageSize).map UserPageStart.asU64 = some (userMappingBase + 3 * pageSize) := by
    decide +kernel
  obtain ⟨start, hstart, hvalue⟩ := Option.map_eq_some_iff.1 hsearch
  rw [← hvalue]
  exact ((nextAvailableStart_least lawful_threePages (Nat.le_refl _) (by decide) (by decide)
    (by decide)).2.1 start).1 hstart

end UserMappings

/-! ### Frames for a request -/

namespace FrameMap
variable {m : FrameMap} {n : ℕ}

/-- At least `n` frames are free. -/
def HasFree (m : FrameMap) (n : ℕ) : Prop :=
  ∃ frames : Finset ℕ, n ≤ frames.card ∧ ∀ f ∈ frames, m.IsFree f

lemma FreeRun.hasFree (h : m.FreeRun s n) : m.HasFree n :=
  ⟨Finset.Ico s (s + n), by simp, fun f hf => h f (Finset.mem_Ico.1 hf).1 (Finset.mem_Ico.1 hf).2⟩

lemma HasFree.mono (h : m.HasFree n) (hle : n' ≤ n) : m.HasFree n' := by
  obtain ⟨frames, hcard, hfree⟩ := h
  exact ⟨frames, hle.trans hcard, hfree⟩

lemma HasFree.mark (h : m.HasFree (n + 1)) (s : ℕ) (label : FrameLabel) :
  (m.mark s 1 label).HasFree n := by
  obtain ⟨frames, _, hfree⟩ := h
  refine ⟨frames.erase s, by have := Finset.pred_card_le_card_erase (a := s) (s := frames); omega,
    fun f hf => ?_⟩
  obtain ⟨_, hmem⟩ := Finset.mem_erase.1 hf
  rw [IsFree, FrameMap.mark, if_neg (by omega)]
  exact hfree f hmem

lemma HasFree.serves (hserv : m.Serves (List.replicate requests (1, owner)) m')
    (h : m.HasFree (n + requests)) : m'.HasFree n := by
  induction requests generalizing m with
  | zero =>
    cases hserv
    exact h
  | succ _ ih =>
    rw [List.replicate_succ] at hserv
    cases hserv with
    | cons _ _ hrest => exact ih hrest (HasFree.mark h _ _)

end FrameMap

namespace UserMappings

/-- The frames that the rest of a mapping takes, with its tables. -/
def framesNeeded (tables : PageTables) (root : ℕ) (start : UserPageStart) : ℕ → ℕ → ℕ
  | 0, _ => 0
  | remaining + 1, mappedPages =>
    framesNeeded tables root start remaining (mappedPages + 1) +
      tables.newTables root ((pagesAt start (List.range mappedPages)).map UserPageStart.asU64)
        (start.asU64 + mappedPages * pageSize) + 1

lemma framesNeeded_le (tables : PageTables) (root : ℕ) (start : UserPageStart)
  (remaining mappedPages : ℕ) :
  framesNeeded tables root start remaining mappedPages ≤ 4 * remaining := by
  induction remaining generalizing mappedPages with
  | zero => exact Nat.le_refl 0
  | succ _ ih =>
    have htbls : tables.newTables root
      ((pagesAt start (List.range mappedPages)).map UserPageStart.asU64)
      (start.asU64 + mappedPages * pageSize) ≤ 3 := List.countP_le_length
    have hrest := ih (mappedPages + 1)
    rw [framesNeeded]
    omega

/-- The initializer does not run out of memory itself. -/
def NeverExhausted {σ : Type} (initializePage : PageInitializer σ) : Prop :=
  ∀ captured pageIndex buffer, (initializePage captured pageIndex buffer).1 ≠ .error .outOfMemory

lemma NeverExhausted.error_ne {σ : Type} {initializePage : PageInitializer σ}
  (h : NeverExhausted initializePage) {length pageIndex : ℕ} {captured captured' : σ}
  {error : UserMappingError}
  (hinit : pageOutcome initializePage length captured pageIndex = (.error error, captured')) :
  error ≠ .outOfMemory := by
  rintro rfl
  rw [pageOutcome] at hinit
  split_ifs at hinit
  · exact h _ _ _ (congrArg Prod.fst hinit)
  · cases hinit

lemma Fills.ne_outOfMemory {σ : Type} {initializePage : PageInitializer σ} {tables : PageTables}
    {root : ℕ} {vacant : UserPageStart → Prop} {start : UserPageStart}
    {length remaining mappedPages : ℕ} {frames : List PhysicalFrameStart} {m : FrameMap}
    {captured : σ} {result : Except UserMappingError Unit}
    (hfills :
      Fills (tables.newTables root) vacant start length initializePage remaining mappedPages frames
        m captured result) (hinit : NeverExhausted initializePage)
    (hfree : m.HasFree (framesNeeded tables root start remaining mappedPages)) :
    result ≠ .error .outOfMemory := by
  induction hfills with
  | filled => exact fun hcon => by cases hcon
  | exhausted hfull _ =>
    obtain ⟨_, hcard, hall⟩ := hfree
    obtain ⟨f, hf⟩ := Finset.card_pos.1 (Nat.lt_of_lt_of_le (Nat.succ_pos _) hcard)
    exact absurd (hall f hf) (hfull f)
  | rejected _ _ hrej _ _ => exact fun hcon => hinit.error_ne hrej (Except.error.inj hcon)
  | mapped hpage _ _ _ _ hserv _ ih =>
    refine ih (FrameMap.HasFree.serves hserv (FrameMap.HasFree.mark ?_ _ _))
    rwa [framesNeeded, ← userPageStart_eq_some.1 hpage] at hfree

/-! ### The cursor -/

variable {plan : UserMappingPlan}

lemma nextStart_recorded {mappings : UserMappings}
  (hbase : userMappingBase ≤ mappings.nextStart.asU64) :
  userMappingBase ≤ (mappings.recorded index plan range).nextStart.asU64 := by
  rw [recorded]
  cases plan.placement with
  | any => exact range.base_le.trans range.start_lt_end.le
  | fixedReplace _ => exact hbase
  | fixedNoReplace _ => exact hbase

lemma admitted_of_none {mappings : UserMappings} (hany : plan.placement = .any)
    (hnone : mappings.nextAvailableStart mappings.nextStart plan.length.pageCount.byteLen = none) :
    mappings.admitted plan = .error .outOfMemory := by
  simp only [admitted, hany, startAddressForPlacement, hnone]

lemma Lawful.admitted_of_some {mappings : UserMappings} (hlaw : mappings.Lawful)
    (hbase : userMappingBase ≤ mappings.nextStart.asU64) (hany : plan.placement = .any)
    (hidx : mappings.nextEmptyRecordIndex = some index)
    (hst : mappings.nextAvailableStart mappings.nextStart plan.length.pageCount.byteLen =
        some start) :
    ∃ range, mappings.admitted plan = .ok range ∧ range.start = start := by
  obtain ⟨-, hgap⟩ := ((hlaw.nextAvailableStart_search _ _).least hlaw hbase).1 start hst
  obtain ⟨range, hrg⟩ := exists_new hgap.base_le hgap.le_end
  refine ⟨range, ?_, (new_eq_some.1 hrg).1⟩
  simp only [admitted, hany, startAddressForPlacement, hst, hrg, hidx]

lemma Lawful.replaced_of_any {mappings : UserMappings}
  (hlaw : mappings.Lawful) (hany : plan.placement = .any)
  (hadm : mappings.admitted plan = .ok range) : mappings.replaced range = [] := by
  obtain ⟨_, hst, hrg, -⟩ := admitted_eq_ok hadm
  refine (replaced_eq_nil hlaw).2 (hlaw.overlappingRecordEnd_eq_none ?_)
  exact startAddressForPlacement_ok hst hrg fun fixed hfixed => by
    rw [hany] at hfixed
    cases hfixed

end UserMappings

open UserMappings

lemma MappingRun.base_le_nextStart {mapper : PageMapper} {space : UserAddressSpace}
  {start : Memory} (hwalk : mapper.Walks) (h : start.Realizes s0) (hroot : s0.IsRoot space.root)
  (hempty : ∀ page : UserPageStart, userMappingBase ≤ page.asU64 → page.asU64 < userMappingEnd →
    s0.tables.leaf space.root page.asU64 = none)
  (hrun : MappingRun mapper space start mappings memory) :
  userMappingBase ≤ mappings.nextStart.asU64 := by
  induction hrun with
  | fresh => exact Nat.le_refl _
  | mapped hrun hok ih =>
    obtain ⟨s, h, hroot, htrk⟩ := hrun.tracks hwalk h hroot hempty
    rcases mapPrivate_ok hwalk h hroot htrk.toBacked hok with ⟨_, -, -, rfl, -⟩ |
      ⟨range, _, -, -, _, mappings1, memory1, s1, _, hempt, -, -, -, hconcluded⟩
    · exact ih
    rw [← hempt.trimmed.nextStart_eq] at ih
    rcases hconcluded with ⟨_, -, -, rfl⟩ | ⟨-, -, rfl⟩
    · exact ih
    · exact nextStart_recorded ih
  | unmapped hrun hok ih =>
    obtain ⟨s, h, hroot, htrk⟩ := hrun.tracks hwalk h hroot hempty
    rcases unmapRange_spec hwalk h hroot htrk.toBacked _ with
      href | ⟨range, -, ⟨-, herr⟩ | ⟨-, mappings1, s1, memory1, hok1, htrim, -⟩⟩
    · rw [href] at hok
      cases hok
      exact ih
    · rw [herr] at hok
      cases hok
    · rw [hok1] at hok
      cases hok
      rwa [htrim.nextStart_eq]

/-- **Automatic placement.**  After every sequence of calls, a request that finds a slot and the
frames it takes fails for want of memory only when the region has no gap for it, exactly if a gap
anywhere in the region means one at or after the cursor: the search never turns back. -/
theorem automatic_placement_iff {mapper : PageMapper} {space : UserAddressSpace}
    {start memory : Memory} {mappings : UserMappings} {s₀ : PageState} (hmapper : mapper.Walks)
    (h : start.Realizes s₀)
    (hroot : s₀.place space.level4Frame.asAddress = some (space.level4Frame.asAddress, []))
    (hempty : ∀ page : UserPageStart,
        userMappingBase ≤ page.asU64 →
        page.asU64 < userMappingEnd →
        s₀.tables.leaf space.level4Frame.asAddress page.asU64 = none)
    (hrun : MappingRun mapper space start mappings memory) {plan : UserMappingPlan}
    (hany : plan.placement = .any) {index : ℕ}
    (hindex : mappings.nextEmptyRecordIndex = some index) {σ : Type}
    {initializePage : PageInitializer σ} (hinit : NeverExhausted initializePage)
    (hframes : ∀ start,
        mappings.nextAvailableStart mappings.nextStart plan.length.pageCount.byteLen = some start →
        memory.allocator.frameMap.HasFree
          (framesNeeded memory.tables space.level4Frame.asAddress start plan.length.pageCount.asU64
             0)) (captured : σ) :
    (∀ mappings' memory' captured',
      mappings.mapPrivate mapper space memory plan initializePage captured =
        .ok (.error .outOfMemory, mappings', memory', captured') →
      ∀ address, ¬ mappings.HasGap plan.length.pageCount.byteLen address) ↔
      ((∃ address, mappings.HasGap plan.length.pageCount.byteLen address) →
       ∃ address,
         mappings.nextStart.asU64 ≤ address ∧
         mappings.HasGap plan.length.pageCount.byteLen address) := by
  have hbase := hrun.base_le_nextStart hmapper h hroot hempty
  obtain ⟨s, h, hroot, htracks⟩ := hrun.tracks hmapper h hroot hempty
  obtain ⟨hfound, hleast⟩ := (htracks.lawful.nextAvailableStart_search mappings.nextStart
    plan.length.pageCount.byteLen).least htracks.lawful hbase
  constructor
  · rintro honly ⟨address, hgap⟩
    cases hstart : mappings.nextAvailableStart mappings.nextStart
        plan.length.pageCount.byteLen with
    | none =>
      exact absurd hgap (honly _ _ _ (mapPrivate_of_refused mapper space initializePage captured
        memory (admitted_of_none hany hstart)) address)
    | some found => exact ⟨found.asU64, hfound found hstart⟩
  intro habove _ _ _ hok address hgap
  obtain ⟨above, hle, hgap'⟩ := habove ⟨address, hgap⟩
  obtain ⟨_, hstart, -⟩ := hleast above hle hgap'
  obtain ⟨range, hadmitted, rfl⟩ := htracks.lawful.admitted_of_some hbase hany hindex hstart
  rcases mapPrivate_ok hmapper h hroot htracks.toBacked hok with ⟨_, hrefused, -⟩ |
    ⟨range', _, hadmitted', -, _, _, _, _, _, _, hmaps, -, -,
      ⟨_, rfl, herror, -⟩ | ⟨-, ⟨_, hcontra⟩, -⟩⟩
  · rw [hadmitted] at hrefused
    cases hrefused
  · obtain rfl : range = range' := Except.ok.inj (hadmitted.symm.trans hadmitted')
    rw [Maps, htracks.lawful.replaced_of_any hany hadmitted] at hmaps
    refine hmaps.ne_outOfMemory hinit ?_ (congrArg _ (Except.error.inj herror).symm)
    rw [← h.tables_eq, ← h.represents.frameMap_eq]
    exact hframes _ hstart
  · cases hcontra

/-! ### A cursor past the only gap -/

lemma two_pow_le_maxPageCount : 2 ^ 32 ≤ wordMax / pageSize := by decide

/-- A request for the whole region. -/
def regionPlan : UserMappingPlan := ⟨.any,
  ⟨2 ^ 32 * pageSize, ⟨2 ^ 32, Nat.two_pow_pos 32, two_pow_le_maxPageCount⟩⟩, true, .anonymous⟩

/-- The machine after boot, with as many frames as the region and its tables can take. -/
def wideMemory : Memory :=
  { bootMemory with
    allocator := ⟨[⟨2 * pageSize, 2 ^ 35⟩], [⟨⟨2 * pageSize, 2 ^ 35⟩, .free, .free⟩]⟩ }

lemma wideMemory_consistent : wideMemory.allocator.Consistent := by
  have hreached : Reached [.add (2 * pageSize) ⟨2 ^ 35, by decide, by decide⟩] []
    wideMemory.allocator := Reached.registered rfl
  have hpl : WellPlaced [.add (2 * pageSize) ⟨2 ^ 35, by decide, by decide⟩] :=
    ⟨by decide, List.pairwise_singleton _ _⟩
  exact hreached.consistent hpl

/-- The table after one page has been mapped and unmapped. -/
def passedTable : UserMappings := { new with nextStart := secondPage }

lemma slot_passedTable : passedTable.slot index = none := slot_new

lemma passedTable_hasGap :
  passedTable.HasGap regionPlan.length.pageCount.byteLen userMappingBase := by
  refine ⟨by decide, Nat.le_refl _, by decide, fun {index record} hslot => ?_⟩
  rw [slot_passedTable] at hslot
  cases hslot

set_option maxRecDepth 100000 in
lemma exists_passedTable :
    ∃ space created s allocation mappings1 memory1 memory,
      createUserAddressSpace wideMemory = .ok (space, created) ∧
      created.Realizes s ∧
      s.IsRoot space.root ∧
      (∀ page, InWindow page → s.tables.leaf space.root page = none) ∧
      new.mapPrivate walkMapper space created (onePagePlan .any) keepZero () =
        .ok (.ok allocation, mappings1, memory1, ()) ∧
      mappings1.unmapRange walkMapper space memory1 ⟨basePage, ⟨pageSize, onePage⟩⟩ =
        .ok (some onePage, passedTable, memory) ∧
      ∃ t ∈ memory.allocator.trackedRanges, t.state = .free ∧ 2 ^ 34 ≤ t.region.pages := by
  obtain ⟨space, created, s, hcr, h, hroot, hempty⟩ :=
    exists_createdSpace wideMemory_consistent (by decide +kernel)
  have hrun : ((createUserAddressSpace wideMemory).bind fun p =>
    (new.mapPrivate walkMapper p.1 p.2 (onePagePlan .any) keepZero ()).bind fun q =>
      (q.2.1.unmapRange walkMapper p.1 q.2.2.1 ⟨basePage, ⟨pageSize, onePage⟩⟩).map fun r =>
        (q.1.toOption.isSome, r.1, r.2.1, decide (∃ t ∈ r.2.2.allocator.trackedRanges,
          t.state = .free ∧ 2 ^ 34 ≤ t.region.pages))).toOption =
    some (true, some onePage, passedTable, true) := by decide +kernel
  rw [hcr] at hrun
  cases hmap : new.mapPrivate walkMapper space created (onePagePlan .any) keepZero ()
    with
  | error _ =>
    simp only [Except.bind, hmap] at hrun
    cases hrun
  | ok q =>
    obtain ⟨result, mappings1, memory1, _⟩ := q
    cases hunmap : mappings1.unmapRange walkMapper space memory1
        ⟨basePage, ⟨pageSize, onePage⟩⟩ with
    | error _ =>
      simp only [Except.bind, hmap, hunmap] at hrun
      cases hrun
    | ok r =>
      obtain ⟨_, _, memory⟩ := r
      simp only [Except.bind, hmap, hunmap] at hrun
      obtain ⟨hres, hrun⟩ := Prod.mk.inj (Option.some.inj hrun)
      obtain ⟨rfl, hrun⟩ := Prod.mk.inj hrun
      obtain ⟨rfl, hranges⟩ := Prod.mk.inj hrun
      cases result with
      | error _ => cases hres
      | ok allocation =>
        exact ⟨space, created, s, allocation, mappings1, memory1, memory, hcr, h, hroot,
          hempty, hmap, hunmap, of_decide_eq_true hranges⟩

lemma Represents.hasFree (h : Represents ranges m) (ht : t ∈ ranges) (hfree : t.state = .free)
  (hcnt : n ≤ t.region.pages) : m.HasFree n := by
  refine FrameMap.HasFree.mono (FrameMap.FreeRun.hasFree (s := t.toRun.start)
    fun f hlow hhigh => ⟨t.owner, ?_⟩) hcnt
  rw [h.map_eq ht ⟨hlow, hhigh⟩, TrackedRange.label, hfree]

/-- The frames for the whole region are free, no record is left, and yet the request for all of it
fails. -/
theorem automatic_placement_misses_gap :
    ∃ space created allocation mappings₁ memory₁ memory,
      createUserAddressSpace wideMemory = .ok (space, created) ∧
      new.mapPrivate walkMapper space created (onePagePlan .any) keepZero () =
        .ok (.ok allocation, mappings₁, memory₁, ()) ∧
      mappings₁.unmapRange walkMapper space memory₁ ⟨basePage, ⟨pageSize, onePage⟩⟩ =
        .ok (some onePage, passedTable, memory) ∧
      passedTable.nextEmptyRecordIndex = some 0 ∧
      memory.allocator.frameMap.HasFree
        (framesNeeded memory.tables space.level4Frame.asAddress basePage
           regionPlan.length.pageCount.asU64 0) ∧
      passedTable.HasGap regionPlan.length.pageCount.byteLen userMappingBase ∧
      passedTable.mapPrivate walkMapper space memory regionPlan keepZero () =
        .ok (.error .outOfMemory, passedTable, memory, ()) := by
  obtain ⟨space, created, s, allocation, mappings₁, memory₁, memory, hcreate, h, hroot, hempty,
    hmap, hunmap, t, ht, hfree, hcount⟩ := exists_passedTable
  have hrun : MappingRun walkMapper space created passedTable memory :=
    .unmapped (.mapped .fresh hmap) hunmap
  obtain ⟨_, h', -⟩ := hrun.tracks walkMapper_walks h hroot
    fun page hbase _ => hempty _ (UserMappingRange.inWindow_of_region hbase)
  refine ⟨space, created, allocation, mappings₁, memory₁, memory, hcreate, hmap, hunmap, by decide,
    ?_, passedTable_hasGap, ?_⟩
  · rw [h'.represents.frameMap_eq]
    exact h'.represents.hasFree ht hfree ((framesNeeded_le _ _ _ _ _).trans hcount)
  · exact mapPrivate_of_refused walkMapper space keepZero () memory
      (admitted_of_none rfl (by decide +kernel))

lemma keepZero_neverExhausted : NeverExhausted keepZero := fun _ _ _ hcon => by cases hcon

/-- After the page has been unmapped, the request for the next one is answered. -/
theorem automatic_placement_iff_second_page : ∃ space memory, ∀ mappings' memory' captured',
    passedTable.mapPrivate walkMapper space memory (onePagePlan .any) keepZero () =
      .ok (.error .outOfMemory, mappings', memory', captured') →
    ∀ address, ¬ passedTable.HasGap onePage.byteLen address := by
  obtain ⟨space, created, s, _, _, _, memory, -, h, hroot, hempty, hmap,
    hunmap, t, ht, hfree, hcount⟩ := exists_passedTable
  have hrun : MappingRun walkMapper space created passedTable memory :=
    .unmapped (.mapped .fresh hmap) hunmap
  have hregion : ∀ page : UserPageStart, userMappingBase ≤ page.asU64 →
    page.asU64 < userMappingEnd → s.tables.leaf space.level4Frame.asAddress page.asU64 = none :=
    fun page hbase _ => hempty _ (UserMappingRange.inWindow_of_region hbase)
  obtain ⟨_, h', -⟩ := hrun.tracks walkMapper_walks h hroot hregion
  have hframes : memory.allocator.frameMap.HasFree (2 ^ 34) := by
    rw [h'.represents.frameMap_eq]
    exact h'.represents.hasFree ht hfree hcount
  have hany : (onePagePlan .any).placement = .any := rfl
  have hindex : passedTable.nextEmptyRecordIndex = some 0 := by decide
  refine ⟨space, memory, (automatic_placement_iff walkMapper_walks h hroot hregion hrun hany hindex
    keepZero_neverExhausted (fun start _ => hframes.mono
      ((framesNeeded_le _ _ _ _ _).trans (by decide))) ()).2
      fun _ => ⟨secondPage.asU64, Nat.le_refl _, by decide, by decide, by decide, ?_⟩⟩
  intro _ _ hslot
  rw [slot_passedTable] at hslot
  cases hslot

end ManaOS
