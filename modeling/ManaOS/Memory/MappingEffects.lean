/-
What the private mappings do to the pages of an address space.

* `unmapRange_spec`, `replaceOverlappingPages_spec`: the two ways in which pages are removed.
-/
import ManaOS.Memory.MappingRecords
import ManaOS.Memory.PageLoops

namespace ManaOS
open Checked UserMappingRange

/-! ### Pages of a range -/

variable {start : UserPageStart} {indices : List ℕ}

lemma userPageStart_eq_some :
  userPageStart start index = some page ↔ page.asU64 = start.asU64 + index * pageSize := by
  rw [userPageStart, Option.bind_eq_some_iff]
  constructor
  · rintro ⟨_, hoff, hpage⟩
    obtain ⟨-, rfl⟩ := checkedMul_eq_some.1 hoff
    exact UserPageStart.checkedAdd_eq_some.1 hpage
  intro hpage
  have hlt := page.asU64_lt
  have hword : userSpaceEnd ≤ wordSize := by decide
  exact ⟨_, checkedMul_eq_some.2 ⟨by omega, rfl⟩, UserPageStart.checkedAdd_eq_some.2 hpage⟩

lemma exists_userPageStart (h : start.asU64 + index * pageSize < userSpaceEnd) :
  ∃ page, userPageStart start index = some page := by
  have hne : start.asU64 + index * pageSize ≠ 0 := by
    have hst : start.asU64 ≠ 0 := start.asAddress.ne_zero
    omega
  obtain ⟨page, hpage⟩ := UserPageStart.exists_asU64 hne h
    ((Nat.add_mul_mod_self_right ..).trans start.asU64_mod)
  exact ⟨page, userPageStart_eq_some.2 hpage⟩

/-- The pages at some indices above a start. -/
def pagesAt (start : UserPageStart) (indices : List ℕ) : List UserPageStart :=
  indices.filterMap (userPageStart start)

lemma mem_pagesAt : page ∈ pagesAt start indices ↔
  ∃ index ∈ indices, page.asU64 = start.asU64 + index * pageSize := by
  simp only [pagesAt, List.mem_filterMap, userPageStart_eq_some]

lemma nodup_pagesAt (start : UserPageStart) (h : indices.Nodup) :
    (pagesAt start indices).Nodup := by
  refine h.filterMap fun i j page hi hj => ?_
  rw [Option.mem_def, userPageStart_eq_some] at hi hj
  rw [pageSize] at *
  omega

lemma pairwise_pagesAt (start : UserPageStart) (h : indices.Pairwise (· < ·)) :
  ((pagesAt start indices).map UserPageStart.asU64).Pairwise (· < ·) := by
  rw [List.pairwise_map, pagesAt, List.pairwise_filterMap]
  refine h.imp fun hlt p hp q hq => ?_
  rw [userPageStart_eq_some] at hp hq
  rw [pageSize] at *
  omega

lemma pagesAt_ext {indices' : List ℕ}
  (h : indices.Pairwise (· < ·)) (h' : indices'.Pairwise (· < ·))
  (hmem : ∀ page, page ∈ pagesAt start indices ↔ page ∈ pagesAt start' indices') :
  pagesAt start indices = pagesAt start' indices' := by
  have hinj : Function.Injective UserPageStart.asU64 := fun _ _ => UserPageStart.eq_of_asU64
  refine hinj.list_map ?_
  refine (pairwise_pagesAt start h).eq_of_mem_iff (pairwise_pagesAt start' h') fun a => ?_
  simp only [List.mem_map, hmem]

lemma mem_pagesAt_range : page ∈ pagesAt start (List.range count) ↔
  start.asU64 ≤ page.asU64 ∧ page.asU64 < start.asU64 + count * pageSize := by
  have hst := start.asU64_mod
  have hpage := page.asU64_mod
  rw [mem_pagesAt]
  constructor
  · rintro ⟨_, hidx, _⟩
    rw [List.mem_range] at hidx
    rw [pageSize] at *
    omega
  · rintro ⟨_, _⟩
    refine ⟨(page.asU64 - start.asU64) / pageSize, List.mem_range.2 ?_, ?_⟩ <;>
      rw [pageSize] at * <;> omega

/-- The pages of a range, in order. -/
def UserMappingRange.pages (range : UserMappingRange) : List UserPageStart :=
  pagesAt range.start (List.range range.pageCount.asU64)

namespace UserMappingRange
variable (range : UserMappingRange)

lemma mem_pages : page ∈ range.pages ↔ range.Covers page.asU64 := by
  rw [pages, mem_pagesAt_range, Covers, range.end_eq]
  rfl

lemma nodup_pages : range.pages.Nodup := nodup_pagesAt _ List.nodup_range

lemma inWindow_of_region {page : UserPageStart} (h : userMappingBase ≤ page.asU64) :
  InWindow page.asU64 :=
  inWindow_of_bounds (Nat.le_trans (by decide) h) page.asU64_lt

lemma inWindow (h : page ∈ range.pages) : InWindow page.asU64 :=
  inWindow_of_region (Nat.le_trans range.base_le (range.mem_pages.1 h).1)

lemma stop_le (range : UserMappingRange) :
  range.start.asU64 + range.pageCount.asU64 * pageSize ≤ userMappingEnd := by
  have hend := range.end_eq
  rw [PageCount.byteLen] at hend
  rw [← hend]
  exact range.le_end

lemma exists_page (h : index < range.pageCount.asU64) :
  ∃ page, userPageStart range.start index = some page := by
  refine exists_userPageStart ?_
  have hle : index * pageSize < range.pageCount.byteLen :=
    Nat.mul_lt_mul_of_pos_right h (by decide)
  have hend := range.end_eq
  have hlt := range.endExclusive.asU64_lt
  omega

end UserMappingRange

/-- The records are lawful, and each of their pages is mapped with a mapping frame. -/
structure UserMappings.Backed (mappings : UserMappings) (s : PageState) (root : ℕ) : Prop where
  lawful : mappings.Lawful
  owned : ∀ {page : UserPageStart} {source}, mappings.Holds page.asU64 source →
    s.Owned root .userMapping page

namespace UserMappings

lemma Holds.base_le {mappings : UserMappings}
  (hlaw : mappings.Lawful) (h : mappings.Holds page source) : userMappingBase ≤ page := by
  obtain ⟨_, _, hslot, hpage, -⟩ := h
  exact Nat.le_trans (hlaw.base_le hslot) hpage.1

variable {mapper : PageMapper} {space : UserAddressSpace}

lemma unmapIndices_eq (hvalid : ∀ index ∈ indices, ∃ page, userPageStart start index = some page)
  (pageMessage mappedMessage : String) (memory : Memory) :
  unmapIndices mapper space pageMessage mappedMessage start indices memory =
    space.unmapEach mapper .userMapping mappedMessage (pagesAt start indices) memory := by
  induction indices generalizing memory with
  | nil => rfl
  | cons _ _ ih =>
    obtain ⟨⟨_, hpage⟩, hvalid⟩ := List.forall_mem_cons.1 hvalid
    rw [pagesAt, List.filterMap_cons, hpage, unmapIndices, hpage]
    simp only [expect_some, ok_bind, UserAddressSpace.unmapEach]
    exact bind_congr fun p => bind_congr fun _ => ih hvalid p.2

section Trim
variable {mappings : UserMappings} {range : UserMappingRange}

lemma Backed.trim (h : mappings.Backed s root)
  (htrim : mappings.Trimmed range.start.asU64 range.endExclusive.asU64 mappings')
  (hclear : Cleared s root range.pages s') : mappings'.Backed s' root := by
  refine ⟨htrim.lawful, fun {page source} hholds => ?_⟩
  obtain ⟨hholds, _⟩ := htrim.holds_iff.1 hholds
  refine hclear.owned (inWindow_of_region (hholds.base_le h.lawful)) ?_
    (h.owned hholds)
  rwa [range.mem_pages]

end Trim

lemma unmapRange_cases {mappings : UserMappings} (hlaw : mappings.Lawful) (memory : Memory)
  (request : UserMappingUnmapRequest) :
  mappings.unmapRange mapper space memory request = .ok (none, mappings, memory) ∨
  ∃ range index record split,
    UserMappingRange.new request.start request.length.pageCount = some range ∧
    mappings.slot index = some record ∧ record.start.asU64 ≤ range.start.asU64 ∧
    range.endExclusive.asU64 ≤ record.stop ∧
    (record.start.asU64 < range.start.asU64 → range.endExclusive.asU64 < record.stop →
      ∃ j, split = some j ∧ j < maxUserMappings ∧ mappings.slot j = none) ∧
    mappings.unmapRange mapper space memory request = do
      let memory ← unmapPages mapper space memory range.start range.pageCount
      let mappings ← mappings.applyRecordUnmap index split record
        ((range.start.asU64 - record.start.asU64) / pageSize)
        ((record.stop - range.endExclusive.asU64) / pageSize) range.endExclusive
      return (some request.length.pageCount, mappings, memory) := by
  cases hrg : UserMappingRange.new request.start request.length.pageCount with
  | none => exact .inl (by rw [unmapRange, hrg]; rfl)
  | some range =>
    cases hidx : mappings.findContainingRecordIndex range with
    | none => exact .inl (by simp only [unmapRange, hrg, hidx]; rfl)
    | some index =>
      obtain ⟨record, hslot, hst, hstop⟩ := hlaw.findContainingRecordIndex_eq_some hidx
      obtain ⟨_, hrec, hrecordStart, hrecordStop⟩ := hlaw.exists_range hslot
      obtain ⟨-, hcnt⟩ := new_eq_some.1 hrg
      have hjoin : mappings.records[index]?.join = some record := hslot
      have hcall := unmapRange.eq_1 mapper space mappings memory request
      simp only [hrg, hidx, hjoin, expect_some, ok_bind, hrec, hrecordStart, hrecordStop] at hcall
      have hleft := pages_eq_zero_iff record.start.asU64_mod range.start.asU64_mod hst
      have hright := pages_eq_zero_iff range.endExclusive.asU64_mod record.stop_mod hstop
      by_cases hsplits : 0 < (range.start.asU64 - record.start.asU64) / pageSize ∧
          0 < (record.stop - range.endExclusive.asU64) / pageSize
      · rw [decide_eq_true hsplits] at hcall
        cases hempty : mappings.nextEmptyRecordIndex with
        | none => exact .inl (by rw [hcall, hempty]; rfl)
        | some j =>
          refine .inr ⟨range, index, record, some j, rfl, hslot, hst, hstop,
            fun _ _ => ⟨j, rfl, nextEmptyRecordIndex_eq_some hempty⟩, ?_⟩
          rw [hcall, hempty, hcnt]
          rfl
      rw [decide_eq_false hsplits] at hcall
      refine .inr ⟨range, index, record, none, rfl, hslot, hst, hstop, fun hl hr => absurd ⟨
          Nat.pos_of_ne_zero fun hzero => Nat.ne_of_lt hl (hleft.1 hzero),
          Nat.pos_of_ne_zero fun hzero => Nat.ne_of_lt hr (hright.1 hzero)⟩ hsplits, ?_⟩
      rw [hcall, hcnt]
      rfl

section Unmap
variable {mappings : UserMappings} {memory : Memory} {s : PageState} (hmap : mapper.Walks)
  (h : memory.Realizes s)
  (hroot : s.place space.level4Frame.asAddress = some (space.level4Frame.asAddress, []))
  (hback : mappings.Backed s space.level4Frame.asAddress)
include hmap h hroot hback in
lemma unmapPages_spec {range : UserMappingRange}
  (hholds : ∀ page, range.Covers page → ∃ source, mappings.Holds page source) :
  (¬ s.labels.CanFree (s.tables.framesOf space.root range.pages) ∧
    unmapPages mapper space memory range.start range.pageCount = .error capacityExhausted) ∨
  s.labels.CanFree (s.tables.framesOf space.root range.pages) ∧
    ∃ s' memory', unmapPages mapper space memory range.start range.pageCount = .ok memory' ∧
    Cleared s space.root range.pages s' ∧ memory'.Realizes s' ∧ memory.OnlyMapped memory' := by
  rw [unmapPages, unmapIndices_eq fun index hidx => range.exists_page (List.mem_range.1 hidx)]
  refine UserAddressSpace.unmapEach_spec hmap _ range.nodup_pages (fun page => range.inWindow)
    h hroot fun page hpage => ?_
  obtain ⟨_, hsrc⟩ := hholds _ (range.mem_pages.1 hpage)
  exact hback.owned hsrc

include hmap h hroot hback in
/-- **`unmap_range`.**  A request is refused, or its pages leave one record and the tables. -/
lemma unmapRange_spec (request : UserMappingUnmapRequest) :
    mappings.unmapRange mapper space memory request = .ok (none, mappings, memory) ∨
    ∃ range,
      UserMappingRange.new request.start request.length.pageCount = some range ∧
      ((¬ s.labels.CanFree (s.tables.framesOf space.root range.pages) ∧
        mappings.unmapRange mapper space memory request = .error capacityExhausted) ∨
       s.labels.CanFree (s.tables.framesOf space.root range.pages) ∧
       ∃ mappings' s' memory',
         mappings.unmapRange mapper space memory request =
           .ok (some request.length.pageCount, mappings', memory') ∧
         mappings.Trimmed range.start.asU64 range.endExclusive.asU64 mappings' ∧
         Cleared s space.root range.pages s' ∧
         memory'.Realizes s' ∧
         memory.OnlyMapped memory') := by
  rcases unmapRange_cases hback.lawful memory request with
    href | ⟨range, index, record, split, hrg, hslot, hst, hstop, hsplit, hcall⟩
  · exact .inl href
  refine .inr ⟨range, hrg, ?_⟩
  have hholds : ∀ page, range.Covers page → ∃ source, mappings.Holds page source := fun page hpage
    => ⟨_, index, record, hslot, ⟨Nat.le_trans hst hpage.1, Nat.lt_of_lt_of_le hpage.2 hstop⟩, rfl⟩
  obtain ⟨mappings', hrecs, htrim, -⟩ := applyRecordUnmap_ok hback.lawful hslot
    range.start.asU64_mod hst range.start_lt_end hstop hsplit
  rw [hcall]
  rcases unmapPages_spec hmap h hroot hback hholds with
    ⟨hfree, herr⟩ | ⟨hfree, s', memory', hok, hclear, h', heq⟩
  · exact .inl ⟨hfree, by rw [herr]; rfl⟩
  · refine .inr ⟨hfree, mappings', s', memory', ?_, htrim, hclear, h', heq⟩
    rw [hok, ok_bind, hrecs]
    rfl

end Unmap

/-! ### Replacement -/

/-- The pages that a slot shares with a range. -/
def sharedPages (range : UserMappingRange) : Option UserMapping → List UserPageStart
  | none => []
  | some record =>
    pagesAt range.start ((List.range range.pageCount.asU64).filter fun index =>
      record.Covers (range.start.asU64 + index * pageSize))

/-- The pages that a replacement takes out of the slots. -/
def replacedPages (mappings : UserMappings) (range : UserMappingRange) (indices : List ℕ) : List
  UserPageStart := indices.flatMap fun index => sharedPages range (mappings.slot index)

section Shared
variable {record : UserMapping}

lemma mem_sharedPages : page ∈ sharedPages range (some record) ↔
  range.Covers page.asU64 ∧ record.Covers page.asU64 := by
  rw [← range.mem_pages, pages, sharedPages, mem_pagesAt, mem_pagesAt]
  constructor
  · rintro ⟨index, hidx, hpage⟩
    rw [List.mem_filter, decide_eq_true_eq, ← hpage] at hidx
    exact ⟨⟨index, hidx.1, hpage⟩, hidx.2⟩
  · rintro ⟨⟨index, hidx, hpage⟩, hcov⟩
    exact ⟨index, List.mem_filter.2 ⟨hidx, by rw [decide_eq_true_eq, ← hpage]; exact hcov⟩, hpage⟩

lemma sharedPages_of_not_meets (h : ¬ record.Meets range) :
  sharedPages range (some record) = [] := by
  refine List.eq_nil_iff_forall_not_mem.2 fun page hpage => h ?_
  obtain ⟨⟨_, _⟩, ⟨_, _⟩⟩ := mem_sharedPages.1 hpage
  exact ⟨by omega, by omega⟩

lemma exists_overlap (hbase : userMappingBase ≤ record.start.asU64)
    (hend : record.stop ≤ userMappingEnd) (hmeet : record.Meets range) :
    ∃ start count overlap,
      userPageStartFromRaw (max record.start.asU64 range.start.asU64) = some start ∧
      mappingPageCount
        ((min record.stop range.endExclusive.asU64 - max record.start.asU64 range.start.asU64) /
           pageSize) =
        .ok count ∧
      UserMappingRange.new start count = some overlap ∧
      overlap.start.asU64 = max record.start.asU64 range.start.asU64 ∧
      overlap.endExclusive.asU64 = min record.stop range.endExclusive.asU64 ∧
      overlap.pages = sharedPages range (some record) := by
  obtain ⟨_, _⟩ := hmeet
  have hrec := record.start_lt_stop
  have hrg := range.start_lt_end
  have hmax : max record.start.asU64 range.start.asU64 = record.start.asU64 ∨
    max record.start.asU64 range.start.asU64 = range.start.asU64 := by omega
  have hmin : min record.stop range.endExclusive.asU64 = record.stop ∨
    min record.stop range.endExclusive.asU64 = range.endExclusive.asU64 := by omega
  obtain ⟨start, hst⟩ : ∃ start : UserPageStart,
    start.asU64 = max record.start.asU64 range.start.asU64 := by
    rcases hmax with h | h <;> rw [h]
    exacts [⟨record.start, rfl⟩, ⟨range.start, rfl⟩]
  have hstop : min record.stop range.endExclusive.asU64 % pageSize = 0 := by
    rcases hmin with h | h <;> rw [h]
    exacts [record.stop_mod, range.endExclusive.asU64_mod]
  have hbound : min record.stop range.endExclusive.asU64 ≤ userMappingEnd := by omega
  obtain ⟨count, hcnt, hlen⟩ := exists_mappingPageCount start.asU64_mod hstop (by omega)
    (Nat.le_trans hbound (by decide))
  rw [hst] at hcnt hlen
  have hstartBase : userMappingBase ≤ start.asU64 := by omega
  have hcountEnd : start.asU64 + count.byteLen ≤ userMappingEnd := by omega
  obtain ⟨overlap, hoverlap⟩ := exists_new hstartBase hcountEnd
  obtain ⟨hovs, hoverlapCount⟩ := new_eq_some.1 hoverlap
  have hoend : overlap.endExclusive.asU64 = min record.stop range.endExclusive.asU64 := by
    rw [overlap.end_eq, hovs, hoverlapCount, hst, hlen]
  rw [← hovs] at hst
  refine ⟨start, count, overlap, ?_, hcnt, hoverlap, hst, hoend, ?_⟩
  · rw [← hst, hovs, userPageStartFromRaw, Option.bind_eq_some_iff]
    exact ⟨start.asAddress, UserVirtualAddress.new_eq_some.2 rfl, UserPageStart.new_eq_some.2 rfl⟩
  refine pagesAt_ext List.pairwise_lt_range (List.pairwise_lt_range.filter _) fun page => ?_
  have hpages : page ∈ overlap.pages ↔ _ := overlap.mem_pages
  have hshared : page ∈ sharedPages range (some record) ↔ _ := mem_sharedPages
  rw [pages] at hpages
  rw [sharedPages] at hshared
  rw [hpages, hshared]
  simp only [UserMappingRange.Covers, UserMapping.Covers, hst, hoend]
  omega

end Shared

section Replace
variable {mappings : UserMappings} {memory : Memory} {range : UserMappingRange} {index : ℕ}

lemma replaceRecord_skip (hlaw : mappings.Lawful)
  (hskip : ∀ record, mappings.slot index = some record → ¬ record.Meets range)
  (replacedPages : ℕ) :
  replaceRecord mapper space range (mappings, memory, replacedPages) index =
    .ok (mappings, memory, replacedPages) := by
  cases hslot : mappings.slot index with
  | none =>
    have hjoin : mappings.records[index]?.join = none := hslot
    simp only [replaceRecord, hjoin]
    rfl
  | some record =>
    have hjoin : mappings.records[index]?.join = some record := hslot
    obtain ⟨recordRange, hrec, hst, hstop⟩ := hlaw.exists_range hslot
    have hover : range.overlaps recordRange = false :=
      Bool.eq_false_iff.2 fun htrue => hskip record hslot
        ((overlaps_iff range hst hstop).1 htrue)
    simp only [replaceRecord, hjoin, hrec, expect_some, ok_bind, hover]
    rfl

variable (mapper space memory) in
lemma replaceRecord_meets (hlaw : mappings.Lawful)
  (hslot : mappings.slot index = some record) (hmeet : record.Meets range)
  (hspare : record.start.asU64 < range.start.asU64 → range.endExclusive.asU64 < record.stop →
    mappings.activeRecords < maxUserMappings) (replacedPages : ℕ) :
  ∃ (overlap : UserMappingRange) (split : Option ℕ),
    overlap.start.asU64 = max record.start.asU64 range.start.asU64 ∧
    overlap.endExclusive.asU64 = min record.stop range.endExclusive.asU64 ∧
    overlap.pages = sharedPages range (some record) ∧
    (record.start.asU64 < overlap.start.asU64 → overlap.endExclusive.asU64 < record.stop →
      ∃ j, split = some j ∧ j < maxUserMappings ∧ mappings.slot j = none) ∧
    replaceRecord mapper space range (mappings, memory, replacedPages) index = do
      let memory ← unmapPages mapper space memory overlap.start overlap.pageCount
      let mappings ← mappings.applyRecordUnmap index split record
        ((overlap.start.asU64 - record.start.asU64) / pageSize)
        ((record.stop - overlap.endExclusive.asU64) / pageSize) overlap.endExclusive
      return (mappings, memory, saturatingAdd replacedPages overlap.pageCount.asU64) := by
  have hjoin : mappings.records[index]?.join = some record := hslot
  obtain ⟨_, hrec, hst, hstop⟩ := hlaw.exists_range hslot
  have hover := (overlaps_iff range hst hstop).2 hmeet
  obtain ⟨_, _, overlap, hraw, hcnt, hnew, hovs, hoend, hpages⟩ :=
    exists_overlap (hlaw.base_le hslot) (hlaw.le_end hslot) hmeet
  have hcall := replaceRecord.eq_1 mapper space range index mappings memory replacedPages
  simp only [hjoin, hrec, expect_some, ok_bind, hover, hst, hstop, hraw, hcnt, hnew,
    Bool.not_true, Bool.false_eq_true, if_false] at hcall
  have hrecordLe : record.start.asU64 ≤ overlap.start.asU64 := by omega
  have hleRecord : overlap.endExclusive.asU64 ≤ record.stop := by omega
  have hleft := pages_eq_zero_iff record.start.asU64_mod overlap.start.asU64_mod hrecordLe
  have hright := pages_eq_zero_iff overlap.endExclusive.asU64_mod record.stop_mod hleRecord
  by_cases hsplits : 0 < (overlap.start.asU64 - record.start.asU64) / pageSize ∧
      0 < (record.stop - overlap.endExclusive.asU64) / pageSize
  · have hl : record.start.asU64 < range.start.asU64 := by
      have hne : record.start.asU64 ≠ overlap.start.asU64 := fun heq => by
        rw [hleft.2 heq] at hsplits
        exact Nat.lt_irrefl 0 hsplits.1
      omega
    have hr : range.endExclusive.asU64 < record.stop := by
      omega
    obtain ⟨j, hj⟩ := exists_nextEmptyRecordIndex (hspare hl hr)
    simp only [if_pos hsplits, hj, expect_some, ok_bind, pure_bind] at hcall
    exact ⟨overlap, some j, hovs, hoend, hpages,
      fun _ _ => ⟨j, rfl, nextEmptyRecordIndex_eq_some hj⟩, hcall⟩
  · simp only [if_neg hsplits, pure_bind] at hcall
    refine ⟨overlap, none, hovs, hoend, hpages, fun hl hr => absurd ⟨?_, ?_⟩ hsplits, hcall⟩
    · exact Nat.pos_of_ne_zero fun hzero => Nat.ne_of_lt hl (hleft.1 hzero)
    · exact Nat.pos_of_ne_zero fun hzero => Nat.ne_of_lt hr (hright.1 hzero)

/-- The slots of some indices have lost the pages they share with a range. -/
structure Stripped (mappings : UserMappings) (range : UserMappingRange) (indices : List ℕ)
    (mappings' : UserMappings) : Prop where
  lawful : mappings'.Lawful
  holds_iff : ∀ {page source}, mappings'.Holds page source ↔ mappings.Holds page source ∧
    ¬ (range.Covers page ∧
      ∃ index ∈ indices, ∃ record, mappings.slot index = some record ∧ record.Covers page)
  nextStart_eq : mappings'.nextStart = mappings.nextStart

/-- The other slots keep their record, or get one that the range does not meet. -/
def Undisturbed (mappings : UserMappings) (range : UserMappingRange) (index : ℕ)
  (mappings' : UserMappings) : Prop :=
  ∀ j, j ≠ index → mappings'.slot j = mappings.slot j ∨ mappings.slot j = none ∧
    ∃ record, mappings'.slot j = some record ∧ ¬ record.Meets range

lemma Undisturbed.apply_eq {α : Type*}
  (h : mappings.Undisturbed range index mappings') {f : Option UserMapping → α}
  (hf : ∀ record, ¬ record.Meets range → f (some record) = f none) (hj : j ≠ index) :
  f (mappings'.slot j) = f (mappings.slot j) := by
  rcases h j hj with heq | ⟨hnone, record, hrec, hmeet⟩
  · rw [heq]
  · rw [hrec, hnone, hf record hmeet]

variable {indices : List ℕ}

lemma Undisturbed.map_eq {α : Type*}
  (h : mappings.Undisturbed range index mappings') {f : Option UserMapping → α}
  (hf : ∀ record, ¬ record.Meets range → f (some record) = f none) (hidx : index ∉ indices) :
  (indices.map fun j => f (mappings'.slot j)) = indices.map fun j => f (mappings.slot j) :=
  List.map_congr_left fun _ hj => h.apply_eq hf fun heq => hidx (heq ▸ hj)

/-- A record that reaches beyond both ends of the range is the only one that meets it. -/
lemma HasSpare.active_lt (hlaw : mappings.Lawful)
  (h : mappings.HasSpare range (index :: indices)) (hidx : index ∉ indices)
  (hslot : mappings.slot index = some record) (hl : record.start.asU64 < range.start.asU64)
  (hr : range.endExclusive.asU64 < record.stop) : mappings.activeRecords < maxUserMappings := by
  have hrg := range.start_lt_end
  have hmeet : record.Meets range := ⟨by omega, by omega⟩
  have hoth : ∀ j ∈ indices, slotsMet range (mappings.slot j) = 0 := by
    intro j hj
    cases hslot' : mappings.slot j with
    | none => rfl
    | some _ =>
      refine if_neg fun hmeet' => ?_
      have hne : j ≠ index := fun heq => hidx (heq ▸ hj)
      have hapart := hlaw.apart hne hslot' hslot
      obtain ⟨_, _⟩ := hmeet'
      omega
  have hsum : (indices.map fun j => slotsMet range (mappings.slot j)).sum = 0 :=
    List.sum_eq_zero fun x hx => by
      obtain ⟨j, hj, rfl⟩ := List.mem_map.1 hx
      exact hoth j hj
  rw [HasSpare, List.map_cons, List.map_cons, List.sum_cons, List.sum_cons, hsum, hslot, slotsMet,
    piecesLeft, if_pos hmeet, if_pos hmeet, decide_eq_true hl, decide_eq_true hr,
    Bool.toNat_true] at h
  omega

lemma mem_replacedPages : page ∈ mappings.replacedPages range indices ↔ range.Covers page.asU64 ∧
  ∃ index ∈ indices, ∃ record, mappings.slot index = some record ∧ record.Covers page.asU64 := by
  rw [replacedPages, List.mem_flatMap]
  constructor
  · rintro ⟨index, hidx, hpage⟩
    cases hslot : mappings.slot index with
    | none =>
      rw [hslot] at hpage
      cases hpage
    | some record =>
      rw [hslot, mem_sharedPages] at hpage
      exact ⟨hpage.1, index, hidx, record, hslot, hpage.2⟩
  · rintro ⟨hpage, index, hidx, _, hslot, hcov⟩
    exact ⟨index, hidx, by rw [hslot, mem_sharedPages]; exact ⟨hpage, hcov⟩⟩

lemma Lawful.disjoint_replacedPages (hlaw : mappings.Lawful) (range : UserMappingRange)
  (hidx : index ∉ indices) :
  (sharedPages range (mappings.slot index)).Disjoint (mappings.replacedPages range indices) := by
  intro _ hpage hpage'
  obtain ⟨-, j, hj, _, hslot', _, _⟩ := mem_replacedPages.1 hpage'
  cases hslot : mappings.slot index with
  | none =>
    rw [hslot] at hpage
    cases hpage
  | some _ =>
    rw [hslot, mem_sharedPages] at hpage
    obtain ⟨-, _, _⟩ := hpage
    have hne : index ≠ j := fun heq => hidx (heq ▸ hj)
    have hapart := hlaw.apart hne hslot hslot'
    omega

lemma Undisturbed.replacedPages_eq (h : mappings.Undisturbed range index mappings')
    (hidx : index ∉ indices) :
    mappings'.replacedPages range indices = mappings.replacedPages range indices := by
  rw [replacedPages, replacedPages, List.flatMap_def, List.flatMap_def,
    h.map_eq (fun _ => sharedPages_of_not_meets) hidx]

lemma HasSpare.tail {mappings' : UserMappings} (h : mappings.HasSpare range (index :: indices))
  (hoth : mappings.Undisturbed range index mappings')
  (hact : mappings'.activeRecords + slotsMet range (mappings.slot index) =
    mappings.activeRecords + piecesLeft range (mappings.slot index))
  (hidx : index ∉ indices) : mappings'.HasSpare range indices := by
  rw [HasSpare, hoth.map_eq (fun _ hmeet => if_neg hmeet) hidx,
    hoth.map_eq (fun _ hmeet => if_neg hmeet) hidx]
  rw [HasSpare, List.map_cons, List.map_cons, List.sum_cons, List.sum_cons] at h
  omega

lemma Trimmed.stripped {overlap : UserMappingRange} (hslot : mappings.slot index = some record)
  (hst : overlap.start.asU64 = max record.start.asU64 range.start.asU64)
  (hend : overlap.endExclusive.asU64 = min record.stop range.endExclusive.asU64)
  (h : mappings.Trimmed overlap.start.asU64 overlap.endExclusive.asU64 mappings') :
  mappings.Stripped range [index] mappings' := by
  refine ⟨h.lawful, fun {page source} => ?_, h.nextStart_eq⟩
  rw [h.holds_iff, hst, hend]
  refine and_congr_right fun _ => not_congr ?_
  simp only [List.mem_singleton, exists_eq_left, hslot, Option.some.injEq, exists_eq_left',
    UserMappingRange.Covers, UserMapping.Covers]
  omega

lemma stripped_of_skip (hlaw : mappings.Lawful)
  (hskip : ∀ record, mappings.slot index = some record → ¬ record.Meets range) :
  mappings.Stripped range [index] mappings := by
  refine ⟨hlaw, fun {page source} => ?_, rfl⟩
  refine (and_iff_left fun hpage => ?_).symm
  obtain ⟨⟨_, _⟩, j, hj, record, hslot, _, _⟩ := hpage
  rw [List.mem_singleton.1 hj] at hslot
  exact hskip record hslot ⟨by omega, by omega⟩

lemma Stripped.cons {mappings' mappings'' : UserMappings}
  (h : mappings.Stripped range [index] mappings')
  (hoth : mappings.Undisturbed range index mappings') (hidx : index ∉ indices)
  (h' : mappings'.Stripped range indices mappings'') :
  mappings.Stripped range (index :: indices) mappings'' := by
  refine ⟨h'.lawful, fun {page source} => ?_, h'.nextStart_eq.trans h.nextStart_eq⟩
  rw [h'.holds_iff, h.holds_iff, and_assoc]
  refine and_congr_right fun _ => ?_
  rw [← not_or, ← and_or_left]
  refine not_congr (and_congr_right fun hpage => ?_)
  simp only [List.mem_cons, List.not_mem_nil, or_false, exists_eq_or_imp, exists_eq_left]
  refine or_congr_right ⟨?_, ?_⟩
  · rintro ⟨j, hj, record, hslot, hcov⟩
    rcases hoth j fun heq => hidx (heq ▸ hj) with heq | ⟨-, _, hslot', hmeet⟩
    · exact ⟨j, hj, record, heq ▸ hslot, hcov⟩
    obtain rfl := Option.some.inj (hslot.symm.trans hslot')
    obtain ⟨_, _⟩ := hpage
    obtain ⟨_, _⟩ := hcov
    exact absurd ⟨by omega, by omega⟩ hmeet
  rintro ⟨j, hj, record, hslot, hcov⟩
  rcases hoth j fun heq => hidx (heq ▸ hj) with heq | ⟨hnone, -⟩
  · exact ⟨j, hj, record, heq.trans hslot, hcov⟩
  · cases hnone.symm.trans hslot

variable (mapper space memory) in
lemma replaceRecord_overlap (hlaw : mappings.Lawful) (hslot : mappings.slot index = some record)
    (hmeet : record.Meets range)
    (hspare : record.start.asU64 < range.start.asU64 →
      range.endExclusive.asU64 < record.stop →
      mappings.activeRecords < maxUserMappings) (replacedPages : ℕ) :
    ∃ (overlap : UserMappingRange) (mappings' : UserMappings) (replacedPages' : ℕ),
      overlap.start.asU64 = max record.start.asU64 range.start.asU64 ∧
      overlap.endExclusive.asU64 = min record.stop range.endExclusive.asU64 ∧
      overlap.pages = sharedPages range (some record) ∧
      replaceRecord mapper space range (mappings, memory, replacedPages) index =
        (unmapPages mapper space memory overlap.start overlap.pageCount >>=
           fun memory' => .ok (mappings', memory', replacedPages')) ∧
      mappings.Trimmed overlap.start.asU64 overlap.endExclusive.asU64 mappings' ∧
      mappings.Undisturbed range index mappings' ∧
      mappings'.activeRecords + slotsMet range (mappings.slot index) =
        mappings.activeRecords + piecesLeft range (mappings.slot index) := by
  obtain ⟨overlap, _, hst, hend, hpages, hsplit, hcall⟩ := replaceRecord_meets mapper space
    memory hlaw hslot hmeet hspare replacedPages
  obtain ⟨hmeet1, hmeet2⟩ := hmeet
  obtain ⟨mappings', hrecs, htrim, hslots, hact⟩ := applyRecordUnmap_ok hlaw hslot
    overlap.start.asU64_mod (by omega) overlap.start_lt_end (by omega) hsplit
  clear hsplit
  refine ⟨overlap, mappings', _, hst, hend, hpages, by rw [hcall, hrecs]; rfl, htrim,
    fun j hj => ?_, ?_⟩
  · rcases hslots j hj with hsame | ⟨hnone, _, r, hr, _⟩
    · exact .inl hsame
    · refine .inr ⟨hnone, r, hr, ?_⟩
      rintro ⟨-, _⟩
      omega
  have hl : record.start.asU64 < overlap.start.asU64 ↔
    record.start.asU64 < range.start.asU64 := by omega
  have hr : overlap.endExclusive.asU64 < record.stop ↔
    range.endExclusive.asU64 < record.stop := by omega
  rw [hslot, slotsMet, piecesLeft, if_pos ⟨hmeet1, hmeet2⟩, if_pos ⟨hmeet1, hmeet2⟩,
    hact, decide_eq_decide.2 hl, decide_eq_decide.2 hr, Nat.add_assoc]

lemma active_of_skip (hskip : ∀ record, mappings.slot index = some record → ¬ record.Meets range) :
  mappings.activeRecords + slotsMet range (mappings.slot index) =
    mappings.activeRecords + piecesLeft range (mappings.slot index) := by
  cases hslot : mappings.slot index with
  | none => rfl
  | some record =>
    rw [slotsMet, piecesLeft, if_neg (hskip record hslot), if_neg (hskip record hslot)]

section Loop
variable {s : PageState} (hmap : mapper.Walks) (h : memory.Realizes s)
  (hroot : s.place space.level4Frame.asAddress = some (space.level4Frame.asAddress, []))
  (hback : mappings.Backed s space.level4Frame.asAddress)

/-- What one turn of the replacement has done when it returns. -/
structure Turned (space : UserAddressSpace) (range : UserMappingRange) (index : ℕ)
    (mappings : UserMappings) (memory : Memory) (s : PageState) (mappings' : UserMappings)
    (memory' : Memory) (s' : PageState) : Prop where
  cleared : Cleared s space.level4Frame.asAddress (sharedPages range (mappings.slot index)) s'
  realizes : memory'.Realizes s'
  memory_eq :
    memory' = { memory with tables := memory'.tables, allocator := memory'.allocator }
  backed : mappings'.Backed s' space.level4Frame.asAddress
  stripped : mappings.Stripped range [index] mappings'
  undisturbed : mappings.Undisturbed range index mappings'
  active_eq : mappings'.activeRecords + slotsMet range (mappings.slot index) =
    mappings.activeRecords + piecesLeft range (mappings.slot index)

include hmap h hroot hback in
lemma replaceRecord_spec
    (hspare : ∀ record,
        mappings.slot index = some record →
        record.start.asU64 < range.start.asU64 →
        range.endExclusive.asU64 < record.stop →
        mappings.activeRecords < maxUserMappings) (replacedPages : ℕ) :
    (¬ s.labels.CanFree (s.tables.framesOf space.root (sharedPages range (mappings.slot index))) ∧
     replaceRecord mapper space range (mappings, memory, replacedPages) index =
       .error capacityExhausted) ∨
    s.labels.CanFree (s.tables.framesOf space.root (sharedPages range (mappings.slot index))) ∧
    ∃ mappings' s' memory' replacedPages',
      replaceRecord mapper space range (mappings, memory, replacedPages) index =
        .ok (mappings', memory', replacedPages') ∧
      Turned space range index mappings memory s mappings' memory' s' := by
  have hlaw := hback.lawful
  by_cases hskip : ∀ record, mappings.slot index = some record → ¬ record.Meets range
  · have hnone : sharedPages range (mappings.slot index) = [] := by
      cases hslot : mappings.slot index with
      | none => rfl
      | some record => exact sharedPages_of_not_meets (hskip record hslot)
    refine .inr ⟨by rw [hnone]; exact .nil, mappings, s, memory, replacedPages,
      replaceRecord_skip hlaw hskip _, ?_, h, rfl, hback, stripped_of_skip hlaw hskip,
      fun j _ => .inl rfl, active_of_skip hskip⟩
    rw [hnone]
    exact .refl h.housed _
  simp only [not_forall, not_not, exists_prop] at hskip
  obtain ⟨record, hslot, hmeet⟩ := hskip
  obtain ⟨overlap, mappings', _, hst, hend, hpages, hcall, htrim, hoth,
    hact⟩ := replaceRecord_overlap mapper space memory hlaw hslot hmeet
      (hspare record hslot) replacedPages
  obtain ⟨_, _⟩ := hmeet
  have hcov : ∀ page, overlap.Covers page → record.Covers page := fun page hpage => by
    obtain ⟨_, _⟩ := hpage
    exact ⟨by omega, by omega⟩
  have hholds : ∀ page, overlap.Covers page → ∃ source, mappings.Holds page source :=
    fun page hpage => ⟨_, index, record, hslot, hcov page hpage, rfl⟩
  rw [hslot, ← hpages, hcall]
  rcases unmapPages_spec hmap h hroot hback hholds with
    ⟨hfree, herr⟩ | ⟨hfree, s', memory', hok, hclear, h', heq⟩
  · exact .inl ⟨hfree, by rw [herr]; rfl⟩
  · refine .inr ⟨hfree, mappings', s', memory', _, by rw [hok, ok_bind], ?_⟩
    exact ⟨by rw [hslot, ← hpages]; exact hclear, h', heq, hback.trim htrim hclear,
      htrim.stripped hslot hst hend, hoth, hact⟩

include hmap h hroot hback in
lemma foldlM_replaceRecord {indices : List ℕ} (hnodup : indices.Nodup)
  (hspare : mappings.HasSpare range indices) (replaced : ℕ) :
  (¬ s.labels.CanFree (s.tables.framesOf space.root (mappings.replacedPages range indices)) ∧
      indices.foldlM (replaceRecord mapper space range) (mappings, memory, replaced) =
      .error capacityExhausted) ∨
  s.labels.CanFree (s.tables.framesOf space.root (mappings.replacedPages range indices)) ∧
      ∃ mappings' s' memory' replaced', indices.foldlM (replaceRecord mapper space range)
      (mappings, memory, replaced) = .ok (mappings', memory', replaced') ∧
      Cleared s space.root (mappings.replacedPages range indices) s' ∧
      memory'.Realizes s' ∧ memory.OnlyMapped memory' ∧ mappings'.Backed s' space.root ∧
      mappings.Stripped range indices mappings' ∧ mappings'.activeRecords < maxUserMappings := by
  induction indices generalizing mappings memory s replaced with
  | nil =>
    refine .inr ⟨.nil, mappings, s, memory, replaced, rfl, .refl h.housed _, h, rfl, hback,
      ⟨hback.lawful, by simp, rfl⟩, ?_⟩
    simpa [HasSpare] using hspare
  | cons index indices ih =>
    obtain ⟨hidx, hnodup⟩ := List.nodup_cons.1 hnodup
    have hpages : mappings.replacedPages range (index :: indices) =
      sharedPages range (mappings.slot index) ++ mappings.replacedPages range indices := rfl
    rw [hpages, Cleared.framesOf_append, FrameMap.canFree_append, List.foldlM_cons]
    rcases replaceRecord_spec hmap h hroot hback
      (fun record => hspare.active_lt hback.lawful hidx) replaced with
      ⟨hfree, herr⟩ | ⟨hfree, mappings1, s1, memory1, replaced1, hok, hturn⟩
    · exact .inl ⟨fun hboth => hfree hboth.1, by rw [herr]; rfl⟩
    have hrest := hturn.undisturbed.replacedPages_eq hidx
    have hspare1 := hspare.tail hturn.undisturbed hturn.active_eq hidx
    have hroot1 := (hturn.cleared.table_iff (by simp)).2 hroot
    have hwin : ∀ page ∈ mappings.replacedPages range indices, InWindow page.asU64 :=
      fun page hpage => range.inWindow (range.mem_pages.2 (mem_replacedPages.1 hpage).1)
    have hdisj := hback.lawful.disjoint_replacedPages range hidx
    have hloop := ih hturn.realizes hroot1 hturn.backed hnodup hspare1 replaced1
    rw [hrest, hturn.cleared.framesOf_eq hroot hwin hdisj, hturn.cleared.labels_eq]
      at hloop
    rw [hok, ok_bind]
    rcases hloop with ⟨hfree', herr⟩ | ⟨hfree', mappings', s', memory', replaced', hok',
      hclear, h', heq, hback', hstrip, hlt⟩
    · exact .inl ⟨fun hboth => hfree' hboth.2, herr⟩
    · exact .inr ⟨⟨hfree, hfree'⟩, mappings', s', memory', replaced', hok',
        hturn.cleared.append hclear hroot hwin hdisj, h', by rw [heq, hturn.memory_eq],
        hback', hturn.stripped.cons hturn.undisturbed hidx hstrip, hlt⟩

lemma Stripped.trimmed (h : mappings.Stripped range (List.range maxUserMappings) mappings') :
  mappings.Trimmed range.start.asU64 range.endExclusive.asU64 mappings' := by
  refine ⟨h.lawful, fun {page source} => ?_, h.nextStart_eq⟩
  rw [h.holds_iff]
  refine and_congr_right fun hholds => not_congr (and_iff_left ?_)
  obtain ⟨index, record, hslot, hcov, -⟩ := hholds
  exact ⟨index, List.mem_range.2 (lt_of_slot hslot), record, hslot, hcov⟩

include hmap h hroot hback in
/-- **`replace_overlapping_pages`.**  After the preflight check the range leaves the records and the
tables. -/
lemma replaceOverlappingPages_spec (hspare : mappings.HasSpare range (List.range maxUserMappings)) :
    (¬ s.labels.CanFree
         (s.tables.framesOf space.root
            (mappings.replacedPages range (List.range maxUserMappings))) ∧
     mappings.replaceOverlappingPages mapper space memory range = .error capacityExhausted) ∨
    s.labels.CanFree
      (s.tables.framesOf space.root (mappings.replacedPages range (List.range maxUserMappings))) ∧
    ∃ mappings' s' memory' replaced,
      mappings.replaceOverlappingPages mapper space memory range =
        .ok (mappings', memory', replaced) ∧
      Cleared s space.root (mappings.replacedPages range (List.range maxUserMappings)) s' ∧
      memory'.Realizes s' ∧
      memory.OnlyMapped memory' ∧
      mappings'.Backed s' space.root ∧
      mappings.Trimmed range.start.asU64 range.endExclusive.asU64 mappings' ∧
      mappings'.activeRecords < maxUserMappings := by
  rcases foldlM_replaceRecord hmap h hroot hback List.nodup_range hspare 0 with
    herr | ⟨hfree, mappings', s', memory', replaced, hok, hclear, h', heq, hback', hstrip, hlt⟩
  · exact .inl herr
  · exact .inr ⟨hfree, mappings', s', memory', replaced, hok, hclear, h', heq, hback',
      hstrip.trimmed, hlt⟩

end Loop
end Replace
end UserMappings
end ManaOS
