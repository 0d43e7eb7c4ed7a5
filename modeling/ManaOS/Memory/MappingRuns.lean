/-
Private mappings over whole runs of `map_private` and `unmap_range`.

* `private_mappings_follow_records` (**runs**): the mapped pages are those of the records.
-/
import ManaOS.Memory.MappingCalls

namespace ManaOS
open Checked UserMappings
namespace UserMappings

/-- The records are backed, and every mapped page of the region belongs to one. -/
structure Tracks (mappings : UserMappings) (s : PageState) (root : ℕ) : Prop
    extends mappings.Backed s root where
  held : ∀ page : UserPageStart, userMappingBase ≤ page.asU64 → page.asU64 < userMappingEnd →
    s.tables.leaf root page.asU64 ≠ none → ∃ source, mappings.Holds page.asU64 source

section Steps
variable {mappings mappings' : UserMappings} {plan : UserMappingPlan} {range : UserMappingRange}

lemma Tracks.cleared (h : mappings.Tracks s root) (hroot : s.IsRoot root)
  (hback : mappings'.Backed s' root)
  (htrim : mappings.Trimmed range.start.asU64 range.endExclusive.asU64 mappings')
  (hclear : Cleared s root pages s') (hpages : ∀ page : UserPageStart, range.Covers page.asU64 →
    ∀ source, mappings.Holds page.asU64 source → page ∈ pages) : mappings'.Tracks s' root := by
  refine ⟨hback, fun page hbase hend hleaf => ?_⟩
  rw [hclear.leaf_eq hroot (UserMappingRange.inWindow_of_region hbase)] at hleaf
  split_ifs at hleaf with hmem
  · exact absurd rfl hleaf
  · obtain ⟨source, hholds⟩ := h.held page hbase hend hleaf
    exact ⟨source, htrim.holds_iff.2 ⟨hholds, fun hcov =>
      hmem ⟨rfl, hpages page hcov source hholds⟩⟩⟩

lemma Emptied.tracks (h : mappings.Tracks s root) (hroot : s.IsRoot root)
  (hempt : Emptied mappings memory s root range mappings' memory' s' index) :
  mappings'.Tracks s' root := by
  refine h.cleared hroot hempt.backed hempt.trimmed hempt.cleared
    fun page hcov source hholds => ?_
  obtain ⟨i, record, hslot, hrec, -⟩ := hholds
  exact mem_replacedPages.2 ⟨hcov, i, List.mem_range.2 (lt_of_slot hslot), record, hslot, hrec⟩

lemma Tracks.restored (h : mappings.Tracks s root) (hroot : s.IsRoot root)
  (hrest : Restored s .userMapping s') : mappings.Tracks s' root := by
  refine ⟨⟨h.lawful, fun {page source} hholds => ?_⟩, fun page hbase hend hleaf => ?_⟩
  · obtain ⟨entry, hleaf, hlab⟩ := h.owned hholds
    have hwin := UserMappingRange.inWindow_of_region (hholds.base_le h.lawful)
    exact ⟨entry, by rw [hrest.leaf_eq hroot hwin, hleaf], (hrest.labels_iff _).2 hlab⟩
  · rw [hrest.leaf_eq hroot (UserMappingRange.inWindow_of_region hbase)] at hleaf
    exact h.held page hbase hend hleaf

lemma slot_recorded : (mappings.recorded index plan range).slot j =
  (mappings.setRecord index (some ⟨range.start, plan.length.pageCount, plan.source⟩)).slot j := by
  rw [recorded]
  cases plan.placement <;> rfl

variable {index : ℕ} (hidx : mappings.nextEmptyRecordIndex = some index)
  (hcount : range.pageCount = plan.length.pageCount)
include hcount in
lemma stop_recorded : (⟨range.start, plan.length.pageCount, plan.source⟩ : UserMapping).stop =
  range.endExclusive.asU64 := by
  rw [range.end_eq, hcount]
  rfl

include hidx hcount in
lemma holds_recorded : (mappings.recorded index plan range).Holds page source ↔
  range.Covers page ∧ plan.source = source ∨ mappings.Holds page source := by
  obtain ⟨hlt, hslot⟩ := nextEmptyRecordIndex_eq_some hidx
  have hcov : (⟨range.start, plan.length.pageCount, plan.source⟩ : UserMapping).Covers page ↔
    range.Covers page := by
    rw [UserMapping.Covers, stop_recorded hcount]
    rfl
  simp only [Holds, slot_recorded]
  rw [← hcov]
  exact holds_fill hlt hslot

include hidx hcount in
lemma lawful_recorded (hlaw : mappings.Lawful)
  (hout : ∀ page source, mappings.Holds page source → ¬ range.Covers page) :
  (mappings.recorded index plan range).Lawful := by
  obtain ⟨hlt, _⟩ := nextEmptyRecordIndex_eq_some hidx
  have hset : (mappings.setRecord index
    (some ⟨range.start, plan.length.pageCount, plan.source⟩)).Lawful := by
    refine hlaw.setRecord hlt (fun r hr => ?_) fun r j r' hr hj hr' => ?_
    · cases hr
      exact ⟨range.base_le, by rw [stop_recorded hcount]; exact range.le_end⟩
    cases hr
    rw [stop_recorded hcount]
    -- otherwise the later of the two starts is a page of both
    by_contra hmeet
    have hrg := range.start_lt_end
    have hrec := r'.start_lt_stop
    refine hout (max range.start.asU64 r'.start.asU64) r'.source
      ⟨j, r', hr', ⟨Nat.le_max_right _ _, ?_⟩, rfl⟩ ⟨Nat.le_max_left _ _, ?_⟩ <;>
    · dsimp only at hmeet
      omega
  refine ⟨fun {j r} hr => ?_, fun {j r} hr => ?_, fun {i j r r'} hne hr hr' => ?_⟩
  · exact hset.base_le (slot_recorded ▸ hr)
  · exact hset.le_end (slot_recorded ▸ hr)
  · exact hset.apart hne (slot_recorded ▸ hr) (slot_recorded ▸ hr')

include hidx hcount in
lemma Tracks.filled (h : mappings.Tracks s root) (hs : s.Housed) (hroot : s.IsRoot root)
  (hout : ∀ page source, mappings.Holds page source → ¬ range.Covers page)
  (hfill : Filling s root .userMapping range.pages frames s') :
  (mappings.recorded index plan range).Tracks s' root := by
  refine ⟨⟨lawful_recorded hidx hcount h.lawful hout, fun {page source} hholds => ?_⟩,
    fun page hbase hend hleaf => ?_⟩
  · rcases (holds_recorded hidx hcount).1 hholds with ⟨hcov, -⟩ | hholds
    · exact hfill.owned page (range.mem_pages.2 hcov)
    · exact hfill.owned_of_owned hs hroot
        (UserMappingRange.inWindow_of_region (hholds.base_le h.lawful)) (h.owned hholds)
  by_cases hpage : page ∈ range.pages
  · exact ⟨_, (holds_recorded hidx hcount).2 (.inl ⟨range.mem_pages.1 hpage, rfl⟩)⟩
  rw [hfill.leaf_eq hroot (UserMappingRange.inWindow_of_region hbase)
    fun hmem => hpage hmem.2] at hleaf
  obtain ⟨source, hholds⟩ := h.held page hbase hend hleaf
  exact ⟨source, (holds_recorded hidx hcount).2 (.inr hholds)⟩

end Steps

/-! ### Calls -/

lemma fixedStartAddress_ok (h : fixedStartAddress fixed byteLen = .ok start) : fixed = start := by
  rw [fixedStartAddress] at h
  split at h
  · cases h
  · split_ifs at h
    cases h
    rfl

section Calls
variable {mapper : PageMapper} {space : UserAddressSpace} {mappings mappings' : UserMappings}
  {memory memory' : Memory} {s : PageState} (hmapper : mapper.Walks) (h : memory.Realizes s)
  (hroot : s.place space.level4Frame.asAddress = some (space.level4Frame.asAddress, []))
  (htracks : mappings.Tracks s space.level4Frame.asAddress)
include hmapper h hroot htracks in
lemma Tracks.mapPrivate {plan : UserMappingPlan} {σ : Type} {initializePage : PageInitializer σ}
  {captured captured' : σ} {result : Except UserMappingError UserMappingAllocation}
  (hok : mappings.mapPrivate mapper space memory plan initializePage captured =
    .ok (result, mappings', memory', captured')) :
  ∃ s', memory'.Realizes s' ∧ s'.IsRoot space.root ∧ mappings'.Tracks s' space.root := by
  rcases mapPrivate_ok hmapper h hroot htracks.toBacked hok with ⟨_, -, -, rfl, rfl⟩ |
    ⟨_, s', hadm, -, _, _, _, _, _, hempt, -, -, hend, hconcluded⟩
  · exact ⟨s, h, hroot, htracks⟩
  have htracks1 := hempt.tracks htracks hroot
  have hroot1 := (hempt.cleared.table_iff (by simp)).2 hroot
  refine ⟨s', hend.realizes, hend.table_kept (by simp) hroot1, ?_⟩
  rcases hconcluded with ⟨error, rfl, -, rfl⟩ | ⟨rfl, -, rfl⟩
  · exact htracks1.restored hroot1 (hend.restored error rfl)
  obtain ⟨_, hfill⟩ := hend.filled rfl
  exact htracks1.filled hempt.next_eq (pageCount_of_admitted hadm)
    hempt.realizes.housed hroot1
    (fun page source hholds => (hempt.trimmed.holds_iff.1 hholds).2) hfill

include hmapper h hroot htracks in
lemma Tracks.unmapRange
    (hok : mappings.unmapRange mapper space memory request = .ok (result, mappings', memory')) :
    ∃ s', memory'.Realizes s' ∧ s'.IsRoot space.root ∧ mappings'.Tracks s' space.root := by
  rcases unmapRange_spec hmapper h hroot htracks.toBacked request with
    href | ⟨range, -, ⟨-, herr⟩ | ⟨-, mappings1, s1, memory1, hok1, htrim, hclear, h1, -⟩⟩
  · rw [href] at hok
    cases hok
    exact ⟨s, h, hroot, htracks⟩
  · rw [herr] at hok
    cases hok
  rw [hok1] at hok
  cases hok
  exact ⟨s1, h1, (hclear.table_iff (by simp)).2 hroot,
    htracks.cleared hroot (htracks.toBacked.trim htrim hclear) htrim hclear
      fun page hcov _ _ => range.mem_pages.2 hcov⟩

/-- The page lies in the requested range. -/
def Requested (start : UserPageStart) (count : PageCount) (page : ℕ) : Prop :=
  start.asU64 ≤ page ∧ page < start.asU64 + count.byteLen

lemma requested_iff (hrg : UserMappingRange.new start count = some range) :
  Requested start count page ↔ range.Covers page := by
  obtain ⟨rfl, rfl⟩ := UserMappingRange.new_eq_some.1 hrg
  rw [UserMappingRange.Covers, range.end_eq]
  rfl

/-- Pages are unmapped, the others keep their frame, their contents and their source. -/
structure Removes (requested : ℕ → Prop) (root : ℕ) (mappings : UserMappings) (memory : Memory)
    (mappings' : UserMappings) (memory' : Memory) : Prop where
  unmapped : ∀ page : UserPageStart, requested page.asU64 →
    memory'.tables.leaf root page.asU64 = none
  keepsPage : ∀ page : UserPageStart, InWindow page.asU64 → ¬ requested page.asU64 →
    memory.KeepsPage memory' root page.asU64
  holds_iff : ∀ page source, mappings'.Holds page source ↔
    mappings.Holds page source ∧ ¬ requested page

include hmapper h hroot htracks in
lemma Tracks.unmapRange_removes
    (hok : mappings.unmapRange mapper space memory request = .ok (some count, mappings', memory')) :
    Removes (Requested request.start request.length.pageCount) space.root mappings memory mappings'
      memory' := by
  rcases unmapRange_spec hmapper h hroot htracks.toBacked request with
    href | ⟨range, hrg, ⟨-, herr⟩ | ⟨-, mappings1, s1, memory1, hok1, htrim, hclear, h1, heq⟩⟩
  · rw [href] at hok
    cases hok
  · rw [herr] at hok
    cases hok
  rw [hok1] at hok
  cases hok
  have hleaf : ∀ page : UserPageStart, InWindow page.asU64 →
    memory'.tables.leaf space.root page.asU64 = if page ∈ range.pages then none
      else s.tables.leaf space.root page.asU64 := fun page hpage => by
    rw [h1.tables_eq, hclear.leaf_eq hroot hpage]
    simp only [true_and]
  refine ⟨fun page hpage => ?_, fun page hwin hpage => ?_, fun page source => ?_⟩
  · have hmem := range.mem_pages.2 ((requested_iff hrg).1 hpage)
    rw [hleaf page (range.inWindow hmem), if_pos hmem]
  · rw [requested_iff hrg, ← range.mem_pages] at hpage
    have hkept : memory.tables.leaf space.root page.asU64 =
      s.tables.leaf space.root page.asU64 := by rw [h.tables_eq]
    refine ⟨by rw [hleaf page hwin, if_neg hpage, hkept], fun entry offset _ _ => ?_⟩
    rw [heq]
  · rw [htrim.holds_iff, requested_iff hrg]
    rfl

include hmapper h hroot htracks in
lemma Tracks.replace_keeps {plan : UserMappingPlan} {σ : Type}
    {initializePage : PageInitializer σ} {captured captured' : σ}
    {allocation : UserMappingAllocation} {fixed : UserPageStart}
    (hplc : plan.placement = .fixedReplace fixed) (hlen : initializePage.KeepsLength)
    (hok : mappings.mapPrivate mapper space memory plan initializePage captured =
        .ok (.ok allocation, mappings', memory', captured')) :
    (∀ page : UserPageStart,
      InWindow page.asU64 →
      ¬ Requested fixed plan.length.pageCount page.asU64 →
      memory.KeepsPage memory' space.root page.asU64) ∧
    ∀ page source,
      ¬ Requested fixed plan.length.pageCount page →
      (mappings'.Holds page source ↔ mappings.Holds page source) := by
  rcases mapPrivate_ok hmapper h hroot htracks.toBacked hok with ⟨_, -, hcon, -⟩ |
    ⟨range, _, hadm, -, _, _, _, s1, _, hempt, -, hbytes, hend, ⟨_, -, hcon, -⟩ | ⟨rfl, -, rfl⟩⟩
  · cases hcon
  · cases hcon
  obtain ⟨_, hst, hrg, -⟩ := admitted_eq_ok hadm
  rw [hplc] at hst
  obtain rfl := fixedStartAddress_ok hst
  have hroot1 := (hempt.cleared.table_iff (by simp)).2 hroot
  obtain ⟨_, hfill⟩ := hend.filled rfl
  refine ⟨fun page hwin hpage => ?_, fun page source hpage => ?_⟩
  · rw [requested_iff hrg] at hpage
    have hleaf1 : s1.tables.leaf space.root page.asU64 =
      memory.tables.leaf space.root page.asU64 := by
      rw [hempt.cleared.leaf_eq hroot hwin, if_neg, h.tables_eq]
      exact fun hmem => hpage (mem_replacedPages.1 hmem.2).1
    have hleaf' : memory'.tables.leaf space.root page.asU64 =
      s1.tables.leaf space.root page.asU64 := by
      rw [hend.realizes.tables_eq, hfill.leaf_eq hroot1 hwin
        fun hmem => hpage (range.mem_pages.1 hmem.2)]
    obtain ⟨-, hkept⟩ := (hbytes hlen).keepsPage hempt.realizes.housed hroot1 hwin
      (by rw [hempt.realizes.tables_eq]) hleaf'
    refine ⟨hleaf'.trans hleaf1, fun entry offset hent hoff => ?_⟩
    rw [hkept entry offset (by rw [hempt.realizes.tables_eq, hleaf1, hent]) hoff, hempt.memory_eq]
  · rw [requested_iff hrg] at hpage
    rw [holds_recorded hempt.next_eq (pageCount_of_admitted hadm), hempt.trimmed.holds_iff]
    simp only [hpage, false_and, false_or]
    exact and_iff_left hpage

end Calls
end UserMappings

/-! ### Runs -/

/-- Sequences of calls on one table of mappings, from a fresh one. -/
inductive MappingRun (mapper : PageMapper) (space : UserAddressSpace) (start : Memory) :
    UserMappings → Memory → Prop
  | fresh : MappingRun mapper space start .new start
  | mapped {mappings mappings' : UserMappings} {memory memory' : Memory} {plan : UserMappingPlan}
      {σ : Type} {initializePage : PageInitializer σ} {captured captured' : σ}
      {result : Except UserMappingError UserMappingAllocation}
      (hrun : MappingRun mapper space start mappings memory)
      (hok : mappings.mapPrivate mapper space memory plan initializePage captured =
        .ok (result, mappings', memory', captured')) :
      MappingRun mapper space start mappings' memory'
  | unmapped {mappings mappings' : UserMappings} {memory memory' : Memory}
      {request : UserMappingUnmapRequest} {result : Option PageCount}
      (hrun : MappingRun mapper space start mappings memory)
      (hok : mappings.unmapRange mapper space memory request = .ok (result, mappings', memory')) :
      MappingRun mapper space start mappings' memory'

lemma MappingRun.tracks {mapper : PageMapper} {space : UserAddressSpace} {start memory : Memory}
  {mappings : UserMappings} {s0 : PageState} (hmapper : mapper.Walks) (h : start.Realizes s0)
  (hroot : s0.IsRoot space.root)
  (hempty : ∀ page : UserPageStart, userMappingBase ≤ page.asU64 → page.asU64 < userMappingEnd →
    s0.tables.leaf space.root page.asU64 = none)
  (hrun : MappingRun mapper space start mappings memory) :
  ∃ s, memory.Realizes s ∧ s.IsRoot space.root ∧ mappings.Tracks s space.root := by
  induction hrun with
  | fresh =>
    exact ⟨s0, h, hroot, backed_new s0 _,
      fun page hbase hend hleaf => absurd (hempty page hbase hend) hleaf⟩
  | mapped _ hok ih =>
    obtain ⟨s, h, hroot, htracks⟩ := ih
    exact htracks.mapPrivate hmapper h hroot hok
  | unmapped _ hok ih =>
    obtain ⟨s, h, hroot, htracks⟩ := ih
    exact htracks.unmapRange hmapper h hroot hok

open UserMappings in
/-- **Records and pages.**  After every sequence of calls the records are pairwise disjoint page
ranges of the mapping region, and a page of the region is mapped exactly when a record covers it.
A successful `unmap_range` takes out the requested pages and no others, a refused one changes
nothing, and a successful fixed replacement leaves the pages outside its range as they were. -/
theorem private_mappings_follow_records {mapper : PageMapper} {space : UserAddressSpace}
    {start memory : Memory} {mappings : UserMappings} {s₀ : PageState} (hmapper : mapper.Walks)
    (h : start.Realizes s₀)
    (hroot : s₀.place space.level4Frame.asAddress = some (space.level4Frame.asAddress, []))
    (hempty : ∀ page : UserPageStart,
        userMappingBase ≤ page.asU64 →
        page.asU64 < userMappingEnd →
        s₀.tables.leaf space.level4Frame.asAddress page.asU64 = none)
    (hrun : MappingRun mapper space start mappings memory) :
    (∀ index record,
      mappings.slot index = some record →
      record.start.asU64 % pageSize = 0 ∧
      record.stop % pageSize = 0 ∧
      userMappingBase ≤ record.start.asU64 ∧
      record.stop ≤ userMappingEnd) ∧
    (∀ i j record record',
      i ≠ j →
      mappings.slot i = some record →
      mappings.slot j = some record' →
      ∀ page, ¬ (record.Covers page ∧ record'.Covers page)) ∧
    (∀ page : UserPageStart,
      userMappingBase ≤ page.asU64 →
      page.asU64 < userMappingEnd →
      ((memory.tables.leaf space.level4Frame.asAddress page.asU64).isSome ↔
         ∃ index record, mappings.slot index = some record ∧ record.Covers page.asU64)) ∧
    (∀ request result mappings' memory',
      mappings.unmapRange mapper space memory request = .ok (result, mappings', memory') →
      (result = none → mappings' = mappings ∧ memory' = memory) ∧
      (result ≠ none →
       Removes (Requested request.start request.length.pageCount) space.level4Frame.asAddress
         mappings memory mappings' memory')) ∧
    ∀ (plan : UserMappingPlan) (fixed : UserPageStart) (σ : Type)
      (initializePage : PageInitializer σ) (captured captured' : σ) allocation mappings' memory',
      plan.placement = .fixedReplace fixed →
      initializePage.KeepsLength →
      mappings.mapPrivate mapper space memory plan initializePage captured =
        .ok (.ok allocation, mappings', memory', captured') →
      (∀ page : UserPageStart,
        InWindow page.asU64 →
        ¬ Requested fixed plan.length.pageCount page.asU64 →
        memory.KeepsPage memory' space.level4Frame.asAddress page.asU64) ∧
      ∀ page source,
        ¬ Requested fixed plan.length.pageCount page →
        (mappings'.Holds page source ↔ mappings.Holds page source) := by
  obtain ⟨s, h, hroot, htracks⟩ := hrun.tracks hmapper h hroot hempty
  have hlawful := htracks.lawful
  refine ⟨fun index record hslot => ?_, fun i j record record' hne hi hj page hboth => ?_,
    fun page hbase hend => ?_, fun request result mappings' memory' hok => ⟨?_, ?_⟩,
    fun plan fixed σ initializePage captured captured' allocation mappings' memory' hplacement
      hlength hok => htracks.replace_keeps hmapper h hroot hplacement hlength hok⟩
  · have hstart := record.start.asU64_mod
    have hcount := record.pageCount.byteLen_mod
    refine ⟨hstart, ?_, hlawful.base_le hslot, hlawful.le_end hslot⟩
    rw [UserMapping.stop, Nat.add_mod, hstart, hcount]
    rfl
  · obtain ⟨⟨_, _⟩, _, _⟩ := hboth
    have hapart := hlawful.apart hne hi hj
    omega
  · rw [h.tables_eq, Option.isSome_iff_ne_none]
    constructor
    · intro hleaf
      obtain ⟨_, index, record, hslot, hcovers, -⟩ := htracks.held page hbase hend hleaf
      exact ⟨index, record, hslot, hcovers⟩
    rintro ⟨index, record, hslot, hcovers⟩
    obtain ⟨entry, hleaf, -⟩ := htracks.owned ⟨index, record, hslot, hcovers, rfl⟩
    rw [hleaf]
    exact Option.some_ne_none entry
  · rintro rfl
    rcases unmapRange_spec hmapper h hroot htracks.toBacked request with
      hrefused | ⟨range, -, ⟨-, herror⟩ | ⟨-, _, _, _, hok1, -⟩⟩
    · rw [hrefused] at hok
      cases hok
      exact ⟨rfl, rfl⟩
    · rw [herror] at hok
      cases hok
    · rw [hok1] at hok
      cases hok
  · intro hsome
    obtain ⟨_, rfl⟩ := Option.ne_none_iff_exists'.1 hsome
    exact htracks.unmapRange_removes hmapper h hroot hok

/-- The record of the first page mapped after boot. -/
def firstMapping : UserMapping := ⟨basePage, onePage, .anonymous⟩

set_option maxRecDepth 100000 in
lemma exists_firstMapping : ∃ space created s mappings memory,
  createUserAddressSpace bootMemory = .ok (space, created) ∧ created.Realizes s ∧
  s.IsRoot space.root ∧ (∀ page, InWindow page → s.tables.leaf space.root page = none) ∧
  MappingRun walkMapper space created mappings memory ∧ mappings.slot 0 = some firstMapping := by
  obtain ⟨space, created, s, hcr, h, hroot, hempty⟩ := exists_bootSpace
  have hrun : ((createUserAddressSpace bootMemory).bind fun p =>
    (new.mapPrivate walkMapper p.1 p.2 (onePagePlan .any)
      keepZero ()).map fun q => q.2.1.slot 0).toOption =
    some (some firstMapping) := by decide +kernel
  rw [hcr] at hrun
  cases hmap : new.mapPrivate walkMapper space created (onePagePlan .any)
      keepZero () with
  | error _ =>
    simp only [Except.bind, hmap] at hrun
    cases hrun
  | ok q =>
    obtain ⟨_, mappings, memory, _⟩ := q
    simp only [Except.bind, hmap] at hrun
    exact ⟨space, created, s, mappings, memory, hcr, h, hroot, hempty, .mapped .fresh hmap,
      Option.some.inj hrun⟩

/-- After boot the first mapping has its page. -/
theorem private_mappings_follow_records_boot : ∃ space created mappings memory,
  createUserAddressSpace bootMemory = .ok (space, created) ∧
  MappingRun walkMapper space created mappings memory ∧ mappings.slot 0 = some firstMapping ∧
  (memory.tables.leaf space.level4Frame.asAddress userMappingBase).isSome := by
  obtain ⟨space, created, s, mappings, memory, hcreate, h, hroot, hempty, hrun, hslot⟩ :=
    exists_firstMapping
  have hrecords := (private_mappings_follow_records walkMapper_walks h hroot
    (fun page hbase _ => hempty _ (UserMappingRange.inWindow_of_region hbase)) hrun).2.2.1
  exact ⟨space, created, mappings, memory, hcreate, hrun, hslot,
    (hrecords basePage (Nat.le_refl _) (by decide)).2
      ⟨0, firstMapping, hslot, Nat.le_refl _, by decide⟩⟩

end ManaOS
