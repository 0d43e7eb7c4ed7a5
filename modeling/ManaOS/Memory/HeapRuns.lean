/-
The heap over whole runs of `brk` calls, and the calls that do not return.

* `failed_growth_restores_iff`: when a failed growth leaves nothing behind;
* `heap_pages_follow_break` (**runs**): the pages follow the break;
* `map_private_and_process_break_return_iff`: when the two calls return.
-/
import ManaOS.Memory.HeapBreak
import ManaOS.Memory.MappingRuns

namespace ManaOS
open Checked UserMappings UserHeap UserPageStart Nat
namespace UserHeap

/-- The frames that the allocator has given to heaps. -/
def heapFrames (memory : Memory) : Set ℕ :=
  {f | memory.allocator.frameMap f = some (.used, .userHeap)}

section Growth
variable {count : ℕ} {mapper : PageMapper} {space : UserAddressSpace} {heap heap₁ : UserHeap}
  {memory memory' : Memory} {s : PageState} {request : UserHeapBreakRequest}
  {requested : UserVirtualAddress} {mappedEnd : UserPageStart}

lemma GrowEnd.heapFrames_eq (h : memory.Realizes s)
    (hend : GrowEnd s s space.root heap [] memory count grown heap₁ memory' s') :
    ∃ pages frames,
      Filling s space.root .userHeap pages frames s' ∧
      (∀ page : UserPageStart,
        page ∈ pages ↔ heap.mappedEnd.asU64 ≤ page.asU64 ∧ page.asU64 < heap₁.mappedEnd.asU64) ∧
      ∀ f,
        f ∈ heapFrames memory' ↔
          f ∈ heapFrames memory ∨ ∃ frame ∈ frames, frame.asAddress / pageSize = f := by
  obtain ⟨pages, frames, hfill, hpages⟩ := hend.filling
  refine ⟨pages, frames, hfill, hpages, fun f => ?_⟩
  rw [heapFrames, heapFrames, Set.mem_ofPred_eq, Set.mem_ofPred_eq,
    hend.realizes.represents.frameMap_eq, h.represents.frameMap_eq]
  exact hfill.labels_iff f

/-- **Failed growth.**  A growth that stops for want of a data frame leaves the mapped extent, the
heap frames and the break as they were exactly when no frame was free to begin with. -/
theorem failed_growth_restores_iff (hmapper : mapper.Walks) (h : memory.Realizes s)
    (hroot : s.place space.level4Frame.asAddress = some (space.level4Frame.asAddress, []))
    (hbacked : heap.Backed s space.level4Frame.asAddress)
    (haccepts : heap.Accepts request requested mappedEnd)
    (hle : heap.mappedEnd.asU64 ≤ mappedEnd.asU64)
    (hfails :
      mapNewPages mapper space ((mappedEnd.asU64 - heap.mappedEnd.asU64) / pageSize) heap memory =
        .ok (false, heap₁, memory')) :
    ∃ heap',
      heap.processBreak mapper space memory request = .ok (heap.currentBreak, heap', memory') ∧
      heap'.currentBreak = heap.currentBreak ∧
      ((heap'.mappedEnd = heap.mappedEnd ∧ heapFrames memory' = heapFrames memory) ↔
         ∀ f, ¬ memory.allocator.frameMap.IsFree f) := by
  obtain ⟨-, _, hend⟩ := mapNewPages_ok hmapper hroot
    (le_trans hbacked.program_le hbacked.base_le)
    (by rw [Accepts.grow_eq hle]; exact haccepts.mappedEnd_le) (by simp) h (.refl s _ _) hfails
  refine ⟨{ heap with mappedEnd := heap₁.mappedEnd }, ?_, rfl, ?_⟩
  · rw [processBreak_grow hmapper h hroot hbacked haccepts hle, hfails]
    rfl
  rw [h.represents.frameMap_eq, ← hend.stopped_iff rfl]
  refine and_iff_left_of_imp fun hsame => ?_
  obtain ⟨pages, frames, hfill, hpages, hframes⟩ := hend.heapFrames_eq h
  have hsame : heap₁.mappedEnd = heap.mappedEnd := hsame
  have hnone : pages = [] := by
    refine List.eq_nil_iff_forall_not_mem.2 fun page hpage => ?_
    obtain ⟨h1, h2⟩ := (hpages page).1 hpage
    rw [hsame] at h2
    exact absurd h2 (not_lt.2 h1)
  have hempty : frames = [] := by
    rw [← hfill.frames_eq, hnone]
    rfl
  refine Set.ext fun f => ?_
  rw [hframes, hempty]
  simp

end Growth

/-! ### Small machines -/

end UserHeap

/-- The machine after boot with a given number of frames. -/
def tinyMemory (frames : ℕ) : Memory :=
  { bootMemory with
    allocator := ⟨[⟨2 * pageSize, frames⟩], [⟨⟨2 * pageSize, frames⟩, .free, .free⟩]⟩ }

lemma tinyMemory_consistent : (tinyMemory 5).allocator.Consistent := by
  have hreached : Reached [.add (2 * pageSize) ⟨5, by decide, by decide⟩] []
    (tinyMemory 5).allocator := Reached.registered rfl
  exact hreached.consistent ⟨by decide, List.pairwise_singleton _ _⟩

namespace UserHeap

def programHeap : UserHeap := ⟨⟨userProgramBase, userProgramBase_ne_zero, userProgramBase_lt_end⟩,
  ⟨userProgramBase, userProgramBase_ne_zero, userProgramBase_lt_end⟩,
  ⟨⟨userProgramBase, userProgramBase_ne_zero, userProgramBase_lt_end⟩, userProgramBase_aligned⟩⟩

lemma growRequest_ne_zero (pages : Fin 8) : userProgramBase + pages * pageSize ≠ 0 := by
  rw [userProgramBase]
  omega

lemma growRequest_lt_end (pages : Fin 8) : userProgramBase + pages * pageSize < userSpaceEnd := by
  rw [userProgramBase, pageSize, userSpaceEnd]
  omega

/-- A request for some pages above the program base. -/
def growRequest (pages : Fin 8) : UserVirtualAddress :=
  ⟨userProgramBase + pages * pageSize, growRequest_ne_zero pages, growRequest_lt_end pages⟩

lemma two_lt_growable : 2 < 8 := by decide

/-- With five frames the first page takes all of them, its tables included. -/
def stoppedGrowth : Panicking (UserVirtualAddress × UserHeap × Memory) := do
  let (space, memory) ← createUserAddressSpace (tinyMemory 5)
  programHeap.processBreak walkMapper space memory (.set (growRequest ⟨2, two_lt_growable⟩))

set_option maxRecDepth 100000 in
/-- The failed growth has advanced the extent and kept a heap frame. -/
theorem stopped_growth_keeps_page :
    ∃ heap' memory',
      stoppedGrowth = .ok (programHeap.currentBreak, heap', memory') ∧
      heap'.mappedEnd ≠ programHeap.mappedEnd ∧
      memory'.allocator.frameMap 3 = some (.used, .userHeap) ∧
      (tinyMemory 5).allocator.frameMap 3 = some (.free, .free) := by
  have hrun : stoppedGrowth.toOption.map (fun p => (p.1, p.2.1.mappedEnd,
    p.2.2.allocator.frameMap 3)) = some (programHeap.currentBreak,
      ⟨⟨userProgramBase + pageSize, by decide, by decide⟩, by decide⟩,
      some (.used, .userHeap)) := by decide +kernel
  cases hcall : stoppedGrowth with
  | error _ =>
    rw [hcall] at hrun
    cases hrun
  | ok p =>
    obtain ⟨_, heap', memory'⟩ := p
    rw [hcall] at hrun
    obtain ⟨hresult, hrest⟩ := Prod.mk.inj (Option.some.inj hrun)
    obtain ⟨hend, hframe⟩ := Prod.mk.inj hrest
    refine ⟨heap', memory', by rw [← hresult], ?_, hframe, by decide⟩
    intro hsame
    rw [show heap'.mappedEnd = _ from hend] at hsame
    exact absurd hsame (by decide)

lemma programHeap_backed (s : PageState) (root : ℕ) : programHeap.Backed s root where
  program_le := le_refl _
  aligned := by decide
  base_le := le_refl _
  le_end := by decide
  owned _ hle hlt := absurd hlt (not_lt.2 hle)

lemma programHeap_accepts : programHeap.Accepts (.set (growRequest 2)) (growRequest 2)
  ⟨⟨userProgramBase + 2 * pageSize, by decide, by decide⟩, by decide⟩ :=
  ⟨rfl, by decide, by decide, by decide⟩

set_option maxRecDepth 100000 in
/-- The growth by two pages with five frames: a frame was free, so it is not restored. -/
theorem failed_growth_restores_tiny :
    ∃ space created heap₁ memory' heap',
      createUserAddressSpace (tinyMemory 5) = .ok (space, created) ∧
      mapNewPages walkMapper space 2 programHeap created = .ok (false, heap₁, memory') ∧
      programHeap.processBreak walkMapper space created (.set (growRequest 2)) =
        .ok (programHeap.currentBreak, heap', memory') ∧
      ¬ (heap'.mappedEnd = programHeap.mappedEnd ∧ heapFrames memory' = heapFrames created) := by
  obtain ⟨space, created, s, hcreate, h, hroot, -⟩ :=
    exists_createdSpace tinyMemory_consistent (by decide +kernel)
  have hrun : ((createUserAddressSpace (tinyMemory 5)).bind fun p =>
    (mapNewPages walkMapper p.1 2 programHeap p.2).map fun q =>
      (q.1, p.2.allocator.frameMap 3)).toOption = some (false, some (.free, .free)) := by
    decide +kernel
  rw [hcreate] at hrun
  cases hgrow : mapNewPages walkMapper space 2 programHeap created with
  | error _ =>
    simp only [Except.bind, hgrow] at hrun
    cases hrun
  | ok q =>
    obtain ⟨_, heap₁, memory'⟩ := q
    simp only [Except.bind, hgrow] at hrun
    obtain ⟨rfl, hfree⟩ := Prod.mk.inj (Option.some.inj hrun)
    obtain ⟨heap', hcall, -, hiff⟩ := failed_growth_restores_iff walkMapper_walks h hroot
      (programHeap_backed s _) programHeap_accepts (by decide) hgrow
    exact ⟨space, created, heap₁, memory', heap', hcreate, hgrow, hcall,
      fun hsame => hiff.1 hsame 3 ⟨_, hfree⟩⟩

/-! ### Runs -/

/-- The number of pages of the extent (`mapped_pages`). -/
def mappedPages (heap : UserHeap) : ℕ := (heap.mappedEnd.asU64 - heap.base.asU64) / pageSize

/-- The frame that is mapped at a page. -/
def frameOf (tables : PageTables) (root page : ℕ) : Option ℕ :=
  (tables.leaf root page).map fun entry => entry.address.asAddress / pageSize

/-- The mapped pages are those up to the break, and the heap frames beyond `others` are theirs. -/
structure Follows (heap : UserHeap) (s : PageState) (root : ℕ) (others : Set ℕ) : Prop
    extends heap.Backed s root where
  align_eq : heap.currentBreak.alignUpToPage = some heap.mappedEnd
  vacant : ∀ page : UserPageStart, heap.mappedEnd.asU64 ≤ page.asU64 → page.asU64 < userHeapEnd →
    s.tables.leaf root page.asU64 = none
  frames_iff : ∀ f, s.labels f = some (.used, .userHeap) ↔ f ∈ others ∨
    ∃ page : UserPageStart, heap.base.asU64 ≤ page.asU64 ∧ page.asU64 < heap.mappedEnd.asU64 ∧
      frameOf s.tables root page.asU64 = some f
  apart : ∀ page : UserPageStart, heap.base.asU64 ≤ page.asU64 →
    page.asU64 < heap.mappedEnd.asU64 → ∀ f ∈ others, frameOf s.tables root page.asU64 ≠ some f

section Steps
variable {mapper : PageMapper} {space : UserAddressSpace} {heap heap' : UserHeap}
  {memory memory' : Memory} {s s' : PageState} {root : ℕ} {others : Set ℕ}
  {request : UserHeapBreakRequest} {result : UserVirtualAddress}

lemma mem_framesOf {tables : PageTables} : (∃ frame ∈ tables.framesOf root pages,
  frame.asAddress / pageSize = f) ↔ ∃ page ∈ pages, frameOf tables root page.asU64 = some f := by
  simp only [PageTables.framesOf, List.mem_filterMap, frameOf, Option.map_eq_some_iff]
  constructor
  · rintro ⟨_, ⟨page, hpage, entry, hent, rfl⟩, rfl⟩
    exact ⟨page, hpage, entry, hent, rfl⟩
  · rintro ⟨page, hpage, entry, hent, rfl⟩
    exact ⟨entry.address, ⟨page, hpage, entry, hent, rfl⟩, rfl⟩

lemma Follows.grown (h : heap.Follows s root others) (hs : s.Housed)
  (hroot : s.IsRoot root) {mappedEnd : UserPageStart}
  {requested : UserVirtualAddress} (halign : requested.alignUpToPage = some mappedEnd)
  (hle : heap.mappedEnd.asU64 ≤ mappedEnd.asU64) (hend : mappedEnd.asU64 ≤ userHeapEnd)
  {pages : List UserPageStart} {frames : List PhysicalFrameStart}
  (hfill : Filling s root .userHeap pages frames s')
  (hpages : ∀ page : UserPageStart, page ∈ pages ↔
    heap.mappedEnd.asU64 ≤ page.asU64 ∧ page.asU64 < mappedEnd.asU64) :
  ({ heap with currentBreak := requested, mappedEnd } : UserHeap).Follows s' root others := by
  have hwin : ∀ page : UserPageStart, heap.base.asU64 ≤ page.asU64 → InWindow page.asU64 :=
    fun page hpage => inWindow_of_program_le (le_trans h.program_le hpage)
  have hold : ∀ page : UserPageStart, heap.base.asU64 ≤ page.asU64 → page ∉ pages →
    s'.tables.leaf root page.asU64 = s.tables.leaf root page.asU64 := fun page hpage hout =>
    hfill.leaf_eq hroot (hwin page hpage) fun hmem => hout hmem.2
  have hfrms : ∀ f, (∃ frame ∈ frames, frame.asAddress / pageSize = f) ↔
    ∃ page ∈ pages, frameOf s'.tables root page.asU64 = some f := fun f => by
    rw [← hfill.frames_eq, mem_framesOf]
  have hbase := h.base_le
  refine ⟨⟨h.program_le, h.aligned, le_trans h.base_le hle, hend, fun page h1 h2 => ?_⟩, halign,
    fun page h1 h2 => ?_, fun f => ?_, fun page h1 h2 f hf hfrm => ?_⟩
  · by_cases hpage : page ∈ pages
    · exact hfill.owned page hpage
    refine hfill.owned_of_owned hs hroot (hwin page h1) (h.owned page h1 ?_)
    rw [hpages] at hpage
    have h2 : page.asU64 < mappedEnd.asU64 := h2
    omega
  · have h1 : mappedEnd.asU64 ≤ page.asU64 := h1
    rw [hold page (by omega) fun hmem => absurd ((hpages page).1 hmem).2 (not_lt.2 h1)]
    exact h.vacant page (by omega) h2
  · rw [hfill.labels_iff, h.frames_iff, hfrms, or_assoc]
    refine or_congr_right ?_
    constructor
    · rintro (⟨page, h1, h2, hfrm⟩ | ⟨page, hpage, hfrm⟩)
      · refine ⟨page, h1, lt_of_lt_of_le h2 hle, ?_⟩
        rwa [frameOf, hold page h1 fun hmem => absurd h2 (not_lt.2 ((hpages page).1 hmem).1)]
      · obtain ⟨h1, h2⟩ := (hpages page).1 hpage
        exact ⟨page, le_trans hbase h1, h2, hfrm⟩
    rintro ⟨page, h1, h2, hfrm⟩
    by_cases hpage : page ∈ pages
    · exact .inr ⟨page, hpage, hfrm⟩
    rw [frameOf, hold page h1 hpage] at hfrm
    rw [hpages] at hpage
    have h2 : page.asU64 < mappedEnd.asU64 := h2
    exact .inl ⟨page, h1, by omega, hfrm⟩
  · by_cases hpage : page ∈ pages
    · obtain ⟨frame, hmem, hidx⟩ := (hfrms f).2 ⟨page, hpage, hfrm⟩
      refine hfill.fresh frame hmem ?_
      rw [hidx]
      exact (h.frames_iff f).2 (.inl hf)
    rw [frameOf, hold page h1 hpage] at hfrm
    rw [hpages] at hpage
    have h2 : page.asU64 < mappedEnd.asU64 := h2
    exact h.apart page h1 (by omega) f hf hfrm

lemma eq_of_frameOf (hs : s.Housed) (hroot : s.IsRoot root)
  {page page' : UserPageStart} (hpage : InWindow page.asU64) (hpage' : InWindow page'.asU64)
  (h : frameOf s.tables root page.asU64 = some f)
  (h' : frameOf s.tables root page'.asU64 = some f) : page = page' := by
  obtain ⟨_, hent, hidx⟩ := Option.map_eq_some_iff.1 h
  obtain ⟨_, hent', hidx'⟩ := Option.map_eq_some_iff.1 h'
  have hplc := hs.forest.place_of_leaf hroot hpage hent
  have hplc' := hs.forest.place_of_leaf hroot hpage' hent'
  rw [PhysicalFrameStart.eq_of_div_eq (hidx.trans hidx'.symm), hplc'] at hplc
  exact (eq_of_tablePath (congrArg Prod.snd (Option.some.inj hplc))).symm

lemma Follows.shrunk (h : heap.Follows s root others) (hs : s.Housed)
  (hroot : s.IsRoot root) {mappedEnd : UserPageStart}
  {requested : UserVirtualAddress} (halign : requested.alignUpToPage = some mappedEnd)
  (hbase : heap.base.asU64 ≤ mappedEnd.asU64) (hlt : mappedEnd.asU64 < heap.mappedEnd.asU64)
  {pages : List UserPageStart} (hclear : Cleared s root pages s')
  (hpages : ∀ page : UserPageStart, page ∈ pages ↔
    mappedEnd.asU64 ≤ page.asU64 ∧ page.asU64 < heap.mappedEnd.asU64) :
  ({ heap with currentBreak := requested, mappedEnd } : UserHeap).Follows s' root others := by
  have hwin : ∀ page : UserPageStart, heap.base.asU64 ≤ page.asU64 → InWindow page.asU64 :=
    fun page hpage => inWindow_of_program_le (le_trans h.program_le hpage)
  have hleaf : ∀ page : UserPageStart, heap.base.asU64 ≤ page.asU64 →
    s'.tables.leaf root page.asU64 =
      if page ∈ pages then none else s.tables.leaf root page.asU64 := fun page hpage => by
    rw [hclear.leaf_eq hroot (hwin page hpage)]
    simp only [true_and]
  have hkept : ∀ page : UserPageStart, heap.base.asU64 ≤ page.asU64 → page.asU64 < mappedEnd.asU64 →
    s'.tables.leaf root page.asU64 = s.tables.leaf root page.asU64 := fun page h1 h2 => by
    rw [hleaf page h1, if_neg fun hmem => absurd h2 (not_lt.2 ((hpages page).1 hmem).1)]
  refine ⟨⟨h.program_le, h.aligned, hbase, le_trans (le_of_lt hlt) h.le_end, fun page h1 h2 => ?_⟩,
    halign, fun page h1 h2 => ?_, fun f => ?_, fun page h1 h2 f hf hfrm => ?_⟩
  · refine hclear.owned (hwin page h1) (fun hmem => ?_) (h.owned page h1 (lt_trans h2 hlt))
    exact absurd h2 (not_lt.2 ((hpages page).1 hmem).1)
  · have h1 : mappedEnd.asU64 ≤ page.asU64 := h1
    rw [hleaf page (le_trans hbase h1)]
    split_ifs with hmem
    · rfl
    · rw [hpages] at hmem
      exact h.vacant page (by omega) h2
  · rw [hclear.labels_eq, FrameMap.freeAll_apply]
    split_ifs with hfreed
    · rw [mem_framesOf] at hfreed
      obtain ⟨page, hpage, hfrm⟩ := hfreed
      obtain ⟨h1, h2⟩ := (hpages page).1 hpage
      refine iff_of_false (by simp) ?_
      rintro (hf | ⟨page', h₁', h₂', hfrm'⟩)
      · exact h.apart page (le_trans hbase h1) h2 f hf hfrm
      rw [frameOf, hkept page' h₁' h₂'] at hfrm'
      obtain rfl := eq_of_frameOf hs hroot (hwin page (le_trans hbase h1))
        (hwin page' h₁') hfrm hfrm'
      exact absurd h₂' (not_lt.2 h1)
    rw [h.frames_iff]
    refine or_congr_right ⟨?_, ?_⟩
    · rintro ⟨page, h1, h2, hfrm⟩
      by_cases hpage : page ∈ pages
      · exact absurd (mem_framesOf.2 ⟨page, hpage, hfrm⟩) hfreed
      · rw [hpages] at hpage
        refine ⟨page, h1, show page.asU64 < mappedEnd.asU64 by omega, ?_⟩
        rwa [frameOf, hkept page h1 (by omega)]
    · rintro ⟨page, h1, h2, hfrm⟩
      rw [frameOf, hkept page h1 h2] at hfrm
      exact ⟨page, h1, lt_trans h2 hlt, hfrm⟩
  · rw [frameOf, hkept page h1 h2] at hfrm
    exact h.apart page h1 (lt_trans h2 hlt) f hf hfrm

/-- No allocation of a data frame fails in the call. -/
def NeverStops (mapper : PageMapper) (space : UserAddressSpace) (heap : UserHeap) (memory : Memory)
  (request : UserHeapBreakRequest) : Prop :=
  ∀ requested mappedEnd heap₁ memory₁, heap.Accepts request requested mappedEnd →
    mapNewPages mapper space ((mappedEnd.asU64 - heap.mappedEnd.asU64) / pageSize) heap memory ≠
      .ok (false, heap₁, memory₁)

/-- What a call does to the contents: the pages that stay keep theirs, new ones are zero. -/
structure KeepsContents (heap : UserHeap) (memory : Memory) (root : ℕ) (heap' : UserHeap)
    (memory' : Memory) : Prop where
  keepsPage : ∀ page : UserPageStart, heap.base.asU64 ≤ page.asU64 →
    page.asU64 < heap.mappedEnd.asU64 → page.asU64 < heap'.mappedEnd.asU64 →
    memory.KeepsPage memory' root page.asU64
  zeroed : ∀ page : UserPageStart, heap.mappedEnd.asU64 ≤ page.asU64 →
    page.asU64 < heap'.mappedEnd.asU64 → ZeroPage memory' root page.asU64

/-- **One call** without a failed allocation. -/
lemma Follows.processBreak (hmapper : mapper.Walks) (h : memory.Realizes s)
  (hroot : s.IsRoot space.root) (hfol : heap.Follows s space.root others)
  (hfrms : NeverStops mapper space heap memory request)
  (hok : heap.processBreak mapper space memory request = .ok (result, heap', memory')) :
  heap'.base = heap.base ∧ KeepsContents heap memory space.root heap' memory' ∧
    ∃ s', memory'.Realizes s' ∧ s'.IsRoot space.root ∧ heap'.Follows s' space.root others := by
  obtain ⟨s', hbreaks⟩ := processBreak_ok hmapper h hroot hfol.toBacked hok
  cases hbreaks with
  | refused _ =>
    exact ⟨rfl, ⟨fun _ _ _ _ => .refl _ _ _, fun _ h1 h2 => absurd h2 (not_lt.2 h1)⟩, s, h,
      hroot, hfol⟩
  | @grown _ mappedEnd heap₁ _ _ hacc hle hcall hend =>
    have hmappedEnd : heap₁.mappedEnd = mappedEnd := eq_of_asU64
      ((hend.mappedEnd_eq rfl).trans (Accepts.grow_eq hle))
    obtain ⟨_, _, hfill, hpages⟩ := hend.filling
    rw [hmappedEnd] at hpages
    refine ⟨rfl, ⟨fun page h1 h2 _ => ?_, fun page h1 h2 => hend.zeroed page h1 ?_⟩, s',
      hend.realizes, hend.kept hroot, hfol.grown h.housed hroot hacc.align_eq hle
        hacc.mappedEnd_le hfill hpages⟩
    · have hwin := inWindow_of_program_le (le_trans hfol.program_le h1)
      refine hend.keepsBytes.keepsPage h.housed hroot hwin (by rw [h.tables_eq]) ?_
      rw [hend.realizes.tables_eq, hfill.leaf_eq hroot hwin]
      exact fun hmem => absurd h2 (not_lt.2 ((hpages page).1 hmem.2).1)
    · rwa [hmappedEnd]
  | stopped hacc _ hcall _ => exact absurd hcall (hfrms _ _ _ _ hacc)
  | @shrunk _ mappedEnd _ _ hacc hlt hclear hreal heq =>
    have hpages : ∀ page : UserPageStart, page ∈ pagesBelow
      ((heap.mappedEnd.asU64 - mappedEnd.asU64) / pageSize) heap.mappedEnd ↔
      mappedEnd.asU64 ≤ page.asU64 ∧ page.asU64 < heap.mappedEnd.asU64 := fun page =>
      mem_pagesBelow (pos_of_ne_zero mappedEnd.asAddress.ne_zero)
        (Accepts.shrink_eq (le_of_lt hlt))
    refine ⟨rfl, ⟨fun page h1 _ h3 => ?_, fun page h1 h2 => ?_⟩, s', hreal,
      (hclear.table_iff (by simp)).2 hroot, hfol.shrunk h.housed hroot hacc.align_eq
        hacc.base_le_mappedEnd hlt hclear hpages⟩
    · have hwin := inWindow_of_program_le (le_trans hfol.program_le h1)
      refine ⟨?_, fun entry offset _ _ => by rw [heq]⟩
      rw [hreal.tables_eq, hclear.leaf_eq hroot hwin, h.tables_eq, if_neg]
      exact fun hmem => absurd h3 (not_lt.2 ((hpages page).1 hmem.2).1)
    · exact absurd (lt_trans h2 hlt) (not_lt.2 h1)

lemma Follows.ncard_eq (hs : s.Housed) (hroot : s.IsRoot root) (h : heap.Follows s root others) :
  ({f | s.labels f = some (.used, .userHeap)} \ others).ncard = heap.mappedPages := by
  -- page `i` of the extent, and its frame
  have hpages : ∀ i, i < heap.mappedPages → ∃ page : UserPageStart,
    page.asU64 = heap.base.asU64 + i * pageSize ∧ page.asU64 < heap.mappedEnd.asU64 := by
    intro i hi
    have halig := h.aligned
    have hend := heap.mappedEnd.asU64_mod
    have hlt := heap.mappedEnd.asU64_lt
    have hbase := h.program_le
    rw [mappedPages] at hi
    have hbound : heap.base.asU64 + i * pageSize < heap.mappedEnd.asU64 := by
      rw [pageSize] at *
      omega
    obtain ⟨page, hpage⟩ : ∃ page : UserPageStart,
      page.asU64 = heap.base.asU64 + i * pageSize := exists_asU64
      (ne_of_gt (lt_of_lt_of_le (by decide) (le_trans hbase (le_add_right _ _))))
      (lt_trans hbound hlt) (by rw [add_mul_mod_self_right]; exact halig)
    exact ⟨page, hpage, by rw [hpage]; exact hbound⟩
  have hwin : ∀ page : UserPageStart, heap.base.asU64 ≤ page.asU64 → InWindow page.asU64 :=
    fun page hle => inWindow_of_program_le (le_trans h.program_le hle)
  have hfrm : ∀ page : UserPageStart, heap.base.asU64 ≤ page.asU64 →
    page.asU64 < heap.mappedEnd.asU64 → ∃ f, frameOf s.tables root page.asU64 = some f := by
    intro page h1 h2
    obtain ⟨_, hleaf, -⟩ := h.owned page h1 h2
    exact ⟨_, by rw [frameOf, hleaf]; rfl⟩
  have himage : {f | s.labels f = some (.used, .userHeap)} \ others =
    (fun i => (frameOf s.tables root (heap.base.asU64 + i * pageSize)).getD 0) ''
      (Finset.range heap.mappedPages : Set ℕ) := by
    refine Set.ext fun f => ?_
    simp only [Set.mem_sdiff, Set.mem_ofPred_eq, h.frames_iff, Set.mem_image, Finset.coe_range,
      Set.mem_Iio]
    constructor
    · rintro ⟨hf | ⟨page, _, _, hf⟩, hother⟩
      · exact absurd hf hother
      have halig := h.aligned
      have hmod := page.asU64_mod
      have heq : heap.base.asU64 + (page.asU64 - heap.base.asU64) / pageSize * pageSize =
        page.asU64 := by
        rw [pageSize] at *
        omega
      refine ⟨(page.asU64 - heap.base.asU64) / pageSize, ?_, by rw [heq, hf]; rfl⟩
      have hend := heap.mappedEnd.asU64_mod
      rw [mappedPages]
      rw [pageSize] at *
      omega
    rintro ⟨i, hi, rfl⟩
    obtain ⟨page, hpage, hlt⟩ := hpages i hi
    have hle : heap.base.asU64 ≤ page.asU64 := by
      rw [hpage]
      exact le_add_right _ _
    obtain ⟨f, hf⟩ := hfrm page hle hlt
    rw [← hpage, hf]
    exact ⟨.inr ⟨page, hle, hlt, hf⟩, fun hother => h.apart page hle hlt f hother hf⟩
  rw [himage, Set.InjOn.ncard_image, Set.ncard_coe_finset, Finset.card_range]
  intro i hi j hj heq
  obtain ⟨page, hpage, hlt⟩ := hpages i (Finset.mem_range.1 hi)
  obtain ⟨page', hpage', hlt'⟩ := hpages j (Finset.mem_range.1 hj)
  have hle : heap.base.asU64 ≤ page.asU64 := by rw [hpage]; exact le_add_right _ _
  have hle' : heap.base.asU64 ≤ page'.asU64 := by rw [hpage']; exact le_add_right _ _
  obtain ⟨f, hf⟩ := hfrm page hle hlt
  obtain ⟨_, hf'⟩ := hfrm page' hle' hlt'
  simp only [← hpage, ← hpage', hf, hf', Option.getD_some] at heq
  obtain rfl := eq_of_frameOf hs hroot (hwin page hle) (hwin page' hle') hf (heq ▸ hf')
  rw [hpage, pageSize] at hpage'
  omega

end Steps

/-- Sequences of calls on a heap in which no frame allocation fails. -/
inductive HeapRun (mapper : PageMapper) (space : UserAddressSpace) (heap₀ : UserHeap)
    (start : Memory) : UserHeap → Memory → Prop
  | fresh : HeapRun mapper space heap₀ start heap₀ start
  | called {heap heap' : UserHeap} {memory memory' : Memory} {request : UserHeapBreakRequest}
      {result : UserVirtualAddress} (hrun : HeapRun mapper space heap₀ start heap memory)
      (hframes : NeverStops mapper space heap memory request)
      (hok : heap.processBreak mapper space memory request = .ok (result, heap', memory')) :
      HeapRun mapper space heap₀ start heap' memory'

section Runs
variable {mapper : PageMapper} {space : UserAddressSpace} {base : UserVirtualAddress}
  {heap₀ heap : UserHeap} {start memory : Memory} {s0 : PageState}

lemma follows_new (hnew : UserHeap.new base = .ok heap₀) (hbase : userProgramBase ≤ base.asU64)
  (hempty : ∀ page : UserPageStart, base.asU64 ≤ page.asU64 → page.asU64 < userHeapEnd →
    s0.tables.leaf root page.asU64 = none) :
  heap₀.base = base ∧ heap₀.Follows s0 root {f | s0.labels f = some (.used, .userHeap)} := by
  rw [UserHeap.new] at hnew
  obtain ⟨mappedEnd, hpage, hnew⟩ := bind_eq_ok.1 hnew
  obtain ⟨_, hlt, hnew⟩ := bind_eq_ok.1 hnew
  cases hnew
  rw [expect_eq_ok, new_eq_some] at hpage
  rw [require_eq_ok, decide_eq_true_eq] at hlt
  obtain rfl := hpage
  have halign : mappedEnd.asAddress.alignUpToPage = some mappedEnd := by
    have hmod := mappedEnd.aligned
    have hword : userHeapEnd + pageSize ≤ wordSize := by decide
    have halig : alignDown (mappedEnd.asAddress.asU64 + (pageSize - 1)) pageSize =
      mappedEnd.asAddress.asU64 := by
      rw [alignDown]
      rw [pageSize] at *
      omega
    simp only [UserVirtualAddress.alignUpToPage, Option.bind_eq_some_iff, new_eq_some,
      UserVirtualAddress.new_eq_some, Checked.checkedAdd_eq_some]
    exact ⟨_, ⟨by rw [pageSize] at *; omega, rfl⟩, mappedEnd.asAddress, halig.symm, rfl⟩
  refine ⟨rfl, ⟨hbase, mappedEnd.aligned, le_refl _, le_of_lt hlt, fun page h1 h2 => absurd
    h2 (not_lt.2 h1)⟩, halign, hempty, fun f => ?_, fun page h1 h2 => absurd h2 (not_lt.2 h1)⟩
  refine ⟨.inl, ?_⟩
  rintro (hf | ⟨_, h1, h2, -⟩)
  · exact hf
  · exact absurd h2 (not_lt.2 h1)

variable (hmapper : mapper.Walks) (h : start.Realizes s0)
  (hroot : s0.place space.level4Frame.asAddress = some (space.level4Frame.asAddress, []))
  (hnew : UserHeap.new base = .ok heap₀) (hbase : userProgramBase ≤ base.asU64)
  (hempty : ∀ page : UserPageStart, base.asU64 ≤ page.asU64 → page.asU64 < userHeapEnd →
    s0.tables.leaf space.level4Frame.asAddress page.asU64 = none)
  (hrun : HeapRun mapper space heap₀ start heap memory)
include hmapper h hroot hnew hbase hempty hrun in
lemma HeapRun.follows :
    heap.base = base ∧
    ∃ s,
      memory.Realizes s ∧
      s.IsRoot space.root ∧
      heap.Follows s space.root {f | s0.labels f = some (.used, .userHeap)} := by
  induction hrun with
  | fresh =>
    obtain ⟨hbaseEq, hfol⟩ := follows_new hnew hbase hempty
    exact ⟨hbaseEq, s0, h, hroot, hfol⟩
  | called _ hfrms hok ih =>
    obtain ⟨hbaseEq, s, h, hroot, hfol⟩ := ih
    obtain ⟨hsame, -, s', h', hroot', hfol'⟩ := hfol.processBreak hmapper h hroot hfrms hok
    exact ⟨hsame.trans hbaseEq, s', h', hroot', hfol'⟩

include hmapper h hroot hnew hbase hempty hrun in
/-- **The heap follows its break.**  After every sequence of calls in which no frame allocation
fails, the extent ends at the break rounded up, the mapped pages are those of the extent, and the
heap frames allocated since the start are as many.  Requests outside the heap change nothing; a
further call keeps the contents of the pages that stay and zeroes the new ones. -/
theorem heap_pages_follow_break :
    heap.base = base ∧
    heap.currentBreak.alignUpToPage = some heap.mappedEnd ∧
    (∀ page : UserPageStart,
      base.asU64 ≤ page.asU64 →
      page.asU64 < userHeapEnd →
      ((memory.tables.leaf space.level4Frame.asAddress page.asU64).isSome ↔
         page.asU64 < heap.mappedEnd.asU64)) ∧
    heapFrames start ⊆ heapFrames memory ∧
    (heapFrames memory \ heapFrames start).ncard = heap.mappedPages ∧
    (∀ requested : UserVirtualAddress,
      requested.asU64 < base.asU64 ∨ userHeapEnd ≤ requested.asU64 →
      heap.processBreak mapper space memory (.set requested) =
        .ok (heap.currentBreak, heap, memory)) ∧
    ∀ request result heap' memory',
      NeverStops mapper space heap memory request →
      heap.processBreak mapper space memory request = .ok (result, heap', memory') →
      KeepsContents heap memory space.level4Frame.asAddress heap' memory' := by
  obtain ⟨hbaseEq, s, h', hroot', hfollows⟩ := hrun.follows hmapper h hroot hnew hbase hempty
  have hframes : heapFrames memory = {f | s.labels f = some (.used, .userHeap)} := by
    rw [heapFrames, h'.represents.frameMap_eq]
  have hstart : heapFrames start = {f | s0.labels f = some (.used, .userHeap)} := by
    rw [heapFrames, h.represents.frameMap_eq]
  refine ⟨hbaseEq, hfollows.align_eq, fun page h1 h2 => ?_, ?_, ?_, fun requested hout => ?_,
    fun request result heap' memory' hnever hok =>
      (hfollows.processBreak hmapper h' hroot' hnever hok).2.1⟩
  · rw [h'.tables_eq, Option.isSome_iff_ne_none]
    constructor
    · intro hleaf
      by_contra hge
      exact hleaf (hfollows.vacant page (not_lt.1 hge) h2)
    intro hlt
    obtain ⟨entry, hleaf, -⟩ := hfollows.owned page (by rw [hbaseEq]; exact h1) hlt
    rw [hleaf]
    exact Option.some_ne_none entry
  · rw [hframes, hstart]
    exact fun f hf => (hfollows.frames_iff f).2 (.inl hf)
  · rw [hframes, hstart]
    exact hfollows.ncard_eq h'.housed hroot'
  refine processBreak_of_refused mapper space memory fun requested' mappedEnd haccepts => ?_
  have heq := haccepts.request_eq
  cases heq
  have hle := haccepts.base_le
  have hlt := haccepts.lt_end
  rw [hbaseEq] at hle
  omega

end Runs

set_option maxRecDepth 100000 in
/-- After boot, a growth by two pages: two heap frames. -/
theorem heap_pages_follow_break_boot :
    ∃ space created heap memory,
      createUserAddressSpace bootMemory = .ok (space, created) ∧
      HeapRun walkMapper space programHeap created heap memory ∧
      (heapFrames memory \ heapFrames created).ncard = 2 := by
  obtain ⟨space, created, s, hcreate, h, hroot, hempty⟩ := exists_bootSpace
  have hrun : ((createUserAddressSpace bootMemory).bind fun p =>
    (mapNewPages walkMapper p.1 2 programHeap p.2).bind fun q =>
      (programHeap.processBreak walkMapper p.1 p.2 (.set (growRequest 2))).map fun r =>
        (q.1, r.2.1)).toOption = some (true, { programHeap with
          currentBreak := growRequest 2
          mappedEnd := ⟨growRequest 2, by decide⟩ }) := by
    decide +kernel
  rw [hcreate] at hrun
  cases hgrow : mapNewPages walkMapper space 2 programHeap created with
  | error _ =>
    simp only [Except.bind, hgrow] at hrun
    cases hrun
  | ok q =>
    simp only [Except.bind, hgrow] at hrun
    cases hcall : programHeap.processBreak walkMapper space created (.set (growRequest 2)) with
    | error _ =>
      rw [hcall] at hrun
      cases hrun
    | ok r =>
      obtain ⟨_, heap', memory'⟩ := r
      rw [hcall] at hrun
      obtain ⟨hgrown, hheap⟩ := Prod.mk.inj (Option.some.inj hrun)
      have hnever : NeverStops walkMapper space programHeap created (.set (growRequest 2)) := by
        intro _ _ _ _ haccepts hstop
        obtain ⟨-, rfl⟩ := programHeap_accepts.unique haccepts
        obtain rfl := Except.ok.inj (hgrow.symm.trans hstop)
        cases hgrown
      have hheapRun : HeapRun walkMapper space programHeap created heap' memory' :=
        .called .fresh hnever hcall
      refine ⟨space, created, heap', memory', hcreate, hheapRun, ?_⟩
      rw [(heap_pages_follow_break walkMapper_walks h hroot (rfl : UserHeap.new
        programHeap.base = .ok programHeap) (le_refl _) (fun page hle _ => hempty _
          (inWindow_of_program_le hle)) hheapRun).2.2.2.2.1, show heap' = _ from hheap]
      rfl

end UserHeap

namespace UserHeap

/-- **A growth onto a page in use panics** as soon as a frame is free, wherever the heap lies. -/
lemma processBreak_of_leaf {mapper : PageMapper} (hmapper : mapper.Walks) {memory : Memory}
    (h : memory.Realizes s) {space : UserAddressSpace} {heap : UserHeap}
    {requested : UserVirtualAddress} {mappedEnd : UserPageStart}
    (haccepts : heap.Accepts request requested mappedEnd)
    (hgrows : heap.mappedEnd.asU64 < mappedEnd.asU64) (hfree : s.labels.IsFree f)
    (hleaf : memory.tables.leaf space.root heap.mappedEnd.asU64 ≠ none)
    (result : UserVirtualAddress × UserHeap × Memory) :
    heap.processBreak mapper space memory request ≠ .ok result := by
  obtain ⟨n, hn⟩ : ∃ n, (mappedEnd.asU64 - heap.mappedEnd.asU64) / pageSize = n + 1 := by
    have h1 := mappedEnd.asU64_mod
    have h2 := heap.mappedEnd.asU64_mod
    refine ⟨(mappedEnd.asU64 - heap.mappedEnd.asU64) / pageSize - 1, ?_⟩
    rw [pageSize] at *
    omega
  have hpages : ∀ grown, mapNewPages mapper space (n + 1) heap memory ≠ .ok grown := by
    intro grown hok
    rw [mapNewPages] at hok
    rcases Memory.allocateFrameFor_spec h userHeap_mem with
      ⟨hfull, -⟩ | ⟨_, -, -, herr⟩ | ⟨frame, _, hfrm, -⟩
    · exact hfull f hfree
    · rw [herr] at hok
      cases hok
    · simp only [hfrm, ok_bind, bind_eq_ok] at hok
      obtain ⟨_, hmapped, -⟩ := hok
      rw [UserAddressSpace.mapUserPage] at hmapped
      refine absurd hmapped (Memory.mapPage_of_leaf hmapper ?_ rfl rfl frame _ _)
      exact hleaf
  intro hok
  rw [haccepts.request_eq, processBreak, if_neg (not_or.2 ⟨Nat.not_lt.2 haccepts.base_le,
    Nat.not_le.2 haccepts.lt_end⟩), haccepts.align_eq] at hok
  simp only [hn, bind_eq_ok] at hok
  obtain ⟨_, hgrown, -⟩ := hok
  exact hpages _ hgrown

end UserHeap

section Returns
variable {mapper : PageMapper} {space : UserAddressSpace} {mappings : UserMappings}
  {heap : UserHeap} {memory : Memory} {s : PageState}

end Returns

end ManaOS
