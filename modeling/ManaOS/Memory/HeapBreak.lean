/-
The `brk` calls of one heap.

* `processBreak_ok`: what a returning call has done;
* `processBreak_returns_iff` (**return**): when a call returns.
-/
import ManaOS.Memory.PageFills
import ManaOS.Memory.UserHeap

namespace ManaOS
open Checked UserPageStart Nat
namespace UserHeap

lemma userHeap_mem : FrameRangeOwner.userHeap ∈ userDataOwners := by decide

/-- The extent of the heap lies in its region, and its pages are mapped with heap frames. -/
structure Backed (heap : UserHeap) (s : PageState) (root : ℕ) : Prop where
  program_le : userProgramBase ≤ heap.base.asU64
  aligned : heap.base.asU64 % pageSize = 0
  base_le : heap.base.asU64 ≤ heap.mappedEnd.asU64
  le_end : heap.mappedEnd.asU64 ≤ userHeapEnd
  owned : ∀ page : UserPageStart, heap.base.asU64 ≤ page.asU64 →
    page.asU64 < heap.mappedEnd.asU64 → s.Owned root .userHeap page

/-! ### Growth -/

/-- The growth by the remaining pages, as the frame map decides it: until all pages are mapped or no
frame is free. -/
inductive Grows (demand : List ℕ → ℕ → ℕ) (vacant : UserPageStart → Prop) :
    ℕ → UserPageStart → List UserPageStart → FrameMap → Prop
  | done {page earlier m} : Grows demand vacant 0 page earlier m
  | exhausted {remaining page earlier m} (hfull : ∀ f, ¬ m.IsFree f) :
      Grows demand vacant (remaining + 1) page earlier m
  | mapped {remaining earlier m m'} {page next : UserPageStart} {frame : PhysicalFrameStart}
      (hfit : m.FirstFit 1 (frame.asAddress / pageSize))
      (hroom : m.HasRoom (frame.asAddress / pageSize) 1) (hvacant : vacant page)
      (hserves : (m.mark (frame.asAddress / pageSize) 1 (.used, .userHeap)).Serves
        (List.replicate (demand (earlier.map UserPageStart.asU64) page.asU64) (1, .pageTable)) m')
      (hnext : page.checkedAdd pageSize = some next)
      (hrest : Grows demand vacant remaining next (earlier ++ [page]) m') :
      Grows demand vacant (remaining + 1) page earlier m

section Growth
variable {mapper : PageMapper} {space : UserAddressSpace} {heap heap' : UserHeap}
  {memory memory' : Memory} {s₀ s : PageState} {remaining : ℕ} {earlier : List UserPageStart}
  {frames : List PhysicalFrameStart} {grown : Bool}
variable {next page : UserPageStart} {frame : PhysicalFrameStart}

lemma mapNewPages_succ (hfrm : memory.allocateFrameFor .userHeap = .ok (some frame, memory1))
  (hnext : heap.mappedEnd.checkedAdd pageSize = some next) :
  mapNewPages mapper space (remaining + 1) heap memory =
    (space.mapUserPage mapper (memory1.zeroBytes frame.asAddress pageSize) heap.mappedEnd frame
      userDataFlags >>= fun memory =>
        mapNewPages mapper space remaining { heap with mappedEnd := next } memory) := by
  rw [mapNewPages]
  simp only [hfrm, ok_bind, hnext, expect_some]

/-- A page is mapped and all its bytes are zero. -/
def ZeroPage (memory : Memory) (root page : ℕ) : Prop := ∃ entry, memory.tables.leaf root page =
  some entry ∧ ∀ offset < pageSize, memory.bytes (entry.address.asAddress + offset) = 0

/-- What the growth leaves: from its first state `s₀`, by the turn that starts in `s`. -/
structure GrowEnd (s₀ s : PageState) (root : ℕ) (heap : UserHeap) (earlier : List UserPageStart)
    (memory : Memory) (remaining : ℕ) (grown : Bool) (heap' : UserHeap) (memory' : Memory)
    (s' : PageState) : Prop where
  realizes : memory'.Realizes s'
  memory_eq : memory' = { memory with
    tables := memory'.tables
    allocator := memory'.allocator
    bytes := memory'.bytes }
  heap_eq : heap' = { heap with mappedEnd := heap'.mappedEnd }
  le_mappedEnd : heap.mappedEnd.asU64 ≤ heap'.mappedEnd.asU64
  mappedEnd_le : heap'.mappedEnd.asU64 ≤ heap.mappedEnd.asU64 + remaining * pageSize
  mappedEnd_eq : grown = true → heap'.mappedEnd.asU64 = heap.mappedEnd.asU64 + remaining * pageSize
  stopped_iff : grown = false → (heap'.mappedEnd = heap.mappedEnd ↔ ∀ f, ¬ s.labels.IsFree f)
  filling : ∃ pages frames, Filling s₀ root .userHeap (earlier ++ pages) frames s' ∧
    ∀ page : UserPageStart, page ∈ pages ↔
      heap.mappedEnd.asU64 ≤ page.asU64 ∧ page.asU64 < heap'.mappedEnd.asU64
  kept : ∀ {n x}, s.place n = some x → s'.place n = some x
  keepsBytes : KeepsBytes s memory memory'
  zeroed : ∀ page : UserPageStart, heap.mappedEnd.asU64 ≤ page.asU64 →
    page.asU64 < heap'.mappedEnd.asU64 → ZeroPage memory' root page.asU64

variable (hwalk : mapper.Walks)
  (hroot : s₀.place space.level4Frame.asAddress = some (space.level4Frame.asAddress, []))
  (hbase : userProgramBase ≤ heap.mappedEnd.asU64)
  (hend : heap.mappedEnd.asU64 + remaining * pageSize ≤ userHeapEnd)
  (hearl : ∀ page ∈ earlier, userProgramBase ≤ page.asU64 ∧ page.asU64 < heap.mappedEnd.asU64)
  (h : memory.Realizes s)
  (hfill : Filling s₀ space.level4Frame.asAddress .userHeap earlier frames s)

lemma inWindow_of_program_le (h : userProgramBase ≤ page.asU64) : InWindow page.asU64 :=
  inWindow_of_bounds h page.asU64_lt

lemma page_lt_next {p : UserPageStart} (hnext : page.checkedAdd pageSize = some next) :
  p.asU64 < next.asU64 ↔ p.asU64 ≤ page.asU64 := by
  have hp := p.aligned
  have hpage := page.aligned
  rw [UserPageStart.checkedAdd_eq_some] at hnext
  change p.asU64 % pageSize = 0 at hp
  change page.asU64 % pageSize = 0 at hpage
  rw [pageSize] at *
  omega

include hbase hearl in
lemma earlier_append (hnext : heap.mappedEnd.checkedAdd pageSize = some next) :
    ∀ page ∈ earlier ++ [heap.mappedEnd],
      userProgramBase ≤ page.asU64 ∧ page.asU64 < next.asU64 := by
  intro page hpage
  rcases List.mem_append.1 hpage with hpage | hpage
  · exact ⟨(hearl page hpage).1, (page_lt_next hnext).2 (le_of_lt (hearl page hpage).2)⟩
  · obtain rfl := List.mem_singleton.1 hpage
    exact ⟨hbase, (page_lt_next hnext).2 (le_refl _)⟩

include hfill in
lemma GrowEnd.refl (h : memory.Realizes s) (hgrown : grown = true → remaining = 0)
  (hstopped : grown = false → ∀ f, ¬ s.labels.IsFree f) :
  GrowEnd s₀ s space.root heap earlier memory remaining grown heap memory s where
  realizes := h
  memory_eq := rfl
  heap_eq := rfl
  le_mappedEnd := le_refl _
  mappedEnd_le := le_add_right _ _
  mappedEnd_eq htrue := by rw [hgrown htrue, zero_mul, add_zero]
  stopped_iff hfalse := iff_of_true rfl (hstopped hfalse)
  filling := ⟨[], frames, by rwa [List.append_nil], fun page => by simp⟩
  kept hn := hn
  keepsBytes := .of_eq rfl
  zeroed page hle hlt := absurd hlt (not_lt.2 hle)

lemma zeroPage_of_place {s2 : PageState} (h' : memory'.Realizes s') (hroot : s'.IsRoot root)
  (hpage : InWindow page.asU64)
  (hpl : s2.place frame.asAddress = some (root, tablePath page.asU64))
  (hpl' : s'.place frame.asAddress = some (root, tablePath page.asU64))
  (hkept : KeepsBytes s2 memory memory')
  (hzero : ∀ offset < pageSize, memory.bytes (frame.asAddress + offset) = 0) :
  ZeroPage memory' root page.asU64 := by
  obtain ⟨entry, hleaf, haddr⟩ := h'.housed.forest.leaf_of_place hroot hpage hpl'
  refine ⟨entry, by rw [h'.tables_eq, hleaf], fun offset hoff => ?_⟩
  rw [haddr, hkept _ _ offset hpl hoff, hzero offset hoff]

include hbase in
lemma GrowEnd.cons {s2 s' : PageState} {allocator : PhysicalFrameAllocator} {memory2 : Memory}
  (hnext : heap.mappedEnd.checkedAdd pageSize = some next) (hs : s.Housed)
  (hfit : s.labels.FirstFit 1 (frame.asAddress / pageSize))
  (heq : memory2 = { Memory.zeroBytes { memory with allocator } frame.asAddress pageSize with
    tables := memory2.tables
    allocator := memory2.allocator })
  (hkept : ∀ {n x}, s.place n = some x → s2.place n = some x)
  (hpl : s2.place frame.asAddress = some (space.root, tablePath heap.mappedEnd.asU64))
  (hroot2 : s2.IsRoot space.root)
  (hdone : GrowEnd s₀ s2 space.root { heap with mappedEnd := next }
    (earlier ++ [heap.mappedEnd]) memory2 remaining grown heap' memory' s') :
  GrowEnd s₀ s space.root heap earlier memory (remaining + 1) grown heap' memory'
    s' := by
  have hnextEq := UserPageStart.checkedAdd_eq_some.1 hnext
  have hsucc : (remaining + 1) * pageSize = remaining * pageSize + pageSize := Nat.succ_mul _ _
  have hpos : 0 < pageSize := by decide
  have hle : next.asU64 ≤ heap'.mappedEnd.asU64 := hdone.le_mappedEnd
  have hout : ∀ address, address < frame.asAddress ∨ frame.asAddress + pageSize ≤ address →
    memory2.bytes address = memory.bytes address := fun address hout => by
    rw [heq]
    exact Memory.zeroBytes_of_out _ hout
  have hzero : ∀ offset < pageSize, memory2.bytes (frame.asAddress + offset) = 0 :=
    fun offset hoff => by
      rw [heq]
      exact if_pos ⟨Nat.le_add_right _ _, Nat.add_lt_add_left hoff _⟩
  refine ⟨hdone.realizes, by rw [hdone.memory_eq, heq]; rfl, by rw [hdone.heap_eq], by omega, ?_,
    fun hgrown => ?_, fun _ => iff_of_false ?_ ?_, ?_, fun hn => hdone.kept (hkept hn), ?_,
    fun page hpage hlt => ?_⟩
  · have hle : heap'.mappedEnd.asU64 ≤ next.asU64 + remaining * pageSize := hdone.mappedEnd_le
    omega
  · have heq : heap'.mappedEnd.asU64 = next.asU64 + remaining * pageSize :=
      hdone.mappedEnd_eq hgrown
    omega
  · intro hsame
    rw [hsame] at hle
    omega
  · exact fun hfull => hfull _ hfit.isFree
  · obtain ⟨pages, frames', hfill', hpages⟩ := hdone.filling
    refine ⟨heap.mappedEnd :: pages, frames', by simpa using hfill', fun page => ?_⟩
    rw [List.mem_cons, hpages]
    have hlt := page_lt_next (p := page) hnext
    constructor
    · rintro (rfl | ⟨h1, h2⟩)
      · exact ⟨Nat.le_refl _, by omega⟩
      · have h1 : next.asU64 ≤ page.asU64 := h1
        exact ⟨by omega, h2⟩
    rintro ⟨_, h2⟩
    by_cases heq : page.asU64 = heap.mappedEnd.asU64
    · exact .inl (eq_of_asU64 heq)
    · exact .inr ⟨show next.asU64 ≤ page.asU64 by omega, h2⟩
  · exact (KeepsBytes.of_frame hs hfit.isFree hout).trans (hdone.keepsBytes.mono hkept)
  · by_cases heq : page.asU64 = heap.mappedEnd.asU64
    · obtain rfl := eq_of_asU64 heq
      exact zeroPage_of_place hdone.realizes (hdone.kept hroot2) (inWindow_of_program_le hbase)
        hpl (hdone.kept hpl) hdone.keepsBytes hzero
    · have hnot := page_lt_next (p := page) hnext
      exact hdone.zeroed page (show next.asU64 ≤ page.asU64 by omega) hlt

include hwalk hroot hbase hend hearl h hfill in
/-- **The growth, when it returns.** -/
lemma mapNewPages_ok
    (hok : mapNewPages mapper space remaining heap memory = .ok (grown, heap', memory')) :
    Grows (s₀.tables.newTables space.root) (fun page => s₀.tables.leaf space.root page.asU64 = none)
      remaining heap.mappedEnd earlier s.labels ∧
    ∃ s', GrowEnd s₀ s space.root heap earlier memory remaining grown heap' memory' s' := by
  induction remaining generalizing heap memory s earlier frames with
  | zero =>
    cases hok
    exact ⟨.done, s, .refl hfill h (fun _ => rfl) fun hfalse => (by cases hfalse)⟩
  | succ remaining ih =>
    have hsp : userHeapEnd < userSpaceEnd := by decide
    have hsucc : (remaining + 1) * pageSize = remaining * pageSize + pageSize := succ_mul _ _
    obtain ⟨next, hnext⟩ := exists_checkedAdd
      (show heap.mappedEnd.asU64 + pageSize < userSpaceEnd by omega)
    have hnextEq := UserPageStart.checkedAdd_eq_some.1 hnext
    rcases Memory.allocateFrameFor_spec h userHeap_mem with
      ⟨hfull, hfrm⟩ | ⟨f, -, -, hfrm⟩ | ⟨frame, allocator, hfrm, hfit, hroom, h1⟩
    · rw [mapNewPages, hfrm] at hok
      cases hok
      exact ⟨.exhausted hfull, s, .refl hfill h (fun htrue => (by cases htrue)) fun _ => hfull⟩
    · rw [mapNewPages, hfrm] at hok
      cases hok
    rw [mapNewPages_succ hfrm hnext, bind_eq_ok] at hok
    obtain ⟨_, hmap, hok⟩ := hok
    obtain ⟨hleaf, _, hfill2, h2, heq2, hserv, hkept, hpl⟩ :=
      hfill.mapUserPage_ok hwalk h (h1.zeroBytes _ _) hroot userHeap_mem
        (fun page hpage => inWindow_of_program_le (hearl page hpage).1)
        (inWindow_of_program_le hbase) hfit rfl rfl hmap
    have hbase2 : userProgramBase ≤ ({ heap with mappedEnd := next } : UserHeap).mappedEnd.asU64 :=
      show userProgramBase ≤ next.asU64 by omega
    obtain ⟨hgrows, s', hdone⟩ := ih hbase2
      (show next.asU64 + remaining * pageSize ≤ userHeapEnd by omega)
      (earlier_append hbase hearl hnext) h2 hfill2 hok
    exact ⟨.mapped hfit hroom hleaf hserv hnext hgrows, s',
      hdone.cons hbase hnext h.housed hfit heq2 hkept hpl (hfill2.kept hroot)⟩

include hwalk hroot hbase hend hearl h hfill in
/-- **The growth returns** when the frame map lets it end. -/
lemma exists_mapNewPages
    (hgrows : Grows (s₀.tables.newTables space.root)
        (fun page => s₀.tables.leaf space.root page.asU64 = none) remaining heap.mappedEnd earlier
        s.labels) :
    ∃ grown heap' memory',
      mapNewPages mapper space remaining heap memory = .ok (grown, heap', memory') := by
  induction remaining generalizing heap memory s earlier frames with
  | zero => exact ⟨true, heap, memory, rfl⟩
  | succ remaining ih =>
    have hsucc : (remaining + 1) * pageSize = remaining * pageSize + pageSize := succ_mul _ _
    cases hgrows with
    | exhausted hfull =>
      rcases Memory.allocateFrameFor_spec h userHeap_mem with
        ⟨-, hfrm⟩ | ⟨f, hfit, -⟩ | ⟨frame, -, -, hfit, -⟩
      · exact ⟨false, heap, memory, by rw [mapNewPages, hfrm]; rfl⟩
      · exact absurd hfit.isFree (hfull f)
      · exact absurd hfit.isFree (hfull _)
    | @mapped _ _ _ _ _ next _ hfit hroom hvacant hserv hnext hrest =>
      have hnextEq := UserPageStart.checkedAdd_eq_some.1 hnext
      obtain ⟨frame', _, hfrm, hidx, h1⟩ := Memory.exists_allocateFrameFor h userHeap_mem hfit hroom
      obtain rfl := PhysicalFrameStart.eq_of_div_eq hidx
      have hwin : ∀ page ∈ earlier, InWindow page.asU64 :=
        fun page hpage => inWindow_of_program_le (hearl page hpage).1
      obtain ⟨memory2, hmap⟩ : ∃ memory2, space.mapUserPage mapper _ heap.mappedEnd frame'
        userDataFlags = .ok memory2 :=
        hfill.exists_mapUserPage hwalk (h1.zeroBytes frame'.asAddress pageSize) hroot
          (inWindow_of_program_le hbase) rfl rfl
          (fun hmem => lt_irrefl _ (hearl _ hmem).2) hvacant hserv
      obtain ⟨-, _, hfill2, h2, -, hserv2, -⟩ := hfill.mapUserPage_ok hwalk h
        (h1.zeroBytes _ _) hroot userHeap_mem hwin (inWindow_of_program_le hbase) hfit rfl rfl
        hmap
      obtain rfl := hserv.unique hserv2
      have hearl2 := earlier_append hbase hearl hnext
      have hbase2 :
        userProgramBase ≤ ({ heap with mappedEnd := next } : UserHeap).mappedEnd.asU64 :=
        show userProgramBase ≤ next.asU64 by omega
      rw [mapNewPages_succ hfrm hnext, hmap]
      exact ih hbase2 (show next.asU64 + remaining * pageSize ≤ userHeapEnd by omega) hearl2
        h2 hfill2 hrest

end Growth

/-! ### Shrinking -/

/-- The pages below an address, from the top down. -/
def pagesBelow : ℕ → UserPageStart → List UserPageStart
  | 0, _ => []
  | count + 1, top =>
    match top.checkedSub pageSize with
    | none => []
    | some page => page :: pagesBelow count page

section Shrink
variable {mapper : PageMapper} {space : UserAddressSpace} {heap : UserHeap} {memory : Memory}
  {top : UserPageStart} {count : ℕ}

lemma exists_checkedSub (hbottom : 0 < bottom) (h : bottom + (count + 1) * pageSize ≤ top.asU64) :
  ∃ page, top.checkedSub pageSize = some page ∧ top.asU64 = page.asU64 + pageSize := by
  have hsucc : (count + 1) * pageSize = count * pageSize + pageSize := succ_mul _ _
  have htop := top.asU64_mod
  have hlt := top.asU64_lt
  have halig : (top.asU64 - pageSize) % pageSize = 0 := by
    rw [pageSize] at *
    omega
  obtain ⟨page, _⟩ : ∃ page : UserPageStart, page.asU64 = top.asU64 - pageSize :=
    exists_asU64 (by omega) (by omega) halig
  have htop : top.asU64 = page.asU64 + pageSize := by omega
  exact ⟨page, UserPageStart.checkedSub_eq htop, htop⟩

lemma mem_pagesBelow (hbottom : 0 < bottom) (h : bottom + count * pageSize = top.asU64) :
  page ∈ pagesBelow count top ↔ bottom ≤ page.asU64 ∧ page.asU64 < top.asU64 := by
  induction count generalizing top with
  | zero => simp [pagesBelow]; omega
  | succ count ih =>
    obtain ⟨next, hnext, htop⟩ := exists_checkedSub hbottom (le_of_eq h)
    have hsucc : (count + 1) * pageSize = count * pageSize + pageSize := succ_mul _ _
    have hlt := page_lt_next (p := page) (UserPageStart.checkedAdd_eq_some.2 htop)
    have hbelow : bottom + count * pageSize = next.asU64 := by omega
    simp only [pagesBelow, hnext, List.mem_cons, ih hbelow]
    constructor
    · rintro (rfl | ⟨h1, h2⟩)
      · omega
      · omega
    rintro ⟨h1, _⟩
    by_cases heq : page.asU64 = next.asU64
    · exact .inl (eq_of_asU64 heq)
    · exact .inr ⟨h1, by omega⟩

lemma nodup_pagesBelow (hbottom : 0 < bottom)
  (h : bottom + count * pageSize = top.asU64) : (pagesBelow count top).Nodup := by
  induction count generalizing top with
  | zero => exact List.nodup_nil
  | succ count ih =>
    obtain ⟨next, hnext, _⟩ := exists_checkedSub hbottom (le_of_eq h)
    have hsucc : (count + 1) * pageSize = count * pageSize + pageSize := succ_mul _ _
    have hrest : bottom + count * pageSize = next.asU64 := by omega
    simp only [pagesBelow, hnext, List.nodup_cons]
    exact ⟨fun hmem => lt_irrefl _ ((mem_pagesBelow hbottom hrest).1 hmem).2, ih hrest⟩

lemma unmapOldPages_eq {bottom : UserPageStart}
  (h : bottom.asU64 + count * pageSize = heap.mappedEnd.asU64) :
  unmapOldPages mapper space count heap memory =
    (space.unmapEach mapper .userHeap "shrinking user heap must unmap a mapped heap page"
      (pagesBelow count heap.mappedEnd) memory).map
        fun memory => ({ heap with mappedEnd := bottom }, memory) := by
  have hbottom : 0 < bottom.asU64 := pos_of_ne_zero bottom.asAddress.ne_zero
  induction count generalizing heap memory with
  | zero =>
    obtain rfl : bottom = heap.mappedEnd := eq_of_asU64 (by simpa using h)
    rfl
  | succ count ih =>
    obtain ⟨next, hnext, _⟩ := exists_checkedSub hbottom (le_of_eq h)
    have hsucc : (count + 1) * pageSize = count * pageSize + pageSize := succ_mul _ _
    simp only [unmapOldPages, pagesBelow, hnext, expect_some, ok_bind, UserAddressSpace.unmapEach]
    cases space.unmapUserPageFor mapper memory next .userHeap with
    | error _ => rfl
    | ok p =>
      obtain ⟨unmapped, _⟩ := p
      simp only [ok_bind]
      cases require unmapped "shrinking user heap must unmap a mapped heap page" with
      | error _ => rfl
      | ok _ =>
        have hrest : bottom.asU64 + count * pageSize =
          ({ heap with mappedEnd := next } : UserHeap).mappedEnd.asU64 :=
          show bottom.asU64 + count * pageSize = next.asU64 by omega
        simp only [ok_bind]
        rw [ih hrest]

/-- **The shrinking loop** unmaps the pages from the top, provided the allocator can track the
frees. -/
lemma unmapOldPages_spec (hwalk : mapper.Walks) (hs : memory.Realizes s)
  (hroot : s.IsRoot space.root) (hback : heap.Backed s space.root) {bottom : UserPageStart}
  (hbase : heap.base.asU64 ≤ bottom.asU64)
  (h : bottom.asU64 + count * pageSize = heap.mappedEnd.asU64) :
  (¬ s.labels.CanFree (s.tables.framesOf space.root (pagesBelow count heap.mappedEnd)) ∧
      unmapOldPages mapper space count heap memory = .error capacityExhausted) ∨
  s.labels.CanFree (s.tables.framesOf space.root
      (pagesBelow count heap.mappedEnd)) ∧
    ∃ s' memory', unmapOldPages mapper space count heap memory =
        .ok ({ heap with mappedEnd := bottom }, memory') ∧
      Cleared s space.root (pagesBelow count heap.mappedEnd) s' ∧
      memory'.Realizes s' ∧
      memory.OnlyMapped memory' := by
  have hbottom : 0 < bottom.asU64 := pos_of_ne_zero bottom.asAddress.ne_zero
  have hmem : ∀ page ∈ pagesBelow count heap.mappedEnd, heap.base.asU64 ≤ page.asU64 ∧
    page.asU64 < heap.mappedEnd.asU64 := fun page hpage => by
    obtain ⟨h1, h2⟩ := (mem_pagesBelow hbottom h).1 hpage
    exact ⟨le_trans hbase h1, h2⟩
  rw [unmapOldPages_eq h]
  rcases UserAddressSpace.unmapEach_spec hwalk
      "shrinking user heap must unmap a mapped heap page" (nodup_pagesBelow hbottom h)
      (fun page hpage =>
        inWindow_of_program_le (le_trans hback.program_le (hmem page hpage).1)) hs hroot
      (fun page hpage => hback.owned page (hmem page hpage).1 (hmem page hpage).2) with
    ⟨hfree, herr⟩ | ⟨hfree, s', memory', hok, hclear, hs', heq⟩
  · exact .inl ⟨hfree, by rw [herr]; rfl⟩
  · exact .inr ⟨hfree, s', memory', by rw [hok]; rfl, hclear, hs', heq⟩

end Shrink

/-! ### The call -/

/-- A request that `process_break` works on, with the end of the extent it asks for. -/
structure Accepts (heap : UserHeap) (request : UserHeapBreakRequest)
    (requested : UserVirtualAddress) (mappedEnd : UserPageStart) : Prop where
  request_eq : request = .set requested
  base_le : heap.base.asU64 ≤ requested.asU64
  lt_end : requested.asU64 < userHeapEnd
  align_eq : requested.alignUpToPage = some mappedEnd

lemma alignUpToPage_eq_some {requested : UserVirtualAddress} {mappedEnd : UserPageStart}
  (h : requested.alignUpToPage = some mappedEnd) :
  requested.asU64 ≤ mappedEnd.asU64 ∧ mappedEnd.asU64 < requested.asU64 + pageSize := by
  simp only [UserVirtualAddress.alignUpToPage, Option.bind_eq_some_iff, new_eq_some,
    UserVirtualAddress.new_eq_some, Checked.checkedAdd_eq_some] at h
  obtain ⟨_, ⟨-, rfl⟩, _, haddr, rfl⟩ := h
  change requested.asU64 ≤ mappedEnd.asAddress.asU64 ∧
    mappedEnd.asAddress.asU64 < requested.asU64 + pageSize
  rw [haddr, alignDown, pageSize]
  omega

namespace Accepts
variable {heap : UserHeap} {mappedEnd : UserPageStart}

lemma unique (h : heap.Accepts request requested mappedEnd)
  (h' : heap.Accepts request requested' mappedEnd') :
  requested' = requested ∧ mappedEnd' = mappedEnd := by
  obtain rfl : requested' = requested := by
    have heq := h'.request_eq.symm.trans h.request_eq
    cases heq
    rfl
  exact ⟨rfl, Option.some.inj (h'.align_eq.symm.trans h.align_eq)⟩

lemma base_le_mappedEnd (h : heap.Accepts request requested mappedEnd) : heap.base.asU64 ≤
  mappedEnd.asU64 := le_trans h.base_le (alignUpToPage_eq_some h.align_eq).1

lemma mappedEnd_le (h : heap.Accepts request requested mappedEnd) :
  mappedEnd.asU64 ≤ userHeapEnd := by
  have halign := alignUpToPage_eq_some h.align_eq
  have hmod := mappedEnd.asU64_mod
  have hend := h.lt_end
  rw [userHeapEnd, pageSize] at *
  omega

lemma grow_eq {heap' : UserHeap} (hle : heap'.mappedEnd.asU64 ≤ mappedEnd.asU64) :
  heap'.mappedEnd.asU64 + (mappedEnd.asU64 - heap'.mappedEnd.asU64) / pageSize * pageSize =
    mappedEnd.asU64 := by
  have h1 := mappedEnd.asU64_mod
  have h2 := heap'.mappedEnd.asU64_mod
  rw [pageSize] at *
  omega

lemma shrink_eq {heap' : UserHeap} (hle : mappedEnd.asU64 ≤ heap'.mappedEnd.asU64) :
    mappedEnd.asU64 + (heap'.mappedEnd.asU64 - mappedEnd.asU64) / pageSize * pageSize =
      heap'.mappedEnd.asU64 := by
  have h1 := mappedEnd.asU64_mod
  have h2 := heap'.mappedEnd.asU64_mod
  rw [pageSize] at *
  omega

end Accepts

section Call
variable {mapper : PageMapper} {space : UserAddressSpace} {heap : UserHeap}
  {memory memory' : Memory} {s : PageState} {request : UserHeapBreakRequest}
  {requested : UserVirtualAddress} {mappedEnd : UserPageStart}
variable (mapper space memory) in
lemma processBreak_of_refused
    (h : ∀ requested mappedEnd, ¬ heap.Accepts request requested mappedEnd) :
    heap.processBreak mapper space memory request = .ok (heap.currentBreak, heap, memory) := by
  cases request with
  | current => rfl
  | set requested =>
    rw [processBreak]
    split_ifs with hrg
    · rfl
    split
    · rfl
    next mappedEnd halign =>
      exact absurd ⟨rfl, by omega, by omega, halign⟩ (h requested mappedEnd)

variable (mapper space memory) in
lemma processBreak_eq (h : heap.Accepts request requested mappedEnd) :
  heap.processBreak mapper space memory request =
    (mapNewPages mapper space ((mappedEnd.asU64 - heap.mappedEnd.asU64) / pageSize) heap
      memory >>= fun p => if p.1 then
          (unmapOldPages mapper space ((p.2.1.mappedEnd.asU64 - mappedEnd.asU64) / pageSize) p.2.1
            p.2.2).map fun q =>
              (requested, { q.1 with currentBreak := requested }, q.2)
        else .ok (p.2.1.currentBreak, p.2.1, p.2.2)) := by
  obtain ⟨rfl, _, _, halign⟩ := h
  rw [processBreak, if_neg (by omega), halign]
  refine bind_congr fun p => ?_
  obtain ⟨_, heap₁, memory1⟩ := p
  dsimp only
  split_ifs
  · cases unmapOldPages mapper space ((heap₁.mappedEnd.asU64 - mappedEnd.asU64) / pageSize) heap₁
      memory1 <;> rfl
  · rfl

variable (hwalk : mapper.Walks) (h : memory.Realizes s)
  (hroot : s.place space.level4Frame.asAddress = some (space.level4Frame.asAddress, []))
  (hback : heap.Backed s space.level4Frame.asAddress)
  (haccepts : heap.Accepts request requested mappedEnd)
include hwalk h hroot hback haccepts in
lemma processBreak_grow (hle : heap.mappedEnd.asU64 ≤ mappedEnd.asU64) :
  heap.processBreak mapper space memory request =
    (mapNewPages mapper space ((mappedEnd.asU64 - heap.mappedEnd.asU64) / pageSize) heap
      memory).map fun p =>
        if p.1 then (requested, { heap with currentBreak := requested, mappedEnd }, p.2.2)
        else (heap.currentBreak, { heap with mappedEnd := p.2.1.mappedEnd }, p.2.2) := by
  rw [processBreak_eq mapper space memory haccepts]
  cases hgrow : mapNewPages mapper space ((mappedEnd.asU64 - heap.mappedEnd.asU64) / pageSize) heap
    memory with
  | error _ => rfl
  | ok p =>
    obtain ⟨grown, heap₁, _⟩ := p
    have hgrowEq := Accepts.grow_eq hle
    obtain ⟨-, _, hdone⟩ := mapNewPages_ok hwalk hroot
      (Nat.le_trans hback.program_le hback.base_le)
      (by rw [hgrowEq]; exact haccepts.mappedEnd_le) (by simp) h (.refl s _ _) hgrow
    cases grown with
    | false =>
      have hbreak : heap₁.currentBreak = heap.currentBreak := by rw [hdone.heap_eq]
      simp only [ok_bind, Bool.false_eq_true, if_false, Except.map, hbreak]
      rw [← hdone.heap_eq]
    | true =>
      have hend : heap₁.mappedEnd = mappedEnd :=
        eq_of_asU64 ((hdone.mappedEnd_eq rfl).trans hgrowEq)
      simp only [ok_bind, if_true, Except.map, hend, Nat.sub_self, Nat.zero_div, unmapOldPages]
      rw [hdone.heap_eq, hend]

include hwalk h hroot hback haccepts in
lemma processBreak_shrink (hlt : mappedEnd.asU64 < heap.mappedEnd.asU64) :
  heap.processBreak mapper space memory request =
    (unmapOldPages mapper space ((heap.mappedEnd.asU64 - mappedEnd.asU64) / pageSize) heap
      memory).map fun q =>
        (requested, { heap with currentBreak := requested, mappedEnd }, q.2) := by
  have hzero : (mappedEnd.asU64 - heap.mappedEnd.asU64) / pageSize = 0 := by
    rw [Nat.sub_eq_zero_of_le (Nat.le_of_lt hlt), Nat.zero_div]
  rw [processBreak_eq mapper space memory haccepts, hzero, mapNewPages]
  simp only [ok_bind, if_true]
  rcases unmapOldPages_spec hwalk h hroot hback haccepts.base_le_mappedEnd
    (Accepts.shrink_eq (Nat.le_of_lt hlt)) with ⟨-, herr⟩ | ⟨-, _, _, hok, -⟩
  · rw [herr]
    rfl
  · rw [hok]
    rfl

/-- The ways in which an accepted request ends. -/
inductive Breaks (mapper : PageMapper) (space : UserAddressSpace) (heap : UserHeap)
    (memory : Memory) (s : PageState) (request : UserHeapBreakRequest) :
    UserVirtualAddress → UserHeap → Memory → PageState → Prop
  | refused (hrefused : ∀ requested mappedEnd, ¬ heap.Accepts request requested mappedEnd) :
      Breaks mapper space heap memory s request heap.currentBreak heap memory s
  | grown {requested : UserVirtualAddress} {mappedEnd : UserPageStart} {heap₁ : UserHeap}
      {memory' : Memory} {s' : PageState} (haccepts : heap.Accepts request requested mappedEnd)
      (hle : heap.mappedEnd.asU64 ≤ mappedEnd.asU64)
      (hcall : mapNewPages mapper space ((mappedEnd.asU64 - heap.mappedEnd.asU64) / pageSize) heap
        memory = .ok (true, heap₁, memory'))
      (hend : GrowEnd s s space.level4Frame.asAddress heap [] memory
        ((mappedEnd.asU64 - heap.mappedEnd.asU64) / pageSize) true heap₁ memory' s') :
      Breaks mapper space heap memory s request requested
        { heap with currentBreak := requested, mappedEnd } memory' s'
  | stopped {requested : UserVirtualAddress} {mappedEnd : UserPageStart} {heap₁ : UserHeap}
      {memory' : Memory} {s' : PageState} (haccepts : heap.Accepts request requested mappedEnd)
      (hle : heap.mappedEnd.asU64 ≤ mappedEnd.asU64)
      (hcall : mapNewPages mapper space ((mappedEnd.asU64 - heap.mappedEnd.asU64) / pageSize) heap
        memory = .ok (false, heap₁, memory'))
      (hend : GrowEnd s s space.level4Frame.asAddress heap [] memory
        ((mappedEnd.asU64 - heap.mappedEnd.asU64) / pageSize) false heap₁ memory' s') :
      Breaks mapper space heap memory s request heap.currentBreak
        { heap with mappedEnd := heap₁.mappedEnd } memory' s'
  | shrunk {requested : UserVirtualAddress} {mappedEnd : UserPageStart} {memory' : Memory}
      {s' : PageState} (haccepts : heap.Accepts request requested mappedEnd)
      (hlt : mappedEnd.asU64 < heap.mappedEnd.asU64)
      (hclear : Cleared s space.level4Frame.asAddress
        (pagesBelow ((heap.mappedEnd.asU64 - mappedEnd.asU64) / pageSize) heap.mappedEnd) s')
      (hrealizes : memory'.Realizes s')
      (heq : memory' = { memory with tables := memory'.tables, allocator := memory'.allocator }) :
      Breaks mapper space heap memory s request requested
        { heap with currentBreak := requested, mappedEnd } memory' s'

omit haccepts in
include hwalk h hroot hback in
/-- **A returning call.** -/
lemma processBreak_ok
    (hok : heap.processBreak mapper space memory request = .ok (result, heap', memory')) :
    ∃ s', Breaks mapper space heap memory s request result heap' memory' s' := by
  by_cases haccepts : ∃ requested mappedEnd, heap.Accepts request requested mappedEnd
  · obtain ⟨_, mappedEnd, haccepts⟩ := haccepts
    rcases lt_or_ge mappedEnd.asU64 heap.mappedEnd.asU64 with hlt | hle
    · rw [processBreak_shrink hwalk h hroot hback haccepts hlt] at hok
      rcases unmapOldPages_spec hwalk h hroot hback haccepts.base_le_mappedEnd
        (Accepts.shrink_eq (le_of_lt hlt)) with
        ⟨-, herr⟩ | ⟨-, s', memory1, hok1, hclear, h', heq⟩
      · rw [herr] at hok
        cases hok
      · rw [hok1] at hok
        cases hok
        exact ⟨s', .shrunk haccepts hlt hclear h' heq⟩
    rw [processBreak_grow hwalk h hroot hback haccepts hle] at hok
    cases hgrow : mapNewPages mapper space ((mappedEnd.asU64 - heap.mappedEnd.asU64) / pageSize)
      heap memory with
    | error _ =>
      rw [hgrow] at hok
      cases hok
    | ok p =>
      obtain ⟨grown, _, _⟩ := p
      obtain ⟨-, s', hdone⟩ := mapNewPages_ok hwalk hroot
        (le_trans hback.program_le hback.base_le)
        (by rw [Accepts.grow_eq hle]; exact haccepts.mappedEnd_le) (by simp) h (.refl s _ _)
        hgrow
      rw [hgrow] at hok
      cases grown with
      | true =>
        cases hok
        exact ⟨s', .grown haccepts hle hgrow hdone⟩
      | false =>
        cases hok
        exact ⟨s', .stopped haccepts hle hgrow hdone⟩
  · simp only [not_exists] at haccepts
    rw [processBreak_of_refused mapper space memory haccepts] at hok
    cases hok
    exact ⟨s, .refused haccepts⟩

/-- The frame map lets the call end: the growth ends, or the frees of a shrinking call can be
tracked. -/
def CanBreak (heap : UserHeap) (s : PageState) (root : ℕ) (request : UserHeapBreakRequest) : Prop :=
  ∀ requested mappedEnd, heap.Accepts request requested mappedEnd →
    Grows (s.tables.newTables root) (fun page => s.tables.leaf root page.asU64 = none)
      ((mappedEnd.asU64 - heap.mappedEnd.asU64) / pageSize) heap.mappedEnd [] s.labels ∧
    s.labels.CanFree (s.tables.framesOf root
      (pagesBelow ((heap.mappedEnd.asU64 - mappedEnd.asU64) / pageSize) heap.mappedEnd))

omit haccepts in
include hwalk h hroot hback in
/-- **When `process_break` returns.** -/
lemma processBreak_returns_iff : (∃ result, heap.processBreak mapper space memory request =
  .ok result) ↔ heap.CanBreak s space.root request := by
  have hbase := Nat.le_trans hback.program_le hback.base_le
  constructor
  · rintro ⟨_, hok⟩ requested mappedEnd haccepts
    rcases Nat.lt_or_ge mappedEnd.asU64 heap.mappedEnd.asU64 with hlt | hle
    · rw [Nat.sub_eq_zero_of_le (Nat.le_of_lt hlt), Nat.zero_div]
      rw [processBreak_shrink hwalk h hroot hback haccepts hlt] at hok
      rcases unmapOldPages_spec hwalk h hroot hback haccepts.base_le_mappedEnd
        (Accepts.shrink_eq (Nat.le_of_lt hlt)) with ⟨-, herr⟩ | ⟨hfree, -⟩
      · rw [herr] at hok
        cases hok
      · exact ⟨.done, hfree⟩
    rw [Nat.sub_eq_zero_of_le hle, Nat.zero_div]
    rw [processBreak_grow hwalk h hroot hback haccepts hle] at hok
    refine ⟨?_, .nil⟩
    cases hgrow : mapNewPages mapper space ((mappedEnd.asU64 - heap.mappedEnd.asU64) / pageSize)
      heap memory with
    | error _ =>
      rw [hgrow] at hok
      cases hok
    | ok p =>
      exact (mapNewPages_ok hwalk hroot hbase
        (by rw [Accepts.grow_eq hle]; exact haccepts.mappedEnd_le) (by simp) h (.refl s _ _)
        hgrow).1
  intro hcan
  by_cases haccepts : ∃ requested mappedEnd, heap.Accepts request requested mappedEnd
  · obtain ⟨requested, mappedEnd, haccepts⟩ := haccepts
    obtain ⟨hgrows, hfree⟩ := hcan requested mappedEnd haccepts
    rcases Nat.lt_or_ge mappedEnd.asU64 heap.mappedEnd.asU64 with hlt | hle
    · rw [processBreak_shrink hwalk h hroot hback haccepts hlt]
      rcases unmapOldPages_spec hwalk h hroot hback haccepts.base_le_mappedEnd
        (Accepts.shrink_eq (Nat.le_of_lt hlt)) with ⟨hnot, -⟩ | ⟨-, _, memory1, hok1, -⟩
      · exact absurd hfree hnot
      · rw [hok1]
        exact ⟨_, rfl⟩
    rw [processBreak_grow hwalk h hroot hback haccepts hle]
    obtain ⟨_, _, _, hgrow⟩ := exists_mapNewPages hwalk hroot hbase
      (by rw [Accepts.grow_eq hle]; exact haccepts.mappedEnd_le) (by simp) h (.refl s _ _)
      hgrows
    rw [hgrow]
    exact ⟨_, rfl⟩
  · simp only [not_exists] at haccepts
    exact ⟨_, processBreak_of_refused mapper space memory haccepts⟩

end Call
end UserHeap
end ManaOS
