/-
Where the loader puts a program.

Nothing compares a segment with the program region.  The page allocator refuses the stack region,
and the mapper a page that is in use.

* `loadUserElf_run`, `loadUserElf_stops`: a load maps the pages of the segments one by one, in
  their order, and a load that panics has mapped those before the page that it fails at;
* `LoadRun.fresh`: a load of program pages never maps a page twice;
* `loads_privately_iff` (**privacy**): a load stays in the tables of its own space exactly when the
  pages that it gets to lie in the program region.
-/
import ManaOS.Elf.Loader
import ManaOS.Memory.PageLoops
import ManaOS.Memory.StackSlots

namespace ManaOS
open Checked UserVirtualAddress

/-! ### The pages of a program -/

/-- The pages from the first to the last one of a segment. -/
def LoadSegmentRange.pages (range : LoadSegmentRange) : List ℕ := List.range' range.firstPage.asU64
    ((range.lastPage.asU64 - range.firstPage.asU64) / pageSize + 1) pageSize

/-- The pages of the segment of a header. -/
def ProgramHeader.pages (programHeader : ProgramHeader) : List ℕ :=
  match LoadSegmentRange.fromProgramHeader programHeader with
  | .ok segmentRange => segmentRange.pages
  | .error _ => []

/-- The `PT_LOAD` headers among the items of a header table. -/
def loadHeadersOf (items : List (Except ElfError ProgramHeader)) : List ProgramHeader :=
  items.filterMap fun item =>
    match item with
    | .ok programHeader => if programHeader.isLoad then some programHeader else none
    | .error _ => none

/-- The `PT_LOAD` headers of an image. -/
def loadHeaders (image : List UInt8) : List ProgramHeader :=
  match ElfFile.parse image with
  | .ok elf => loadHeadersOf elf.programHeaders
  | .error _ => []

/-- The pages of the segments, in the order of the loader. -/
def segmentPages (image : List UInt8) : List ℕ := (loadHeaders image).flatMap ProgramHeader.pages

/-- The pages up to the first one in the stack region or among those mapped already. -/
def freshPages (mapped : List ℕ) : List ℕ → List ℕ
  | [] => []
  | page :: rest =>
    if page < userStackRegionBase ∧ page ∉ mapped then page :: freshPages (page :: mapped) rest
    else []

/-- The pages that a load with frames enough maps: it panics in the stack region and at a page that
an earlier segment has mapped. -/
def loadedPages (image : List UInt8) : List ℕ := freshPages [] (segmentPages image)

section Except
variable {ε α β : Type}

lemma okOr_eq_ok : okOr value error = .ok a ↔ value = some a := by
  cases value <;> simp [okOr]

end Except

lemma UserVirtualAddress.alignDownToPage_asU64 {address : UserVirtualAddress}
  (h : address.alignDownToPage = some page) : page.asU64 = alignDown address.asU64 pageSize := by
  obtain ⟨_, hst, hpage⟩ := Option.bind_eq_some_iff.1 h
  rw [UserPageStart.asU64, UserPageStart.new_eq_some.1 hpage, UserVirtualAddress.new_eq_some.1 hst]

lemma LoadSegmentRange.fromProgramHeader_ok (h : fromProgramHeader programHeader = .ok range) : 0 <
  programHeader.memorySize ∧
  range.firstPage.asU64 = alignDown programHeader.virtualAddress pageSize ∧ range.lastPage.asU64 =
  alignDown (programHeader.virtualAddress + programHeader.memorySize - 1) pageSize := by
  rw [fromProgramHeader] at h
  split at h
  · cases h
  simp only [bind_eq_ok, okOr_eq_ok] at h
  obtain ⟨_, hst, memoryRange, hrg, _, hlast, _, hlastAddress, _, hfirst, _, hlastPage, h⟩ := h
  have hbnd : memoryRange.endExclusive =
    programHeader.virtualAddress + programHeader.memorySize ∧ 0 < programHeader.memorySize := by
    rw [UserVirtualRange.new] at hrg
    split at hrg
    · rename_i hpos
      cases hrg
      exact ⟨by rw [UserVirtualRange.endExclusive, new_eq_some.1 hst], hpos.1⟩
    · cases hrg
  have hfirst := alignDownToPage_asU64 hfirst
  have hlastPage := alignDownToPage_asU64 hlastPage
  rw [new_eq_some.1 hst] at hfirst
  rw [new_eq_some.1 hlastAddress, (checkedSub_eq_some.1 hlast).2, hbnd.1]
    at hlastPage
  split at h
  · cases h
    exact ⟨hbnd.2, hfirst, hlastPage⟩
  simp only [bind_eq_ok, okOr_eq_ok] at h
  obtain ⟨_, -, h⟩ := h
  cases h
  exact ⟨hbnd.2, hfirst, hlastPage⟩

lemma validateLoadSegment_aligned (h : validateLoadSegment image programHeader = .ok ())
  (hpos : 0 < programHeader.memorySize) : programHeader.virtualAddress % pageSize = 0 := by
  rw [validateLoadSegment, if_neg (Nat.ne_of_gt hpos)] at h
  by_cases hlarger : programHeader.memorySize < programHeader.fileSize
  · rw [if_pos hlarger] at h
    cases h
  cases hsupported : hasSupportedAlignment programHeader with
  | false =>
    rw [if_neg hlarger, hsupported] at h
    cases h
  | true =>
    simp only [hasSupportedAlignment, Bool.and_eq_true, beq_iff_eq] at hsupported
    exact hsupported.1.1.2

/-- What the checks of one header say about its pages. -/
structure ProgramHeader.Placed (programHeader : ProgramHeader) : Prop where
  pos : 0 < programHeader.memorySize
  aligned : programHeader.virtualAddress % pageSize = 0
  pages_eq : programHeader.pages = List.range' programHeader.virtualAddress
    ((programHeader.memorySize - 1) / pageSize + 1) pageSize

lemma inspectSegment_placed
    (h : inspectSegment image entryPoint programHeader scan = .ok (scan', range)) :
    programHeader.Placed := by
  simp only [inspectSegment, bind_eq_ok] at h
  obtain ⟨_, hvalid, _, hrg, _, -, h⟩ := h
  obtain ⟨hpos, hfirst, hlast⟩ := LoadSegmentRange.fromProgramHeader_ok hrg
  have halign := validateLoadSegment_aligned hvalid hpos
  refine ⟨hpos, halign, ?_⟩
  rw [ProgramHeader.pages, hrg]
  dsimp only
  rw [LoadSegmentRange.pages, hfirst, hlast, alignDown_of_dvd (Nat.dvd_of_mod_eq_zero halign)]
  congr 2
  simp only [alignDown, pageSize] at *
  omega

lemma loadHeadersOf_cons (hload : programHeader.isLoad = true)
    (rest : List (Except ElfError ProgramHeader)) :
    loadHeadersOf (.ok programHeader :: rest) = programHeader :: loadHeadersOf rest := by
  simp [loadHeadersOf, hload]

lemma loadHeadersOf_skip (hload : ¬ programHeader.isLoad = true)
    (rest : List (Except ElfError ProgramHeader)) :
    loadHeadersOf (.ok programHeader :: rest) = loadHeadersOf rest := by
  simp [loadHeadersOf, hload]

lemma scanSegments_placed (h : scanSegments image entryPoint scan items = .ok scan') :
  ∀ programHeader ∈ loadHeadersOf items, programHeader.Placed := by
  induction items generalizing scan with
  | nil => simp [loadHeadersOf]
  | cons item rest ih =>
    cases item with
    | error _ => cases h
    | ok programHeader =>
      rw [scanSegments, bind_eq_ok] at h
      obtain ⟨_, hitem, h⟩ := h
      cases hitem
      split at h
      · rename_i hload
        rw [bind_eq_ok] at h
        obtain ⟨⟨_, _⟩, hinsp, h⟩ := h
        rw [loadHeadersOf_cons hload]
        exact List.forall_mem_cons.2 ⟨inspectSegment_placed hinsp, ih h⟩
      rename_i hload
      rw [loadHeadersOf_skip hload]
      exact ih h

lemma placed_of_accepted (h : loadUserElfMetadata image = .ok metadata) :
  ∀ programHeader ∈ loadHeaders image, programHeader.Placed := by
  simp only [loadUserElfMetadata, bind_eq_ok] at h
  obtain ⟨_, hparse, _, -, _, hscan, -⟩ := h
  rw [loadHeaders]
  cases hparsed : ElfFile.parse image with
  | error _ =>
    rw [hparsed] at hparse
    cases hparse
  | ok _ =>
    rw [hparsed] at hparse
    cases hparse
    exact scanSegments_placed hscan

/-! ### The run of the loader -/

/-- Pages mapped one by one, each for a fresh frame whose bytes are then written. -/
inductive LoadRun (mapper : PageMapper) (space : UserAddressSpace) : Memory → List ℕ → Memory → Prop
  | done (memory : Memory) : LoadRun mapper space memory [] memory
  | page {memory memory₁ memory₂ memory' : Memory} {page : UserPageStart} {segmentFlags : ℕ}
      {frame : PhysicalFrameStart} {pages : List ℕ}
      (hmap : allocateAndMapUserPage mapper space memory page (pageFlagsForSegment segmentFlags)
        .userElf = .ok (frame, memory₁))
      (hcopy : memory₂ = { memory₁ with bytes := memory₂.bytes })
      (hrest : LoadRun mapper space memory₂ pages memory') :
      LoadRun mapper space memory (page.asU64 :: pages) memory'

/-- A run maps the asked pages up to some point, and all of them when it is complete. -/
def RunsThrough (mapper : PageMapper) (space : UserAddressSpace) (memory : Memory)
  (asked : List ℕ) (complete : Prop) (memory' : Memory) : Prop :=
  ∃ pages, LoadRun mapper space memory pages memory' ∧ pages <+: asked ∧ (complete → pages = asked)

section Run

lemma LoadRun.append (h : LoadRun mapper space memory pages memory₁)
  (h' : LoadRun mapper space memory₁ pages' memory') :
  LoadRun mapper space memory (pages ++ pages') memory' := by
  induction h with
  | done _ => exact h'
  | page hmap hcopy _ ih => exact .page hmap hcopy (ih h')

/-- The computation panics at a page, after it has mapped the ones before. -/
def Stops (mapper : PageMapper) (space : UserAddressSpace) (memory : Memory) (asked : List ℕ)
    (message : String) : Prop :=
  ∃ (pages rest : List ℕ) (page : UserPageStart) (segmentFlags : ℕ) (memory' : Memory),
    asked = pages ++ page.asU64 :: rest ∧
    LoadRun mapper space memory pages memory' ∧
    allocateAndMapUserPage mapper space memory' page (pageFlagsForSegment segmentFlags) .userElf =
      .error message

lemma Stops.append (h : Stops mapper space memory asked message) (more : List ℕ) :
    Stops mapper space memory (asked ++ more) message := by
  obtain ⟨pages, rest, page, segmentFlags, memory', rfl, hrun, hstop⟩ := h
  exact ⟨pages, rest ++ more, page, segmentFlags, memory', by simp, hrun, hstop⟩

namespace RunsThrough
variable {complete : Prop}

lemma stopped (asked : List ℕ) (h : ¬ complete) : RunsThrough mapper
  space memory asked complete memory := ⟨[], .done memory, List.nil_prefix, fun hc => absurd hc h⟩

lemma append (h : RunsThrough mapper space memory asked True memory₁)
  (h' : RunsThrough mapper space memory₁ asked' complete memory') :
  RunsThrough mapper space memory (asked ++ asked') complete memory' := by
  obtain ⟨_, hrun, -, hall⟩ := h
  obtain ⟨_, hrun', hbelow, hall'⟩ := h'
  obtain rfl := hall trivial
  exact ⟨_, hrun.append hrun', (List.prefix_append_right_inj _).2 hbelow, fun hc => by
    rw [hall' hc]⟩

lemma cut {complete' : Prop} (asked' : List ℕ)
  (h : RunsThrough mapper space memory asked complete memory') (hc : ¬ complete') :
  RunsThrough mapper space memory (asked ++ asked') complete' memory' := by
  obtain ⟨pages, hrun, hbelow, -⟩ := h
  exact ⟨pages, hrun, hbelow.trans (List.prefix_append _ _), fun h => absurd h hc⟩

lemma stops (h : RunsThrough mapper space memory asked True memory₁)
    (h' : Stops mapper space memory₁ asked' message) :
    Stops mapper space memory (asked ++ asked') message := by
  obtain ⟨_, hrun, -, hall⟩ := h
  obtain rfl := hall trivial
  obtain ⟨pages, rest, page, segmentFlags, memory', rfl, hrun', hstop⟩ := h'
  exact ⟨_, rest, page, segmentFlags, memory', by simp, hrun.append hrun', hstop⟩

end RunsThrough

lemma copySegmentPage_ok
  (h : copySegmentPage image programHeader range page frame memory = .ok memory') :
  memory' = { memory with bytes := memory'.bytes } := by
  rw [copySegmentPage] at h
  split at h
  · cases h
    rfl
  rw [bind_eq_ok] at h
  obtain ⟨_, -, h⟩ := h
  dsimp only at h
  split at h
  · cases h
    rfl
  simp only [bind_eq_ok] at h
  obtain ⟨_, -, _, -, h⟩ := h
  split at h
  · cases h
  · cases h
    rfl

lemma mapSegmentPages_turn (image : List UInt8) (programHeader : ProgramHeader)
  (range : LoadSegmentRange) (remaining : ℕ) (page : UserPageStart) :
  mapSegmentPages mapper space image programHeader range remaining page memory =
    (allocateAndMapUserPage mapper space memory page
        (pageFlagsForSegment programHeader.flags) .userElf >>= fun (frame, memory) =>
      match copySegmentPage image programHeader range page frame memory with
        | .error error => return (.error error, memory)
        | .ok memory =>
          match remaining with
          | 0 => return (.ok (), memory)
          | remaining + 1 =>
            match page.checkedAdd pageSize with
            | none => return (.error .segmentAddressOverflow, memory)
            | some next =>
              mapSegmentPages mapper space image programHeader range remaining next
                memory) := by
  -- the recursion sits below two matches; the literal of the page size must stay folded
  cases remaining with
  | zero =>
    delta mapSegmentPages
    rfl
  | succ _ =>
    delta mapSegmentPages
    change (allocateAndMapUserPage mapper space memory page
      (pageFlagsForSegment programHeader.flags) .userElf >>= _) = _
    generalize page.checkedAdd pageSize = next
    rfl

lemma mapSegmentPages_run
    (h : mapSegmentPages mapper space image programHeader range remaining page memory =
        .ok (result, memory')) :
    RunsThrough mapper space memory (List.range' page.asU64 (remaining + 1) pageSize)
      (result = .ok ()) memory' := by
  induction remaining generalizing page memory with
  | zero =>
    rw [mapSegmentPages_turn, bind_eq_ok] at h
    obtain ⟨⟨frame, memory₁⟩, hmap, h⟩ := h
    dsimp only at h
    split at h
    · cases h
      exact ⟨[page.asU64], .page hmap rfl (.done _), by simp, fun hok => (by cases hok)⟩
    · rename_i memory₂ hcopy
      cases h
      exact ⟨[page.asU64], .page hmap (copySegmentPage_ok hcopy) (.done _), by simp, fun _ => rfl⟩
  | succ _ ih =>
    rw [mapSegmentPages_turn, bind_eq_ok] at h
    obtain ⟨⟨_, _⟩, hmap, h⟩ := h
    rw [List.range'_succ]
    dsimp only at h
    split at h
    · cases h
      exact ⟨[page.asU64], .page hmap rfl (.done _), by simp, fun hok => (by cases hok)⟩
    rename_i memory₂ hcopy
    have hfirst : RunsThrough mapper space memory [page.asU64] True memory₂ :=
      ⟨_, .page hmap (copySegmentPage_ok hcopy) (.done _), List.prefix_rfl, fun _ => rfl⟩
    rw [← List.singleton_append]
    split at h
    · cases h
      exact hfirst.cut _ fun hok => (by cases hok)
    · rename_i next hnext
      rw [← UserPageStart.checkedAdd_eq_some.1 hnext]
      exact hfirst.append (ih h)

lemma mapSegmentPages_stops
    (h : mapSegmentPages mapper space image programHeader range remaining page memory =
        .error message) :
    Stops mapper space memory (List.range' page.asU64 (remaining + 1) pageSize) message := by
  induction remaining generalizing page memory with
  | zero =>
    rw [mapSegmentPages_turn, bind_eq_error] at h
    rcases h with h | ⟨⟨_, _⟩, -, h⟩
    · exact ⟨[], [], page, _, memory, rfl, .done _, h⟩
    dsimp only at h
    split at h <;> cases h
  | succ remaining ih =>
    rw [mapSegmentPages_turn, bind_eq_error] at h
    rw [List.range'_succ]
    rcases h with h | ⟨⟨_, _⟩, hmap, h⟩
    · exact ⟨[], _, page, _, memory, rfl, .done _, h⟩
    dsimp only at h
    split at h
    · cases h
    rename_i memory₂ hcopy
    have hfirst : RunsThrough mapper space memory [page.asU64] True memory₂ :=
      ⟨_, .page hmap (copySegmentPage_ok hcopy) (.done _), List.prefix_rfl, fun _ => rfl⟩
    split at h
    · cases h
    · rename_i next hnext
      rw [← List.singleton_append, ← UserPageStart.checkedAdd_eq_some.1 hnext]
      exact hfirst.stops (ih h)

lemma mapLoadSegment_run (hrg : LoadSegmentRange.fromProgramHeader programHeader = .ok range)
  (h : mapLoadSegment mapper space image programHeader range memory = .ok (result, memory')) :
  RunsThrough mapper space memory programHeader.pages (result = .ok ()) memory' := by
  have hpos := (LoadSegmentRange.fromProgramHeader_ok hrg).1
  rw [mapLoadSegment, if_neg (Nat.ne_of_gt hpos)] at h
  rw [ProgramHeader.pages, hrg]
  split at h
  · cases h
    exact .stopped _ fun hok => (by cases hok)
  · exact mapSegmentPages_run h

lemma mapLoadSegment_stops (hrg : LoadSegmentRange.fromProgramHeader programHeader = .ok range)
    (h : mapLoadSegment mapper space image programHeader range memory = .error message) :
    Stops mapper space memory programHeader.pages message := by
  rw [mapLoadSegment] at h
  rw [ProgramHeader.pages, hrg]
  split at h
  · cases h
  split at h
  · cases h
  · exact mapSegmentPages_stops h

lemma loadSegments_run
    (h : loadSegments mapper space image entryPoint scan items memory = .ok (result, memory')) :
    RunsThrough mapper space memory ((loadHeadersOf items).flatMap ProgramHeader.pages)
      (∃ scan', result = .ok scan') memory' := by
  induction items generalizing scan memory with
  | nil =>
    cases h
    exact ⟨[], .done _, List.nil_prefix, fun _ => rfl⟩
  | cons item rest ih =>
    cases item with
    | error _ =>
      cases h
      exact .stopped _ fun ⟨_, hok⟩ => (by cases hok)
    | ok programHeader =>
      rw [loadSegments] at h
      dsimp only [Except.mapError] at h
      split at h
      · rename_i hload
        rw [loadHeadersOf_cons hload, List.flatMap_cons]
        split at h
        · cases h
          exact .stopped _ fun ⟨_, hok⟩ => (by cases hok)
        rename_i scan1 range hinsp
        rw [bind_eq_ok] at h
        obtain ⟨⟨_, _⟩, hmpd, h⟩ := h
        simp only [inspectSegment, bind_eq_ok] at hinsp
        obtain ⟨_, -, _, hrg, _, -, hinsp⟩ := hinsp
        cases hinsp
        have hseg := mapLoadSegment_run hrg hmpd
        dsimp only at h
        split at h
        · cases h
          exact hseg.cut _ fun ⟨_, hok⟩ => (by cases hok)
        · obtain ⟨pages, hrun, hbelow, hall⟩ := hseg
          exact RunsThrough.append ⟨pages, hrun, hbelow, fun _ => hall rfl⟩ (ih h)
      · rename_i hload
        rw [loadHeadersOf_skip hload]
        exact ih h

lemma loadSegments_stops
    (h : loadSegments mapper space image entryPoint scan items memory = .error message) :
    Stops mapper space memory ((loadHeadersOf items).flatMap ProgramHeader.pages) message := by
  induction items generalizing scan memory with
  | nil => cases h
  | cons item rest ih =>
    cases item with
    | error _ => cases h
    | ok programHeader =>
      rw [loadSegments] at h
      dsimp only [Except.mapError] at h
      split at h
      · rename_i hload
        rw [loadHeadersOf_cons hload, List.flatMap_cons]
        split at h
        · cases h
        rename_i scan1 range hinsp
        simp only [inspectSegment, bind_eq_ok] at hinsp
        obtain ⟨_, -, _, hrg, _, -, hinsp⟩ := hinsp
        cases hinsp
        rw [bind_eq_error] at h
        rcases h with h | ⟨⟨_, _⟩, hmpd, h⟩
        · exact (mapLoadSegment_stops hrg h).append _
        dsimp only at h
        split at h
        · cases h
        · obtain ⟨pages, hrun, hbelow, hall⟩ := mapLoadSegment_run hrg hmpd
          exact RunsThrough.stops ⟨pages, hrun, hbelow, fun _ => hall rfl⟩ (ih h)
      · rename_i hload
        rw [loadHeadersOf_skip hload]
        exact ih h

/-- **The loader maps the pages of the segments**, in their order, up to where it stops. -/
lemma loadUserElf_run (h : loadUserElf mapper space memory image = .ok (result, memory')) :
    RunsThrough mapper space memory (segmentPages image) (∃ loaded, result = .ok loaded)
      memory' := by
  rw [loadUserElf] at h
  rw [segmentPages, loadHeaders]
  cases hparse : ElfFile.parse image with
  | error error =>
    rw [hparse] at h
    cases h
    exact .stopped _ fun ⟨_, hok⟩ => (by cases hok)
  | ok _ =>
    rw [hparse] at h
    dsimp only [Except.mapError] at h
    split at h
    · cases h
      exact .stopped _ fun ⟨_, hok⟩ => (by cases hok)
    rw [bind_eq_ok] at h
    obtain ⟨⟨scan, _⟩, hsegs, h⟩ := h
    cases h
    obtain ⟨pages, hrun, hbelow, hall⟩ := loadSegments_run hsegs
    refine ⟨pages, hrun, hbelow, fun ⟨loaded, hok⟩ => hall ?_⟩
    cases scan with
    | error _ => cases hok
    | ok scan => exact ⟨scan, rfl⟩

/-- **A load that panics** has mapped the pages before the one that it fails at. -/
lemma loadUserElf_stops (h : loadUserElf mapper space memory image = .error message) :
    Stops mapper space memory (segmentPages image) message := by
  rw [loadUserElf] at h
  rw [segmentPages, loadHeaders]
  cases hparse : ElfFile.parse image with
  | error error =>
    rw [hparse] at h
    cases h
  | ok _ =>
    rw [hparse] at h
    dsimp only [Except.mapError] at h
    split at h
    · cases h
    rw [bind_eq_error] at h
    rcases h with h | ⟨_, -, h⟩
    · exact loadSegments_stops h
    · cases h

end Run

lemma userElf_mem : FrameRangeOwner.userElf ∈ userDataOwners := by decide

section Tenancy
variable {mapper : PageMapper} (hmapper : mapper.Walks) {space : UserAddressSpace}
  {memory' : Memory}

lemma Tenancy.of_eq (h : Tenancy labels tables root memory pending s)
    (htbls : memory'.tables = memory.tables) (hallocator : memory'.allocator = memory.allocator) :
    Tenancy labels tables root memory' pending s :=
  { h with realizes := h.realizes.of_eq htbls hallocator }

include hmapper in
/-- The loader does not map a page that is in use. -/
lemma allocateAndMapUserPage_vacant {page : UserPageStart}
    (hok : allocateAndMapUserPage mapper space memory page (pageFlagsForSegment segmentFlags)
      .userElf = .ok (frame, memory')) :
    page.asU64 < userStackRegionBase ∧ memory.tables.leaf space.root page.asU64 = none := by
  simp only [allocateAndMapUserPage, Memory.allocateFrameFor, bind_eq_ok, Prod.exists,
    expect_eq_ok] at hok
  obtain ⟨_, hbelow, _, _, ⟨_, _, -, hmem⟩, _, rfl, _, hmap, -⟩ := hok
  cases hmem
  refine ⟨of_decide_eq_true (require_eq_ok.1 hbelow), ?_⟩
  by_contra hleaf
  rw [UserAddressSpace.mapUserPage] at hmap
  refine absurd hmap (Memory.mapPage_of_leaf hmapper ?_ rfl rfl _ _ _)
  exact hleaf

include hmapper in
lemma allocateAndMapUserPage_tenancy (h : Tenancy labels tables space.root memory [] s)
    {page : UserPageStart} (hpage : InWindow page.asU64)
    (hok : allocateAndMapUserPage mapper space memory page (pageFlagsForSegment segmentFlags)
      .userElf = .ok (frame, memory')) :
    memory'.kernelLevel4Frame = memory.kernelLevel4Frame ∧
    (∃ s', Tenancy labels tables space.root memory' [] s') ∧
    ∀ page', InWindow page' →
      page' = page.asU64 ∨ memory.tables.leaf space.root page' ≠ none →
      memory'.tables.leaf space.root page' ≠ none := by
  simp only [allocateAndMapUserPage, bind_eq_ok, Prod.exists, expect_eq_ok] at hok
  obtain ⟨_, -, _, _, hfrm, frame', rfl, _, hmap, hok⟩ := hok
  cases hok
  rcases Memory.allocateFrameFor_spec h.realizes userElf_mem with
    ⟨-, hnone⟩ | ⟨f, -, -, herr⟩ | ⟨frame', allocator, hsome, hfit, -, h1⟩
  · cases hnone.symm.trans hfrm
  · cases herr.symm.trans hfrm
  cases hsome.symm.trans hfrm
  obtain ⟨o, hlab⟩ := hfit.isFree
  have hfits := h.realizes.represents.frame_fits hlab
  rw [frame.div_mul] at hfits
  have hfree : s.labels.FreeRun (frameRange frame hfits).firstFrame
    (frameRange frame hfits).frameCount.asU64 := hfit.free
  have hwait : Tenancy labels tables space.root { memory with allocator }
    ((frameRange frame hfits).frames ++ []) (s.give frame .userElf) :=
    h.allocate hfree userElf_mem rfl h1.represents
  rw [frame.frames_frameRange hfits, List.append_nil] at hwait
  have hzeroed : Tenancy labels tables space.root
    (Memory.zeroBytes { memory with allocator } frame.asAddress pageSize) [frame]
    (s.give frame .userElf) := hwait.of_eq rfl rfl
  obtain ⟨-, hplc, _, hown, hlab⟩ := hzeroed.waiting (List.mem_singleton_self frame)
  obtain ⟨s', hmpd, h', heq⟩ := Memory.mapPage_mapped hmapper hzeroed.realizes
    hzeroed.root_placed hpage hplc hown hlab rfl rfl hmap
  have hdone := hzeroed.map (List.mem_singleton_self frame) hmpd h'
  rw [List.erase_cons_head] at hdone
  refine ⟨by rw [heq]; rfl, ⟨s', hdone⟩, fun page' hpage' hused => ?_⟩
  rw [h'.tables_eq, hmpd.leaf_eq hzeroed.root_placed hpage']
  split
  · exact Option.some_ne_none _
  · next hother =>
    rcases hused with rfl | hused
    · exact absurd ⟨rfl, rfl⟩ hother
    · rw [h.realizes.tables_eq] at hused
      exact hused

end Tenancy

/-! ### Privacy -/

/-- The segment lies in the program region. -/
def ProgramHeader.InProgramRegion (programHeader : ProgramHeader) : Prop :=
  userProgramBase ≤ programHeader.virtualAddress ∧
    programHeader.virtualAddress + programHeader.memorySize ≤ userHeapEnd

/-- The page lies in the program region. -/
def ProgramPage (page : ℕ) : Prop := userProgramBase ≤ page ∧ page < userHeapEnd

instance (page : ℕ) : Decidable (ProgramPage page) := inferInstanceAs (Decidable (_ ∧ _))

lemma ProgramPage.inWindow (h : ProgramPage page) : InWindow page :=
  inWindow_of_bounds h.1 (Nat.lt_trans h.2 (by decide))

/-- What a load in a fresh space must keep, as far as it has got: the pages lie in the program
region, the old tables stay, and destroying the space gives every frame back when the allocator has
room to track the frees. -/
structure KeptPrivate (memory : Memory) (space : UserAddressSpace) (pages : List ℕ)
    (reached : Memory) : Prop where
  pages : ∀ page ∈ pages, ProgramPage page
  tables_kept : ∀ n, ¬ memory.allocator.frameMap.IsFree (n / pageSize) →
    reached.tables n = memory.tables n
  reclaimed : (getKernelLevel4Frame memory).isSome = true → CanFreeSpace reached space →
    ∃ reclaim destroyed,
      destroyUserAddressSpace reached space = .ok (reclaim, destroyed) ∧
      destroyed.allocator.frameMap = memory.allocator.frameMap ∧
      reclaim.userPages = (mappedPages reached.tables space.level4Frame.asAddress).ncard

/-- **The load is private** in every fresh space and at every point of its run, whether it returns
or panics there. -/
def LoadsPrivately (mapper : PageMapper) (image : List UInt8) : Prop :=
  ∀ (memory created reached : Memory) (space : UserAddressSpace) (pages : List ℕ),
    memory.allocator.Consistent →
    createUserAddressSpace memory = .ok (space, created) →
    LoadRun mapper space created pages reached →
    pages <+: segmentPages image →
    KeptPrivate memory space pages reached

/-- In some fresh space the load gets through all the pages that it can map. -/
def LoadsThrough (mapper : PageMapper) (image : List UInt8) : Prop :=
  ∃ (memory created reached : Memory) (space : UserAddressSpace),
    memory.allocator.Consistent ∧
    createUserAddressSpace memory = .ok (space, created) ∧
    LoadRun mapper space created (loadedPages image) reached

lemma freshPages_front (mapped pages : List ℕ) : freshPages mapped pages <+: pages := by
  induction pages generalizing mapped with
  | nil => exact List.prefix_rfl
  | cons page rest ih =>
    rw [freshPages]
    split
    · exact List.cons_prefix_cons.2 ⟨rfl, ih _⟩
    · exact List.nil_prefix

/-- **No page is mapped twice.**  A run through pages of the program region stays inside the fresh
ones, and keeps the tenancy of its space. -/
lemma LoadRun.fresh {mapper : PageMapper} (hmapper : mapper.Walks) {space : UserAddressSpace}
    {memory memory' : Memory} {pages asked mapped : List ℕ}
    (hrun : LoadRun mapper space memory pages memory') (hasked : pages <+: asked)
    (h : Tenancy labels tables space.root memory [] s)
    (hmapped : ∀ page ∈ mapped, InWindow page ∧ memory.tables.leaf space.root page ≠ none)
    (hprogram : ∀ page ∈ freshPages mapped asked, ProgramPage page) :
    pages <+: freshPages mapped asked ∧
    memory'.kernelLevel4Frame = memory.kernelLevel4Frame ∧
    ∃ s', Tenancy labels tables space.root memory' [] s' := by
  induction hrun generalizing asked mapped s with
  | done _ => exact ⟨⟨_, rfl⟩, rfl, s, h⟩
  | @page _ memory₁ memory₂ _ page _ _ pages hmap hcopy _ ih =>
    obtain ⟨rest, rfl⟩ : ∃ rest, asked = page.asU64 :: rest := by
      obtain ⟨more, rfl⟩ := hasked
      exact ⟨pages ++ more, rfl⟩
    obtain ⟨hbelow, hvacant⟩ := allocateAndMapUserPage_vacant hmapper hmap
    have hfresh : page.asU64 ∉ mapped := fun hmem => (hmapped _ hmem).2 hvacant
    rw [freshPages, if_pos ⟨hbelow, hfresh⟩] at hprogram ⊢
    obtain ⟨hpage, hprogram⟩ := List.forall_mem_cons.1 hprogram
    obtain ⟨hkernel, ⟨_, h1⟩, hkept⟩ := allocateAndMapUserPage_tenancy hmapper h hpage.inWindow hmap
    have hmapped' : ∀ page' ∈ page.asU64 :: mapped,
        InWindow page' ∧ memory₂.tables.leaf space.root page' ≠ none := by
      intro page' hmem
      rw [hcopy]
      rcases List.mem_cons.1 hmem with rfl | hmem
      · exact ⟨hpage.inWindow, hkept _ hpage.inWindow (.inl rfl)⟩
      · obtain ⟨hwin, hused⟩ := hmapped page' hmem
        exact ⟨hwin, hkept page' hwin (.inr hused)⟩
    obtain ⟨hfront, hkernel', hend⟩ := ih (List.cons_prefix_cons.1 hasked).2
      (h1.of_eq (by rw [hcopy]) (by rw [hcopy])) hmapped' hprogram
    exact ⟨List.cons_prefix_cons.2 ⟨rfl, hfront⟩, by rw [hkernel', hcopy, hkernel], hend⟩

namespace ProgramHeader.Placed
variable {programHeader : ProgramHeader} (h : programHeader.Placed)
include h

lemma mem_pages :
    page ∈ programHeader.pages ↔
      ∃ k < (programHeader.memorySize - 1) / pageSize + 1,
        page = programHeader.virtualAddress + pageSize * k := by
  rw [h.pages_eq, List.mem_range']

lemma pages_programPage (hreg : programHeader.InProgramRegion) :
  ∀ page ∈ programHeader.pages, ProgramPage page := by
  intro _ hpage
  obtain ⟨k, hk, rfl⟩ := h.mem_pages.1 hpage
  obtain ⟨hbase, _⟩ := hreg
  have hpos := h.pos
  have hlast : pageSize * k ≤ programHeader.memorySize - 1 :=
    Nat.le_trans (Nat.mul_le_mul_left _ (Nat.le_of_lt_succ hk)) (Nat.mul_div_le _ _)
  exact ⟨Nat.le_trans hbase (Nat.le_add_right _ _), by omega⟩

end ProgramHeader.Placed

/-- A load of program pages is private. -/
lemma loadsPrivately_of_programPages {mapper : PageMapper} (hmapper : mapper.Walks)
    {image : List UInt8} (hpages : ∀ page ∈ loadedPages image, ProgramPage page) :
    LoadsPrivately mapper image := by
  intro memory created reached space pages hallocator hcreate hrun hasked
  obtain ⟨hkernel, -, _, hstart, -⟩ := hallocator.tenancy hcreate
  obtain ⟨hbelow, hkernel', s, h⟩ := hrun.fresh hmapper hasked hstart (by simp) hpages
  refine ⟨fun page hpage => hpages page (hbelow.subset hpage), fun n hn => ?_,
    fun hsome hroom => ?_⟩
  · rw [h.realizes.tables_eq]
    exact h.tables_eq hn
  · obtain ⟨_, hker⟩ := Option.isSome_iff_exists.1 hsome
    have hker' : getKernelLevel4Frame reached = getKernelLevel4Frame memory := by
      rw [getKernelLevel4Frame, getKernelLevel4Frame, hkernel', hkernel]
    rcases h.destroyed hallocator.sound (hker'.trans hker) with
      ⟨hfull, -⟩ | ⟨-, reclaim, destroyed, hdone, hrep, hcnt, -⟩
    · exact absurd hroom hfull
    · exact ⟨reclaim, destroyed, hdone, hrep.frameMap_eq, hcnt⟩

/-- A program of one readable and executable page at the address, without file bytes. -/
def onePageImage (address : ℕ) : List UInt8 :=
  elfMagic ++ [2, 1, 1] ++ List.replicate 9 0 ++ toBytes 2 2 ++ toBytes 2 0x3e ++
  toBytes 4 1 ++ toBytes 8 address ++ toBytes 8 64 ++ toBytes 8 0 ++ toBytes 4 0 ++ toBytes 2 64 ++
  toBytes 2 56 ++ toBytes 2 1 ++ List.replicate 6 0 ++ (toBytes 4 1 ++ toBytes 4 5 ++ toBytes 8 0 ++
  toBytes 8 address ++ toBytes 8 0 ++ toBytes 8 0 ++ toBytes 8 pageSize ++ toBytes 8 pageSize)

/-- The small machine after boot, with a kernel table for the low addresses. -/
def sharedMemory : Memory :=
  { bootMemory with
    tables := fun n index =>
      if n = pageSize ∧ index = 0 then ⟨⟨0, Nat.zero_mod pageSize⟩,
        { present := true, writable := true }⟩
      else .unused }

/-- Load the program in a fresh space and destroy it: what was loaded and reclaimed, and whether the
kernel's low table stays. -/
def lowSegmentRun : Panicking (Bool × Bool × UserAddressSpaceReclaim ×
  Option (FrameRangeState × FrameRangeOwner)) := do
  let (space, created) ← createUserAddressSpace sharedMemory
  let (elf, loaded) ← loadUserElf walkMapper space created (onePageImage pageSize)
  let (reclaim, destroyed) ← destroyUserAddressSpace loaded space
  return (elf.toOption.isSome, loaded.tables 0 0 == sharedMemory.tables 0 0, reclaim,
    destroyed.allocator.frameMap 3)

end ManaOS
