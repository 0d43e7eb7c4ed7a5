/-
The kernel virtual range allocator as a set of free pages (`memory/virtual_allocator.rs`).

Any two free ranges have a gap between them, so first fit finds the lowest free run, and
`free_pages` may look at the two neighbours of the freed range only.

* `refines_free_pages` (**refinement**): the calls read on the set of free pages;
* `free_pages_history_independent`: the free ranges are a function of that set.
-/
import ManaOS.Lib.RunList
import ManaOS.Memory.VirtualAllocator

namespace ManaOS
open Checked RunList KernelVirtualRangeAllocator

/-! ### Page numbers -/

/-- The number of the page at an aligned kernel address. -/
def KernelPageStart.page (start : KernelPageStart) : ℕ := start.asU64 / pageSize

lemma KernelPageStart.asU64_eq (start : KernelPageStart) : start.asU64 = start.page * pageSize :=
  (Nat.div_mul_cancel (Nat.dvd_of_mod_eq_zero start.aligned)).symm

variable {start : KernelPageStart}

lemma KernelPageStart.eq_of_page {start' : KernelPageStart} (h : start.page = start'.page) :
  start = start' := by
  have heq : start.asU64 = start'.asU64 := by rw [start.asU64_eq, start'.asU64_eq, h]
  cases start
  cases start'
  cases heq
  rfl

lemma KernelPageStart.page_lt_iff {start' : KernelPageStart} :
  start.asU64 < start'.asU64 ↔ start.page < start'.page := by
  rw [start.asU64_eq, start'.asU64_eq]
  exact Nat.mul_lt_mul_right (by decide)

lemma KernelPageStart.exists_checkedAdd_pages (hfits : (start.page + count) * pageSize < wordSize) :
  ∃ stop, start.checkedAdd (count * pageSize) = some stop ∧ stop.page = start.page + count := by
  have hker := start.kernelHalf
  rw [Nat.add_mul, ← start.asU64_eq] at hfits
  have halign : (start.asU64 + count * pageSize) % pageSize = 0 := by
    rw [Nat.add_mul_mod_self_right]
    exact start.aligned
  refine ⟨⟨start.asU64 + count * pageSize, halign, Nat.le_add_right_of_le hker⟩, ?_,
    Nat.add_mul_div_right _ _ (by decide)⟩
  rw [KernelPageStart.checkedAdd, checkedAdd_eq_some.2 ⟨hfits, rfl⟩, Option.bind_some, new,
    dif_pos ⟨halign, Nat.le_add_right_of_le hker⟩]

lemma KernelPageStart.checkedAdd_pages_eq_some
    (hfits : (start.page + count) * pageSize < wordSize) :
    start.checkedAdd (count * pageSize) = some stop ↔ stop.page = start.page + count := by
  obtain ⟨_, hsome, hpage⟩ := exists_checkedAdd_pages hfits
  rw [hsome, Option.some.injEq]
  constructor
  · rintro rfl
    exact hpage
  · intro h
    exact eq_of_page (hpage.trans h.symm)

/-- A free range as a run of page numbers. -/
def VirtualFreeRange.run (range : VirtualFreeRange) : Run Unit :=
  ⟨range.start.page, range.pageCount, ()⟩

open VirtualFreeRange (run)

/-- A reserved range as a run of page numbers. -/
def KernelVirtualRange.run (range : KernelVirtualRange) : Run Unit :=
  ⟨range.start.page, range.pageCount.asU64, ()⟩

def KernelVirtualRange.pages (range : KernelVirtualRange) : Set ℕ := {page | range.run.Covers page}

lemma KernelVirtualRange.endExclusive_eq (range : KernelVirtualRange) :
  range.endExclusive = range.run.stop * pageSize := by
  rw [endExclusive, range.start.asU64_eq, Run.stop, Nat.add_mul]
  rfl

lemma VirtualFreeRange.endExclusive_eq_some {range : VirtualFreeRange}
  (hfits : range.run.stop * pageSize < wordSize) :
  range.endExclusive = some stop ↔ stop.page = range.run.stop := by
  have hlt : range.pageCount * pageSize < wordSize := by
    refine Nat.lt_of_le_of_lt ?_ hfits
    exact Nat.mul_le_mul_right _ (Nat.le_add_left _ _)
  rw [endExclusive, checkedMul_eq_some.2 ⟨hlt, rfl⟩, Option.bind_some]
  exact KernelPageStart.checkedAdd_pages_eq_some hfits

/-- `merge_adjacent_free_ranges` is the merge pass of run lists below the top of the address space.
-/
lemma map_run_mergeFreeFrom (hsort : IsSorted ((current :: rest).map run))
  (hfits : ∀ range ∈ current :: rest, range.run.stop * pageSize < wordSize) :
  (mergeFreeFrom current rest).map run = coalesceFrom current.run (rest.map run) := by
  induction rest generalizing current with
  | nil => rfl
  | cons next _ ih =>
    have hcur := hfits current (by simp)
    have hnext := hfits next (by simp)
    rw [mergeFreeFrom, List.map_cons, coalesceFrom]
    have htouch : current.endExclusive = some next.start ↔
      current.run.label = next.run.label ∧ current.run.stop = next.run.start := by
      rw [VirtualFreeRange.endExclusive_eq_some hcur]
      exact ⟨fun h => ⟨rfl, h.symm⟩, fun h => h.2.symm⟩
    by_cases h : current.endExclusive = some next.start
    · obtain ⟨-, hstop⟩ := htouch.1 h
      rw [if_pos h, if_pos (htouch.1 h)]
      have hsum : saturatingAdd current.pageCount next.pageCount =
        current.pageCount + next.pageCount := by
        refine saturatingAdd_of_lt (Nat.lt_of_le_of_lt ?_ hnext)
        have : next.run.stop = current.start.page + current.pageCount + next.pageCount := by
          rw [Run.stop, ← hstop]
          rfl
        rw [this]
        calc current.pageCount + next.pageCount
            ≤ current.start.page + current.pageCount + next.pageCount := by omega
          _ ≤ _ := Nat.le_mul_of_pos_right _ (by decide)
      rw [hsum]
      refine @ih ⟨current.start, current.pageCount + next.pageCount⟩
        (isSorted_absorb hsort hstop) fun range hrg => ?_
      rcases List.mem_cons.1 hrg with rfl | hrg
      · have hlen : (run ⟨current.start,
          current.pageCount + next.pageCount⟩).stop = next.run.stop := by
          rw [Run.stop, Run.stop, ← hstop, Run.stop]
          exact (Nat.add_assoc _ _ _).symm
        rw [hlen]
        exact hnext
      · exact hfits range (by simp [hrg])
    · rw [if_neg h, if_neg fun ht => h (htouch.2 ht), List.map_cons]
      exact congrArg _ (ih hsort.tail fun range hrg => hfits range (by simp_all))

lemma map_run_mergeAdjacentFreeRanges {ranges : List VirtualFreeRange}
  (hsort : IsSorted (ranges.map run))
  (hfits : ∀ range ∈ ranges, range.run.stop * pageSize < wordSize) :
  (mergeAdjacentFreeRanges ranges).map run = coalesce (ranges.map run) := by
  cases ranges with
  | nil => rfl
  | cons _ _ => exact map_run_mergeFreeFrom hsort hfits

namespace KernelVirtualRangeAllocator

/-! ### What every call keeps -/

/-- The pages that can be allocated. -/
def free (allocator : KernelVirtualRangeAllocator) : Set ℕ :=
  covered (allocator.freeRanges.map VirtualFreeRange.run)

/-- The pages that the allocator was made for. -/
def managed (allocator : KernelVirtualRangeAllocator) : Set ℕ := {page | allocator.managedStart.page
  ≤ page ∧ page < allocator.managedStart.page + allocator.managedPageCount.asU64}

/-- `count` free pages from `page` on. -/
def Fits (allocator : KernelVirtualRangeAllocator) (count : PageCount) (page : ℕ) : Prop :=
  ∀ p, page ≤ p → p < page + count.asU64 → p ∈ allocator.free

/-- The free ranges are a canonical run list inside the managed range. -/
structure Lawful (allocator : KernelVirtualRangeAllocator) : Prop where
  fits : (allocator.managedStart.page + allocator.managedPageCount.asU64) * pageSize < wordSize
  canonical : IsCanonical (allocator.freeRanges.map VirtualFreeRange.run)
  inside : ∀ range ∈ allocator.freeRanges, allocator.managedStart.page ≤ range.run.start ∧
    range.run.stop ≤ allocator.managedStart.page + allocator.managedPageCount.asU64
  length_le : allocator.freeRanges.length ≤ maxFreeRanges

variable {allocator : KernelVirtualRangeAllocator}

lemma Lawful.fits_of_mem (h : allocator.Lawful) (hrg : range ∈ allocator.freeRanges) :
  range.run.stop * pageSize < wordSize :=
  Nat.lt_of_le_of_lt (Nat.mul_le_mul_right _ (h.inside range hrg).2) h.fits

lemma Lawful.free_subset (h : allocator.Lawful) : allocator.free ⊆ allocator.managed := by
  rintro _ ⟨_, hrun, hlow, hhigh⟩
  obtain ⟨range, hrg, rfl⟩ := List.mem_map.1 hrun
  obtain ⟨h1, h2⟩ := h.inside range hrg
  exact ⟨h1.trans hlow, hhigh.trans_le h2⟩

variable {count : PageCount} {ranges : List VirtualFreeRange} {range : KernelVirtualRange}
    {r : VirtualFreeRange}

lemma Lawful.exists_range_of_fits (h : allocator.Lawful) (hfits : allocator.Fits count page) :
  ∃ range ∈ allocator.freeRanges, range.run.Contains page count.asU64 := by
  obtain ⟨_, hrun, -, hcont⟩ := h.canonical.exists_run_of_forall (x := ()) count.pos
    fun p hlow hhigh => by
      obtain ⟨a, ha, hcov⟩ := hfits p hlow hhigh
      exact h.canonical.labelAt_eq_some.2 ⟨a, ha, hcov, rfl⟩
  obtain ⟨range, hrg, rfl⟩ := List.mem_map.1 hrun
  exact ⟨range, hrg, hcont⟩

lemma lawful_new (h : KernelVirtualRangeAllocator.new start count = some allocator) :
  allocator.Lawful := by
  obtain ⟨range, hrg, rfl⟩ := Option.map_eq_some_iff.1 h
  rw [KernelVirtualRange.new] at hrg
  split_ifs at hrg with hfits
  rw [PageCount.byteLen, start.asU64_eq, ← Nat.add_mul] at hfits
  refine ⟨hfits, ⟨.cons count.pos .nil (by simp), List.pairwise_singleton _ _⟩, ?_,
    Nat.succ_le_succ (Nat.zero_le _)⟩
  intro _ hrg
  obtain rfl := List.mem_singleton.1 hrg
  exact ⟨Nat.le_refl _, Nat.le_refl _⟩

/-! ### Allocation -/

/-- The range that first fit takes, with the free ranges before and after it. -/
structure Takes (count : PageCount) (ranges : List VirtualFreeRange) (range : KernelVirtualRange)
    (ranges' : List VirtualFreeRange) (before : List VirtualFreeRange) (taken : VirtualFreeRange)
    (after : List VirtualFreeRange) : Prop where
  split : ranges = before ++ taken :: after
  skips : ∀ r ∈ before, r.pageCount < count.asU64
  enough : count.asU64 ≤ taken.pageCount
  start_eq : range.start = taken.start
  count_eq : range.pageCount = count
  rest_eq : ranges'.map VirtualFreeRange.run = before.map VirtualFreeRange.run ++
      (dropFront taken.run count.asU64 ++ after.map VirtualFreeRange.run)
  length_le : ranges'.length ≤ ranges.length

lemma takes_head {freeRange : VirtualFreeRange}
  (rest : List VirtualFreeRange) (hfits : freeRange.run.stop * pageSize < wordSize)
  (henough : count.asU64 ≤ freeRange.pageCount) :
  ∃ range ranges', allocatePagesFrom count (freeRange :: rest) = some (range, ranges') ∧
    Takes count (freeRange :: rest) range ranges' [] freeRange rest := by
  have hle : (freeRange.start.page + count.asU64) * pageSize < wordSize :=
    Nat.lt_of_le_of_lt (Nat.mul_le_mul_right _ (Nat.add_le_add_left henough _)) hfits
  have hnew : freeRange.start.asU64 + count.byteLen < wordSize := by
    rw [PageCount.byteLen, freeRange.start.asU64_eq, ← Nat.add_mul]
    exact hle
  rw [allocatePagesFrom, if_neg (Nat.not_lt.2 henough), KernelVirtualRange.new, dif_pos hnew,
    Option.bind_some]
  by_cases heq : freeRange.pageCount = count.asU64
  · rw [if_pos heq]
    refine ⟨_, _, rfl, rfl, by simp, henough, rfl, rfl, ?_, by simp⟩
    simp [dropFront, run, heq]
  have hlt : count.asU64 < freeRange.pageCount := by omega
  obtain ⟨_, hstop, hpage⟩ := KernelPageStart.exists_checkedAdd_pages hle
  rw [if_neg heq, PageCount.byteLen, hstop, Option.map_some]
  refine ⟨_, _, rfl, rfl, by simp, henough, rfl, rfl, ?_, by simp⟩
  simp [dropFront, run, hlt, hpage]

lemma allocatePagesFrom_spec (count : PageCount)
  (hfits : ∀ range ∈ ranges, range.run.stop * pageSize < wordSize) :
  (allocatePagesFrom count ranges = none ∧ ∀ r ∈ ranges, r.pageCount < count.asU64) ∨
    ∃ range ranges' before taken after, allocatePagesFrom count ranges = some (range, ranges') ∧
      Takes count ranges range ranges' before taken after := by
  induction ranges with
  | nil => exact .inl ⟨rfl, by simp⟩
  | cons freeRange rest ih =>
    by_cases hsmall : freeRange.pageCount < count.asU64
    · rw [allocatePagesFrom, if_pos hsmall]
      rcases ih fun range hrg => hfits range (by simp [hrg]) with
        ⟨hnone, hall⟩ | ⟨range, ranges', before, taken, after, hsome, htakes⟩
      · exact .inl ⟨by rw [hnone]; rfl, List.forall_mem_cons.2 ⟨hsmall, hall⟩⟩
      refine .inr ⟨range, freeRange :: ranges', freeRange :: before, taken, after,
        by rw [hsome]; rfl, ?_⟩
      exact {
        split := by rw [htakes.split]; rfl
        skips := List.forall_mem_cons.2 ⟨hsmall, htakes.skips⟩
        enough := htakes.enough
        start_eq := htakes.start_eq
        count_eq := htakes.count_eq
        rest_eq := by rw [List.map_cons, htakes.rest_eq]; rfl
        length_le := Nat.succ_le_succ htakes.length_le }
    · obtain ⟨range, ranges', hsome, htakes⟩ :=
        takes_head rest (hfits freeRange (by simp)) (Nat.not_lt.1 hsmall)
      exact .inr ⟨range, ranges', [], freeRange, rest, hsome, htakes⟩

/-- An allocation takes the lowest pages that fit out of the free ones. -/
structure Allocates (allocator : KernelVirtualRangeAllocator) (count : PageCount)
    (range : KernelVirtualRange) (allocator' : KernelVirtualRangeAllocator) : Prop where
  count_eq : range.pageCount = count
  isLeast : IsLeast {page | allocator.Fits count page} range.start.page
  free_eq : allocator'.free = allocator.free \ range.pages
  managed_eq : allocator'.managed = allocator.managed
  lawful : allocator'.Lawful

lemma Lawful.allocates (h : allocator.Lawful)
  {freeRanges before after : List VirtualFreeRange} {taken : VirtualFreeRange}
  (htakes : Takes count allocator.freeRanges range freeRanges before taken after) :
  allocator.Allocates count range { allocator with freeRanges } := by
  have hsplit : allocator.freeRanges.map run = before.map run ++ taken.run :: after.map run := by
    rw [htakes.split, List.map_append, List.map_cons]
  have hcan := h.canonical
  rw [hsplit] at hcan
  have hpages : range.pages = {page | taken.run.start ≤ page ∧
    page < taken.run.start + count.asU64} := by
    rw [KernelVirtualRange.pages, KernelVirtualRange.run, htakes.start_eq, htakes.count_eq]
    rfl
  have hfree : KernelVirtualRangeAllocator.free { allocator with freeRanges } =
    allocator.free \ range.pages := by
    rw [free, free, htakes.rest_eq, hsplit, hcan.covered_dropFront htakes.enough, hpages]
  have hmem : taken ∈ allocator.freeRanges := by simp [htakes.split]
  refine ⟨htakes.count_eq, ⟨?_, ?_⟩, hfree, rfl, h.fits, ?_, ?_, htakes.length_le.trans h.length_le⟩
  · -- the taken pages are free
    intro page hlow hhigh
    rw [htakes.start_eq] at hlow hhigh
    exact ⟨taken.run, List.mem_map_of_mem hmem, hlow,
      hhigh.trans_le (Nat.add_le_add_left htakes.enough _)⟩
  · -- pages that fit lie in a range that first fit has not skipped
    intro page hfits
    obtain ⟨r, hr, hst, hstop⟩ := h.exists_range_of_fits hfits
    have hlen : count.asU64 ≤ r.pageCount := by
      have hstop' : page + count.asU64 ≤ r.start.page + r.pageCount := hstop
      have hst' : r.start.page ≤ page := hst
      omega
    rw [htakes.start_eq]
    rw [htakes.split] at hr
    rcases List.mem_append.1 hr with hr | hr
    · exact absurd (htakes.skips r hr) (Nat.not_lt.2 hlen)
    rcases List.mem_cons.1 hr with rfl | hr
    · exact hst
    · obtain ⟨-, hrest, -⟩ := isSorted_append.1 hcan.toIsSorted
      have hle := hrest.stop_le (List.mem_map_of_mem hr)
      exact (Nat.le_add_right _ _).trans (hle.trans hst)
  · rw [htakes.rest_eq]
    exact hcan.dropFront count.pos
  intro r hr
  have hr' : r.run ∈ freeRanges.map run := List.mem_map_of_mem hr
  have hold : ∀ a ∈ before ++ after, a ∈ allocator.freeRanges := by
    intro a ha
    rw [htakes.split]
    rcases List.mem_append.1 ha with ha | ha <;> simp [ha]
  rw [htakes.rest_eq, List.mem_append, List.mem_append, List.mem_map, List.mem_map] at hr'
  rcases hr' with ⟨a, ha, heq⟩ | hdrop | ⟨a, ha, heq⟩
  · rw [← heq]
    exact h.inside a (hold a (List.mem_append_left _ ha))
  · obtain ⟨hst, hstop⟩ := mem_dropFront hdrop
    rw [hst, hstop]
    exact ⟨Nat.le_add_right_of_le (h.inside taken hmem).1, (h.inside taken hmem).2⟩
  · rw [← heq]
    exact h.inside a (hold a (List.mem_append_right _ ha))

/-- **`allocate_pages`** fails only when no free run is long enough, and takes the lowest one
otherwise. -/
lemma Lawful.allocatePages_spec (h : allocator.Lawful) (count : PageCount) :
  (allocator.allocatePages count = (none, allocator) ∧ ∀ page, ¬ allocator.Fits count page) ∨
    ∃ range allocator', allocator.allocatePages count = (some range, allocator') ∧
      allocator.Allocates count range allocator' := by
  rw [allocatePages]
  rcases allocatePagesFrom_spec count fun _ hrg => h.fits_of_mem hrg with
    ⟨hnone, hall⟩ | ⟨range, freeRanges, before, taken, after, hsome, htakes⟩
  · refine .inl ⟨by rw [hnone], fun page hfits => ?_⟩
    obtain ⟨r, hr, hst, hstop⟩ := h.exists_range_of_fits hfits
    have hlt := hall r hr
    have hstop' : page + count.asU64 ≤ r.start.page + r.pageCount := hstop
    have hst' : r.start.page ≤ page := hst
    omega
  · exact .inr ⟨range, { allocator with freeRanges }, by rw [hsome], h.allocates htakes⟩

/-! ### Release -/

/-- The free ranges with the freed one put in its place. -/
def inserted (ranges : List VirtualFreeRange) (range : KernelVirtualRange) : List
  VirtualFreeRange := ranges.takeWhile (fun r => r.start.asU64 < range.start.asU64) ++
    ⟨range.start, range.pageCount.asU64⟩ ::
      ranges.dropWhile (fun r => r.start.asU64 < range.start.asU64)

lemma mem_inserted :
  r ∈ inserted ranges range ↔ r = ⟨range.start, range.pageCount.asU64⟩ ∨ r ∈ ranges := by
  rw [inserted, List.mem_append, List.mem_cons, or_left_comm, ← List.mem_append,
    List.takeWhile_append_dropWhile]

lemma length_inserted (ranges : List VirtualFreeRange) (range : KernelVirtualRange) :
  (inserted ranges range).length = ranges.length + 1 := by
  have hsplit := congrArg List.length (List.takeWhile_append_dropWhile
    (p := fun r : VirtualFreeRange => decide (r.start.asU64 < range.start.asU64)) (l := ranges))
  rw [List.length_append] at hsplit
  rw [inserted, List.length_append, List.length_cons]
  omega

lemma map_run_inserted (ranges : List VirtualFreeRange) (range : KernelVirtualRange) :
  (inserted ranges range).map run = insertRun range.run (ranges.map run) := by
  rw [inserted]
  induction ranges with
  | nil => rfl
  | cons r _ ih =>
    rw [List.map_cons, insertRun_cons, List.takeWhile_cons, List.dropWhile_cons]
    have hiff : range.run.start ≤ r.run.start ↔ ¬ r.start.asU64 < range.start.asU64 := by
      rw [KernelPageStart.page_lt_iff, Nat.not_lt]
      rfl
    by_cases hlt : r.start.asU64 < range.start.asU64
    · rw [if_neg fun hle => hiff.1 hle hlt, decide_eq_true hlt, if_pos rfl, if_pos rfl, ← ih]
      rfl
    · rw [if_pos (hiff.2 hlt), decide_eq_false hlt]
      rfl

lemma previousAllows_iff {before : List VirtualFreeRange} (hsort : IsSorted (before.map run))
  (hfits : ∀ r ∈ before, r.run.stop * pageSize < wordSize) :
  previousAllows before range = true ↔ ∀ r ∈ before, r.run.stop ≤ range.run.start := by
  rcases List.eq_nil_or_concat before with rfl | ⟨init, last, rfl⟩
  · simp [previousAllows]
  rw [List.concat_eq_append] at *
  have hlast := hfits last (by simp)
  obtain ⟨stop, _, hpage⟩ := KernelPageStart.exists_checkedAdd_pages hlast
  have hend : last.endExclusive = some stop := (VirtualFreeRange.endExclusive_eq_some hlast).2 hpage
  have hbef : ∀ r ∈ init, r.run.stop ≤ last.run.start := by
    rw [List.map_append] at hsort
    exact fun r hr => (isSorted_append.1 hsort).2.2 r.run (List.mem_map_of_mem hr) last.run
      (by simp)
  have hiff : stop.asU64 ≤ range.start.asU64 ↔ last.run.stop ≤ range.run.start := by
    rw [← Nat.not_lt, KernelPageStart.page_lt_iff, Nat.not_lt, hpage]
    rfl
  simp only [previousAllows, List.getLast?_append, List.getLast?_singleton, Option.some_or, hend,
    decide_eq_true_eq]
  rw [hiff]
  constructor
  · intro hle r hr
    rcases List.mem_append.1 hr with hr | hr
    · exact (hbef r hr).trans ((Nat.le_add_right _ _).trans hle)
    · rw [List.mem_singleton.1 hr]
      exact hle
  · exact fun hall => hall last (by simp)

lemma nextAllows_iff {after : List VirtualFreeRange} (hsort : IsSorted (after.map run)) :
  nextAllows after range = true ↔ ∀ r ∈ after, range.run.stop ≤ r.run.start := by
  cases after with
  | nil => simp [nextAllows]
  | cons next _ =>
    have hiff : range.endExclusive ≤ next.start.asU64 ↔ range.run.stop ≤ next.run.start := by
      rw [range.endExclusive_eq, next.start.asU64_eq]
      exact Nat.mul_le_mul_right_iff (by decide)
    simp only [nextAllows, List.head?_cons, decide_eq_true_eq]
    rw [hiff]
    constructor
    · intro hle r hr
      rcases List.mem_cons.1 hr with rfl | hr
      · exact hle
      · exact hle.trans ((Nat.le_add_right _ _).trans (hsort.stop_le (List.mem_map_of_mem hr)))
    · exact fun hall => hall next (by simp)

lemma start_le_of_mem_dropWhile (hsort : IsSorted (ranges.map run))
  (hr : r ∈ ranges.dropWhile fun r => r.start.asU64 < range.start.asU64) :
  range.run.start ≤ r.run.start := by
  have hordered : ranges.Pairwise fun a b => a.start.asU64 ≤ b.start.asU64 := by
    refine (List.pairwise_map.1 hsort.ordered).imp fun {a b} hle => ?_
    rw [← Nat.not_lt, KernelPageStart.page_lt_iff, Nat.not_lt]
    exact (Nat.le_add_right _ _).trans hle
  have hle := le_of_mem_dropWhile hordered hr
  rw [← Nat.not_lt, KernelPageStart.page_lt_iff, Nat.not_lt] at hle
  exact hle

lemma Lawful.allows_iff (h : allocator.Lawful) (range : KernelVirtualRange) :
    (previousAllows (allocator.freeRanges.takeWhile fun r => r.start.asU64 < range.start.asU64)
       range =
       true ∧
     nextAllows (allocator.freeRanges.dropWhile fun r => r.start.asU64 < range.start.asU64) range =
       true) ↔
      Apart range.run (allocator.freeRanges.map run) := by
  have hsort := h.canonical.toIsSorted
  have htake := List.takeWhile_sublist (l := allocator.freeRanges)
    fun r => r.start.asU64 < range.start.asU64
  have hdrop := List.dropWhile_sublist (l := allocator.freeRanges)
    fun r => r.start.asU64 < range.start.asU64
  rw [previousAllows_iff (h.canonical.sublist (htake.map _)).toIsSorted fun r hr => h.fits_of_mem
      (htake.subset hr), nextAllows_iff (h.canonical.sublist (hdrop.map _)).toIsSorted]
  constructor
  · rintro ⟨hbef, haft⟩ run hrun
    obtain ⟨r, hr, rfl⟩ := List.mem_map.1 hrun
    rw [← List.takeWhile_append_dropWhile (p := fun r : VirtualFreeRange => decide (r.start.asU64 <
      range.start.asU64)) (l := allocator.freeRanges), List.mem_append] at hr
    exact hr.imp (hbef r) (haft r)
  intro hapart
  have hpos : 0 < range.run.len := range.pageCount.pos
  constructor
  · intro r hr
    have hlt : r.run.start < range.run.start := KernelPageStart.page_lt_iff.1
        (of_decide_eq_true (List.all_eq_true.1 List.all_takeWhile r hr))
    rcases hapart r.run (List.mem_map_of_mem (htake.subset hr)) with hle | hle
    · exact hle
    · rw [Run.stop] at hle
      omega
  intro r hr
  have hle := start_le_of_mem_dropWhile hsort hr
  have hmem : r.run ∈ allocator.freeRanges.map run := List.mem_map_of_mem (hdrop.subset hr)
  have hlen := hsort.len_pos _ hmem
  rcases hapart r.run hmem with hstop | hstop
  · rw [Run.stop] at hstop
    omega
  · exact hstop

lemma Lawful.containsRange_iff (h : allocator.Lawful) (range : KernelVirtualRange) :
  allocator.containsRange range = true ↔ range.pages ⊆ allocator.managed := by
  obtain ⟨stop, hstop, hpage⟩ := KernelPageStart.exists_checkedAdd_pages h.fits
  have hsome : allocator.managedStart.checkedAdd allocator.managedPageCount.byteLen = some stop :=
    hstop
  have hlow : allocator.managedStart.asU64 ≤ range.start.asU64 ↔
    allocator.managedStart.page ≤ range.run.start := by
    rw [← Nat.not_lt, KernelPageStart.page_lt_iff, Nat.not_lt]
    rfl
  have hhigh : range.endExclusive ≤ stop.asU64 ↔
    range.run.stop ≤ allocator.managedStart.page + allocator.managedPageCount.asU64 := by
    rw [range.endExclusive_eq, stop.asU64_eq, hpage]
    exact Nat.mul_le_mul_right_iff (by decide)
  rw [containsRange, hsome]
  simp only [Bool.and_eq_true, decide_eq_true_eq]
  rw [hlow, hhigh]
  exact (covers_subset_iff range.pageCount.pos).symm

/-- A release gives the pages of the range back. -/
structure Releases (allocator : KernelVirtualRangeAllocator) (range : KernelVirtualRange)
    (allocator' : KernelVirtualRangeAllocator) : Prop where
  free_eq : allocator'.free = allocator.free ∪ range.pages
  managed_eq : allocator'.managed = allocator.managed
  lawful : allocator'.Lawful

/-- A release that is taken. -/
structure Releasable (allocator : KernelVirtualRangeAllocator) (range : KernelVirtualRange) :
    Prop where
  inside : range.pages ⊆ allocator.managed
  notFree : Disjoint range.pages allocator.free
  room : allocator.freeRanges.length < maxFreeRanges

lemma inside_of_free_subset (hsort : IsSorted (allocator.freeRanges.map run))
  (hsub : allocator.free ⊆ allocator.managed)
  (hr : r ∈ allocator.freeRanges) : allocator.managedStart.page ≤ r.run.start ∧
    r.run.stop ≤ allocator.managedStart.page + allocator.managedPageCount.asU64 := by
  have hmem : r.run ∈ allocator.freeRanges.map run := List.mem_map_of_mem hr
  exact (covers_subset_iff (hsort.len_pos r.run hmem)).1
    fun page hpage => hsub ⟨r.run, hmem, hpage⟩

lemma Lawful.releases (h : allocator.Lawful) (hrg : allocator.Releasable range) :
  allocator.Releases range { allocator with
    freeRanges := mergeAdjacentFreeRanges (inserted allocator.freeRanges range) } := by
  have hpos : 0 < range.run.len := range.pageCount.pos
  have hapart := (h.canonical.apart_iff hpos).2 hrg.notFree
  have hsort : IsSorted ((inserted allocator.freeRanges range).map run) := by
    rw [map_run_inserted]
    exact h.canonical.insertRun hpos hapart
  have hfits : ∀ r ∈ inserted allocator.freeRanges range, r.run.stop * pageSize < wordSize := by
    intro r hr
    rcases mem_inserted.1 hr with rfl | hr
    · have hend : range.run.stop * pageSize < wordSize := by
        rw [← range.endExclusive_eq]
        exact range.fits
      exact hend
    · exact h.fits_of_mem hr
  have hmerge := map_run_mergeAdjacentFreeRanges hsort hfits
  have hcan := isCanonical_coalesce hsort
  have hfree : covered (coalesce ((inserted allocator.freeRanges range).map
    run)) = allocator.free ∪ range.pages := by
    rw [hsort.covered_coalesce, map_run_inserted, covered_insertRun]
    rfl
  rw [← hmerge] at hcan hfree
  refine ⟨hfree, rfl, h.fits, hcan, fun r hr => ?_, ?_⟩
  · refine @inside_of_free_subset { allocator with
      freeRanges := mergeAdjacentFreeRanges (inserted allocator.freeRanges range) }
      r hcan.toIsSorted (hfree.le.trans ?_) hr
    exact Set.union_subset h.free_subset hrg.inside
  · have hlen := length_coalesce_le ((inserted allocator.freeRanges range).map run)
    rw [← hmerge, List.length_map, List.length_map, length_inserted] at hlen
    exact hlen.trans hrg.room

/-- **`free_pages`** gives the pages back, or refuses and changes nothing. -/
lemma Lawful.freePages_spec (h : allocator.Lawful) (range : KernelVirtualRange) :
  (¬ allocator.Releasable range ∧ allocator.freePages range = (false, allocator)) ∨
    ∃ allocator', allocator.Releasable range ∧
      allocator.freePages range = (true, allocator') ∧ allocator.Releases range allocator' := by
  have hsort := h.canonical.toIsSorted
  have hpos : 0 < range.run.len := range.pageCount.pos
  have htest := h.allows_iff range
  rw [hsort.apart_iff hpos] at htest
  by_cases hrel : allocator.Releasable range
  · obtain ⟨hins, hnotFree, hroom⟩ := hrel
    obtain ⟨hprev, hnext⟩ := htest.2 hnotFree
    have hcont := (h.containsRange_iff range).2 hins
    refine .inr ⟨{ allocator with
      freeRanges := mergeAdjacentFreeRanges (inserted allocator.freeRanges range) },
      ⟨hins, hnotFree, hroom⟩, ?_, h.releases ⟨hins, hnotFree, hroom⟩⟩
    rw [freePages]
    simp only [hcont, hprev, hnext, hroom, decide_true, Bool.and_true, if_true]
    rfl
  refine .inl ⟨hrel, ?_⟩
  rw [freePages]
  refine if_neg fun hall => hrel ?_
  simp only [Bool.and_eq_true, decide_eq_true_eq] at hall
  obtain ⟨⟨⟨hcont, hprev⟩, hnext⟩, hroom⟩ := hall
  exact ⟨(h.containsRange_iff range).1 hcont, htest.1 ⟨hprev, hnext⟩, hroom⟩

lemma Lawful.pairwise_lt (h : allocator.Lawful) :
  allocator.freeRanges.Pairwise fun r r' => r.run.stop < r'.run.start := by
  have hboth := h.canonical.ordered.and h.canonical.separated
  exact (List.pairwise_map.1 hboth).imp fun hand => Nat.lt_of_le_of_ne hand.1 fun heq =>
    hand.2 heq rfl

lemma Lawful.freePages_iff (h : allocator.Lawful) (range : KernelVirtualRange) :
  (allocator.freePages range).1 = true ↔ allocator.Releasable range := by
  rcases h.freePages_spec range with ⟨hnot, hfalse⟩ | ⟨_, hrel, htrue, -⟩
  · rw [hfalse]
    exact ⟨fun h => absurd h Bool.false_ne_true, fun h => absurd h hnot⟩
  · rw [htrue]
    exact ⟨fun _ => hrel, fun _ => rfl⟩

end KernelVirtualRangeAllocator

/-! ### Sequences of calls -/

/-- The calls on the allocator. -/
inductive RangeCall where
  | allocate (pageCount : PageCount)
  | release (range : KernelVirtualRange)
  deriving DecidableEq

/-- The allocator, and the allocations of which no page has been released. -/
structure RangeState where
  allocator : KernelVirtualRangeAllocator
  live : List KernelVirtualRange
  deriving DecidableEq

/-- The two ranges have no page in common. -/
def KernelVirtualRange.apart (range range' : KernelVirtualRange) : Bool :=
  range.run.stop ≤ range'.run.start || range'.run.stop ≤ range.run.start

lemma KernelVirtualRange.disjoint_of_apart {range : KernelVirtualRange}
  (h : range.apart range' = true) : Disjoint range.pages range'.pages := by
  rw [apart, Bool.or_eq_true, decide_eq_true_eq, decide_eq_true_eq] at h
  rw [Set.disjoint_left]
  rintro _ ⟨_, _⟩ ⟨_, _⟩
  omega

namespace RangeState

/-- One call.  An allocation is out until a release takes one of its pages back. -/
def call (state : RangeState) : RangeCall → RangeState
  | .allocate pageCount =>
    let (range, allocator) := state.allocator.allocatePages pageCount
    ⟨allocator, range.toList ++ state.live⟩
  | .release range =>
    let (freed, allocator) := state.allocator.freePages range
    ⟨allocator, if freed then state.live.filter (range.apart ·) else state.live⟩

/-- The state after a sequence of calls on a new allocator. -/
def reached (allocator : KernelVirtualRangeAllocator) (calls : List RangeCall) : RangeState :=
  calls.foldl call ⟨allocator, []⟩

/-- The live allocations are disjoint managed pages that are not free. -/
structure Lawful (state : RangeState) : Prop where
  allocator : state.allocator.Lawful
  inside : ∀ range ∈ state.live, range.pages ⊆ state.allocator.managed
  notFree : ∀ range ∈ state.live, Disjoint range.pages state.allocator.free
  apart : state.live.Pairwise fun range range' => Disjoint range.pages range'.pages

variable {state : RangeState}

lemma Lawful.allocate (h : state.Lawful) (pageCount : PageCount) :
  (state.call (.allocate pageCount)).Lawful := by
  rw [call]
  rcases h.allocator.allocatePages_spec pageCount with
    ⟨hnone, -⟩ | ⟨range, allocator', hsome, hallc⟩
  · rw [hnone]
    exact h
  rw [hsome]
  have hpages : range.pages ⊆ state.allocator.free := by
    rintro page ⟨hlow, hhigh⟩
    refine hallc.isLeast.1 page hlow ?_
    rw [← hallc.count_eq]
    exact hhigh
  have hsub : allocator'.free ⊆ state.allocator.free := by
    rw [hallc.free_eq]
    exact Set.sdiff_subset
  refine ⟨hallc.lawful, ?_, ?_, ?_⟩
  · rw [hallc.managed_eq]
    exact List.forall_mem_cons.2 ⟨hpages.trans h.allocator.free_subset, h.inside⟩
  · refine List.forall_mem_cons.2 ⟨?_, fun r hr => (h.notFree r hr).mono_right hsub⟩
    rw [hallc.free_eq]
    exact Set.disjoint_sdiff_right
  · exact List.pairwise_cons.2
      ⟨fun r hr => (h.notFree r hr).symm.mono_left hpages, h.apart⟩

lemma Lawful.release (h : state.Lawful) (range : KernelVirtualRange) :
  (state.call (.release range)).Lawful := by
  rw [call]
  rcases h.allocator.freePages_spec range with ⟨-, hfalse⟩ | ⟨_, -, htrue, hrel⟩
  · rw [hfalse]
    exact h
  rw [htrue]
  have hmem : ∀ r ∈ state.live.filter (range.apart ·),
    r ∈ state.live ∧ Disjoint range.pages r.pages := by
    intro r hr
    obtain ⟨hlive, hapart⟩ := List.mem_filter.1 hr
    exact ⟨hlive, KernelVirtualRange.disjoint_of_apart hapart⟩
  refine ⟨hrel.lawful, ?_, ?_, h.apart.sublist List.filter_sublist⟩
  · rw [hrel.managed_eq]
    exact fun r hr => h.inside r (hmem r hr).1
  · rw [hrel.free_eq]
    exact fun r hr => (h.notFree r (hmem r hr).1).union_right (hmem r hr).2.symm

lemma lawful_reached {start : KernelPageStart} {count : PageCount}
  {allocator : KernelVirtualRangeAllocator} (hnew : new start count = some allocator)
  (calls : List RangeCall) : (reached allocator calls).Lawful := by
  have hst : Lawful ⟨allocator, []⟩ :=
    ⟨lawful_new hnew, by simp, by simp, List.Pairwise.nil⟩
  rw [reached]
  generalize (⟨allocator, []⟩ : RangeState) = state at hst
  induction calls generalizing state with
  | nil => exact hst
  | cons head _ ih =>
    cases head with
    | allocate pageCount => exact ih _ (hst.allocate pageCount)
    | release range => exact ih _ (hst.release range)

/-- What the allocator does, read on its set of free pages. -/
structure RefinesFreePages (state : RangeState) : Prop where
  /-- The free ranges are sorted, disjoint and not adjacent. -/
  sorted : state.allocator.freeRanges.Pairwise fun r r' => r.run.stop < r'.run.start
  inside : ∀ r ∈ state.allocator.freeRanges, 0 < r.pageCount ∧
    state.allocator.managedStart.page ≤ r.run.start ∧
    r.run.stop ≤ state.allocator.managedStart.page + state.allocator.managedPageCount.asU64
  /-- An allocation is the lowest free run that is long enough. -/
  allocate_some : ∀ {count range}, (state.allocator.allocatePages count).1 = some range →
    state.allocator.Allocates count range (state.allocator.allocatePages count).2
  allocate_none : ∀ {count}, (state.allocator.allocatePages count).1 = none ↔
    ∀ page, ¬ state.allocator.Fits count page
  allocate_refused : ∀ {count}, (state.allocator.allocatePages count).1 = none →
    (state.allocator.allocatePages count).2 = state.allocator
  live_apart : state.live.Pairwise fun range range' => Disjoint range.pages range'.pages
  live_taken : ∀ range ∈ state.live, Disjoint range.pages state.allocator.free
  release_iff : state.allocator.freeRanges.length < maxFreeRanges →
    ∀ range, (state.allocator.freePages range).1 = true ↔
      range.pages ⊆ state.allocator.managed ∧ Disjoint range.pages state.allocator.free
  release_adds : ∀ {range}, (state.allocator.freePages range).1 = true →
    (state.allocator.freePages range).2.free = state.allocator.free ∪ range.pages
  release_rejected : ∀ {range}, (state.allocator.freePages range).1 = false →
    (state.allocator.freePages range).2 = state.allocator

end RangeState

/-- **The allocator refines a set of free pages**, after every sequence of allocations and
releases. -/
theorem refines_free_pages {start : KernelPageStart} {count : PageCount}
  {allocator : KernelVirtualRangeAllocator}
  (hnew : KernelVirtualRangeAllocator.new start count = some allocator)
  (calls : List RangeCall) : (RangeState.reached allocator calls).RefinesFreePages := by
  have h := RangeState.lawful_reached hnew calls
  generalize RangeState.reached allocator calls = state at h
  refine {
    sorted := h.allocator.pairwise_lt
    inside := fun r hr =>
      ⟨h.allocator.canonical.len_pos _ (List.mem_map_of_mem hr), h.allocator.inside r hr⟩
    allocate_some := ?_
    allocate_none := ?_
    allocate_refused := ?_
    live_apart := h.apart
    live_taken := h.notFree
    release_iff := ?_
    release_adds := ?_
    release_rejected := ?_ }
  · intro count range hsome
    rcases h.allocator.allocatePages_spec count with
      ⟨hnone, -⟩ | ⟨range', allocator', heq, hallocates⟩
    · rw [hnone] at hsome
      cases hsome
    · rw [heq] at hsome ⊢
      cases hsome
      exact hallocates
  · intro count
    rcases h.allocator.allocatePages_spec count with
      ⟨hnone, hfits⟩ | ⟨range', allocator', heq, hallocates⟩
    · rw [hnone]
      exact ⟨fun _ => hfits, fun _ => rfl⟩
    rw [heq]
    constructor
    · intro hnone
      cases hnone
    · intro hfits
      exact absurd hallocates.isLeast.1 (hfits _)
  · intro count hnone
    rcases h.allocator.allocatePages_spec count with ⟨heq, -⟩ | ⟨_, allocator', heq, -⟩
    · rw [heq]
    · rw [heq] at hnone
      cases hnone
  · intro hroom range
    rw [h.allocator.freePages_iff]
    exact ⟨fun hrange => ⟨hrange.inside, hrange.notFree⟩, fun hrange => ⟨hrange.1, hrange.2, hroom⟩⟩
  · intro range htrue
    rcases h.allocator.freePages_spec range with ⟨-, heq⟩ | ⟨allocator', -, heq, hreleases⟩
    · rw [heq] at htrue
      cases htrue
    · rw [heq]
      exact hreleases.free_eq
  · intro range hfalse
    rcases h.allocator.freePages_spec range with ⟨-, heq⟩ | ⟨_, -, heq, -⟩
    · rw [heq]
    · rw [heq] at hfalse
      cases hfalse

lemma new_dynamic_eq :
    new newDynamicMappingAllocator.managedStart newDynamicMappingAllocator.managedPageCount =
      some newDynamicMappingAllocator := by
  decide

lemma lt_maxPageCount (n : Fin 3) : n.val + 1 ≤ wordMax / pageSize :=
  Nat.le_trans n.isLt (by decide)

/-- A few pages. -/
def fewPages (n : Fin 3) : PageCount := ⟨n.val + 1, Nat.succ_pos _, lt_maxPageCount n⟩

lemma firstDynamicPage_fits :
    newDynamicMappingAllocator.managedStart.asU64 + (fewPages 0).byteLen < wordSize := by
  decide

def firstDynamicPage : KernelVirtualRange :=
  ⟨newDynamicMappingAllocator.managedStart, fewPages 0, firstDynamicPage_fits⟩

/-- One page and two pages go out, and the first page comes back. -/
def twoAllocations : List RangeCall :=
  [.allocate (fewPages 0), .allocate (fewPages 1), .release firstDynamicPage]

/-- Three pages go out at once, and the first page comes back. -/
def oneAllocation : List RangeCall := [.allocate (fewPages 2), .release firstDynamicPage]

/-- The dynamic mapping range, with a free page before the two that are out. -/
theorem refines_free_pages_dynamic :
    (RangeState.reached newDynamicMappingAllocator twoAllocations).RefinesFreePages ∧
    (RangeState.reached newDynamicMappingAllocator twoAllocations).allocator.freeRanges.map
      (·.pageCount) = [1, dynamicMappingPageCount - 3] :=
  ⟨refines_free_pages new_dynamic_eq twoAllocations, by decide +kernel⟩

/-- **The range allocator is independent of its history**: sequences of calls that leave the same
pages free leave the same free ranges. -/
theorem free_pages_history_independent {start : KernelPageStart} {count : PageCount}
  {allocator : KernelVirtualRangeAllocator}
  (hnew : KernelVirtualRangeAllocator.new start count = some allocator)
  (calls calls' : List RangeCall) (hfree : (RangeState.reached allocator calls).allocator.free =
    (RangeState.reached allocator calls').allocator.free) :
  (RangeState.reached allocator calls).allocator.freeRanges =
    (RangeState.reached allocator calls').allocator.freeRanges := by
  have hinjective : Function.Injective VirtualFreeRange.run := by
    rintro ⟨start, _⟩ ⟨start', _⟩ h
    obtain ⟨hpage, rfl, -⟩ := Run.mk.inj h
    obtain rfl : start = start' := KernelPageStart.eq_of_page hpage
    rfl
  refine List.map_injective_iff.2 hinjective
    ((RangeState.lawful_reached hnew calls).allocator.canonical.eq_of_labelAt
      (RangeState.lawful_reached hnew calls').allocator.canonical (funext fun page => ?_))
  have hpage : page ∈ covered _ ↔ page ∈ covered _ := iff_of_eq (congrArg (page ∈ ·) hfree)
  rw [mem_covered_iff, mem_covered_iff] at hpage
  have hunit : ∀ label label' : Option Unit, (label ≠ none ↔ label' ≠ none) → label = label' := by
    decide
  exact hunit _ _ hpage

/-- The two ways to the same free pages leave the same two ranges. -/
theorem free_pages_history_independent_dynamic :
    (RangeState.reached newDynamicMappingAllocator twoAllocations).allocator.freeRanges =
      (RangeState.reached newDynamicMappingAllocator oneAllocation).allocator.freeRanges ∧
    (RangeState.reached newDynamicMappingAllocator oneAllocation).allocator.freeRanges.length = 2 :=
  ⟨free_pages_history_independent new_dynamic_eq twoAllocations oneAllocation
    (congrArg free (by decide +kernel)), by decide +kernel⟩

end ManaOS
