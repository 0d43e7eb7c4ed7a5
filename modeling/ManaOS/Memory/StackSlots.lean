/-
The slots of the user stacks.

The slot counter only grows: there is room for `userStackSlots` stacks in the life of the system,
however many of them have been freed.

* `user_stack_allocated_iff` (**slots**): when a space gets its stack;
* `stack_slots_run_out`: after 256 stacks none does.
-/
import ManaOS.Memory.SpaceRuns
import ManaOS.Memory.TableDemand
import ManaOS.Memory.UserStack

namespace ManaOS
open Checked TableForest PhysicalFrameStart

/-- The number of stack slots below the ceiling of the user half. -/
def userStackSlots : ℕ := (userSpaceEnd - userStackRegionBase) / userStackSlotBytes

/-- The lowest address of a slot. -/
def stackSlotBase (slot : ℕ) : ℕ := userStackRegionBase + slot * userStackSlotBytes

/-- The pages of the stack in a slot. -/
def stackPages (slot count : ℕ) : List ℕ :=
  (List.range count).map fun index => stackSlotBase slot + index * pageSize

/-! ### The mapping loop -/

section Loop
variable {mapper : PageMapper} (hmapper : mapper.Walks) {tables : PageTables}
  {space : UserAddressSpace} {base : UserPageStart} {range : PhysicalFrameRange}

lemma PhysicalFrameRange.ofFrame_address (range : PhysicalFrameRange) (index : ℕ) :
  (ofFrame (range.firstFrame + index)).asAddress = range.start.asAddress + index * pageSize := by
  rw [range.start_eq]
  exact Nat.add_mul ..

lemma mapStackPages_cons {page : UserPageStart}
    (hpage : page.asU64 = base.asU64 + index * pageSize) (hidx : index < range.frameCount.asU64) :
    mapStackPages mapper space base range (index :: rest) memory =
      (space.mapUserPage mapper memory page (.ofFrame (range.firstFrame + index)) userDataFlags >>=
         fun memory => mapStackPages mapper space base range rest memory) := by
  have hfits := range.fits
  rw [FrameCount.byteLen] at hfits
  have hle : (index + 1) * pageSize ≤ range.frameCount.asU64 * pageSize :=
    Nat.mul_le_mul_right _ hidx
  have hmul : checkedMul index pageSize = some (index * pageSize) :=
    checkedMul_eq_some.2 ⟨by rw [Nat.add_mul] at hle; omega, rfl⟩
  have hadd : checkedAdd range.start.asAddress (index * pageSize) =
    some (ofFrame (range.firstFrame + index)).asAddress :=
    checkedAdd_eq_some.2 ⟨by rw [Nat.add_mul] at hle; omega, range.ofFrame_address index⟩
  have hnew := new_eq_some
    (ofFrame (range.firstFrame + index)).aligned
  simp only [mapStackPages, hmul, expect_some, ok_bind, UserPageStart.checkedAdd_eq_some.2 hpage,
    hadd, hnew]

/-- The pages of the remaining turns: valid, in the window, in a nonempty part of the frames. -/
structure StackTurns (tables : PageTables) (root : ℕ) (base : UserPageStart)
    (range : PhysicalFrameRange) (pending : List PhysicalFrameStart) (indices : List ℕ) : Prop where
  nodup : indices.Nodup
  index_lt : ∀ {index}, index ∈ indices → index < range.frameCount.asU64
  page_lt : ∀ {index}, index ∈ indices → base.asU64 + index * pageSize < userSpaceEnd
  window : ∀ {index}, index ∈ indices → InWindow (base.asU64 + index * pageSize)
  pending : ∀ {index}, index ∈ indices →
    PhysicalFrameStart.ofFrame (range.firstFrame + index) ∈ pending
  unmapped : ∀ {index}, index ∈ indices → tables.leaf root (base.asU64 + index * pageSize) = none

namespace StackTurns
variable {root : ℕ} {pending : List PhysicalFrameStart} {index : ℕ} {indices : List ℕ}

lemma exists_page (h : StackTurns tables root base range pending indices) (hidx : index ∈ indices) :
  ∃ page : UserPageStart, page.asU64 = base.asU64 + index * pageSize := by
  have hbase : base.asU64 ≠ 0 := base.asAddress.ne_zero
  have halign : base.asU64 % pageSize = 0 := base.aligned
  exact UserPageStart.exists_asU64 (by omega) (h.page_lt hidx)
    ((Nat.add_mul_mod_self_right ..).trans halign)

lemma tail {s s' : PageState} (h : StackTurns s.tables root base range pending (index :: indices))
    {flags : PageTableFlags} (hroot : s.IsRoot root)
    (hmpd :
      Mapped s root (base.asU64 + index * pageSize) ⟨.ofFrame (range.firstFrame + index), flags⟩
        s') (hnodup : pending.Nodup) :
    StackTurns s'.tables root base range (pending.erase (.ofFrame (range.firstFrame + index)))
      indices := by
  obtain ⟨hnotin, hrest⟩ := List.nodup_cons.1 h.nodup
  have hmem : ∀ {i}, i ∈ indices → i ∈ index :: indices := fun hi => List.mem_cons_of_mem _ hi
  refine ⟨hrest, fun hi => h.index_lt (hmem hi), fun hi => h.page_lt (hmem hi),
    fun hi => h.window (hmem hi), fun {i} hi => ?_, fun {i} hi => ?_⟩
  · refine hnodup.mem_erase_iff.2 ⟨fun heq => ?_, h.pending (hmem hi)⟩
    have hsum : range.firstFrame + i = range.firstFrame + index :=
      Nat.eq_of_mul_eq_mul_right (by decide) (congrArg asAddress heq)
    exact hnotin (Nat.add_left_cancel hsum ▸ hi)
  rw [hmpd.leaf_eq hroot (h.window (hmem hi)), if_neg, h.unmapped (hmem hi)]
  rintro ⟨-, hpath⟩
  obtain ⟨_, hpage⟩ := h.exists_page (hmem hi)
  obtain ⟨_, hpage'⟩ := h.exists_page List.mem_cons_self
  rw [← hpage, ← hpage'] at hpath
  have heq := congrArg UserPageStart.asU64 (UserPageStart.eq_of_tablePath hpath)
  rw [hpage, hpage'] at heq
  have hmul : i * pageSize = index * pageSize := Nat.add_left_cancel heq
  exact hnotin (Nat.eq_of_mul_eq_mul_right (by decide) hmul ▸ hi)

end StackTurns

include hmapper in
lemma mapStackPages_ok (h : Tenancy labels tables space.root memory pending s)
    (hturns : StackTurns s.tables space.root base range pending indices)
    (hok : mapStackPages mapper space base range indices memory = .ok memory') :
    ∃ s',
      Tenancy labels tables space.root memory'
        (pending.diff (indices.map fun index => .ofFrame (range.firstFrame + index))) s' ∧
      s.labels.Serves
        (s.tables.requests space.root [] []
           (indices.map fun index => base.asU64 + index * pageSize))
        s'.labels ∧
      memory.OnlyMapped memory' := by
  induction indices generalizing memory pending s with
  | nil =>
    cases hok
    exact ⟨s, h, .nil, rfl⟩
  | cons _ _ ih =>
    obtain ⟨_, hpage⟩ := hturns.exists_page List.mem_cons_self
    rw [mapStackPages_cons hpage (hturns.index_lt List.mem_cons_self), bind_eq_ok] at hok
    obtain ⟨_, hmap, hok⟩ := hok
    have hfrm := hturns.pending List.mem_cons_self
    have hwin := hturns.window List.mem_cons_self
    obtain ⟨-, hplc, _, hown, hlab⟩ := h.waiting hfrm
    rw [UserAddressSpace.mapUserPage, hpage] at hmap
    obtain ⟨_, hmpd, h1, heq⟩ := Memory.mapPage_mapped hmapper h.realizes h.root_placed
      hwin hplc hown hlab rfl rfl hmap
    obtain ⟨s', _, hserv, heq'⟩ := ih (h.map hfrm hmpd h1)
      (hturns.tail h.root_placed hmpd h.nodup) hok
    refine ⟨s', by rwa [List.map_cons, List.diff_cons], ?_, by rw [heq', heq]⟩
    rw [hmpd.requests_eq h.realizes.housed h.root_placed [] (fun p hp => by
      obtain ⟨i, hi, rfl⟩ := List.mem_map.1 hp
      exact hturns.window (List.mem_cons_of_mem _ hi))] at hserv
    rw [List.map_cons, PageTables.requests, ← PageTables.missing_eq_newTables]
    exact hmpd.serves.append hserv

include hmapper in
lemma exists_mapStackPages (h : Tenancy labels tables space.root memory pending s)
    (hturns : StackTurns s.tables space.root base range pending indices)
    (hserv : s.labels.Serves
        (s.tables.requests space.root [] []
           (indices.map fun index => base.asU64 + index * pageSize))
        served) :
    ∃ memory', mapStackPages mapper space base range indices memory = .ok memory' := by
  induction indices generalizing memory pending s with
  | nil => exact ⟨memory, rfl⟩
  | cons index _ ih =>
    obtain ⟨page, hpage⟩ := hturns.exists_page List.mem_cons_self
    have hfrm := hturns.pending List.mem_cons_self
    have hwin := hturns.window List.mem_cons_self
    obtain ⟨-, hplc, _, hown, hlab⟩ := h.waiting hfrm
    rw [List.map_cons, PageTables.requests, ← PageTables.missing_eq_newTables] at hserv
    obtain ⟨served1, hfirst, hrest⟩ := hserv.of_append
    have hpres : userDataFlags.present = true := rfl
    have hhuge : userDataFlags.hugePage = false := rfl
    obtain ⟨_, hmap⟩ := Memory.exists_mapPage hmapper h.realizes h.root_placed hwin
      (.ofFrame (range.firstFrame + index)) hpres hhuge "failed to map user address-space page"
      (hturns.unmapped List.mem_cons_self) hfirst
    obtain ⟨_, hmpd, h1, -⟩ := Memory.mapPage_mapped hmapper h.realizes h.root_placed
      hwin hplc hown hlab rfl rfl hmap
    obtain rfl := hfirst.unique hmpd.serves
    rw [List.nil_append, ← hmpd.requests_eq h.realizes.housed h.root_placed [] (fun p hp => by
        obtain ⟨i, hi, rfl⟩ := List.mem_map.1 hp
        exact hturns.window (List.mem_cons_of_mem _ hi))] at hrest
    obtain ⟨memory', hok⟩ := ih (h.map hfrm hmpd h1)
      (hturns.tail h.root_placed hmpd h.nodup) hrest
    refine ⟨memory', ?_⟩
    rw [mapStackPages_cons hpage (hturns.index_lt List.mem_cons_self),
      UserAddressSpace.mapUserPage, hpage, hmap, ok_bind]
    exact hok

end Loop

/-! ### Allocating a stack -/

/-- The allocations for a stack: its frames, and the tables above its slot. -/
def stackRequests (tables : PageTables) (root slot count : ℕ) : List FrameMap.Request :=
  (count, .userStack) ::
    List.replicate (tables.newTables root [] (stackSlotBase slot)) (1, .pageTable)

lemma upperPath_stackSlot (slot : ℕ) (h : index * pageSize < userStackSlotBytes) :
  upperPath (stackSlotBase slot + index * pageSize) = upperPath (stackSlotBase slot) := by
  rw [pageSize, userStackSlotBytes] at h
  simp only [upperPath, tableIndex, stackSlotBase, userStackRegionBase, userStackSlotBytes,
    pageSize, List.cons.injEq, Fin.mk.injEq, and_true]
  omega

lemma requests_stackPages (tables : PageTables) (root slot : ℕ) (hpos : 0 < count)
  (hcnt : count * pageSize < userStackSlotBytes) :
  tables.requests root [] [] (stackPages slot count) =
    List.replicate (tables.newTables root [] (stackSlotBase slot)) (1, .pageTable) := by
  obtain ⟨rest, rfl⟩ := Nat.exists_eq_add_of_lt hpos
  rw [Nat.zero_add] at hcnt ⊢
  have hpages : stackPages slot (rest + 1) = stackSlotBase slot ::
    (List.range rest).map fun index => stackSlotBase slot + (index + 1) * pageSize := by
    rw [stackPages, List.range_succ_eq_map, List.map_cons, List.map_map, Nat.zero_mul, Nat.add_zero]
    rfl
  have hupper : ∀ page ∈ (List.range rest).map fun index =>
    stackSlotBase slot + (index + 1) * pageSize,
    upperPath (stackSlotBase slot) = upperPath page := by
    intro _ hpage
    obtain ⟨_, hidx, rfl⟩ := List.mem_map.1 hpage
    refine (upperPath_stackSlot slot (Nat.lt_of_le_of_lt ?_ hcnt)).symm
    exact Nat.mul_le_mul_right _ (Nat.succ_le_succ (List.mem_range.1 hidx).le)
  rw [hpages, PageTables.requests, PageTables.requests_eq_nil tables root hupper (by simp),
    List.append_nil, List.nil_append]

lemma stackSlot_fits : stackSlotBase slot < userSpaceEnd ↔ slot < userStackSlots := by
  have hslots : userStackSlots = 256 := by decide
  rw [hslots]
  simp only [stackSlotBase, userStackRegionBase, userStackSlotBytes, userSpaceEnd]
  omega

lemma stackSlot_bytes (h : count * pageSize < userStackSlotBytes - pageSize) :
  count * pageSize < userStackSlotBytes := Nat.lt_of_lt_of_le h (Nat.sub_le _ _)

lemma stackSlot_succ_lt (h : slot < userStackSlots) : slot + 1 < wordSize := by
  have hslots : userStackSlots = 256 := by decide
  rw [wordSize_eq]
  omega

lemma stackSlot_end_lt (hslot : slot < userStackSlots)
  (hcnt : count * pageSize < userStackSlotBytes - pageSize) :
  stackSlotBase slot + count * pageSize < userSpaceEnd := by
  have hslots : userStackSlots = 256 := by decide
  simp only [stackSlotBase, userStackRegionBase, userStackSlotBytes, userSpaceEnd,
    pageSize] at hcnt ⊢
  omega

lemma exists_stackBase (h : slot < userStackSlots) :
  ∃ base : UserPageStart, base.asU64 = stackSlotBase slot := by
  have hpos : 0 < userStackRegionBase := by decide
  have hne : stackSlotBase slot ≠ 0 := (Nat.lt_of_lt_of_le hpos (Nat.le_add_right _ _)).ne'
  have hreg : pageSize ∣ userStackRegionBase := by decide
  have hslot : pageSize ∣ userStackSlotBytes := by decide
  exact UserPageStart.exists_asU64 hne (stackSlot_fits.2 h)
    (Nat.mod_eq_zero_of_dvd (Nat.dvd_add hreg (Dvd.dvd.mul_left hslot slot)))

lemma exists_stackTop {base : UserPageStart} (h : base.asU64 + size < userSpaceEnd) :
  ∃ top, base.asAddress.checkedAdd size = some top := by
  have hpos : base.asU64 ≠ 0 := base.asAddress.ne_zero
  refine ⟨⟨base.asU64 + size, by omega, h⟩, ?_⟩
  rw [UserVirtualAddress.checkedAdd, Option.bind_eq_some_iff]
  refine ⟨_, checkedAdd_eq_some.2 ⟨?_, rfl⟩, UserVirtualAddress.new_eq_some.2 rfl⟩
  rw [wordSize_eq]
  exact Nat.lt_trans h (by decide)

lemma StackTurns.of_slot {tables : PageTables} {root : ℕ}
  (hslot : slot < userStackSlots) (hcnt : count * pageSize < userStackSlotBytes - pageSize)
  (hfresh : ∀ page, userStackRegionBase ≤ page → page < userSpaceEnd →
    tables.leaf root page = none) {base : UserPageStart}
  (hbase : base.asU64 = stackSlotBase slot) {range : PhysicalFrameRange}
  (hrg : range.frameCount.asU64 = count) {pending : List PhysicalFrameStart}
  (hpend : range.frames ⊆ pending) :
  StackTurns tables root base range pending (List.range count) := by
  have hbnd : ∀ {index}, index ∈ List.range count → userStackRegionBase ≤
    base.asU64 + index * pageSize ∧ base.asU64 + index * pageSize < userSpaceEnd := by
    intro index hidx
    have hend := stackSlot_end_lt hslot hcnt
    have hle : index * pageSize ≤ count * pageSize :=
      Nat.mul_le_mul_right _ (List.mem_range.1 hidx).le
    have hst : userStackRegionBase ≤ stackSlotBase slot := Nat.le_add_right _ _
    rw [hbase]
    exact ⟨Nat.le_trans hst (Nat.le_add_right _ _), by omega⟩
  refine ⟨List.nodup_range, fun hidx => ?_, fun hidx => (hbnd hidx).2, fun hidx => ?_,
    fun {index} hidx => hpend ?_, fun hidx => ?_⟩
  · rw [hrg]
    exact List.mem_range.1 hidx
  · exact inWindow_of_bounds (Nat.le_trans (by decide) (hbnd hidx).1) (hbnd hidx).2
  · rw [PhysicalFrameRange.frames, hrg]
    exact List.mem_map.2 ⟨index, hidx, rfl⟩
  · exact hfresh _ (hbnd hidx).1 (hbnd hidx).2

lemma map_stackPages {base : UserPageStart} (h : base.asU64 = stackSlotBase slot)
  (count : ℕ) : ((List.range count).map fun index => base.asU64 + index * pageSize) =
    stackPages slot count := by
  rw [stackPages, h]

lemma PhysicalFrameRange.map_ofFrame (range : PhysicalFrameRange)
  (h : range.frameCount.asU64 = count) :
  ((List.range count).map fun index => .ofFrame (range.firstFrame + index)) = range.frames := by
  rw [frames, h]

lemma PageCount.exists_frameCount (pages : PageCount) :
  ∃ count : FrameCount, FrameCount.new pages.asU64 = some count ∧ count.asU64 = pages.asU64 := by
  have hpos := pages.pos
  have hle := pages.le
  exact ⟨⟨pages.asU64, hpos, hle⟩, dif_neg (by omega), rfl⟩

lemma append_diff_cancel {α : Type*} [BEq α] [LawfulBEq α] (l1 l2 : List α) :
  (l1 ++ l2).diff l1 = l2 := by
  induction l1 with
  | nil => rfl
  | cons a _ ih => rw [List.cons_append, List.diff_cons, List.erase_cons_head, ih]

section Allocate
variable {mapper : PageMapper} (hmapper : mapper.Walks) {labels : FrameMap} {tables : PageTables}
  {space : UserAddressSpace} {memory : Memory} {pending : List PhysicalFrameStart} {s : PageState}
  (h : Tenancy labels tables space.level4Frame.asAddress memory pending s)
  (hfresh : ∀ page, userStackRegionBase ≤ page → page < userSpaceEnd →
    s.tables.leaf space.level4Frame.asAddress page = none)
include hmapper h hfresh in
lemma allocateUserStack_ok {pages : PageCount} {stack : AllocatedUserStack} {memory' : Memory}
    (hok : allocateUserStack mapper space memory pages = .ok (stack, memory')) :
    memory.nextUserStackSlot < userStackSlots ∧
    pages.byteLen < userStackSlotBytes - pageSize ∧
    memory'.nextUserStackSlot = memory.nextUserStackSlot + 1 ∧
    memory'.kernelLevel4Frame = memory.kernelLevel4Frame ∧
    ∃ s',
      Tenancy labels tables space.root memory' pending s' ∧
      s.labels.Serves (stackRequests s.tables space.root memory.nextUserStackSlot pages.asU64)
        s'.labels := by
  obtain ⟨_, hnew, hpages⟩ := pages.exists_frameCount
  simp only [allocateUserStack, bind_eq_ok, expect_eq_ok, require_eq_ok, Prod.exists, pure_eq_ok,
    Prod.mk.injEq, hnew, decide_eq_true_eq, Option.some.injEq, UserVirtualAddress.new_eq_some,
    UserPageStart.new_eq_some, checkedAdd_eq_some, checkedMul_eq_some] at hok
  obtain ⟨_, rfl, _, allocator, halloc, range, rfl, _, hsize, _, ⟨-, rfl⟩, _, ⟨-, rfl⟩, _, hbase,
    page, rfl, _, -, _, hmap, -, rfl⟩ := hok
  have hslot : memory.nextUserStackSlot < userStackSlots := by
    rw [← stackSlot_fits, stackSlotBase, ← hbase]
    exact page.asAddress.lt_end
  have hown : FrameRangeOwner.userStack ≠ .free := by simp
  obtain ⟨hcnt, hfit, hroom, hrep⟩ := PhysicalFrameAllocator.allocateFramesFor_some
    h.realizes.represents h.realizes.housed.sound hown halloc
  have hcnt : range.frameCount.asU64 = pages.asU64 := by rw [hcnt, hpages]
  rw [hpages] at hfit hroom hrep
  have hfree := hfit.free
  rw [← hcnt] at hfree hrep
  have hwait : Tenancy labels tables space.root
    { memory with allocator, nextUserStackSlot := (memory.nextUserStackSlot + 1) % wordSize }
    (range.frames ++ pending) _ := h.allocate hfree (by decide) rfl hrep
  have hturns := StackTurns.of_slot hslot hsize hfresh hbase hcnt
    (List.subset_append_left range.frames pending)
  obtain ⟨s', h', hserv, heq⟩ := mapStackPages_ok hmapper hwait hturns hmap
  rw [range.map_ofFrame hcnt, append_diff_cancel] at h'
  rw [map_stackPages hbase, requests_stackPages _ _ _ pages.pos (stackSlot_bytes hsize)] at hserv
  simp only [hcnt] at hserv
  have hnext := congrArg Memory.nextUserStackSlot heq
  rw [Nat.mod_eq_of_lt (stackSlot_succ_lt hslot)] at hnext
  have hker := congrArg Memory.kernelLevel4Frame heq
  exact ⟨hslot, hsize, hnext, hker, s', h', .cons hfit hroom hserv⟩

include hmapper h hfresh in
lemma exists_allocateUserStack {pages : PageCount}
    (hslot : memory.nextUserStackSlot < userStackSlots)
    (hsize : pages.byteLen < userStackSlotBytes - pageSize) {served : FrameMap}
    (hserv :
      s.labels.Serves (stackRequests s.tables space.root memory.nextUserStackSlot pages.asU64)
        served) :
    ∃ stack memory', allocateUserStack mapper space memory pages = .ok (stack, memory') := by
  obtain ⟨_, hnew, hpages⟩ := pages.exists_frameCount
  cases hserv with
  | cons fit room rest =>
  rw [← hpages] at fit room
  have hown : FrameRangeOwner.userStack ≠ .free := by simp
  obtain ⟨range, allocator, halloc, rfl, hcnt, hrep⟩ :=
    PhysicalFrameAllocator.exists_allocateFramesFor h.realizes.represents h.realizes.housed.sound
      hown fit room
  have hcnt : range.frameCount.asU64 = pages.asU64 := by rw [hcnt, hpages]
  obtain ⟨base, hbase⟩ := exists_stackBase hslot
  have hend := stackSlot_end_lt hslot hsize
  rw [← hbase] at hend
  obtain ⟨top, htop⟩ := exists_stackTop hend
  have hfree := fit.free
  rw [hpages, ← hcnt] at hfree hrep
  have hwait : Tenancy labels tables space.root
    { memory with allocator, nextUserStackSlot := (memory.nextUserStackSlot + 1) % wordSize }
    (range.frames ++ pending) _ := h.allocate hfree (by decide) rfl hrep
  have hturns := StackTurns.of_slot hslot hsize hfresh hbase hcnt
    (List.subset_append_left range.frames pending)
  rw [← requests_stackPages _ _ _ pages.pos (stackSlot_bytes hsize), ← map_stackPages hbase]
    at rest
  obtain ⟨memory', hmap⟩ := exists_mapStackPages hmapper hwait hturns (by rw [hcnt]; exact rest)
  refine ⟨⟨base.asAddress, top, range, pages⟩, memory', ?_⟩
  simp only [allocateUserStack, bind_eq_ok, expect_eq_ok, require_eq_ok, Prod.exists, pure_eq_ok,
    Prod.mk.injEq, hnew, decide_eq_true_eq, Option.some.injEq, UserVirtualAddress.new_eq_some,
    UserPageStart.new_eq_some, checkedAdd_eq_some, checkedMul_eq_some]
  have hbase' : base.asAddress.asU64 = stackSlotBase memory.nextUserStackSlot := hbase
  have hmul : memory.nextUserStackSlot * userStackSlotBytes < wordSize := by
    have hlt := base.asAddress.lt_end
    rw [hbase', stackSlotBase] at hlt
    rw [wordSize_eq]
    exact Nat.lt_trans (Nat.lt_of_le_of_lt (Nat.le_add_left _ _) hlt) (by decide)
  have hadd : userStackRegionBase + memory.nextUserStackSlot * userStackSlotBytes < wordSize := by
    have hlt := base.asAddress.lt_end
    rw [hbase', stackSlotBase] at hlt
    rw [wordSize_eq]
    exact Nat.lt_trans hlt (by decide)
  exact ⟨_, rfl, _, allocator, halloc, range, rfl, (), hsize, _, ⟨hmul, rfl⟩, _, ⟨hadd, rfl⟩,
    base.asAddress, hbase', base, rfl, top, htop, memory', hmap, rfl, rfl⟩

end Allocate

/-- **Stack slots.**  A space is created in any consistent state and used in any way that leaves
the stack region unmapped.  It gets its stack exactly when the slot counter is below the number of
slots, the stack fits a slot, and the allocator serves its frames and the tables above them. -/
theorem user_stack_allocated_iff {mapper : PageMapper} (hmapper : mapper.Walks)
    {memory created used : Memory} (hallocator : memory.allocator.Consistent)
    {space : UserAddressSpace} (hcreate : createUserAddressSpace memory = .ok (space, created))
    {pending : List PhysicalFrameStart} (hrun : SpaceRun mapper space created used pending)
    (hfresh : ∀ page,
        userStackRegionBase ≤ page →
        page < userSpaceEnd →
        used.tables.leaf space.level4Frame.asAddress page = none) (pages : PageCount) :
    (∃ stack memory', allocateUserStack mapper space used pages = .ok (stack, memory')) ↔
      used.nextUserStackSlot < userStackSlots ∧
      pages.byteLen < userStackSlotBytes - pageSize ∧
      ∃ served,
        used.allocator.frameMap.Serves
          (stackRequests used.tables space.level4Frame.asAddress used.nextUserStackSlot pages.asU64)
          served := by
  obtain ⟨-, -, _, h1, -⟩ := hallocator.tenancy hcreate
  obtain ⟨-, s, h⟩ := hrun.tenancy hmapper hallocator.sound h1
  have hmap : used.allocator.frameMap = s.labels := h.realizes.represents.frameMap_eq
  rw [h.realizes.tables_eq] at hfresh ⊢
  rw [hmap]
  constructor
  · rintro ⟨_, _, hok⟩
    obtain ⟨hslot, hsize, -, -, _, -, hserves⟩ := allocateUserStack_ok hmapper h hfresh hok
    exact ⟨hslot, hsize, _, hserves⟩
  · rintro ⟨hslot, hsize, _, hserves⟩
    exact exists_allocateUserStack hmapper h hfresh hslot hsize hserves

/-! ### Stacks one after the other -/

/-- Lives of address spaces in turn: each is created, gets a stack and is destroyed. -/
inductive StackLives (mapper : PageMapper) (pages : PageCount) (start : Memory) : ℕ → Memory → Prop
  | none : StackLives mapper pages start 0 start
  | life {n memory space created stack used reclaim destroyed}
      (lives : StackLives mapper pages start n memory)
      (hcreate : createUserAddressSpace memory = .ok (space, created))
      (hstack : allocateUserStack mapper space created pages = .ok (stack, used))
      (hdestroy : destroyUserAddressSpace used space = .ok (reclaim, destroyed)) :
      StackLives mapper pages start (n + 1) destroyed

lemma Created.leaf_eq_none (h : Created s root s') (hpage : InWindow page) :
  s'.tables.leaf root page = none := by
  have hwalk : walk s'.tables.child root (upperPath page) = none := by
    rw [upperPath, walk, PageTables.child_of_unused (h.empty hpage)]
    rfl
  rw [PageTables.leaf, hwalk]
  rfl

lemma Tenancy.length_spaceFrames_le {root : PhysicalFrameStart}
  (h : Tenancy labels tables root.asAddress memory [] s)
  (hserv : labels.Serves requests s.labels) :
  (spaceFrames s.tables root).length ≤ (requests.map Prod.fst).sum := by
  obtain ⟨changed, hcard, hchanged⟩ := hserv.exists_changed
  have hlists := spaceFrames_lists h.realizes.housed h.root_placed
  have hnodup : ((spaceFrames s.tables root).map fun frame => frame.asAddress / pageSize).Nodup :=
    hlists.nodup.map fun a b hab => PhysicalFrameStart.eq_of_address (by
      rw [← a.div_mul, ← b.div_mul, hab])
  have hsub : ((spaceFrames s.tables root).map fun frame =>
    frame.asAddress / pageSize).toFinset ⊆ changed := by
    intro f hf
    obtain ⟨_, hfrm, rfl⟩ := List.mem_map.1 (List.mem_toFinset.1 hf)
    obtain ⟨_, hplc, -⟩ := hlists.mem_iff.1 hfrm
    obtain ⟨-, _, hused⟩ := h.realizes.housed.used hplc
    obtain ⟨o, hfree⟩ := h.taken hplc
    refine hchanged _ fun heq => ?_
    rw [hused, hfree] at heq
    cases heq
  have hle := Finset.card_le_card hsub
  rw [List.toFinset_card_of_nodup hnodup, List.length_map] at hle
  exact hle.trans hcard

section Lives
variable {mapper : PageMapper} (hmapper : mapper.Walks) {pages : PageCount}

/-- What stays the same while stacks come and go. -/
structure Rested (labels : FrameMap) (kernel : PhysicalFrameStart) (memory : Memory) : Prop where
  represents : Represents memory.allocator.trackedRanges labels
  kernel_eq : getKernelLevel4Frame memory = some kernel

lemma Rested.consistent {labels : FrameMap} (hlabs : labels.IsSound)
  (h : Rested labels kernel memory) : memory.allocator.Consistent :=
  ⟨h.represents.frameMap_eq ▸ h.represents, h.represents.frameMap_eq ▸ hlabs⟩

variable {labels : FrameMap} (hlabs : labels.IsSound)
include hmapper hlabs in
lemma Rested.life (h : Rested labels kernel memory)
  (hcr : createUserAddressSpace memory = .ok (space, created))
  (hstack : allocateUserStack mapper space created pages = .ok (stack, used))
  (hdest : destroyUserAddressSpace used space = .ok (reclaim, destroyed)) :
  Rested labels kernel destroyed ∧ destroyed.nextUserStackSlot = memory.nextUserStackSlot + 1 := by
  obtain ⟨hker, hslot, s, hten, hcrd, -⟩ := (h.consistent hlabs).tenancy hcr
  have hfresh : ∀ page, userStackRegionBase ≤ page → page < userSpaceEnd →
    s.tables.leaf space.root page = none := fun page hle hlt =>
    hcrd.leaf_eq_none (inWindow_of_bounds (Nat.le_trans (by decide) hle) hlt)
  obtain ⟨-, -, hnext, hker', _, hten', -⟩ := allocateUserStack_ok hmapper hten hfresh hstack
  rw [h.represents.frameMap_eq] at hten'
  have hused : getKernelLevel4Frame used = some kernel := by
    rw [← h.kernel_eq, getKernelLevel4Frame, getKernelLevel4Frame, hker', hker]
  rcases hten'.destroyed hlabs hused with
    ⟨-, hfailed⟩ | ⟨-, _, _, hok, hrep, -, -, -, heq⟩
  · cases hfailed.symm.trans hdest
  cases hok.symm.trans hdest
  have hslots := congrArg Memory.nextUserStackSlot heq
  have hkernels := congrArg Memory.kernelLevel4Frame heq
  refine ⟨⟨hrep, ?_⟩, by rw [hslots, hnext, hslot]⟩
  rw [← hused, getKernelLevel4Frame, getKernelLevel4Frame, hkernels]

include hmapper hlabs in
/-- **The counter counts every stack**, however many spaces have been destroyed. -/
lemma StackLives.rested (h : Rested labels kernel start)
  (lives : StackLives mapper pages start n memory) :
  Rested labels kernel memory ∧ memory.nextUserStackSlot = start.nextUserStackSlot + n := by
  induction lives with
  | none => exact ⟨h, rfl⟩
  | life _ hcr hstack hdest ih =>
    obtain ⟨hrested, hslot⟩ := ih
    obtain ⟨hrested', hslot'⟩ := hrested.life hmapper hlabs hcr hstack hdest
    exact ⟨hrested', by rw [hslot', hslot, Nat.add_assoc]⟩

variable (htrack : labels.Trackable) {run : ℕ}
  (hfree : labels.FreeRun run (pages.asU64 + 4))
  (hroom : labels.runCount + 10 + 2 * (pages.asU64 + 4) ≤ maxTrackedRanges)
  (hsize : pages.byteLen < userStackSlotBytes - pageSize)
include hmapper hlabs htrack hfree hroom hsize in
lemma Rested.exists_life (h : Rested labels kernel memory)
  (hslot : memory.nextUserStackSlot < userStackSlots) :
  ∃ space created stack used reclaim destroyed, createUserAddressSpace memory =
    .ok (space, created) ∧ allocateUserStack mapper space created pages =
    .ok (stack, used) ∧ destroyUserAddressSpace used space = .ok (reclaim, destroyed) := by
  have hcons := h.consistent hlabs
  have hmap := h.represents.frameMap_eq
  have hlow : ∀ requests : List FrameMap.Request,
    (requests.map Prod.fst).sum ≤ pages.asU64 + 4 → requests.length ≤ 5 →
    ∃ served, labels.Serves requests served := fun _ hsum hlen =>
    FrameMap.exists_serves htrack (fun f h1 h2 => hfree f h1 (by omega)) (by omega)
  -- the root
  obtain ⟨_, hserv⟩ := hlow [(1, .pageTable)] (by simp) (by simp)
  have hreal : memory.Realizes ⟨memory.tables, fun _ => none, labels⟩ :=
    ⟨rfl, h.represents, housed_of_no_place hlabs _⟩
  obtain ⟨space, created, hcr⟩ : ∃ space created,
    createUserAddressSpace memory = .ok (space, created) := by
    cases hserv with
    | cons fit room _ => exact exists_createUserAddressSpace hreal fit room
  obtain ⟨hker, hnext, s, hten, hcrd, hserv⟩ := hcons.tenancy hcr
  rw [hmap] at hten hserv
  have hfresh : ∀ page, userStackRegionBase ≤ page → page < userSpaceEnd →
    s.tables.leaf space.root page = none := fun page hle hlt =>
    hcrd.leaf_eq_none (inWindow_of_bounds (Nat.le_trans (by decide) hle) hlt)
  -- the stack
  have hthree : s.tables.newTables space.root [] (stackSlotBase created.nextUserStackSlot) ≤ 3 :=
    List.countP_le_length
  have hsum : (([(1, FrameRangeOwner.pageTable)] ++ stackRequests s.tables space.root
    created.nextUserStackSlot pages.asU64).map Prod.fst).sum ≤ pages.asU64 + 4 := by
    simp only [stackRequests, List.singleton_append, List.map_cons, List.map_replicate,
      List.sum_cons, List.sum_replicate_nat]
    omega
  have hlen : ([(1, FrameRangeOwner.pageTable)] ++ stackRequests s.tables space.root
    created.nextUserStackSlot pages.asU64).length ≤ 5 := by
    simp only [stackRequests, List.singleton_append, List.length_cons, List.length_replicate]
    omega
  obtain ⟨_, hall⟩ := hlow _ hsum hlen
  obtain ⟨_, hfirst, hrest⟩ := hall.of_append
  obtain rfl := hfirst.unique hserv
  obtain ⟨stack, used, hstack⟩ := exists_allocateUserStack hmapper hten hfresh
    (by rw [hnext]; exact hslot) hsize hrest
  obtain ⟨-, -, -, hker', _, hten', hserv'⟩ := allocateUserStack_ok hmapper hten hfresh hstack
  -- the destruction
  have htotal := hserv.append hserv'
  have hfrms := hten'.length_spaceFrames_le htotal
  obtain ⟨htrack', _⟩ := htotal.trackable htrack
  have hcan : CanFreeSpace used space := by
    rw [CanFreeSpace, hten'.realizes.represents.frameMap_eq, hten'.realizes.tables_eq]
    refine FrameMap.canFree_of_runCount htrack' ?_
    omega
  have hused : getKernelLevel4Frame used = some kernel := by
    rw [← h.kernel_eq, getKernelLevel4Frame, getKernelLevel4Frame, hker', hker]
  rcases hten'.destroyed hlabs hused with
    ⟨hno, -⟩ | ⟨-, reclaim, destroyed, hdest, -⟩
  · exact absurd hcan hno
  · exact ⟨space, created, stack, used, reclaim, destroyed, hcr, hstack, hdest⟩

include hmapper hlabs htrack hfree hroom hsize in
lemma Rested.exists_lives (h : Rested labels kernel start)
  (hn : start.nextUserStackSlot + n ≤ userStackSlots) :
  ∃ memory, StackLives mapper pages start n memory := by
  induction n with
  | zero => exact ⟨start, .none⟩
  | succ n ih =>
    obtain ⟨_, lives⟩ := ih (by omega)
    obtain ⟨hrested, _⟩ := lives.rested hmapper hlabs h
    obtain ⟨_, _, _, _, _, destroyed, hcr, hstack, hdest⟩ :=
      hrested.exists_life hmapper hlabs htrack hfree hroom hsize (by omega)
    exact ⟨destroyed, .life lives hcr hstack hdest⟩

end Lives

def onePage : PageCount := ⟨1, Nat.one_pos, one_le_maxPageCount⟩

lemma bootMemory_consistent : bootMemory.allocator.Consistent := by
  have hreached : Reached [.add (2 * pageSize) ⟨256, by decide, by decide⟩] []
    bootMemory.allocator := Reached.registered rfl
  have hpl : WellPlaced [.add (2 * pageSize) ⟨256, by decide, by decide⟩] :=
    ⟨by decide, List.pairwise_singleton _ _⟩
  exact hreached.consistent hpl

lemma bootMemory_rested : Rested bootMemory.allocator.frameMap ⟨pageSize, rfl⟩ bootMemory :=
  ⟨bootMemory_consistent.represents, rfl⟩

lemma bootMemory_freeRun : bootMemory.allocator.frameMap.FreeRun 2 (onePage.asU64 + 4) := by
  intro f h1 h2
  exact ⟨.free, bootMemory_consistent.represents.map_eq (List.mem_singleton_self _)
    ⟨h1, Nat.lt_of_lt_of_le h2 (by decide)⟩⟩

lemma bootMemory_room : bootMemory.allocator.frameMap.runCount + 10 + 2 * (onePage.asU64 + 4) ≤
  maxTrackedRanges := by
  rw [bootMemory_consistent.represents.runCount_eq]
  decide

lemma allocateUserStack_of_slot {mapper : PageMapper} {space : UserAddressSpace} {memory : Memory}
  (hslot : memory.nextUserStackSlot = userStackSlots) {count : FrameCount}
  (hcnt : FrameCount.new onePage.asU64 = some count) {range : PhysicalFrameRange}
  {allocator : PhysicalFrameAllocator}
  (halloc : memory.allocator.allocateFramesFor count .userStack = .ok (some range, allocator)) :
  allocateUserStack mapper space memory onePage =
    .error "user stack base must be a valid user address" := by
  have hbase : UserVirtualAddress.new (userStackRegionBase + userStackSlots * userStackSlotBytes) =
    none := by decide
  have hmul : checkedMul userStackSlots userStackSlotBytes =
    some (userStackSlots * userStackSlotBytes) := by decide
  have hadd : checkedAdd userStackRegionBase (userStackSlots * userStackSlotBytes) =
    some (userStackRegionBase + userStackSlots * userStackSlotBytes) := by decide
  have hsize : require (onePage.byteLen < userStackSlotBytes - pageSize)
    "user stack must fit inside one virtual stack slot" = .ok () := by decide
  simp only [allocateUserStack, hcnt, expect_some, ok_bind, halloc, hsize, hslot, hmul, hadd, hbase]
  rfl

/-- **The slots run out.**  After 256 spaces with a stack have come and gone, all frames are free as
after boot, and no space gets a stack any more. -/
theorem stack_slots_run_out : ∃ memory, StackLives walkMapper onePage bootMemory 256 memory ∧
  memory.allocator.frameMap = bootMemory.allocator.frameMap ∧
  ∃ space created, createUserAddressSpace memory = .ok (space, created) ∧
    allocateUserStack walkMapper space created onePage =
      .error "user stack base must be a valid user address" := by
  obtain ⟨memory, lives⟩ := bootMemory_rested.exists_lives walkMapper_walks
    bootMemory_consistent.sound bootMemory_consistent.represents.trackable bootMemory_freeRun
    bootMemory_room (by decide) (show bootMemory.nextUserStackSlot + 256 ≤ userStackSlots by decide)
  have hsound := bootMemory_consistent.sound
  obtain ⟨hrested, hslot⟩ := lives.rested walkMapper_walks hsound bootMemory_rested
  have hmap := hrested.represents.frameMap_eq
  obtain ⟨served, hserves⟩ : ∃ served, bootMemory.allocator.frameMap.Serves
    [(1, .pageTable), (1, .userStack)] served := by
    have hroom := bootMemory_room
    have hone : onePage.asU64 = 1 := rfl
    refine FrameMap.exists_serves bootMemory_consistent.represents.trackable
      (fun f h1 h2 => bootMemory_freeRun f h1 ?_) ?_
    · simp only [List.map_cons, List.map_nil, List.sum_cons, List.sum_nil] at h2
      omega
    · simp only [List.length_cons, List.length_nil]
      omega
  cases hserves with
  | cons fit room rest =>
  have hrealizes : memory.Realizes
    ⟨memory.tables, fun _ => none, bootMemory.allocator.frameMap⟩ :=
    ⟨rfl, hrested.represents, housed_of_no_place hsound _⟩
  obtain ⟨space, created, hcreate⟩ := exists_createUserAddressSpace hrealizes fit room
  obtain ⟨-, hnext, s, htenancy, -, hfirst⟩ := (hrested.consistent hsound).tenancy hcreate
  rw [hmap] at hfirst
  rw [← hfirst.unique (.cons fit room .nil)] at rest
  cases rest with
  | cons fit' room' _ =>
  have howner : FrameRangeOwner.userStack ≠ .free := by simp
  have hfit : FrameMap.FirstFit _ FrameCount.one.asU64 _ := fit'
  obtain ⟨_, _, halloc, -⟩ := PhysicalFrameAllocator.exists_allocateFramesFor
    htenancy.realizes.represents htenancy.realizes.housed.sound howner hfit room'
  refine ⟨memory, lives, hmap, space, created, hcreate, allocateUserStack_of_slot ?_ rfl halloc⟩
  rw [hnext, hslot]
  rfl

/-- The first stack after boot, with the allocations that served it. -/
theorem user_stack_allocated_iff_boot :
    ∃ space created stack used,
      createUserAddressSpace bootMemory = .ok (space, created) ∧
      allocateUserStack walkMapper space created onePage = .ok (stack, used) ∧
      ∃ served,
        created.allocator.frameMap.Serves
          (stackRequests created.tables space.level4Frame.asAddress 0 1) served := by
  have hconsistent := bootMemory_consistent
  obtain ⟨space, created, stack, used, -, -, hcreate, hstack, -⟩ :=
    bootMemory_rested.exists_life walkMapper_walks hconsistent.sound
      hconsistent.represents.trackable bootMemory_freeRun bootMemory_room (by decide) (by decide)
  obtain ⟨-, hnext, s, htenancy, hcreated, -⟩ := hconsistent.tenancy hcreate
  have hfresh : ∀ page, userStackRegionBase ≤ page → page < userSpaceEnd →
    created.tables.leaf space.level4Frame.asAddress page = none := fun page hle hlt => by
    rw [htenancy.realizes.tables_eq]
    exact hcreated.leaf_eq_none (inWindow_of_bounds (Nat.le_trans (by decide) hle) hlt)
  obtain ⟨-, -, served, hserves⟩ := (user_stack_allocated_iff walkMapper_walks hconsistent hcreate
    .created hfresh onePage).1 ⟨stack, used, hstack⟩
  have hslot : created.nextUserStackSlot = 0 := hnext
  rw [hslot] at hserves
  exact ⟨space, created, stack, used, hcreate, hstack, served, hserves⟩

end ManaOS
