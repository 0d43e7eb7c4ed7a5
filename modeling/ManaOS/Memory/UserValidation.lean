/-
The validation of user ranges against the page tables.

`validate_user_mapping` exists twice: `paging.rs` reads the level-4 frame from CR3,
`address_space.rs` takes the one of an address space.

* `validateUserMapping_iff` (**validation**): which ranges are accepted.
-/
import ManaOS.Memory.UserStack
import ManaOS.Memory.WalkMapper

namespace ManaOS
open Checked UserPageStart Nat

namespace UserAddressSpace
variable (mapper : PageMapper) (space : UserAddressSpace)

def isPageMappedWithFlags (memory : Memory) (pageStart : UserPageStart)
  (requiredFlags : PageTableFlags) : Bool :=
  match space.mappingFlagsForAddress mapper memory pageStart.asU64 with
  | some flags => flags.contains (requiredFlags.union { present := true, userAccessible := true })
  | none => false

def validateUserMapping (memory : Memory) (range : UserVirtualRange)
  (requiredFlags : PageTableFlags) : Bool :=
  match range.firstPageStart, range.lastPageStart with
  | some firstPageStart, some lastPageStart =>
    validatePagesFrom (space.isPageMappedWithFlags mapper memory · requiredFlags) lastPageStart
      (userSpaceEnd / pageSize) firstPageStart
  | _, _ => false

lemma isPageMappedWithFlags_eq (memory : Memory) (pageStart : UserPageStart)
  (requiredFlags : PageTableFlags) :
  space.isPageMappedWithFlags mapper memory pageStart requiredFlags =
    ManaOS.isPageMappedWithFlags mapper memory space.level4Frame pageStart requiredFlags := by
  rw [isPageMappedWithFlags, ManaOS.isPageMappedWithFlags, mappingFlagsForAddress]
  cases mapper.translate space.level4Frame pageStart.asU64 memory.tables <;> rfl

lemma validateUserMapping_eq (memory : Memory) (range : UserVirtualRange)
  (requiredFlags : PageTableFlags) :
  space.validateUserMapping mapper memory range requiredFlags =
    ManaOS.validateUserMapping mapper memory space.level4Frame range requiredFlags := by
  cases hfirst : range.firstPageStart <;> cases hlast : range.lastPageStart <;>
    simp only [validateUserMapping, ManaOS.validateUserMapping, hfirst, hlast,
      isPageMappedWithFlags_eq]

end UserAddressSpace

/-! ### Flags -/

namespace PageTableFlags

lemma contains_iff {flags : PageTableFlags} : flags.contains required = true ↔
  (required.present = true → flags.present = true) ∧ (required.writable = true → flags.writable =
  true) ∧ (required.userAccessible = true → flags.userAccessible = true) ∧ (required.hugePage =
  true → flags.hugePage = true) ∧ (required.noExecute = true → flags.noExecute = true) := by
  simp only [contains, Bool.and_eq_true, Bool.or_eq_true, Bool.not_eq_true', and_assoc,
    ← Bool.not_eq_true, ← imp_iff_not_or]

lemma contains_union_iff {flags a : PageTableFlags} : flags.contains (a.union b) = true ↔
  flags.contains a = true ∧ flags.contains b = true := by
  simp only [contains_iff, union, Bool.or_eq_true, or_imp]
  tauto

lemma contains_user_iff {flags : PageTableFlags} :
  flags.contains { present := true, userAccessible := true } = true ↔
    flags.present = true ∧ flags.userAccessible = true := by
  simp [contains_iff]

end PageTableFlags

/-- The entry that maps an address, down a path of indices, with its page size: a huge page on the
way, or the used entry of the last table. -/
def PageTables.leafFrom (tables : PageTables) : ℕ → List (Fin 512) → Option (PageTableEntry × ℕ)
  | _, [] => none
  | table, [index] =>
    if (tables table index).isUnused then none else some (tables table index, pageSize)
  | table, index :: next :: rest =>
    let entry := tables table index
    if !entry.flags.present then none
    else if entry.flags.hugePage then some (entry, pageSize * 512 ^ (rest.length + 1))
    else leafFrom tables entry.address.asAddress (next :: rest)

/-- The flags of the leaf that maps an address. -/
def PageTables.leafFlags (tables : PageTables) (root address : ℕ) : Option PageTableFlags :=
  (tables.leafFrom root (tablePath address)).map fun leaf => leaf.1.flags

/-- `translate` reports the flags of the leaf. -/
def PageMapper.ReadsLeafFlags (mapper : PageMapper) : Prop :=
  ∀ root address tables, (mapper.translate root address tables).map Translation.flags =
    tables.leafFlags root.asAddress address

/-- The page is mapped present, for the user, and with the required flags. -/
def Memory.MapsUser (memory : Memory) (root : PhysicalFrameStart) (requiredFlags : PageTableFlags)
  (page : ℕ) : Prop :=
  ∃ flags, memory.tables.leafFlags root.asAddress page = some flags ∧ flags.present = true ∧
    flags.userAccessible = true ∧ flags.contains requiredFlags = true

lemma isPageMappedWithFlags_iff {mapper : PageMapper} (hflags : mapper.ReadsLeafFlags) :
  isPageMappedWithFlags mapper memory root page requiredFlags = true ↔
    memory.MapsUser root requiredFlags page.asU64 := by
  rw [Memory.MapsUser, ← hflags, isPageMappedWithFlags]
  cases mapper.translate root page.asU64 memory.tables with
  | none => simp
  | some _ =>
    simp only [PageTableFlags.contains_union_iff, PageTableFlags.contains_user_iff,
      Option.map_some, Option.some.injEq, exists_eq_left']
    rw [and_comm, and_assoc]

/-! ### The loop -/

/-- The runs of the loop of `validate_user_mapping` that end, with their results. -/
inductive Validates (check : UserPageStart → Bool) (lastPageStart : UserPageStart) :
    UserPageStart → Bool → Prop
  | rejected {pageStart : UserPageStart} (hcheck : check pageStart = false) :
      Validates check lastPageStart pageStart false
  | finished (hcheck : check lastPageStart = true) :
      Validates check lastPageStart lastPageStart true
  | outside {pageStart : UserPageStart} (hcheck : check pageStart = true)
      (hne : pageStart ≠ lastPageStart) (hnext : pageStart.checkedAdd pageSize = none) :
      Validates check lastPageStart pageStart false
  | next {pageStart nextPageStart : UserPageStart} {result : Bool}
      (hcheck : check pageStart = true) (hne : pageStart ≠ lastPageStart)
      (hnext : pageStart.checkedAdd pageSize = some nextPageStart)
      (hrest : Validates check lastPageStart nextPageStart result) :
      Validates check lastPageStart pageStart result

lemma add_pageSize_le_of_lt (ha : a % pageSize = 0) (hb : b % pageSize = 0) (h : a < b) :
  a + pageSize ≤ b := by
  rw [pageSize] at *
  omega

section Loop
variable {check : UserPageStart → Bool} {lastPageStart pageStart : UserPageStart}

lemma validatePagesFrom_succ (turns : ℕ) :
    validatePagesFrom check lastPageStart (turns + 1) pageStart =
      if !check pageStart then false else if pageStart = lastPageStart then true else
        (pageStart.checkedAdd pageSize).elim false
        (validatePagesFrom check lastPageStart turns) := by
  -- the equation of the definition would count up to the page size
  delta validatePagesFrom validatePagesFrom._f
  dsimp only
  cases pageStart.checkedAdd pageSize <;> rfl

lemma validatePagesFrom_validates (hturns : userSpaceEnd ≤ pageStart.asU64 + turns * pageSize) :
    Validates check lastPageStart pageStart
      (validatePagesFrom check lastPageStart turns pageStart) := by
  induction turns generalizing pageStart with
  | zero =>
    rw [zero_mul, add_zero] at hturns
    exact absurd pageStart.asU64_lt (not_lt.2 hturns)
  | succ _ ih =>
    rw [validatePagesFrom_succ]
    cases hcheck : check pageStart with
    | false => exact .rejected hcheck
    | true =>
      simp only [Bool.not_true, Bool.false_eq_true, if_false]
      split_ifs with heq
      · subst heq
        exact .finished hcheck
      cases hnext : pageStart.checkedAdd pageSize with
      | none => exact .outside hcheck heq hnext
      | some _ =>
        rw [Option.elim_some]
        refine .next hcheck heq hnext (ih ?_)
        rw [UserPageStart.checkedAdd_eq_some.1 hnext]
        rw [succ_mul] at hturns
        omega

lemma Validates.eq_true_iff (h : Validates check lastPageStart pageStart result)
  (hle : pageStart.asU64 ≤ lastPageStart.asU64) :
  result = true ↔ ∀ page : UserPageStart, pageStart.asU64 ≤ page.asU64 →
    page.asU64 ≤ lastPageStart.asU64 → check page = true := by
  induction h with
  | rejected hcheck =>
    refine iff_of_false Bool.false_ne_true fun hall => ?_
    rw [hall _ (le_refl _) hle] at hcheck
    cases hcheck
  | finished hcheck =>
    refine iff_of_true rfl fun page hlow hhigh => ?_
    rwa [eq_of_asU64 (le_antisymm hhigh hlow)]
  | @outside pageStart _ hne hnext =>
    -- two pages are a page apart, so the next one is below the ceiling
    have hlt : pageStart.asU64 < lastPageStart.asU64 :=
      lt_of_le_of_ne hle fun heq => hne (eq_of_asU64 heq)
    have hstep := add_pageSize_le_of_lt pageStart.asU64_mod lastPageStart.asU64_mod hlt
    obtain ⟨_, hsome⟩ := exists_checkedAdd (lt_of_le_of_lt hstep lastPageStart.asU64_lt)
    rw [hnext] at hsome
    cases hsome
  | @next pageStart _ _ hcheck hne hnext _ ih =>
    have hlt : pageStart.asU64 < lastPageStart.asU64 :=
      lt_of_le_of_ne hle fun heq => hne (eq_of_asU64 heq)
    have hstep := add_pageSize_le_of_lt pageStart.asU64_mod lastPageStart.asU64_mod hlt
    have hval := UserPageStart.checkedAdd_eq_some.1 hnext
    rw [ih (hval ▸ hstep)]
    refine ⟨fun hall page hlow hhigh => ?_, fun hall page hlow hhigh => hall page ?_ hhigh⟩
    · rcases eq_or_lt_of_le hlow with heq | hlow
      · obtain rfl := eq_of_asU64 heq
        exact hcheck
      · refine hall page ?_ hhigh
        rw [hval]
        exact add_pageSize_le_of_lt pageStart.asU64_mod page.asU64_mod hlow
    · omega

end Loop

/-! ### Ranges -/

namespace UserVirtualRange
variable (range : UserVirtualRange)

/-- The page at an address meets the range. -/
def MeetsPage (page : ℕ) : Prop :=
  page % pageSize = 0 ∧ page < range.endExclusive ∧ range.start.asU64 < page + pageSize

/-- The range starts below the first page of the user half. -/
def TouchesPageZero : Prop := range.MeetsPage 0

lemma touchesPageZero_iff : range.TouchesPageZero ↔ range.start.asU64 < pageSize := by
  rw [TouchesPageZero, MeetsPage, endExclusive, zero_add]
  exact ⟨fun h => h.2.2, fun h => ⟨rfl, lt_of_lt_of_le range.pos (le_add_left _ _), h⟩⟩

end UserVirtualRange

lemma UserVirtualAddress.alignDownToPage_eq_some {address : UserVirtualAddress} :
  address.alignDownToPage = some page ↔ page.asU64 = alignDown address.asU64 pageSize := by
  simp only [alignDownToPage, Option.bind_eq_some_iff, new_eq_some, UserPageStart.new_eq_some]
  constructor
  · rintro ⟨_, hval, rfl⟩
    exact hval
  · exact fun h => ⟨page.asAddress, h, rfl⟩

namespace UserVirtualRange
variable (range : UserVirtualRange)

lemma firstPageStart_eq_none (h : range.TouchesPageZero) : range.firstPageStart = none := by
  by_contra hsome
  obtain ⟨page, hpage⟩ := Option.ne_none_iff_exists'.1 hsome
  have hval := UserVirtualAddress.alignDownToPage_eq_some.1 hpage
  rw [alignDown, div_eq_of_lt (range.touchesPageZero_iff.1 h), zero_mul] at hval
  exact page.asAddress.ne_zero hval

lemma exists_alignDown {address : UserVirtualAddress} (h : pageSize ≤ address.asU64) :
  ∃ page : UserPageStart, address.alignDownToPage = some page ∧
    page.asU64 = alignDown address.asU64 pageSize := by
  have hpos : 0 < alignDown address.asU64 pageSize :=
    Nat.mul_pos (Nat.div_pos h (by decide)) (by decide)
  obtain ⟨page, hpage⟩ := exists_asU64 (Nat.ne_of_gt hpos)
    (Nat.lt_of_le_of_lt (alignDown_le _ _) address.lt_end)
    (Nat.mod_eq_zero_of_dvd (dvd_alignDown _ _))
  exact ⟨page, UserVirtualAddress.alignDownToPage_eq_some.2 hpage, hpage⟩

lemma exists_pageStarts (h : ¬ range.TouchesPageZero) :
    ∃ first last : UserPageStart,
      range.firstPageStart = some first ∧
      range.lastPageStart = some last ∧
      first.asU64 = alignDown range.start.asU64 pageSize ∧
      last.asU64 = alignDown (range.endExclusive - 1) pageSize := by
  have hst : pageSize ≤ range.start.asU64 := by
    rwa [touchesPageZero_iff, not_lt] at h
  have hpos := range.pos
  have hend := range.le_end
  obtain ⟨first, hfirst, hfirstValue⟩ := exists_alignDown hst
  have hlastLow : pageSize ≤ range.endExclusive - 1 := by
    rw [endExclusive]
    omega
  have hlastHigh : range.endExclusive - 1 < userSpaceEnd := by
    rw [endExclusive]
    omega
  obtain ⟨address, haddr⟩ : ∃ address : UserVirtualAddress,
    address.asU64 = range.endExclusive - 1 :=
    ⟨⟨range.endExclusive - 1, ne_of_gt (lt_of_lt_of_le (by decide) hlastLow), hlastHigh⟩, rfl⟩
  obtain ⟨last, hlast, hlastValue⟩ := exists_alignDown (haddr ▸ hlastLow)
  rw [haddr] at hlastValue
  refine ⟨first, last, hfirst, ?_, hfirstValue, hlastValue⟩
  have hsub : checkedSub range.endExclusive 1 = some (range.endExclusive - 1) :=
    checkedSub_eq_some.2 ⟨by rw [endExclusive]; omega, rfl⟩
  rw [lastPageStart, hsub, Option.bind_some, UserVirtualAddress.new_eq_some.2 haddr,
    Option.bind_some, hlast]

lemma start_le_last : range.start.asU64 ≤ range.endExclusive - 1 := by
  have hpos := range.pos
  rw [endExclusive]
  omega

lemma exists_page (h : ¬ range.TouchesPageZero) (hpage : range.MeetsPage page) :
  ∃ userPage : UserPageStart, userPage.asU64 = page := by
  have hne : page ≠ 0 := by
    rintro rfl
    exact h hpage
  exact exists_asU64 hne (lt_of_lt_of_le hpage.2.1 range.le_end) hpage.1

lemma meetsPage_iff (hfirst : first = alignDown range.start.asU64 pageSize)
  (hlast : last = alignDown (range.endExclusive - 1) pageSize) (hpage : page % pageSize = 0) :
  range.MeetsPage page ↔ first ≤ page ∧ page ≤ last := by
  have hpos := range.pos
  have hend : range.endExclusive = range.start.asU64 + range.byteLen := rfl
  rw [MeetsPage, hfirst, hlast, alignDown, alignDown]
  generalize range.endExclusive = stop at *
  generalize range.start.asU64 = start at *
  clear hfirst hlast
  simp only [pageSize] at *
  omega

end UserVirtualRange

section Validation
variable (mapper : PageMapper) (memory : Memory) (root : PhysicalFrameStart)
  (range : UserVirtualRange) (requiredFlags : PageTableFlags)

lemma exists_validates (htch : ¬ range.TouchesPageZero) :
    ∃ first last,
      range.firstPageStart = some first ∧
      range.lastPageStart = some last ∧
      Validates (isPageMappedWithFlags mapper memory root · requiredFlags) last first
        (validateUserMapping mapper memory root range requiredFlags) ∧
      (validateUserMapping mapper memory root range requiredFlags = true ↔
         ∀ page : UserPageStart,
           range.MeetsPage page.asU64 →
           isPageMappedWithFlags mapper memory root page requiredFlags = true) := by
  obtain ⟨first, last, hfirst, hlast, hfirstValue, hlastValue⟩ := range.exists_pageStarts htch
  have hloop : Validates (isPageMappedWithFlags mapper memory root · requiredFlags) last first
    (validateUserMapping mapper memory root range requiredFlags) := by
    simp only [validateUserMapping, hfirst, hlast]
    exact validatePagesFrom_validates (Nat.le_add_left _ _)
  have hle : first.asU64 ≤ last.asU64 := by
    rw [hfirstValue, hlastValue]
    exact Nat.mul_le_mul_right _ (Nat.div_le_div_right range.start_le_last)
  refine ⟨first, last, hfirst, hlast, hloop, (hloop.eq_true_iff hle).trans
    (forall_congr' fun page => ?_)⟩
  rw [range.meetsPage_iff hfirstValue hlastValue page.asU64_mod, and_imp]

lemma validateUserMapping_eq_false (htch : range.TouchesPageZero) :
  validateUserMapping mapper memory root range requiredFlags = false := by
  rw [validateUserMapping, range.firstPageStart_eq_none htch]

lemma validateUserMapping_eq_true_iff : validateUserMapping mapper memory root range requiredFlags =
  true ↔ ¬ range.TouchesPageZero ∧ ∀ page : UserPageStart, range.MeetsPage page.asU64 →
  isPageMappedWithFlags mapper memory root page requiredFlags = true := by
  by_cases htch : range.TouchesPageZero
  · rw [validateUserMapping_eq_false mapper memory root range requiredFlags htch]
    exact iff_of_false Bool.false_ne_true fun h => h.1 htch
  · obtain ⟨_, _, -, -, -, hiff⟩ := exists_validates mapper memory root range requiredFlags htch
    rw [hiff]
    exact (and_iff_right htch).symm

end Validation

/-- **User range validation.**  The loop ends for every range that leaves page zero alone, and
accepts exactly the ranges all of whose pages are mapped present, for the user and with the
required flags; a range that touches page zero is refused.  On one level-4 frame, the version of the
active address space and that of a given one agree. -/
theorem validateUserMapping_iff {mapper : PageMapper} (hflags : mapper.ReadsLeafFlags)
    (memory : Memory) (root : PhysicalFrameStart) (range : UserVirtualRange)
    (requiredFlags : PageTableFlags) :
    (¬ range.TouchesPageZero →
     ∃ first last,
       range.firstPageStart = some first ∧
       range.lastPageStart = some last ∧
       Validates (isPageMappedWithFlags mapper memory root · requiredFlags) last first
         (validateUserMapping mapper memory root range requiredFlags) ∧
       (∀ space : UserAddressSpace,
         space.level4Frame = root →
         Validates (space.isPageMappedWithFlags mapper memory · requiredFlags) last first
           (space.validateUserMapping mapper memory range requiredFlags)) ∧
       (validateUserMapping mapper memory root range requiredFlags = true ↔
          ∀ page, range.MeetsPage page → memory.MapsUser root requiredFlags page)) ∧
    (range.TouchesPageZero → validateUserMapping mapper memory root range requiredFlags = false) ∧
    ∀ space : UserAddressSpace,
      memory.activeLevel4Frame = space.level4Frame →
      validateUserMapping mapper memory memory.activeLevel4Frame range requiredFlags =
        space.validateUserMapping mapper memory range requiredFlags := by
  refine ⟨fun htouches => ?_, validateUserMapping_eq_false mapper memory root range requiredFlags,
    fun space hactive => ?_⟩
  · obtain ⟨first, last, hfirst, hlast, hloop, hiff⟩ :=
      exists_validates mapper memory root range requiredFlags htouches
    refine ⟨first, last, hfirst, hlast, hloop, fun space hspace => ?_, hiff.trans
      ⟨fun hall page hpage => ?_, fun hall page hpage => ?_⟩⟩
    · subst hspace
      simpa only [space.isPageMappedWithFlags_eq, space.validateUserMapping_eq] using hloop
    · obtain ⟨page, rfl⟩ := range.exists_page htouches hpage
      exact (isPageMappedWithFlags_iff hflags).1 (hall page hpage)
    · exact (isPageMappedWithFlags_iff hflags).2 (hall page.asU64 hpage)
  · rw [space.validateUserMapping_eq, hactive]

/-- The walking mapper with a `translate` that reports every leaf, huge pages included. -/
def leafMapper : PageMapper :=
  { walkMapper with
    translate := fun root address tables =>
      (tables.leafFrom root.asAddress (tablePath address)).map fun leaf =>
        ⟨leaf.1.address.asAddress + address % leaf.2, leaf.1.flags⟩ }

lemma leafMapper_readsLeafFlags : leafMapper.ReadsLeafFlags := fun _ _ _ => Option.map_map ..

/-- A table all of whose entries point back to it. -/
def selfMappedMemory : Memory :=
  { bootMemory with tables := fun _ _ => ⟨bootMemory.activeLevel4Frame, userDataFlags⟩ }

lemma programBase_lt : userProgramBase + 4095 < userSpaceEnd := by decide

lemma three_bytes_pos : 0 < 3 := by decide

/-- Three bytes around the end of the first page of a program. -/
def acrossPages : UserVirtualRange :=
  ⟨⟨userProgramBase + 4095, Nat.succ_ne_zero _, programBase_lt⟩, 3, three_bytes_pos, by decide⟩

/-- A range across two mapped pages is accepted. -/
theorem validateUserMapping_iff_acrossPages :
  validateUserMapping leafMapper selfMappedMemory selfMappedMemory.activeLevel4Frame acrossPages
    { noExecute := true } = true := by
  have htouches : ¬ acrossPages.TouchesPageZero := by
    rw [UserVirtualRange.touchesPageZero_iff]
    decide
  obtain ⟨_, _, -, -, -, -, hiff⟩ := (validateUserMapping_iff leafMapper_readsLeafFlags
    selfMappedMemory selfMappedMemory.activeLevel4Frame acrossPages
      { noExecute := true }).1 htouches
  exact hiff.2 fun _ _ => ⟨userDataFlags, rfl, rfl, rfl, rfl⟩

end ManaOS
