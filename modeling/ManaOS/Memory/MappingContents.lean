/-
The bytes of a private mapping.

`map_pages` zeroes a frame, lets the initializer fill its front and maps it; later pages leave it.

* `mapPrivate_contents`: the pages of a successful call.
-/
import ManaOS.Memory.MappingCalls

namespace ManaOS
open Checked

/-- The page is mapped, and its bytes are those of the list, then zeros. -/
def PageContents (memory : Memory) (root page : ℕ) (contents : List UInt8) : Prop :=
  ∃ entry, memory.tables.leaf root page = some entry ∧ ∀ offset < pageSize,
    memory.bytes (entry.address.asAddress + offset) = contents.getD offset 0

lemma Memory.bytes_filled (memory : Memory) (frame : ℕ) (contents : List UInt8)
  (hoff : offset < pageSize) :
  ((memory.zeroBytes frame pageSize).writeBytes frame contents).bytes (frame + offset) =
    contents.getD offset 0 := by
  have hzero : (memory.zeroBytes frame pageSize).bytes (frame + offset) = 0 :=
    if_pos ⟨Nat.le_add_right _ _, by omega⟩
  rw [writeBytes]
  dsimp only
  rw [if_pos (Nat.le_add_right _ _), Nat.add_sub_cancel_left, hzero, List.getD_eq_getElem?_getD]

/-- **What the initializer leaves in each page**, whatever it has captured on the way. -/
structure Initializes {σ : Type} (initializePage : PageInitializer σ) (length : ℕ)
    (held : σ → Prop) (contents : ℕ → List UInt8) : Prop where
  outcome : ∀ {captured captured' pageIndex filled}, held captured →
    pageOutcome initializePage length captured pageIndex = (.ok filled, captured') →
    filled = contents pageIndex ∧ held captured'
  fits : ∀ pageIndex, (contents pageIndex).length ≤ pageSize

namespace UserMappings

section Loop
variable {mapper : PageMapper} {space : UserAddressSpace} {memory memory' : Memory}
  {s s0 : PageState} {σ : Type} {start : UserPageStart} {remaining mappedPages : ℕ}
  {flags : PageTableFlags} {held : σ → Prop} {contents : ℕ → List UInt8}

/-- What a loop that has mapped all its pages leaves. -/
structure Written (s s' : PageState) (root : ℕ) (start : UserPageStart) (memory memory' : Memory)
    (mappedPages remaining : ℕ) (contents : ℕ → List UInt8) : Prop where
  realizes : memory'.Realizes s'
  kept : ∀ {n x}, s.place n = some x → s'.place n = some x
  keepsBytes : KeepsBytes s memory memory'
  written : ∀ index, mappedPages ≤ index → index < mappedPages + remaining → ∃ page,
    userPageStart start index = some page ∧ PageContents memory' root page.asU64 (contents index)

lemma pageContents_of_place {s2 : PageState}
  {frame : PhysicalFrameStart} {page : UserPageStart} {filled : List UInt8}
  (h' : memory'.Realizes s') (hroot : s'.IsRoot root) (hpage : InWindow page.asU64)
  (hpl : s2.place frame.asAddress = some (root, tablePath page.asU64))
  (hpl' : s'.place frame.asAddress = some (root, tablePath page.asU64))
  (hkept : KeepsBytes s2 memory2 memory') (hbytes : ∀ offset < pageSize,
    memory2.bytes (frame.asAddress + offset) = filled.getD offset 0) :
  PageContents memory' root page.asU64 filled := by
  obtain ⟨entry, hleaf, haddr⟩ := h'.housed.forest.leaf_of_place hroot hpage hpl'
  refine ⟨entry, by rw [h'.tables_eq, hleaf], fun offset hoff => ?_⟩
  rw [haddr, hkept _ _ offset hpl hoff, hbytes offset hoff]

/-- **Every page of the loop has the bytes of its initializer.** -/
lemma mapPagesLoop_contents (hwalk : mapper.Walks) (hpres : flags.present = true)
    (hhuge : flags.hugePage = false) (hroot : s0.IsRoot space.root)
    (hbase : userMappingBase ≤ start.asU64)
    (hinits : Initializes initializePage length held contents) (hheld : held captured)
    (hend : start.asU64 + (mappedPages + remaining) * pageSize ≤ userMappingEnd)
    (h : memory.Realizes s)
    (hfill : Filling s0 space.root .userMapping (pagesAt start (List.range mappedPages)) frames s)
    (hok : mapPagesLoop mapper space start length flags initializePage remaining mappedPages memory
        captured =
        .ok (.ok (), memory', captured')) :
    ∃ s', Written s s' space.root start memory memory' mappedPages remaining contents := by
  induction remaining generalizing mappedPages memory s frames captured with
  | zero =>
    cases hok
    exact ⟨s, h, fun hn => hn, .of_eq rfl, fun index hle hlt => by omega⟩
  | succ remaining ih =>
    obtain ⟨page, hpage, -, hwin, -⟩ := exists_turnPage hbase hend
    rcases Memory.allocateFrameFor_spec h userMapping_mem with
      ⟨-, hfrm⟩ | ⟨f, -, -, hfrm⟩ | ⟨frame, allocator, hfrm, hfit, -, h1⟩
    · -- without a frame the loop answers with an error, if it returns
      rw [mapPagesLoop_exhausted hpage hfrm, bind_eq_ok] at hok
      obtain ⟨_, -, hok⟩ := hok
      cases hok
    · rw [mapPagesLoop, hpage] at hok
      simp only [hfrm, error_bind] at hok
      cases hok
    obtain ⟨outcome, hinit⟩ : ∃ outcome,
      pageOutcome initializePage length captured mappedPages = outcome := ⟨_, rfl⟩
    obtain ⟨_ | _, _⟩ := outcome
    · rw [mapPagesLoop_rejected hpage hfrm hinit] at hok
      simp only [bind_eq_ok] at hok
      obtain ⟨_, -, _, -, hok⟩ := hok
      cases hok
    rw [mapPagesLoop_accepted hpage hfrm hinit, bind_eq_ok] at hok
    obtain ⟨memory2, hmap, hok⟩ := hok
    obtain ⟨-, _, hfill2, h2, heq2, -, hkept2, hpl⟩ := hfill.mapUserPage_ok hwalk h
      ((h1.zeroBytes _ _).writeBytes _ _) hroot userMapping_mem
      (fun _ => inWindow_of_mem hbase) hwin hfit hpres hhuge hmap
    rw [← pagesAt_range_succ hpage] at hfill2
    have hcnt : mappedPages + 1 + remaining = mappedPages + (remaining + 1) := by omega
    rw [← hcnt] at hend
    obtain ⟨hfilled, hheld1⟩ := hinits.outcome hheld hinit
    obtain ⟨s', hwritten⟩ := ih hheld1 hend h2 hfill2 hok
    have hwrite : KeepsBytes s memory memory2 :=
      .of_frame h.housed hfit.isFree fun address hout => by
        have hcont := hinits.fits mappedPages
        rw [← hfilled] at hcont
        rw [heq2]
        exact (Memory.writeBytes_of_out _ (by omega)).trans
          (Memory.zeroBytes_of_out _ hout)
    refine ⟨s', hwritten.realizes, fun hn => hwritten.kept (hkept2 hn),
      hwrite.trans (hwritten.keepsBytes.mono hkept2), fun index hfrom hto => ?_⟩
    rcases Nat.eq_or_lt_of_le hfrom with rfl | hlater
    · refine ⟨page, hpage, pageContents_of_place hwritten.realizes (hwritten.kept
        (hfill2.kept hroot)) hwin hpl (hwritten.kept hpl) hwritten.keepsBytes fun offset hoff => ?_⟩
      rw [heq2, ← hfilled]
      exact Memory.bytes_filled _ _ _ hoff
    · exact hwritten.written index hlater (by omega)

end Loop

section Call
variable {mapper : PageMapper} {space : UserAddressSpace} {mappings : UserMappings} {σ : Type}
  {memory : Memory} {held : σ → Prop} {contents : ℕ → List UInt8}

/-- **The pages of a successful call** have the bytes of the initializer. -/
lemma mapPrivate_contents (hwalk : mapper.Walks) (h : memory.Realizes s)
  (hroot : s.IsRoot space.root) (hback : mappings.Backed s space.root)
  (hok : mappings.mapPrivate mapper space memory plan initializePage captured =
    .ok (.ok allocation, mappings', memory', captured'))
  (hinits : Initializes initializePage plan.length.byteLen held contents)
  (hheld : held captured) :
  ∃ start : UserPageStart, allocation.start.asU64 = start.asU64 ∧
    ∀ index < plan.length.pageCount.asU64, ∃ page, userPageStart start index = some page ∧
      PageContents memory' space.root page.asU64 (contents index) := by
  cases hadm : mappings.admitted plan with
  | error error =>
    rw [mapPrivate_of_refused mapper space initializePage captured memory hadm] at hok
    cases hok
  | ok range =>
    rcases mapPrivate_of_admitted initializePage captured hwalk h hroot hback hadm with
      ⟨-, herr⟩ | ⟨-, count, mappings1, memory1, s1, index, hempt, hcall⟩
    · rw [herr] at hok
      cases hok
    rw [hcall, map_eq_ok] at hok
    obtain ⟨⟨mapped, _, _⟩, hpages, hconcluded⟩ := hok
    cases mapped with
    | error _ => cases hconcluded
    | ok _ =>
      cases hconcluded
      have hroot1 := (hempt.cleared.table_iff (by simp)).2 hroot
      have hend : range.start.asU64 + (0 + plan.length.pageCount.asU64) * pageSize ≤
        userMappingEnd := by
        rw [Nat.zero_add, ← pageCount_of_admitted hadm]
        exact range.stop_le
      obtain ⟨_, hwritten⟩ := mapPagesLoop_contents hwalk rfl rfl hroot1 range.base_le
        hinits hheld hend hempt.realizes (.refl s1 _ _) hpages
      refine ⟨range.start, rfl, fun index hidx => ?_⟩
      exact hwritten.written index (Nat.zero_le _) (by omega)

end Call
end UserMappings

/-- The byte at a user address, through the tables of an address space. -/
def Memory.byteAt (memory : Memory) (root address : ℕ) : Option UInt8 :=
  (memory.tables.leaf root (address / pageSize * pageSize)).map fun entry =>
    memory.bytes (entry.address.asAddress + address % pageSize)

lemma PageContents.byteAt {page : UserPageStart} (h : PageContents memory root page.asU64 contents)
  (hoff : offset < pageSize) :
  memory.byteAt root (page.asU64 + offset) = some (contents.getD offset 0) := by
  obtain ⟨_, hleaf, hbytes⟩ := h
  have halign : page.asU64 % pageSize = 0 := page.aligned
  have hpage : (page.asU64 + offset) / pageSize * pageSize = page.asU64 := by
    rw [pageSize] at *
    omega
  have hrest : (page.asU64 + offset) % pageSize = offset := by
    rw [pageSize] at *
    omega
  rw [Memory.byteAt, hpage, hrest, hleaf, Option.map_some, hbytes offset hoff]

lemma byteAt_of_pageContents {contents : ℕ → List UInt8}
  (h : ∀ index < count, ∃ page, userPageStart start index = some page ∧
    PageContents memory root page.asU64 (contents index))
  (hi : i < count * pageSize) :
  memory.byteAt root (start.asU64 + i) =
    some ((contents (i / pageSize)).getD (i % pageSize) 0) := by
  have hidx : i / pageSize < count := Nat.div_lt_of_lt_mul (by rwa [Nat.mul_comm])
  obtain ⟨page, hpage, hcont⟩ := h _ hidx
  have hsplit : start.asU64 + i = page.asU64 + i % pageSize := by
    rw [userPageStart_eq_some.1 hpage, Nat.add_assoc, Nat.div_add_mod']
  rw [hsplit]
  exact hcont.byteAt (Nat.mod_lt _ (by decide))

end ManaOS
