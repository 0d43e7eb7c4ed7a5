/-
Loops that map and unmap user pages.

Frames are allocated one by one and mapped at consecutive pages, or pages are unmapped.

* `UserAddressSpace.unmapEach_spec`: mapped pages of the owner are unmapped.
-/
import ManaOS.Memory.SpaceRuns
import ManaOS.Memory.TableDemand

namespace ManaOS
open Checked TableForest List

/-- One step of the work on an address space, with the frames that are allocated and not mapped
yet. -/
inductive SpaceStep (root : ℕ) : PageState × List PhysicalFrameStart →
    PageState × List PhysicalFrameStart → Prop
  | allocated {s : PageState} {pending : List PhysicalFrameStart} {range : PhysicalFrameRange}
      {owner : FrameRangeOwner} (howner : owner ∈ userDataOwners)
      (hfree : s.labels.FreeRun range.firstFrame range.frameCount.asU64) :
      SpaceStep root (s, pending)
        ({ s with labels := s.labels.mark range.firstFrame range.frameCount.asU64 (.used, owner) },
          range.frames ++ pending)
  | released {s : PageState} {pending : List PhysicalFrameStart} {frame : PhysicalFrameStart}
      (hframe : frame ∈ pending) :
      SpaceStep root (s, pending)
        ({ s with labels := s.labels.mark (frame.asAddress / pageSize) 1 (.free, .free) },
          pending.erase frame)
  | mapped {s s' : PageState} {pending : List PhysicalFrameStart} {frame : PhysicalFrameStart}
      {flags : PageTableFlags} {page : UserPageStart} (hframe : frame ∈ pending)
      (hpage : InWindow page.asU64) (hmapped : Mapped s root page.asU64 ⟨frame, flags⟩ s') :
      SpaceStep root (s, pending) (s', pending.erase frame)
  | unmapped {s s' : PageState} {pending : List PhysicalFrameStart} {page : UserPageStart}
      {entry : PageTableEntry} (hpage : InWindow page.asU64)
      (hunmapped : Unmapped s root page.asU64 entry s') :
      SpaceStep root (s, pending) (s', pending)

namespace PhysicalFrameStart

lemma frames_frameRange (frame : PhysicalFrameStart) (h : frame.asAddress + pageSize < wordSize) :
  (frameRange frame h).frames = [frame] := by
  have hone : (frameRange frame h).frameCount.asU64 = 1 := rfl
  have hfirst : (frameRange frame h).firstFrame = frame.asAddress / pageSize := rfl
  rw [PhysicalFrameRange.frames, hone, hfirst]
  exact congrArg (fun frame => [frame]) (eq_of_address frame.div_mul)

end PhysicalFrameStart

/-! ### One frame -/

/-- The state after a frame has been allocated. -/
def PageState.give (s : PageState) (frame : PhysicalFrameStart) (owner : FrameRangeOwner) :
  PageState :=
  { s with labels := s.labels.mark (frame.asAddress / pageSize) 1 (.used, owner) }

lemma Memory.Realizes.of_eq {memory memory' : Memory} (h : memory.Realizes s)
  (htbls : memory'.tables = memory.tables) (halloc : memory'.allocator = memory.allocator) :
  memory'.Realizes s :=
  ⟨htbls.trans h.tables_eq, by rw [halloc]; exact h.represents, h.housed⟩

lemma ne_free_of_mem_userDataOwners (h : owner ∈ userDataOwners) : owner ≠ .free := by
  rintro rfl
  exact absurd h (by decide)

lemma PageState.Housed.give {s : PageState} (h : s.Housed) {frame : PhysicalFrameStart}
  (hfit : s.labels.FirstFit 1 (frame.asAddress / pageSize)) (howner : owner ∈ userDataOwners) :
  (s.give frame owner).Housed :=
  h.allocate Nat.zero_lt_one hfit.free (ne_free_of_mem_userDataOwners howner)

section Allocate
variable {memory : Memory} {s : PageState} (h : memory.Realizes s) {owner : FrameRangeOwner}
  (howner : owner ∈ userDataOwners)
include h in
lemma PageState.give_unplaced {frame : PhysicalFrameStart}
  (hfit : s.labels.FirstFit 1 (frame.asAddress / pageSize)) : s.place frame.asAddress = none := by
  rw [← frame.div_mul]
  exact h.housed.place_of_free hfit.isFree

include h howner in
lemma Memory.allocateFrameFor_spec :
  ((∀ f, ¬ s.labels.IsFree f) ∧ memory.allocateFrameFor owner = .ok (none, memory)) ∨
  (∃ f, s.labels.FirstFit 1 f ∧ ¬ s.labels.HasRoom f 1 ∧
    memory.allocateFrameFor owner = .error capacityExhausted) ∨
  ∃ frame allocator, memory.allocateFrameFor owner = .ok (some frame, { memory with allocator }) ∧
    s.labels.FirstFit 1 (frame.asAddress / pageSize) ∧
    s.labels.HasRoom (frame.asAddress / pageSize) 1 ∧
    Memory.Realizes { memory with allocator } (s.give frame owner) := by
  have hne := ne_free_of_mem_userDataOwners howner
  rcases PhysicalFrameAllocator.allocateFrameFor_spec h.represents h.housed.sound hne with
    ⟨hnone, hok⟩ | ⟨f, hfit, hroom, herr⟩ | ⟨frame, allocator, hok, hfit, hroom, hrep⟩
  · exact .inl ⟨hnone, by rw [allocateFrameFor, hok]; rfl⟩
  · exact .inr (.inl ⟨f, hfit, hroom, by rw [allocateFrameFor, herr]; rfl⟩)
  · refine .inr (.inr ⟨frame, allocator, by rw [allocateFrameFor, hok]; rfl, hfit, hroom,
      h.tables_eq, hrep, ?_⟩)
    exact h.housed.give hfit howner

include h howner in
lemma Memory.exists_allocateFrameFor (hfit : s.labels.FirstFit 1 f) (hroom : s.labels.HasRoom f 1) :
  ∃ frame allocator, memory.allocateFrameFor owner = .ok (some frame, { memory with allocator }) ∧
    frame.asAddress / pageSize = f ∧
    Memory.Realizes { memory with allocator } (s.give frame owner) := by
  rcases allocateFrameFor_spec h howner with
    ⟨hfull, -⟩ | ⟨f', hfit', hroom', -⟩ | ⟨frame, allocator, hok, hfit', -, h'⟩
  · exact absurd hfit.isFree (hfull f)
  · exact absurd (hfit'.unique hfit ▸ hroom) hroom'
  · exact ⟨frame, allocator, hok, hfit'.unique hfit, h'⟩

lemma PhysicalFrameStart.eq_of_div_eq {frame frame' : PhysicalFrameStart}
  (h : frame.asAddress / pageSize = frame'.asAddress / pageSize) : frame = frame' :=
  eq_of_address (by rw [← frame.div_mul, ← frame'.div_mul, h])

include h howner in
lemma SpaceStep.give {frame : PhysicalFrameStart}
  (hfit : s.labels.FirstFit 1 (frame.asAddress / pageSize)) :
  SpaceStep root (s, pending) (s.give frame owner, frame :: pending) := by
  obtain ⟨o, hlab⟩ := hfit.isFree
  have hfits := h.represents.frame_fits hlab
  rw [frame.div_mul] at hfits
  have hrun : s.labels.FreeRun (frameRange frame hfits).firstFrame
    (frameRange frame hfits).frameCount.asU64 := hfit.free
  have hstep : SpaceStep root (s, pending) _ := .allocated howner hrun
  rwa [frame.frames_frameRange hfits] at hstep

end Allocate

/-! ### Unmapping pages one after the other -/

/-- The frames of the leaves of some pages. -/
def PageTables.framesOf (tables : PageTables) (root : ℕ) (pages : List UserPageStart) :
  List PhysicalFrameStart :=
  pages.filterMap fun page => (tables.leaf root page.asU64).map PageTableEntry.address

/-- The page is mapped with a frame of the owner. -/
def PageState.Owned (s : PageState) (root : ℕ) (owner : FrameRangeOwner)
  (page : UserPageStart) : Prop := ∃ entry, s.tables.leaf root page.asU64 =
    some entry ∧ s.labels (entry.address.asAddress / pageSize) = some (.used, owner)

/-- What unmapping some pages of an address space does. -/
structure Cleared (s : PageState) (root : ℕ) (pages : List UserPageStart) (s' : PageState) :
    Prop where
  housed : s'.Housed
  table_iff : ∀ {n r path}, path.length < 4 →
    (s'.place n = some (r, path) ↔ s.place n = some (r, path))
  leaf_eq : ∀ {r} {page : UserPageStart}, s.place r = some (r, []) → InWindow page.asU64 →
    s'.tables.leaf r page.asU64 =
      if r = root ∧ page ∈ pages then none else s.tables.leaf r page.asU64
  labels_eq : s'.labels = s.labels.freeAll (s.tables.framesOf root pages)
  owned : ∀ {owner} {page : UserPageStart}, InWindow page.asU64 → page ∉ pages →
    s.Owned root owner page → s'.Owned root owner page
  newTables_eq : ∀ {page}, InWindow page → ∀ earlier,
    s'.tables.newTables root earlier page = s.tables.newTables root earlier page
  steps : ∀ pending, Relation.ReflTransGen (SpaceStep root) (s, pending) (s', pending)

lemma Cleared.refl {s : PageState} (h : s.Housed) (root : ℕ) : Cleared s root [] s :=
  ⟨h, fun _ => Iff.rfl, fun _ _ => by simp, rfl, fun _ _ howned => howned, fun _ _ => rfl,
    fun _ => .refl⟩

namespace UserAddressSpace

/-- The pages are unmapped one after the other; each of them must be mapped. -/
def unmapEach (mapper : PageMapper) (space : UserAddressSpace) (owner : FrameRangeOwner)
  (message : String) : List UserPageStart → Memory → Panicking Memory
  | [], memory => .ok memory
  | page :: pages, memory => do
      let (unmapped, memory) ← space.unmapUserPageFor mapper memory page owner
      require unmapped message
      unmapEach mapper space owner message pages memory

end UserAddressSpace

section Unmap
variable {page : UserPageStart}

lemma Unmapped.leaf_of_ne (h : Unmapped s root page.asU64 entry s') {page' : UserPageStart}
  (hroot : s.place r = some (r, [])) (hpage : InWindow page'.asU64)
  (hne : ¬ (r = root ∧ page' = page)) :
  s'.tables.leaf r page'.asU64 = s.tables.leaf r page'.asU64 := by
  rw [h.leaf_eq hroot hpage, if_neg]
  rintro ⟨heq, hpath⟩
  exact hne ⟨heq, UserPageStart.eq_of_tablePath hpath⟩

lemma Unmapped.place_of_table (h : Unmapped s root page.asU64 entry s')
  {path : List (Fin 512)} (hlen : path.length < 4) :
  s'.place n = some (r, path) ↔ s.place n = some (r, path) := by
  rw [h.place_eq]
  by_cases hne : n = entry.address.asAddress
  · rw [hne, Function.update_self, h.placed]
    refine iff_of_false (by simp) fun heq => ?_
    rw [Option.some.injEq, Prod.mk.injEq] at heq
    rw [← heq.2] at hlen
    exact absurd hlen (by simp [tablePath])
  · rw [Function.update_of_ne hne]

lemma Unmapped.owned (h : Unmapped s root page.asU64 entry s') (hs : s.Housed)
  (hroot : s.IsRoot root) {page' : UserPageStart} (hpage : InWindow page'.asU64)
  (hne : page' ≠ page) (howned : s.Owned root owner page') : s'.Owned root owner page' := by
  obtain ⟨entry', hleaf, hlab⟩ := howned
  refine ⟨entry', by rw [h.leaf_of_ne hroot hpage fun heq => hne heq.2, hleaf], ?_⟩
  rw [h.labels_eq, ← hlab]
  -- the frames of two pages stand at different places
  refine if_neg fun hfrm => hne ?_
  have hplc := hs.forest.place_of_leaf hroot hpage hleaf
  have hsame : entry'.address.asAddress = entry.address.asAddress := by
    rw [← entry'.address.div_mul, ← entry.address.div_mul]
    congr 1
    omega
  rw [hsame, h.placed, Option.some.injEq, Prod.mk.injEq] at hplc
  exact (UserPageStart.eq_of_tablePath hplc.2).symm

lemma Unmapped.framesOf_eq (h : Unmapped s root page.asU64 entry s') (hroot : s.IsRoot root)
  (hpages : ∀ page' ∈ pages, InWindow page'.asU64) (hnot : page ∉ pages) :
  s'.tables.framesOf root pages = s.tables.framesOf root pages := by
  refine filterMap_congr fun page' hpage' => ?_
  rw [h.leaf_of_ne hroot (hpages page' hpage')]
  rintro ⟨-, rfl⟩
  exact hnot hpage'

lemma Unmapped.cleared (h : Unmapped s root page.asU64 entry s') (hs : s.Housed)
  (hroot : s.IsRoot root) (hpage : InWindow page.asU64)
  (hpages : ∀ page' ∈ pages, InWindow page'.asU64) (hnot : page ∉ pages)
  (hrest : Cleared s' root pages s'') : Cleared s root (page :: pages) s'' := by
  refine ⟨hrest.housed, fun hlen => (hrest.table_iff hlen).trans (h.place_of_table hlen),
    fun {r page'} hr hpage' => ?_, ?_, fun hpage' hnew howned => ?_, fun hpage' earlier => ?_,
    fun pending => ?_⟩
  · rw [hrest.leaf_eq ((h.place_of_table (by simp)).2 hr) hpage']
    by_cases hsame : r = root ∧ page' = page
    · obtain ⟨rfl, rfl⟩ := hsame
      rw [if_neg fun hmem => hnot hmem.2, if_pos ⟨rfl, mem_cons_self⟩, h.leaf_eq hr hpage',
        if_pos ⟨rfl, rfl⟩]
    · rw [h.leaf_of_ne hr hpage' hsame]
      refine if_congr (and_congr_right fun heq => ?_) rfl rfl
      rw [mem_cons, or_iff_right fun hpage'' => hsame ⟨heq, hpage''⟩]
  · rw [hrest.labels_eq, h.framesOf_eq hroot hpages hnot, h.labels_eq, PageTables.framesOf,
      PageTables.framesOf, filterMap_cons, h.mapped]
    rfl
  · rw [mem_cons, not_or] at hnew
    exact hrest.owned hpage' hnew.2 (h.owned hs hroot hpage' hnew.1 howned)
  · rw [hrest.newTables_eq hpage', h.newTables_eq hs hroot hpage']
  · exact .head (.unmapped hpage h) (hrest.steps pending)

end Unmap

lemma FrameMap.freeAll_apply (m : FrameMap) (frames : List PhysicalFrameStart) (f : ℕ) :
  m.freeAll frames f =
    if ∃ frame ∈ frames, frame.asAddress / pageSize = f then some (.free, .free) else m f := by
  induction frames generalizing m with
  | nil => simp [freeAll]
  | cons frame frames ih =>
    have hcons : m.freeAll (frame :: frames) =
      (m.mark (frame.asAddress / pageSize) 1 (.free, .free)).freeAll frames := rfl
    rw [hcons, ih]
    by_cases hrest : ∃ frame ∈ frames, frame.asAddress / pageSize = f
    · rw [if_pos hrest, if_pos]
      exact hrest.imp fun _ h => ⟨mem_cons_of_mem _ h.1, h.2⟩
    rw [if_neg hrest]
    refine if_congr ?_ rfl rfl
    rw [exists_mem_cons_iff, or_iff_left hrest]
    omega

namespace Cleared

lemma framesOf_eq (h : Cleared s root pages s1) (hroot : s.IsRoot root)
  (hpages : ∀ page ∈ pages', InWindow page.asU64) (hdisj : pages.Disjoint pages') :
  s1.tables.framesOf root pages' = s.tables.framesOf root pages' := by
  refine filterMap_congr fun page hpage => ?_
  rw [h.leaf_eq hroot (hpages page hpage), if_neg fun hmem => hdisj hmem.2 hpage]

lemma framesOf_append (tables : PageTables)
  (root : ℕ) (pages pages' : List UserPageStart) : tables.framesOf root (pages ++ pages') =
  tables.framesOf root pages ++ tables.framesOf root pages' := filterMap_append

lemma append (h : Cleared s root pages s1) (h' : Cleared s1 root pages' s2)
  (hroot : s.IsRoot root) (hpages : ∀ page ∈ pages', InWindow page.asU64)
  (hdisj : pages.Disjoint pages') : Cleared s root (pages ++ pages') s2 := by
  refine ⟨h'.housed, fun hlen => (h'.table_iff hlen).trans (h.table_iff hlen),
    fun {r page} hr hpage => ?_, ?_, fun hpage hnot howned => ?_, fun hpage earlier => ?_,
    fun pending => (h.steps pending).trans (h'.steps pending)⟩
  · rw [h'.leaf_eq ((h.table_iff (by simp)).2 hr) hpage, h.leaf_eq hr hpage]
    by_cases hpages : r = root ∧ page ∈ pages
    · rw [if_pos hpages, ite_self, if_pos ⟨hpages.1, mem_append_left _ hpages.2⟩]
    · rw [if_neg hpages]
      refine if_congr (and_congr_right fun heq => ?_) rfl rfl
      rw [mem_append, or_iff_right fun hmem => hpages ⟨heq, hmem⟩]
  · rw [h'.labels_eq, h.labels_eq, h.framesOf_eq hroot hpages hdisj, framesOf_append]
    exact foldl_append.symm
  · rw [mem_append, not_or] at hnot
    exact h'.owned hpage hnot.2 (h.owned hpage hnot.1 howned)
  · rw [h'.newTables_eq hpage, h.newTables_eq hpage]

end Cleared

/-- **Mapped pages of the owner are unmapped**, provided the frees of their frames can be tracked.
-/
lemma UserAddressSpace.unmapEach_spec {mapper : PageMapper} (hmap : mapper.Walks)
  {space : UserAddressSpace} (message : String)
  {pages : List UserPageStart} (hnodup : pages.Nodup)
  (hpages : ∀ page ∈ pages, InWindow page.asU64) {memory : Memory} (h : memory.Realizes s)
  (hroot : s.IsRoot space.root) (howned : ∀ page ∈ pages, s.Owned space.root owner page) :
  (¬ s.labels.CanFree (s.tables.framesOf space.root pages) ∧
    space.unmapEach mapper owner message pages memory = .error capacityExhausted) ∨
  s.labels.CanFree (s.tables.framesOf space.root pages) ∧
    ∃ s' memory', space.unmapEach mapper owner message pages memory = .ok memory' ∧
    Cleared s space.root pages s' ∧ memory'.Realizes s' ∧ memory.OnlyMapped memory' := by
  induction pages generalizing memory s with
  | nil => exact .inr ⟨.nil, s, memory, rfl, .refl h.housed _, h, rfl⟩
  | cons page pages ih =>
    obtain ⟨hnot, hnodup⟩ := nodup_cons.1 hnodup
    obtain ⟨hpage, hpages⟩ := forall_mem_cons.1 hpages
    obtain ⟨⟨entry, hleaf, hlab⟩, howned⟩ := forall_mem_cons.1 howned
    have hfrms : s.tables.framesOf space.root (page :: pages) =
      entry.address :: s.tables.framesOf space.root pages := by
      rw [PageTables.framesOf, filterMap_cons, hleaf]
      rfl
    rw [hfrms, FrameMap.canFree_cons]
    rcases unmapUserPageFor_spec hmap h hroot hpage owner with
      ⟨hnone, -⟩ | ⟨entry', hent', hcases⟩
    · cases hleaf.symm.trans hnone
    obtain rfl := Option.some.inj (hleaf.symm.trans hent')
    rcases hcases with
      ⟨hne, -⟩ | ⟨-, ⟨hroom, hcall⟩ | ⟨hroom, s1, memory1, hcall, hunmap, h1, heq1⟩⟩
    · exact absurd hlab hne
    · refine .inl ⟨fun hfree => hroom hfree.1, ?_⟩
      rw [unmapEach, hcall]
      rfl
    have hroot1 := (hunmap.place_of_table (by simp)).2 hroot
    have hstep : space.unmapEach mapper owner message (page :: pages) memory =
      space.unmapEach mapper owner message pages memory1 := by
      rw [unmapEach, hcall]
      rfl
    have howned1 : ∀ page' ∈ pages, s1.Owned space.root owner page' :=
      fun page' hpage' => hunmap.owned h.housed hroot (hpages page' hpage')
        (fun heq => hnot (heq ▸ hpage')) (howned page' hpage')
    have hrest := ih hnodup hpages h1 hroot1 howned1
    rw [hunmap.framesOf_eq hroot hpages hnot, hunmap.labels_eq] at hrest
    rw [hstep]
    rcases hrest with ⟨hfree, herr⟩ | ⟨hfree, s', memory', hok, hcleared, h', heq'⟩
    · exact .inl ⟨fun hboth => hfree hboth.2, herr⟩
    · refine .inr ⟨⟨hroom, hfree⟩, s', memory', hok,
        hunmap.cleared h.housed hroot hpage hpages hnot hcleared, h', by rw [heq', heq1]⟩

end ManaOS
