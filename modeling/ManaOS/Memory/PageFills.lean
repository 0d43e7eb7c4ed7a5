/-
Pages mapped one after the other with frames of one owner.

* `Filling.rolledBack`: unmapping the pages restores what was there.
-/
import ManaOS.Memory.PageLoops

namespace ManaOS
open Checked TableForest PageState

/-- The pages have been mapped with the frames, all of them of one owner. -/
structure Filling (s₀ : PageState) (root : ℕ) (owner : FrameRangeOwner)
    (pages : List UserPageStart) (frames : List PhysicalFrameStart) (s : PageState) : Prop where
  kept : ∀ {n x}, s₀.place n = some x → s.place n = some x
  labels_kept : ∀ {n x}, s₀.place n = some x → s.labels (n / pageSize) = s₀.labels (n / pageSize)
  leaf_eq : ∀ {r} {page : UserPageStart}, s₀.place r = some (r, []) → InWindow page.asU64 →
    ¬ (r = root ∧ page ∈ pages) → s.tables.leaf r page.asU64 = s₀.tables.leaf r page.asU64
  vacant : ∀ page ∈ pages, s₀.tables.leaf root page.asU64 = none
  owned : ∀ page ∈ pages, s.Owned root owner page
  frames_eq : s.tables.framesOf root pages = frames
  fresh : ∀ frame ∈ frames, s₀.labels (frame.asAddress / pageSize) ≠ some (.used, owner)
  labels_iff : ∀ f, s.labels f = some (.used, owner) ↔
    s₀.labels f = some (.used, owner) ∨ ∃ frame ∈ frames, frame.asAddress / pageSize = f
  newTables_eq : ∀ {page}, InWindow page → ∀ earlier, s.tables.newTables root earlier page =
    s₀.tables.newTables root (pages.map UserPageStart.asU64 ++ earlier) page
  steps : ∀ pending, Relation.ReflTransGen (SpaceStep root) (s₀, pending) (s, pending)

lemma Filling.refl (s : PageState) (root : ℕ) (owner : FrameRangeOwner) :
  Filling s root owner [] [] s where
  kept h := h
  labels_kept _ := rfl
  leaf_eq _ _ _ := rfl
  vacant := by simp
  owned := by simp
  frames_eq := rfl
  fresh := by simp
  labels_iff := by simp
  newTables_eq _ _ := rfl
  steps _ := .refl

variable {memory' : Memory}

lemma Mapped.leaf_of_ne {page page' : UserPageStart} (h : Mapped s root page.asU64 entry s')
  (hroot : s.place r = some (r, [])) (hpage : InWindow page'.asU64)
  (hne : ¬ (r = root ∧ page' = page)) :
  s'.tables.leaf r page'.asU64 = s.tables.leaf r page'.asU64 := by
  rw [h.leaf_eq hroot hpage, if_neg]
  rintro ⟨heq, hpath⟩
  exact hne ⟨heq, UserPageStart.eq_of_tablePath hpath⟩

lemma Mapped.leaf_self {page : UserPageStart} (h : Mapped s root page.asU64 entry s')
  (hroot : s.IsRoot root) (hpage : InWindow page.asU64) :
  s'.tables.leaf root page.asU64 = some entry := by
  rw [h.leaf_eq hroot hpage, if_pos ⟨rfl, rfl⟩]

lemma Mapped.labels_of_used (h : Mapped s root page entry s')
  (hf : s.labels f = some (.used, owner)) : s'.labels f = some (.used, owner) := by
  rw [h.labels_eq, if_neg, hf]
  rintro ⟨hne, hplc, hplc'⟩
  obtain ⟨⟨r, _⟩, hx⟩ := Option.ne_none_iff_exists'.1 hplc'
  rcases h.fresh hplc hx with heq | ⟨-, f', hf', o, hfree⟩
  · exact hne heq
  · obtain rfl : f = f' := Nat.eq_of_mul_eq_mul_right (by decide) hf'
    cases hf.symm.trans hfree

lemma Mapped.owned_of_owned {page page' : UserPageStart} (h : Mapped s root page.asU64 entry s')
  (hroot : s.IsRoot root) (hpage : InWindow page'.asU64) (howned : s.Owned root owner page') :
  s'.Owned root owner page' := by
  obtain ⟨entry', hleaf, hlab⟩ := howned
  refine ⟨entry', ?_, h.labels_of_used hlab⟩
  rw [h.leaf_of_ne hroot hpage, hleaf]
  rintro ⟨-, rfl⟩
  cases hleaf.symm.trans h.unmapped

section Give
variable {s : PageState} {frame : PhysicalFrameStart}

lemma PageState.give_labels (s : PageState) (frame : PhysicalFrameStart)
  (owner : FrameRangeOwner) (f : ℕ) : (s.give frame owner).labels f =
    if f = frame.asAddress / pageSize then some (.used, owner) else s.labels f :=
  if_congr (by omega) rfl rfl

lemma PageState.give_labels_of_used (hfit : s.labels.FirstFit 1 (frame.asAddress / pageSize))
  (hf : s.labels f = some (.used, owner')) :
  (s.give frame owner).labels f = some (.used, owner') := by
  rw [give_labels, if_neg, hf]
  rintro rfl
  obtain ⟨o, hfree⟩ := hfit.isFree
  cases hf.symm.trans hfree

lemma PageState.Owned.give (h : s.Owned root owner' page)
    (hfit : s.labels.FirstFit 1 (frame.asAddress / pageSize)) :
    (s.give frame owner).Owned root owner' page := by
  obtain ⟨entry, hleaf, hlab⟩ := h
  exact ⟨entry, hleaf, PageState.give_labels_of_used hfit hlab⟩

end Give

namespace Filling
variable {s₀ s : PageState} {owner : FrameRangeOwner} {pages : List UserPageStart}
  {frames : List PhysicalFrameStart} {page : UserPageStart} {frame : PhysicalFrameStart}
  {flags : PageTableFlags}

/-- **One page more**, with a frame that was free. -/
lemma map (h : Filling s₀ root owner pages frames s) (hs : s.Housed)
  (hroot : s₀.IsRoot root) (hown : owner ∈ userDataOwners)
  (hpages : ∀ p ∈ pages, InWindow p.asU64) (hpage : InWindow page.asU64)
  (hfit : s.labels.FirstFit 1 (frame.asAddress / pageSize))
  (hstep : ∀ pending, SpaceStep root (s, pending) (s.give frame owner, frame :: pending))
  (hmpd : Mapped (s.give frame owner) root page.asU64 ⟨frame, flags⟩ s') :
  Filling s₀ root owner (pages ++ [page]) (frames ++ [frame]) s' := by
  have hroot' : (s.give frame owner).place root = some (root, []) := h.kept hroot
  have hnew : page ∉ pages := by
    intro hmem
    obtain ⟨_, hleaf, -⟩ := h.owned page hmem
    cases hleaf.symm.trans hmpd.unmapped
  have hused : ∀ {f o}, s.labels f = some (.used, o) → s'.labels f = some (.used, o) :=
    fun hf => hmpd.labels_of_used (give_labels_of_used hfit hf)
  have hlab : s'.labels (frame.asAddress / pageSize) = some (.used, owner) :=
    hmpd.labels_of_used (by rw [give_labels, if_pos rfl])
  refine ⟨fun hn => hmpd.kept (h.kept hn), fun {n x} hn => ?_, fun {r p} hr hp hout => ?_,
    fun p hp => ?_, fun p hp => ?_, ?_, fun f hf => ?_, fun f => ⟨fun hf => ?_, fun hf => ?_⟩,
    fun hp earlier => ?_, fun pending => ?_⟩
  · obtain ⟨-, o, ho⟩ := hs.used (h.kept hn)
    rw [hused ho, ← ho, h.labels_kept hn]
  · rw [List.mem_append, List.mem_singleton, and_or_left, not_or] at hout
    rw [hmpd.leaf_of_ne (h.kept hr) hp hout.2]
    exact h.leaf_eq hr hp hout.1
  · rcases List.mem_append.1 hp with hp | hp
    · exact h.vacant p hp
    · obtain rfl := List.mem_singleton.1 hp
      rw [← h.leaf_eq hroot hpage fun hmem => hnew hmem.2]
      exact hmpd.unmapped
  · rcases List.mem_append.1 hp with hp | hp
    · exact hmpd.owned_of_owned hroot' (hpages p hp) ((h.owned p hp).give hfit)
    · obtain rfl := List.mem_singleton.1 hp
      exact ⟨_, hmpd.leaf_self hroot' hpage, hlab⟩
  · have hold : s'.tables.framesOf root pages = frames := by
      rw [← h.frames_eq]
      refine List.filterMap_congr fun p hp => ?_
      rw [hmpd.leaf_of_ne hroot' (hpages p hp) fun heq => hnew (heq.2 ▸ hp)]
      rfl
    rw [Cleared.framesOf_append, hold, PageTables.framesOf, List.filterMap_cons,
      hmpd.leaf_self hroot' hpage]
    rfl
  · rcases List.mem_append.1 hf with hf | hf
    · exact h.fresh f hf
    obtain rfl := List.mem_singleton.1 hf
    obtain ⟨o, hfree⟩ := hfit.isFree
    intro hlab
    cases ((h.labels_iff _).2 (.inl hlab)).symm.trans hfree
  · rw [hmpd.labels_eq] at hf
    split_ifs at hf
    · obtain rfl : FrameRangeOwner.pageTable = owner := by simpa using hf
      exact absurd hown (by decide)
    rw [give_labels] at hf
    split_ifs at hf with heq
    · exact .inr ⟨frame, List.mem_append_right _ List.mem_cons_self, heq.symm⟩
    · rcases (h.labels_iff f).1 hf with hf | ⟨frame', hmem, hfrm'⟩
      · exact .inl hf
      · exact .inr ⟨frame', List.mem_append_left _ hmem, hfrm'⟩
  · rcases hf with hf | ⟨frame', hmem, rfl⟩
    · exact hused ((h.labels_iff f).2 (.inl hf))
    rcases List.mem_append.1 hmem with hmem | hmem
    · exact hused ((h.labels_iff _).2 (.inr ⟨frame', hmem, rfl⟩))
    · rw [List.mem_singleton.1 hmem]
      exact hlab
  · rw [hmpd.newTables_eq (hs.give hfit hown) hroot' hp]
    have hold := h.newTables_eq hp (page.asU64 :: earlier)
    rw [List.map_append, List.append_assoc]
    exact hold
  · have hmap : SpaceStep root (s.give frame owner, frame :: pending) _ :=
      .mapped List.mem_cons_self hpage hmpd
    rw [List.erase_cons_head] at hmap
    exact ((h.steps pending).tail (hstep pending)).tail hmap

section MapUserPage
variable {mapper : PageMapper} (hwalk : mapper.Walks) {space : UserAddressSpace}
  (h : Filling s₀ space.level4Frame.asAddress owner pages frames s) {memory : Memory}
  (hs : memory.Realizes s) {memory1 : Memory} (hgive : memory1.Realizes (s.give frame owner))
  (hroot : s₀.place space.level4Frame.asAddress = some (space.level4Frame.asAddress, []))
  (hown : owner ∈ userDataOwners) (hpages : ∀ p ∈ pages, InWindow p.asU64)
  (hpage : InWindow page.asU64) (hfit : s.labels.FirstFit 1 (frame.asAddress / pageSize))
  (hpres : flags.present = true) (hhuge : flags.hugePage = false)
include hwalk h hs hgive hroot hown hpages hpage hfit hpres hhuge in
lemma mapUserPage_ok (hok : space.mapUserPage mapper memory1 page frame flags = .ok memory') :
    s₀.tables.leaf space.root page.asU64 = none ∧
    ∃ s',
      Filling s₀ space.root owner (pages ++ [page]) (frames ++ [frame]) s' ∧
      memory'.Realizes s' ∧
      memory1.OnlyMapped memory' ∧
      (s.labels.mark (frame.asAddress / pageSize) 1 (.used, owner)).Serves
        (List.replicate (s₀.tables.newTables space.root (pages.map UserPageStart.asU64) page.asU64)
           (1, .pageTable))
        s'.labels ∧
      (∀ {n x}, s.place n = some x → s'.place n = some x) ∧
      s'.place frame.asAddress = some (space.root, tablePath page.asU64) := by
  have hlab : (s.give frame owner).labels (frame.asAddress / pageSize) = some (.used, owner) := by
    rw [give_labels, if_pos rfl]
  obtain ⟨s', hmpd, h', heq⟩ := Memory.mapPage_mapped hwalk hgive (h.kept hroot) hpage
    (give_unplaced hs hfit) hown hlab hpres hhuge hok
  have hfill := h.map hs.housed hroot hown hpages hpage hfit
    (fun _ => SpaceStep.give hs hown hfit) hmpd
  refine ⟨hfill.vacant page (List.mem_append_right _ List.mem_cons_self), s', hfill, h', heq, ?_,
    fun hn => hmpd.kept hn, h'.housed.forest.place_of_leaf (hfill.kept hroot) hpage
      (hmpd.leaf_self (h.kept hroot) hpage)⟩
  have htbls := h.newTables_eq hpage []
  rw [List.append_nil] at htbls
  rw [← htbls, ← PageTables.missing_eq_newTables]
  exact hmpd.serves

include hwalk h hgive hroot hpage hpres hhuge in
/-- A `map_user_page` of an allocated frame returns when the page is vacant and its tables can be
served. -/
lemma exists_mapUserPage (hnew : page ∉ pages)
    (hvacant : s₀.tables.leaf space.root page.asU64 = none)
    (hserv : (s.labels.mark (frame.asAddress / pageSize) 1 (.used, owner)).Serves
        (List.replicate (s₀.tables.newTables space.root (pages.map UserPageStart.asU64) page.asU64)
           (1, .pageTable))
        served) :
    ∃ memory', space.mapUserPage mapper memory1 page frame flags = .ok memory' := by
  have hleaf := h.leaf_eq hroot hpage fun hmem => hnew hmem.2
  have htbls := h.newTables_eq hpage []
  rw [List.append_nil] at htbls
  rw [← htbls, ← PageTables.missing_eq_newTables] at hserv
  exact Memory.exists_mapPage hwalk hgive (h.kept hroot) hpage frame hpres hhuge _
    (hleaf.trans hvacant) hserv

end MapUserPage
end Filling

lemma Filling.owned_of_owned (h : Filling s root owner pages frames s') (hs : s.Housed)
    (hroot : s.IsRoot root) {page : UserPageStart} (hpage : InWindow page.asU64)
    (howned : s.Owned root owner' page) : s'.Owned root owner' page := by
  obtain ⟨entry, hleaf, hlab⟩ := howned
  refine ⟨entry, ?_, ?_⟩
  · rw [h.leaf_eq hroot hpage, hleaf]
    rintro ⟨-, hmem⟩
    rw [h.vacant page hmem] at hleaf
    cases hleaf
  · rw [h.labels_kept (hs.forest.place_of_leaf hroot hpage hleaf), hlab]

/-- The leaves of all pages and the frames of the owner are as they were. -/
structure Restored (s₀ : PageState) (owner : FrameRangeOwner) (s : PageState) : Prop where
  leaf_eq : ∀ {r} {page : UserPageStart}, s₀.place r = some (r, []) → InWindow page.asU64 →
    s.tables.leaf r page.asU64 = s₀.tables.leaf r page.asU64
  labels_iff : ∀ f, s.labels f = some (.used, owner) ↔ s₀.labels f = some (.used, owner)

/-- **Rollback.**  Unmapping the pages restores the leaves and the frames of the owner. -/
lemma Filling.rolledBack (h : Filling s₀ root owner pages frames s)
    (hcleared : Cleared s root pages s') : Restored s₀ owner s' := by
  refine ⟨fun {r page} hr hpage => ?_, fun f => ?_⟩
  · rw [hcleared.leaf_eq (h.kept hr) hpage]
    split_ifs with hmem
    · obtain ⟨rfl, hmem⟩ := hmem
      exact (h.vacant page hmem).symm
    · exact h.leaf_eq hr hpage hmem
  rw [hcleared.labels_eq, h.frames_eq, FrameMap.freeAll_apply]
  split_ifs with hfrm
  · obtain ⟨frame, hmem, rfl⟩ := hfrm
    exact iff_of_false (by simp) (h.fresh frame hmem)
  · rw [h.labels_iff, or_iff_left hfrm]

/-! ### Bytes -/

/-- The bytes of all placed frames stay. -/
def KeepsBytes (s : PageState) (memory memory' : Memory) : Prop := ∀ n x offset,
  s.place n = some x → offset < pageSize → memory'.bytes (n + offset) = memory.bytes (n + offset)

lemma KeepsBytes.of_eq {memory : Memory} (h : memory'.bytes = memory.bytes) :
  KeepsBytes s memory memory' :=
  fun _ _ _ _ _ => by rw [h]

lemma KeepsBytes.trans (h : KeepsBytes s memory memory') (h' : KeepsBytes s memory' memory'') :
  KeepsBytes s memory memory'' :=
  fun n x offset hn hoff => (h' n x offset hn hoff).trans (h n x offset hn hoff)

lemma KeepsBytes.mono {s : PageState} (h : KeepsBytes s' memory memory')
  (hkept : ∀ {n x}, s.place n = some x → s'.place n = some x) : KeepsBytes s memory memory' :=
  fun n x offset hn hoff => h n x offset (hkept hn) hoff

lemma KeepsBytes.of_frame {s : PageState} (hs : s.Housed) {frame : PhysicalFrameStart}
  (hfree : s.labels.IsFree (frame.asAddress / pageSize)) {memory : Memory}
  (hout : ∀ address, address < frame.asAddress ∨ frame.asAddress + pageSize ≤ address →
    memory'.bytes address = memory.bytes address) : KeepsBytes s memory memory' := by
  intro n x _ hn _
  obtain ⟨_, _, hused⟩ := hs.used hn
  have hne : n / pageSize ≠ frame.asAddress / pageSize := by
    intro heq
    obtain ⟨o, ho⟩ := hfree
    rw [← heq] at ho
    cases hused.symm.trans ho
  have hfrm := frame.div_mul
  refine hout _ ?_
  rw [pageSize] at *
  omega

lemma Memory.Realizes.zeroBytes {memory : Memory} (h : memory.Realizes s)
  (start length : ℕ) : (memory.zeroBytes start length).Realizes s := h.of_eq rfl rfl

lemma Memory.Realizes.writeBytes {memory : Memory} (h : memory.Realizes s)
  (start : ℕ) (contents : List UInt8) : (memory.writeBytes start contents).Realizes s :=
  h.of_eq rfl rfl

lemma Memory.zeroBytes_of_out (memory : Memory) (h : address < start ∨ start + length ≤ address) :
  (memory.zeroBytes start length).bytes address = memory.bytes address :=
  if_neg (by omega)

lemma Memory.writeBytes_of_out (memory : Memory) {contents : List UInt8}
  (h : address < start ∨ start + contents.length ≤ address) :
  (memory.writeBytes start contents).bytes address = memory.bytes address := by
  rw [writeBytes]
  dsimp only
  split_ifs with hle
  · rw [List.getElem?_eq_none (by omega)]
    rfl
  · rfl

end ManaOS
