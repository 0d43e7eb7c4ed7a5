/-
The life of one address space.

`SpaceRun` follows the calls on an address space; `Tenancy` is what holds along the way, relative to
the labels and tables before the creation.

* `SpaceRun.tenancy`: every run keeps the tenancy;
* `destroyed_space_restores_frames` (**life**): when each call returns, and what destruction
  restores;
* `destroy_exhausts_tracking`: a destruction that panics.
-/
import ManaOS.Memory.SpaceReclaim
import ManaOS.Memory.FrameRefinement

namespace ManaOS
open Checked TableForest PhysicalFrameStart List Function Nat

/-- An allocator that encodes a frame map: every allocator reached from boot does. -/
structure PhysicalFrameAllocator.Consistent (a : PhysicalFrameAllocator) : Prop where
  represents : Represents a.trackedRanges a.frameMap
  sound : a.frameMap.IsSound

lemma Reached.consistent (hregs : WellPlaced regs) (h : Reached regs trace a) : a.Consistent := by
  obtain ⟨hrep, hs, -⟩ := h.represents hregs
  exact ⟨hrep.frameMap_eq ▸ hrep, hrep.frameMap_eq ▸ hs⟩

def PhysicalFrameStart.ofFrame (f : ℕ) : PhysicalFrameStart := ⟨f * pageSize, Nat.mul_mod_left _ _⟩

lemma PhysicalFrameStart.ofFrame_div (f : ℕ) : (ofFrame f).asAddress / pageSize = f :=
  Nat.mul_div_cancel f (by decide)

/-- The frames of a range, in order. -/
def PhysicalFrameRange.frames (range : PhysicalFrameRange) : List PhysicalFrameStart :=
  (List.range range.frameCount.asU64).map fun index => .ofFrame (range.firstFrame + index)

lemma PhysicalFrameRange.mem_frames {range : PhysicalFrameRange} :
  frame ∈ range.frames ↔ range.Covers (frame.asAddress / pageSize) := by
  rw [frames, mem_map, Covers]
  constructor
  · rintro ⟨_, hidx, rfl⟩
    rw [mem_range] at hidx
    rw [ofFrame_div]
    omega
  rintro ⟨hle, _⟩
  refine ⟨frame.asAddress / pageSize - range.firstFrame, mem_range.2 (by omega), ?_⟩
  rw [Nat.add_sub_cancel' hle]
  exact eq_of_address frame.div_mul

lemma PhysicalFrameRange.nodup_frames (range : PhysicalFrameRange) : range.frames.Nodup := by
  refine nodup_range.map fun i j h => ?_
  have haddr := congrArg asAddress h
  have hsum : range.firstFrame + i = range.firstFrame + j :=
    eq_of_mul_eq_mul_right (by decide) haddr
  omega

/-! ### Runs -/

/-- The memories that calls on one address space lead to, with the frames not mapped yet. -/
inductive SpaceRun (mapper : PageMapper) (space : UserAddressSpace) (start : Memory) :
    Memory → List PhysicalFrameStart → Prop
  | created : SpaceRun mapper space start start []
  | allocated {memory pending count owner range allocator}
      (hrun : SpaceRun mapper space start memory pending) (howner : owner ∈ userDataOwners)
      (hok : memory.allocator.allocateFramesFor count owner = .ok (some range, allocator)) :
      SpaceRun mapper space start { memory with allocator } (range.frames ++ pending)
  | mapped {memory memory' pending frame flags} {page : UserPageStart}
      (hrun : SpaceRun mapper space start memory pending) (hframe : frame ∈ pending)
      (hpage : InWindow page.asU64) (hpresent : flags.present = true)
      (hhuge : flags.hugePage = false)
      (hok : space.mapUserPage mapper memory page frame flags = .ok memory') :
      SpaceRun mapper space start memory' (pending.erase frame)
  | unmapped {memory memory' pending owner done} {page : UserPageStart}
      (hrun : SpaceRun mapper space start memory pending) (hpage : InWindow page.asU64)
      (hok : space.unmapUserPageFor mapper memory page owner = .ok (done, memory')) :
      SpaceRun mapper space start memory' pending

/-- What holds in the life of one address space, relative to the state before: the frames placed or
pending were free, the rest is as it was. -/
structure Tenancy (labels : FrameMap) (tables : PageTables) (root : ℕ) (memory : Memory)
    (pending : List PhysicalFrameStart) (s : PageState) : Prop where
  realizes : memory.Realizes s
  root_placed : s.place root = some (root, [])
  only : ∀ {n r path}, s.place n = some (r, path) → r = root
  taken : ∀ {n x}, s.place n = some x → labels.IsFree (n / pageSize)
  nodup : pending.Nodup
  waiting : ∀ {frame}, frame ∈ pending → labels.IsFree (frame.asAddress / pageSize) ∧
    s.place frame.asAddress = none ∧
    ∃ owner ∈ userDataOwners, s.labels (frame.asAddress / pageSize) = some (.used, owner)
  labels_eq : ∀ {f}, s.place (f * pageSize) = none →
    (∀ frame ∈ pending, frame.asAddress ≠ f * pageSize) → s.labels f = labels f
  tables_eq : ∀ {n}, ¬ labels.IsFree (n / pageSize) → s.tables n = tables n

namespace Tenancy

lemma unplaced (h : Tenancy labels tables root memory pending s)
  (hn : ¬ labels.IsFree (n / pageSize)) : s.place n = none :=
  Option.eq_none_iff_forall_ne_some.2 fun _ hx => hn (h.taken hx)

lemma ne_of_free (h : Tenancy labels tables root memory pending s) (hf : s.labels.IsFree f) :
  ∀ frame ∈ pending, frame.asAddress ≠ f * pageSize := by
  intro _ hfrm heq
  obtain ⟨-, -, _, -, hlab⟩ := h.waiting hfrm
  obtain ⟨o, hfree⟩ := hf
  rw [heq, Nat.mul_div_cancel _ (by decide), hfree] at hlab
  cases hlab

lemma map (h : Tenancy labels tables root memory pending s) (hfrm : frame ∈ pending)
  (hmpd : Mapped s root page ⟨frame, flags⟩ s') {memory' : Memory} (h' : memory'.Realizes s') :
  Tenancy labels tables root memory' (pending.erase frame) s' := by
  -- a frame that gets a place was free before
  have hnew : ∀ {n r path}, s.place n = none → s'.place n = some (r, path) →
    labels.IsFree (n / pageSize) := by
    intro n r path hn hn'
    rcases hmpd.fresh hn hn' with rfl | ⟨-, f, rfl, hfree⟩
    · exact (h.waiting hfrm).1
    · rw [Nat.mul_div_cancel _ (by decide)]
      rwa [FrameMap.IsFree, ← h.labels_eq hn (h.ne_of_free hfree)]
  have hunpl : ∀ {n}, ¬ labels.IsFree (n / pageSize) → s'.place n = none := fun hn =>
    Option.eq_none_iff_forall_ne_some.2 fun _ hx => hn (hnew (h.unplaced hn) hx)
  refine ⟨h', hmpd.kept h.root_placed, fun {n r path} hn => ?_, fun {n x} hn => ?_,
    h.nodup.erase frame, fun {frame'} hfrm' => ?_, fun {f} hf hpend => ?_, fun hn => ?_⟩
  · have hn : s'.place n = some (r, [] ++ path) := hn
    obtain ⟨_, hn'⟩ := hmpd.housed.forest.planted.exists_place hn
    obtain rfl := hmpd.housed.forest.planted.root_eq hn'
    exact h.only (hmpd.root_iff.1 hn')
  · cases hplc : s.place n with
    | some y => exact h.taken hplc
    | none => exact hnew hplc hn
  · obtain ⟨hne, hfrm'⟩ := h.nodup.mem_erase_iff.1 hfrm'
    obtain ⟨hfree', hplc', owner, hown, hlab⟩ := h.waiting hfrm'
    have hstill : s'.place frame'.asAddress = none := by
      refine Option.eq_none_iff_forall_ne_some.2 fun x hx => ?_
      rcases hmpd.fresh hplc' hx with heq | ⟨-, f, hf, o, hfree⟩
      · exact hne (eq_of_address heq)
      · rw [hf, Nat.mul_div_cancel _ (by decide), hfree] at hlab
        cases hlab
    refine ⟨hfree', hstill, owner, hown, ?_⟩
    rw [hmpd.labels_eq, if_neg fun hplc => hplc.2.2 (by rw [frame'.div_mul, hstill]), hlab]
  · have hne : f * pageSize ≠ frame.asAddress := fun heq => by
      rw [heq, hmpd.placed] at hf
      cases hf
    have hplc : s.place (f * pageSize) = none := Option.eq_none_iff_forall_ne_some.2 fun x hx => by
        rw [hmpd.kept hx] at hf
        cases hf
    rw [hmpd.labels_eq, if_neg fun hplc => hplc.2.2 hf]
    refine h.labels_eq hplc fun frame' hfrm' heq => ?_
    by_cases hsame : frame' = frame
    · exact hne (by rw [← heq, hsame])
    · exact hpend frame' (h.nodup.mem_erase_iff.2 ⟨hsame, hfrm'⟩) heq
  · exact (hmpd.tables_eq (hunpl hn)).trans (h.tables_eq hn)

lemma unmap (h : Tenancy labels tables root memory pending s) (hlabs : labels.IsSound)
  (hunmap : Unmapped s root page entry s') {memory' : Memory} (h' : memory'.Realizes s') :
  Tenancy labels tables root memory' pending s' := by
  have hold : ∀ {n x}, s'.place n = some x → s.place n = some x := by
    intro n x hn
    rw [hunmap.place_eq] at hn
    by_cases hne : n = entry.address.asAddress
    · rw [hne, update_self] at hn
      cases hn
    · rwa [update_of_ne hne] at hn
  have hroot : root ≠ entry.address.asAddress := by
    rintro rfl
    cases h.root_placed.symm.trans hunmap.placed
  refine ⟨h', ?_, fun hn => h.only (hold hn), fun hn => h.taken (hold hn), h.nodup,
    fun {frame} hfrm => ?_, fun {f} hf hpend => ?_, fun hn => ?_⟩
  · rw [hunmap.place_eq, update_of_ne hroot, h.root_placed]
  · obtain ⟨hfree, hplc, owner, hown, hlab⟩ := h.waiting hfrm
    have hne : frame.asAddress ≠ entry.address.asAddress := fun heq => by
      rw [heq, hunmap.placed] at hplc
      cases hplc
    refine ⟨hfree, by rw [hunmap.place_eq, update_of_ne hne, hplc], owner, hown, ?_⟩
    rw [hunmap.labels_eq, ← hlab]
    refine if_neg fun hle => hne ?_
    rw [← frame.div_mul, ← entry.address.div_mul, Nat.le_antisymm (Nat.le_of_lt_succ hle.2) hle.1]
  · rw [hunmap.labels_eq]
    by_cases hne : f = entry.address.asAddress / pageSize
    · -- the freed frame is back in its first state
      rw [FrameMap.mark, if_pos (by omega), hne, (hlabs.isFree_iff.1 (h.taken hunmap.placed))]
    have hne' : f * pageSize ≠ entry.address.asAddress := fun heq =>
      hne (by rw [← heq, Nat.mul_div_cancel _ (by decide)])
    rw [hunmap.place_eq, update_of_ne hne'] at hf
    rw [FrameMap.mark, if_neg (by omega), h.labels_eq hf hpend]
  · rw [hunmap.tables_eq (h.unplaced hn), h.tables_eq hn]

lemma allocate (h : Tenancy labels tables root memory pending s) {range : PhysicalFrameRange}
  (hfree : s.labels.FreeRun range.firstFrame range.frameCount.asU64)
  (hown : owner ∈ userDataOwners) {memory' : Memory} (htbls : memory'.tables = memory.tables)
  (hrep : Represents memory'.allocator.trackedRanges
    (s.labels.mark range.firstFrame range.frameCount.asU64 (.used, owner))) :
  Tenancy labels tables root memory' (range.frames ++ pending)
    { s with
      labels := s.labels.mark range.firstFrame range.frameCount.asU64 (.used, owner) } := by
  have hne : owner ≠ .free := by
    rintro rfl
    exact absurd hown (by decide)
  have hhoused := h.realizes.housed.allocate range.frameCount.pos hfree hne
  have hcovered : ∀ {frame : PhysicalFrameStart}, frame ∈ range.frames →
    s.labels.IsFree (frame.asAddress / pageSize) := fun hfrm =>
    hfree _ (PhysicalFrameRange.mem_frames.1 hfrm).1 (PhysicalFrameRange.mem_frames.1 hfrm).2
  have hunpl : ∀ {frame : PhysicalFrameStart}, frame ∈ range.frames →
    s.place frame.asAddress = none := fun {frame} hfrm => by
    rw [← frame.div_mul]
    exact h.realizes.housed.place_of_free (hcovered hfrm)
  refine ⟨⟨htbls.trans h.realizes.tables_eq, hrep, hhoused⟩, h.root_placed, h.only, h.taken, ?_,
    fun {frame} hfrm => ?_, fun {f} hf hpend => ?_, h.tables_eq⟩
  · refine List.Nodup.append range.nodup_frames h.nodup fun frame hfrm hold => ?_
    exact h.ne_of_free (hcovered hfrm) frame hold frame.div_mul.symm
  · rcases mem_append.1 hfrm with hfrm | hfrm
    · have hcov := PhysicalFrameRange.mem_frames.1 hfrm
      refine ⟨?_, hunpl hfrm, owner, hown, if_pos hcov⟩
      have heq := h.labels_eq (by rw [frame.div_mul]; exact hunpl hfrm)
        (h.ne_of_free (hcovered hfrm))
      have hfree := hcovered hfrm
      rwa [FrameMap.IsFree, heq] at hfree
    obtain ⟨hfree', hplc, o, ho, hlab⟩ := h.waiting hfrm
    refine ⟨hfree', hplc, o, ho, ?_⟩
    rw [← hlab]
    refine if_neg fun hcov => ?_
    obtain ⟨_, hlab'⟩ := hfree _ hcov.1 hcov.2
    cases hlab.symm.trans hlab'
  have hmark : s.labels.mark range.firstFrame range.frameCount.asU64 (.used, owner) f =
    s.labels f := by
    refine if_neg fun hcov => ?_
    have hmem : ofFrame f ∈ range.frames := by
      rw [PhysicalFrameRange.mem_frames, ofFrame_div]
      exact hcov
    exact hpend _ (mem_append.2 (.inl hmem)) rfl
  exact hmark.trans (h.labels_eq hf fun frame hfrm => hpend frame (mem_append.2 (.inr hfrm)))

end Tenancy

lemma Created.tenancy (h : Created ⟨tables, fun _ => none, labels⟩ root s') {memory' : Memory}
  (h' : memory'.Realizes s') : Tenancy labels tables root memory' [] s' := by
  have hplc : ∀ {n x}, s'.place n = some x → n = root ∧ x = (root, []) := by
    intro n x hn
    rw [h.place_eq] at hn
    by_cases hne : n = root
    · rw [hne, update_self, Option.some.injEq] at hn
      exact ⟨hne, hn.symm⟩
    · rw [update_of_ne hne] at hn
      cases hn
  refine ⟨h', by rw [h.place_eq, update_self], fun hn => ?_, fun hn => ?_,
    nodup_nil, fun hfrm => (by cases hfrm), fun {f} hf _ => ?_, fun {n} hn => ?_⟩
  · exact congrArg Prod.fst (hplc hn).2
  · rw [(hplc hn).1]
    exact h.free
  · rw [h.labels_eq]
    refine if_neg fun hle => ?_
    have halign := (h.housed.used (by rw [h.place_eq, update_self])).1
    rw [le_antisymm (le_of_lt_succ hle.2) hle.1, halign, h.place_eq, update_self] at hf
    cases hf
  · refine h.tables_eq fun heq => hn ?_
    rw [heq]
    exact h.free

/-- **Every run keeps the tenancy.** -/
lemma SpaceRun.tenancy {mapper : PageMapper} (hmapper : mapper.Walks) {labels : FrameMap}
  (hlabs : labels.IsSound) {space : UserAddressSpace}
  (hst : Tenancy labels tables space.root start [] s0)
  (hrun : SpaceRun mapper space start memory pending) :
  memory.kernelLevel4Frame = start.kernelLevel4Frame ∧
    ∃ s, Tenancy labels tables space.root memory pending s := by
  induction hrun with
  | created => exact ⟨rfl, s0, hst⟩
  | @allocated memory pending _ owner _ _ _ hown hok ih =>
    obtain ⟨hkernel, s, h⟩ := ih
    have hne : owner ≠ .free := by
      rintro rfl
      exact absurd hown (by decide)
    obtain ⟨hcnt, ⟨hfree, -⟩, -, hrep⟩ := PhysicalFrameAllocator.allocateFramesFor_some
      h.realizes.represents h.realizes.housed.sound hne hok
    rw [← hcnt] at hfree hrep
    exact ⟨hkernel, _, h.allocate hfree hown rfl hrep⟩
  | @mapped memory memory' pending _ _ page _ hfrm hpage hpres hhuge hok ih =>
    obtain ⟨hkernel, s, h⟩ := ih
    obtain ⟨-, hplc, owner, hown, hlab⟩ := h.waiting hfrm
    obtain ⟨s', hmpd, h', heq⟩ := Memory.mapPage_mapped hmapper h.realizes h.root_placed hpage
      hplc hown hlab hpres hhuge hok
    exact ⟨by rw [heq, hkernel], s', h.map hfrm hmpd h'⟩
  | @unmapped _ _ _ _ _ _ _ hpage hok ih =>
    obtain ⟨hkernel, s, h⟩ := ih
    rcases UserAddressSpace.unmapUserPageFor_ok hmapper h.realizes h.root_placed hpage hok with
      rfl | ⟨entry, s', hunmap, h', heq⟩
    · exact ⟨hkernel, s, h⟩
    · exact ⟨by rw [heq, hkernel], s', h.unmap hlabs hunmap h'⟩

/-! ### The frames of an address space -/

/-- The list holds each frame placed at certain positions below a root once. -/
structure PageState.Lists (s : PageState) (root : ℕ) (positions : List (Fin 512) → Prop)
    (frames : List PhysicalFrameStart) : Prop where
  nodup : frames.Nodup
  mem_iff : ∀ {frame : PhysicalFrameStart}, frame ∈ frames ↔
    ∃ path, s.place frame.asAddress = some (root, path) ∧ positions path

section Frames
variable {s : PageState} (hs : s.Housed)
include hs in
lemma entryFrames_lists (htab : s.place table = some (root, front))
    (hopen : Open 4 processWindow front index)
    (hbelow : ∀ {child : ℕ},
        s.place child = some (root, front ++ [index]) →
        s.Lists root (fun path => ∃ i rest, path = front ++ [index] ++ i :: rest)
          (framesBelow s.tables levels child)) :
    s.Lists root (fun path => ∃ rest, path = front ++ index :: rest)
      (entryFrames s.tables (framesBelow s.tables levels) table index) := by
  rw [entryFrames]
  cases hfrm : (s.tables table index).frame with
  | none =>
    have hunu := hs.forest.regular htab hopen (by rw [PageTables.child, hfrm]; rfl)
    refine ⟨nodup_nil, fun {frame} => iff_of_false (by simp) ?_⟩
    rintro ⟨path, hplc, rest, rfl⟩
    exact hs.not_under htab hunu hplc ⟨rfl, rest, rfl⟩
  | some child =>
    have hch := hs.forest.planted.down htab hopen
      (PageTables.child_eq_some.2 ⟨child, hfrm, rfl⟩)
    have hlists := hbelow hch
    have hmiddle : ∀ rest, front ++ [index] ++ rest = front ++ index :: rest := fun rest => by
      rw [append_assoc, singleton_append]
    refine ⟨nodup_append.2 ⟨hlists.nodup, nodup_singleton child, ?_⟩, fun {frame} => ?_⟩
    · rintro _ hmem _ hself rfl
      obtain rfl := mem_singleton.1 hself
      obtain ⟨path, hplc, i, rest, rfl⟩ := hlists.mem_iff.1 hmem
      rw [hch, Option.some.injEq, Prod.mk.injEq] at hplc
      simp at hplc
    rw [mem_append, mem_singleton, hlists.mem_iff]
    constructor
    · rintro (⟨path, hplc, i, rest, rfl⟩ | rfl)
      · exact ⟨_, hplc, i :: rest, hmiddle _⟩
      · exact ⟨_, hch, [], rfl⟩
    rintro ⟨_, hplc, rest, rfl⟩
    cases rest with
    | nil => exact .inr (eq_of_address (hs.forest.planted.place_inj hplc hch))
    | cons i rest => exact .inl ⟨_, hplc, i, rest, (hmiddle _).symm⟩

lemma PageState.Lists.flatMap {indices : List (Fin 512)} (hnodup : indices.Nodup)
  {frames : Fin 512 → List PhysicalFrameStart} (h : ∀ index ∈ indices,
    s.Lists root (fun path => ∃ rest, path = front ++ index :: rest) (frames index)) :
  s.Lists root (fun path => ∃ index ∈ indices, ∃ rest, path = front ++ index :: rest)
    (indices.flatMap frames) := by
  refine ⟨nodup_flatMap.2 ⟨fun index hidx => (h index hidx).nodup,
    hnodup.imp_of_mem fun {i j} hi hj hne frame hfrm hfrm' => ?_⟩, fun {frame} => ?_⟩
  · obtain ⟨path, hplc, _, rfl⟩ := (h i hi).mem_iff.1 hfrm
    obtain ⟨_, hplc', _, rfl⟩ := (h j hj).mem_iff.1 hfrm'
    rw [hplc, Option.some.injEq, Prod.mk.injEq] at hplc'
    exact hne (List.cons.inj (append_cancel_left hplc'.2)).1
  rw [mem_flatMap]
  constructor
  · rintro ⟨index, hidx, hfrm⟩
    obtain ⟨path, hplc, hrest⟩ := (h index hidx).mem_iff.1 hfrm
    exact ⟨path, hplc, index, hidx, hrest⟩
  · rintro ⟨path, hplc, index, hidx, hrest⟩
    exact ⟨index, hidx, (h index hidx).mem_iff.2 ⟨path, hplc, hrest⟩⟩

include hs in
lemma framesBelow_lists (htab : s.place table = some (root, path))
  (hpath : path ≠ []) (hlen : path.length + levels = 4) :
  s.Lists root (fun p => ∃ index rest, p = path ++ index :: rest)
    (framesBelow s.tables levels table) := by
  induction levels generalizing table path with
  | zero =>
    refine ⟨nodup_nil, fun {frame} => iff_of_false (by simp [framesBelow]) ?_⟩
    rintro ⟨p, hplc, index, _, rfl⟩
    have hle := hs.forest.planted.length_le hplc
    rw [length_append, length_cons] at hle
    omega
  | succ _ ih =>
    have hlists := PageState.Lists.flatMap (nodup_finRange 512) fun index _ =>
      entryFrames_lists hs htab (open_of_length index hpath (by omega))
        fun hch => ih hch (by simp) (by simp; omega)
    refine ⟨hlists.nodup, fun {frame} => hlists.mem_iff.trans ?_⟩
    simp only [mem_finRange, true_and]

include hs in
lemma spaceFrames_lists {root : PhysicalFrameStart}
  (hroot : s.place root.asAddress = some (root.asAddress, [])) :
  s.Lists root.asAddress (fun _ => True) (spaceFrames s.tables root) := by
  have hlists : s.Lists root.asAddress
    (fun path => ∃ index ∈ processUserWindow, ∃ rest, path = [] ++ index :: rest)
    (processUserWindow.flatMap (entryFrames s.tables (framesBelow s.tables 3) root.asAddress)) :=
    PageState.Lists.flatMap ((nodup_finRange 512).filter _) fun index hidx =>
      entryFrames_lists hs hroot ⟨zero_lt_succ 3, fun _ => mem_processUserWindow.1 hidx⟩
        fun hch => framesBelow_lists hs hch (by simp) rfl
  refine ⟨nodup_append.2 ⟨hlists.nodup, nodup_singleton root, ?_⟩, fun {frame} => ?_⟩
  · rintro _ hmem _ hself rfl
    obtain rfl := mem_singleton.1 hself
    obtain ⟨path, hplc, index, -, rest, rfl⟩ := hlists.mem_iff.1 hmem
    cases hroot.symm.trans hplc
  rw [spaceFrames, mem_append, mem_singleton, hlists.mem_iff]
  constructor
  · rintro (⟨path, hplc, -⟩ | rfl)
    · exact ⟨path, hplc, trivial⟩
    · exact ⟨[], hroot, trivial⟩
  rintro ⟨path, hplc, -⟩
  cases path with
  | nil => exact .inr (eq_of_address (hs.forest.planted.root_eq hplc))
  | cons index rest =>
    have hwin := hs.forest.planted.head_mem hplc
    exact .inl ⟨_, hplc, index, mem_processUserWindow.2 hwin, rest, rfl⟩

end Frames

/-! ### Counting -/

lemma foldl_add (ownerOf : ℕ → FrameRangeOwner) (frames : List PhysicalFrameStart)
    (reclaim : UserAddressSpaceReclaim)
    (h : reclaim.userPages + reclaim.pageTablePages + frames.length < wordSize) :
    frames.foldl (UserAddressSpaceReclaim.add ownerOf) reclaim =
      ⟨reclaim.userPages + frames.countP fun frame => ownerOf frame.asAddress ≠ .pageTable,
        reclaim.pageTablePages + frames.countP fun frame => ownerOf frame.asAddress =
        .pageTable⟩ := by
  induction frames generalizing reclaim with
  | nil => rfl
  | cons _ _ ih =>
    rw [length_cons] at h
    rw [foldl_cons, UserAddressSpaceReclaim.add]
    split_ifs with hown
    · rw [saturatingAdd_of_lt (by omega), ih _ (by simp only; omega)]
      simp [hown, add_assoc, add_comm 1]
    · rw [saturatingAdd_of_lt (by omega), ih _ (by simp only; omega)]
      simp [hown, add_assoc, add_comm 1]

/-- The pages mapped in the window of an address space. -/
def mappedPages (tables : PageTables) (root : ℕ) : Set UserPageStart :=
  {page | InWindow page.asU64 ∧ (tables.leaf root page.asU64).isSome}

/-- The frames of the tables of an address space, the root included. -/
def tableFrames (tables : PageTables) (root : ℕ) : Set ℕ :=
  {n | ∃ path : List (Fin 512), path.length < 4 ∧
    (∀ index ∈ path.head?, index ∈ processWindow) ∧ walk tables.child root path = some n}

lemma countP_eq_ncard {α : Type*} [DecidableEq α] {l : List α} (h : l.Nodup) (p : α → Prop)
  [DecidablePred p] : l.countP p = {a | a ∈ l ∧ p a}.ncard := by
  have hset : {a | a ∈ l ∧ p a} = ↑(l.filter p).toFinset := by
    ext a
    simp
  rw [hset, Set.ncard_coe_finset, toFinset_card_of_nodup (h.filter _), countP_eq_length_filter]

lemma exists_page {path : List (Fin 512)} (hlen : path.length = 4)
  (hwin : ∀ index ∈ path.head?, index ∈ processWindow) :
  ∃ page : UserPageStart, tablePath page.asU64 = path ∧ InWindow page.asU64 := by
  obtain ⟨a, b, c, d, rfl⟩ : ∃ a b c d, path = [a, b, c, d] := by
    match path, hlen with
    | [a, b, c, d], _ => exact ⟨a, b, c, d, rfl⟩
  obtain ⟨hle, hlt⟩ := hwin a rfl
  rw [processUserPml4Start] at hle
  rw [processUserPml4EndExclusive] at hlt
  let address := a.val * 2 ^ 39 + b.val * 2 ^ 30 + c.val * 2 ^ 21 + d.val * 2 ^ 12
  have hne : address ≠ 0 := by omega
  have hend : address < userSpaceEnd := by
    rw [userSpaceEnd]
    omega
  have halign : address % pageSize = 0 := by
    rw [pageSize]
    omega
  have hpath : tablePath address = [a, b, c, d] := by
    simp only [tablePath, tableIndex, List.cons.injEq, and_true, Fin.ext_iff]
    omega
  refine ⟨⟨⟨address, hne, hend⟩, halign⟩, hpath, ?_⟩
  have hhead : tableIndex 4 address = a := (List.cons.inj hpath).1
  rw [InWindow, UserPageStart.asU64, hhead]
  exact ⟨hle, hlt⟩

section Counts
variable {s : PageState} (hs : s.Housed) {root : PhysicalFrameStart}
  (hroot : s.place root.asAddress = some (root.asAddress, []))
include hs hroot in
lemma ncard_mappedPages :
    (mappedPages s.tables root.asAddress).ncard =
      {frame : PhysicalFrameStart | ∃ path, s.place frame.asAddress = some (root.asAddress, path) ∧
        path.length = 4}.ncard := by
  have hplc : ∀ {page : UserPageStart} (h : page ∈ mappedPages s.tables root.asAddress),
    s.place (Option.get _ h.2).address.asAddress = some (root.asAddress, tablePath page.asU64) :=
    fun h => hs.forest.place_of_leaf hroot h.1 (Option.some_get h.2).symm
  refine Set.ncard_congr (fun page h => (Option.get _ h.2).address) (fun page h => ?_)
    (fun page page' h h' heq => ?_) fun frame hfrm => ?_
  · exact ⟨_, hplc h, rfl⟩
  · have hpath := (hplc h).symm.trans ((congrArg (s.place ·.asAddress) heq).trans (hplc h'))
    rw [Option.some.injEq, Prod.mk.injEq] at hpath
    exact UserPageStart.eq_of_tablePath hpath.2
  obtain ⟨_, hfrm, hlen⟩ := hfrm
  obtain ⟨page, rfl, hpage⟩ := exists_page hlen fun index hidx => by
    obtain ⟨_, rfl⟩ := head?_eq_some_iff.1 hidx
    exact hs.forest.planted.head_mem hfrm
  obtain ⟨_, hleaf, hent⟩ := hs.forest.leaf_of_place hroot hpage hfrm
  refine ⟨page, ⟨hpage, by rw [hleaf]; rfl⟩, eq_of_address ?_⟩
  simp only [hleaf, Option.get_some, hent]

include hs hroot in
lemma ncard_tableFrames :
    (tableFrames s.tables root.asAddress).ncard =
      {frame : PhysicalFrameStart | ∃ path, s.place frame.asAddress = some (root.asAddress, path) ∧
        path.length < 4}.ncard := by
  have hinj : Function.Injective asAddress := fun _ _ =>
    eq_of_address
  rw [← Set.ncard_image_of_injective _ hinj]
  congr 1
  ext n
  constructor
  · rintro ⟨path, hlen, hwin, hwalk⟩
    have hn : s.place n = some (root.asAddress, path) :=
      (hs.forest.planted.walk_eq_some hroot (le_of_lt hlen) hwin).1 hwalk
    have haddr : (ofFrame (n / pageSize)).asAddress = n := (hs.used hn).1
    exact ⟨.ofFrame (n / pageSize), ⟨path, by rw [haddr, hn], hlen⟩, haddr⟩
  rintro ⟨_, ⟨path, hfrm, hlen⟩, rfl⟩
  have hwin : ∀ index ∈ path.head?, index ∈ processWindow := by
    intro _ hidx
    obtain ⟨_, rfl⟩ := head?_eq_some_iff.1 hidx
    exact hs.forest.planted.head_mem hfrm
  exact ⟨path, hlen, hwin, (hs.forest.planted.walk_eq_some hroot (le_of_lt hlen) hwin).2 hfrm⟩

include hs hroot in
lemma foldl_add_spaceFrames {ownerOf : ℕ → FrameRangeOwner} (howned : s.OwnedBy ownerOf)
    {a : PhysicalFrameAllocator} (hrep : Represents a.trackedRanges s.labels) :
    (spaceFrames s.tables root).foldl (UserAddressSpaceReclaim.add ownerOf) ⟨0, 0⟩ =
      ⟨(mappedPages s.tables root.asAddress).ncard, (tableFrames s.tables
        root.asAddress).ncard⟩ := by
  have hlists := spaceFrames_lists hs hroot
  have hlen : (spaceFrames s.tables root).length < wordSize := by
    -- the frame numbers are different and below the end of the address space
    have hnodup : ((spaceFrames s.tables root).map fun frame => frame.asAddress).Nodup :=
      hlists.nodup.map fun _ _ => eq_of_address
    have hsub : (spaceFrames s.tables root).map (fun frame => frame.asAddress) ⊆
      List.range (wordSize - 1) := by
      intro n hn
      obtain ⟨frame, hfrm, rfl⟩ := mem_map.1 hn
      obtain ⟨path, hplc, -⟩ := hlists.mem_iff.1 hfrm
      obtain ⟨halign, _, hlab⟩ := hs.used hplc
      have hfits := hrep.frame_fits hlab
      rw [halign, pageSize] at hfits
      exact mem_range.2 (by omega)
    have hle := (hnodup.subperm hsub).length_le
    rw [length_map, length_range] at hle
    rw [wordSize_eq] at hle ⊢
    omega
  have htab : ∀ {frame : PhysicalFrameStart} {path : List (Fin 512)}, s.place frame.asAddress =
    some (root.asAddress, path) → (ownerOf frame.asAddress = .pageTable ↔ path.length < 4) := by
    intro frame path hfrm
    rcases lt_or_eq_of_le (hs.forest.planted.length_le hfrm) with hlt | heq
    · exact iff_of_true (PageState.OwnedBy.table hs howned hfrm hlt) hlt
    refine iff_of_false (fun hown => ?_) (by omega)
    have hmem := PageState.OwnedBy.leaf hs howned hfrm heq
    rw [hown] at hmem
    exact absurd hmem (by decide)
  rw [foldl_add ownerOf _ _ (by simpa using hlen), zero_add, zero_add,
    countP_eq_ncard hlists.nodup, countP_eq_ncard hlists.nodup, ncard_mappedPages hs hroot,
    ncard_tableFrames hs hroot]
  congr 2
  · ext frame
    simp only [Set.mem_ofPred_eq, hlists.mem_iff, and_true]
    constructor
    · rintro ⟨⟨path, hfrm⟩, hown⟩
      have hle := hs.forest.planted.length_le hfrm
      exact ⟨path, hfrm, by rw [ne_eq, htab hfrm] at hown; omega⟩
    · rintro ⟨path, hfrm, _⟩
      exact ⟨⟨path, hfrm⟩, by rw [ne_eq, htab hfrm]; omega⟩
  ext frame
  simp only [Set.mem_ofPred_eq, hlists.mem_iff, and_true]
  constructor
  · rintro ⟨⟨path, hfrm⟩, hown⟩
    exact ⟨path, hfrm, (htab hfrm).1 hown⟩
  · rintro ⟨path, hfrm, hlt⟩
    exact ⟨⟨path, hfrm⟩, (htab hfrm).2 hlt⟩

end Counts

/-! ### The whole life -/

/-- The owner that the allocator records for the frame of an address. -/
def PhysicalFrameAllocator.ownerOf (a : PhysicalFrameAllocator) (address : ℕ) : FrameRangeOwner :=
  ((a.frameMap (address / pageSize)).map Prod.snd).getD .free

/-- The allocator can track the frees of the frames of a space, in the order of the walk. -/
def CanFreeSpace (memory : Memory) (space : UserAddressSpace) : Prop :=
  memory.allocator.frameMap.CanFree (spaceFrames memory.tables space.level4Frame)

lemma housed_of_no_place {labels : FrameMap} (h : labels.IsSound) (tables : PageTables) :
  PageState.Housed ⟨tables, fun _ => none, labels⟩ where
  forest := ⟨⟨fun hn => (by cases hn), fun hn => (by cases hn), fun hc => (by cases hc)⟩,
    fun hn => (by cases hn)⟩
  sound := h
  table_label hn := (by cases hn)
  leaf_label hn := (by cases hn)

lemma Tenancy.destroyed {labels : FrameMap} (hlabs : labels.IsSound) {space : UserAddressSpace}
  (h : Tenancy labels tables space.root used [] s)
  (hkernel : getKernelLevel4Frame used = some kernel) :
  (¬ CanFreeSpace used space ∧ destroyUserAddressSpace used space = .error capacityExhausted) ∨
  CanFreeSpace used space ∧
    ∃ reclaim destroyed, destroyUserAddressSpace used space = .ok (reclaim, destroyed) ∧
      Represents destroyed.allocator.trackedRanges labels ∧
      reclaim.userPages = (mappedPages used.tables space.root).ncard ∧
      reclaim.pageTablePages = (tableFrames used.tables space.root).ncard ∧
      (∀ n, ¬ labels.IsFree (n / pageSize) → destroyed.tables n = tables n) ∧
      destroyed = { used with
        tables := destroyed.tables
        allocator := destroyed.allocator
        activeLevel4Frame := kernel } := by
  have hs := h.realizes.housed
  have hmap : used.allocator.frameMap = s.labels := h.realizes.represents.frameMap_eq
  have howned : s.OwnedBy used.allocator.ownerOf := by
    intro n x hn
    obtain ⟨-, _, hlab⟩ := hs.used hn
    rw [PhysicalFrameAllocator.ownerOf, hmap, hlab]
    rfl
  have hspec := destroyUserAddressSpace_spec h.realizes howned h.root_placed hkernel
  rw [foldl_add_spaceFrames hs h.root_placed howned h.realizes.represents,
    ← h.realizes.tables_eq] at hspec
  rw [CanFreeSpace, hmap]
  rcases hspec with hfailed | ⟨hroom, _, s', hdest, hgone, hrep⟩
  · exact .inl hfailed
  have hback : s'.labels = labels := by
    funext f
    cases hplc : s.place (f * pageSize) with
    | none =>
      rw [hgone.labels_eq fun hn => (by cases hplc.symm.trans hn)]
      exact h.labels_eq hplc (by simp)
    | some x =>
      obtain ⟨r, _⟩ := x
      have hfreed := hgone.freed hplc (h.only hplc)
      have htaken := hlabs.isFree_iff.1 (h.taken hplc)
      rw [Nat.mul_div_cancel _ (by decide)] at hfreed htaken
      rw [hfreed, htaken]
  exact .inr ⟨hroom, _, _, hdest, hback ▸ hrep, rfl, rfl, fun n hn =>
    (hgone.tables_eq (h.unplaced hn)).trans (h.tables_eq hn), rfl⟩

section Life
variable {mapper : PageMapper} (hmapper : mapper.Walks) {memory created used : Memory}
  (hallocator : memory.allocator.Consistent) {kernel : PhysicalFrameStart}
  (hkernel : getKernelLevel4Frame memory = some kernel) {space : UserAddressSpace}
  (hcreate : createUserAddressSpace memory = .ok (space, created))
include hallocator hcreate in
lemma PhysicalFrameAllocator.Consistent.tenancy :
    created.kernelLevel4Frame = memory.kernelLevel4Frame ∧
    created.nextUserStackSlot = memory.nextUserStackSlot ∧
    ∃ s,
      Tenancy memory.allocator.frameMap memory.tables space.root created [] s ∧
      Created ⟨memory.tables, fun _ => none, memory.allocator.frameMap⟩ space.root s ∧
      memory.allocator.frameMap.Serves [(1, .pageTable)] s.labels := by
  have hst : memory.Realizes ⟨memory.tables, fun _ => none, memory.allocator.frameMap⟩ :=
    ⟨rfl, hallocator.represents, housed_of_no_place hallocator.sound _⟩
  obtain ⟨s, hcrd, h, hserv, heq⟩ := createUserAddressSpace_created hst hcreate
  exact ⟨by rw [heq], by rw [heq], s, hcrd.tenancy h, hcrd, hserv⟩

variable (hrun : SpaceRun mapper space created used [])
include hmapper hallocator hkernel hcreate hrun in
lemma SpaceRun.destroyed : (¬ CanFreeSpace used space ∧ destroyUserAddressSpace used space =
  .error capacityExhausted) ∨ CanFreeSpace used space ∧ ∃ reclaim destroyed,
  destroyUserAddressSpace used space = .ok (reclaim, destroyed) ∧ destroyed.allocator.frameMap =
  memory.allocator.frameMap ∧ reclaim.userPages = (mappedPages used.tables space.root).ncard ∧
  reclaim.pageTablePages = (tableFrames used.tables space.root).ncard ∧ ∀ n,
  ¬ memory.allocator.frameMap.IsFree (n / pageSize) → destroyed.tables n = memory.tables n := by
  obtain ⟨hsame, -, _, h1, -⟩ := hallocator.tenancy hcreate
  obtain ⟨hsame', s, h⟩ := hrun.tenancy hmapper hallocator.sound h1
  have hkernel' : getKernelLevel4Frame used = some kernel := by
    rw [← hkernel, getKernelLevel4Frame, getKernelLevel4Frame, hsame', hsame]
  rcases h.destroyed hallocator.sound hkernel' with
    hfailed | ⟨hroom, reclaim, destroyed, hdest, hrep, hpages, htbls, hkept, -⟩
  · exact .inl hfailed
  · exact .inr ⟨hroom, reclaim, destroyed, hdest, hrep.frameMap_eq, hpages, htbls, hkept⟩

end Life

/-- The page is vacant, and the frame map serves the tables that are missing for it. -/
def CanMap (memory : Memory) (space : UserAddressSpace) (page : UserPageStart) : Prop :=
  memory.tables.leaf space.level4Frame.asAddress page.asU64 = none ∧
    ∃ served, memory.allocator.frameMap.Serves (List.replicate
      (memory.tables.missing space.level4Frame.asAddress (tablePath page.asU64)) (1, .pageTable))
      served

/-- The page is vacant, or its frame has the owner and the free can be tracked. -/
def CanUnmap (memory : Memory) (space : UserAddressSpace) (page : UserPageStart)
    (owner : FrameRangeOwner) : Prop :=
  ∀ entry, memory.tables.leaf space.level4Frame.asAddress page.asU64 = some entry →
    memory.allocator.frameMap (entry.address.asAddress / pageSize) = some (.used, owner) ∧
      memory.allocator.frameMap.HasRoom (entry.address.asAddress / pageSize) 1

/-- The creation needs one frame, with room to track the rest of its run. -/
lemma createUserAddressSpace_returns_iff {memory : Memory} (h : memory.allocator.Consistent) :
    (∃ result, createUserAddressSpace memory = .ok result) ↔
      ∃ f, memory.allocator.frameMap.FirstFit 1 f ∧ memory.allocator.frameMap.HasRoom f 1 := by
  have hne : FrameRangeOwner.pageTable ≠ .free := by decide
  constructor
  · rintro ⟨_, hok⟩
    simp only [createUserAddressSpace, Memory.allocateFrameFor, bind_eq_ok, Prod.exists,
      expect_eq_ok] at hok
    obtain ⟨_, _, ⟨frame, _, hfrm, hmem⟩, _, rfl, -⟩ := hok
    cases hmem
    obtain ⟨hfit, hroom, -⟩ :=
      PhysicalFrameAllocator.allocateFrameFor_some h.represents h.sound hne hfrm
    exact ⟨_, hfit, hroom⟩
  · rintro ⟨_, hfit, hroom⟩
    obtain ⟨_, _, hfrm, -⟩ :=
      PhysicalFrameAllocator.exists_allocateFrameFor h.represents h.sound hne hfit hroom
    exact ⟨_, by rw [createUserAddressSpace, Memory.allocateFrameFor, hfrm]; rfl⟩

section Calls
variable {mapper : PageMapper} (hmapper : mapper.Walks) {labels : FrameMap}
  {space : UserAddressSpace} {memory : Memory}
  (h : Tenancy labels tables space.root memory pending s) {page : UserPageStart}
  (hpage : InWindow page.asU64)
include hmapper h hpage

lemma Tenancy.mapUserPage_returns_iff (hfrm : frame ∈ pending) {flags : PageTableFlags}
    (hpres : flags.present = true) (hhuge : flags.hugePage = false) :
    (∃ memory', space.mapUserPage mapper memory page frame flags = .ok memory') ↔
      CanMap memory space page := by
  rw [CanMap, h.realizes.represents.frameMap_eq, h.realizes.tables_eq]
  constructor
  · rintro ⟨_, hok⟩
    obtain ⟨-, hplc, _, hown, hlab⟩ := h.waiting hfrm
    obtain ⟨_, hmpd, -⟩ := Memory.mapPage_mapped hmapper h.realizes h.root_placed hpage hplc hown
      hlab hpres hhuge hok
    exact ⟨hmpd.unmapped, _, hmpd.serves⟩
  · rintro ⟨hleaf, _, hserv⟩
    exact Memory.exists_mapPage hmapper h.realizes h.root_placed hpage frame hpres hhuge _ hleaf
      hserv

lemma Tenancy.unmapUserPageFor_returns_iff (owner : FrameRangeOwner) :
    (∃ result, space.unmapUserPageFor mapper memory page owner = .ok result) ↔
      CanUnmap memory space page owner := by
  rw [CanUnmap, h.realizes.represents.frameMap_eq, h.realizes.tables_eq]
  rcases UserAddressSpace.unmapUserPageFor_spec hmapper h.realizes h.root_placed hpage owner with
    ⟨hleaf, hok⟩ | ⟨entry, hleaf, hcases⟩
  · refine iff_of_true ⟨_, hok⟩ fun entry hent => ?_
    cases hleaf.symm.trans hent
  have hiff : (∀ entry', s.tables.leaf space.root page.asU64 = some entry' →
      s.labels (entry'.address.asAddress / pageSize) = some (.used, owner) ∧
        s.labels.HasRoom (entry'.address.asAddress / pageSize) 1) ↔
      s.labels (entry.address.asAddress / pageSize) = some (.used, owner) ∧
        s.labels.HasRoom (entry.address.asAddress / pageSize) 1 :=
    ⟨fun hall => hall entry hleaf, fun hent _ hleaf' => Option.some.inj (hleaf.symm.trans hleaf') ▸
      hent⟩
  rw [hiff]
  rcases hcases with ⟨hne, herr⟩ | ⟨hlab, ⟨hroom, herr⟩ | ⟨hroom, _, _, hok, -⟩⟩
  · exact iff_of_false (fun ⟨_, hok⟩ => by cases herr.symm.trans hok) fun hent => hne hent.1
  · exact iff_of_false (fun ⟨_, hok⟩ => by cases herr.symm.trans hok) fun hent => hroom hent.2
  · exact iff_of_true ⟨_, hok⟩ ⟨hlab, hroom⟩

end Calls

/-- **The life of an address space**, from any consistent state.  Its creation returns exactly when
a frame is free and its rest can be tracked.  After any calls, mapping a fresh frame in the window
returns exactly when the page is vacant and its tables are served, and unmapping a page exactly when
the free of its frame can be tracked.  Destroying the space at the end restores the state and owner
of every frame, counts the mapped pages and the tables, and leaves every table in a frame that was
not free as it was, exactly when the allocator has room to track the frees. -/
theorem destroyed_space_restores_frames {mapper : PageMapper} (hmapper : mapper.Walks)
    {memory : Memory} (hallocator : memory.allocator.Consistent) {kernel : PhysicalFrameStart}
    (hkernel : getKernelLevel4Frame memory = some kernel) :
    ((∃ result, createUserAddressSpace memory = .ok result) ↔
      ∃ f, memory.allocator.frameMap.FirstFit 1 f ∧ memory.allocator.frameMap.HasRoom f 1) ∧
    ∀ space created, createUserAddressSpace memory = .ok (space, created) →
      (∀ used pending, SpaceRun mapper space created used pending →
        (∀ (page : UserPageStart) frame (flags : PageTableFlags),
          InWindow page.asU64 →
          frame ∈ pending →
          flags.present = true →
          flags.hugePage = false →
          ((∃ used', space.mapUserPage mapper used page frame flags = .ok used') ↔
            CanMap used space page)) ∧
        ∀ (page : UserPageStart) owner, InWindow page.asU64 →
          ((∃ result, space.unmapUserPageFor mapper used page owner = .ok result) ↔
            CanUnmap used space page owner)) ∧
      ∀ used, SpaceRun mapper space created used [] →
        ((∃ reclaim destroyed,
            destroyUserAddressSpace used space = .ok (reclaim, destroyed) ∧
            destroyed.allocator.frameMap = memory.allocator.frameMap ∧
            reclaim.userPages = (mappedPages used.tables space.level4Frame.asAddress).ncard ∧
            reclaim.pageTablePages = (tableFrames used.tables space.level4Frame.asAddress).ncard ∧
            ∀ n, ¬ memory.allocator.frameMap.IsFree (n / pageSize) →
              destroyed.tables n = memory.tables n) ↔
          CanFreeSpace used space) := by
  refine ⟨createUserAddressSpace_returns_iff hallocator, fun space created hcreate =>
    ⟨fun used pending hrun => ?_, fun used hrun => ?_⟩⟩
  · obtain ⟨-, -, _, hstart, -⟩ := hallocator.tenancy hcreate
    obtain ⟨-, _, h⟩ := hrun.tenancy hmapper hallocator.sound hstart
    exact ⟨fun page frame flags hpage hfrm hpres hhuge =>
      h.mapUserPage_returns_iff hmapper hpage hfrm hpres hhuge,
      fun page owner hpage => h.unmapUserPageFor_returns_iff hmapper hpage owner⟩
  · rcases hrun.destroyed hmapper hallocator hkernel hcreate with
      ⟨hroom, hdestroy⟩ | ⟨hroom, hdestroyed⟩
    · refine iff_of_false ?_ hroom
      rintro ⟨_, _, hok, -⟩
      cases hdestroy.symm.trans hok
    · exact iff_of_true hdestroyed hroom

/-- The first pages of the program region. -/
def programPage (index : Fin 8) : UserPageStart :=
  ⟨⟨userProgramBase + index.val * pageSize, by revert index; decide, by revert index; decide⟩,
    by revert index; decide⟩

def writableFlags : PageTableFlags := { present := true, writable := true, userAccessible := true }

/-- A space with three mapped pages; the middle one of the three frames is mapped first. -/
def threePages (memory : Memory) : Panicking (UserAddressSpace × Memory × Memory) := do
  let (space, created) ← createUserAddressSpace memory
  let (range, allocator) ← created.allocator.allocateFramesFor ⟨3, by decide, by decide⟩ .userElf
  let range ← expect range "no run of three frames"
  match range.frames with
  | [frame₀, frame₁, frame₂] => do
      let memory := { created with allocator }
      let memory ← space.mapUserPage walkMapper memory (programPage 0) frame₁ writableFlags
      let memory ← space.mapUserPage walkMapper memory (programPage 1) frame₀ writableFlags
      let memory ← space.mapUserPage walkMapper memory (programPage 2) frame₂ writableFlags
      return (space, created, memory)
  | _ => .error "three frames"

lemma threePages_run (h : threePages memory = .ok (space, created, used)) :
    createUserAddressSpace memory = .ok (space, created) ∧
    SpaceRun walkMapper space created used [] := by
  simp only [threePages, bind_eq_ok, Prod.exists, expect_eq_ok] at h
  obtain ⟨space1, created1, hcreate, _, allocator, halloc, range, rfl, h⟩ := h
  have hrun : SpaceRun walkMapper space1 created1 { created1 with allocator }
    (range.frames ++ []) := .allocated .created (by decide) halloc
  have hnodup := range.nodup_frames
  have hwin : ∀ index, InWindow (programPage index).asU64 := by decide
  split at h
  · rename_i frame₀ frame₁ frame₂ hfrms
    rw [append_nil, hfrms] at hrun
    rw [hfrms] at hnodup
    simp only [nodup_cons, mem_cons, not_mem_nil, or_false, not_or] at hnodup
    simp only [bind_eq_ok, pure_eq_ok, Prod.mk.injEq] at h
    obtain ⟨_, h1, _, h2, _, h3, rfl, rfl, rfl⟩ := h
    obtain ⟨⟨hne, -⟩, -⟩ := hnodup
    have hrun := hrun.mapped (by simp) (hwin _) rfl rfl h1
    rw [erase_cons_tail (by simpa using hne), erase_cons_head] at hrun
    have hrun := hrun.mapped (by simp) (hwin _) rfl rfl h2
    rw [erase_cons_head] at hrun
    have hrun := hrun.mapped (by simp) (hwin _) rfl rfl h3
    rw [erase_cons_head] at hrun
    exact ⟨hcreate, hrun⟩
  · cases h

/-- `n` single free frames apart from each other, and one run of eight. -/
def fragmentedAllocator (n : ℕ) : PhysicalFrameAllocator where
  regions := []
  trackedRanges := (List.range n).map (fun i => ⟨⟨(2 * i + 2) * pageSize, 1⟩, .free, .free⟩) ++
    [⟨⟨(2 * n + 2) * pageSize, 8⟩, .free, .free⟩]

lemma mem_fragmentedAllocator (ht : t ∈ (fragmentedAllocator n).trackedRanges) : ∃ i ≤
  n, ∃ pages, 0 < pages ∧ pages ≤ 8 ∧ t = ⟨⟨(2 * i + 2) * pageSize, pages⟩, .free, .free⟩ := by
  rcases mem_append.1 ht with ht | ht
  · obtain ⟨i, hi, rfl⟩ := mem_map.1 ht
    exact ⟨i, le_of_lt (mem_range.1 hi), 1, by decide, by decide, rfl⟩
  · obtain rfl := mem_singleton.1 ht
    exact ⟨n, le_refl n, 8, by decide, by decide, rfl⟩

lemma fragmentedAllocator_pairwise (n : ℕ) :
  (fragmentedAllocator n).trackedRanges.Pairwise fun a b => a.toRun.stop < b.toRun.start := by
  have hst : ∀ i pages, (⟨⟨(2 * i + 2) * pageSize, pages⟩, .free, .free⟩ : TrackedRange).toRun =
    ⟨2 * i + 2, pages, (.free, .free)⟩ := fun i pages => by
    rw [TrackedRange.toRun, Nat.mul_div_cancel _ (by decide)]
    rfl
  refine pairwise_append.2 ⟨pairwise_map.2 ?_, pairwise_singleton _ _, ?_⟩
  · refine pairwise_lt_range.imp fun {i j} hij => ?_
    simp only [hst, RunList.Run.stop]
    omega
  intro a ha b hb
  obtain ⟨i, hi, rfl⟩ := mem_map.1 ha
  obtain rfl := mem_singleton.1 hb
  rw [mem_range] at hi
  simp only [hst, RunList.Run.stop]
  omega

lemma fragmentedAllocator_consistent (hn : n < maxTrackedRanges) :
  (fragmentedAllocator n).Consistent := by
  have hpair := fragmentedAllocator_pairwise n
  have hsort : RunList.IsSorted (runs (fragmentedAllocator n).trackedRanges) := by
    refine ⟨fun r hr => ?_, pairwise_map.2 (hpair.imp Nat.le_of_lt)⟩
    obtain ⟨t, ht, rfl⟩ := mem_map.1 hr
    obtain ⟨i, -, pages, hpages, -, rfl⟩ := mem_fragmentedAllocator ht
    exact hpages
  have hfree : ∀ {f label}, (fragmentedAllocator n).frameMap f = some label →
    label = (.free, .free) ∧ f ≠ 0 := by
    intro f _ hf
    obtain ⟨r, hr, hcov, rfl⟩ := hsort.labelAt_eq_some.1 hf
    obtain ⟨t, ht, rfl⟩ := mem_map.1 hr
    obtain ⟨i, -, pages, -, -, rfl⟩ := mem_fragmentedAllocator ht
    refine ⟨rfl, ?_⟩
    have hle := hcov.1
    rw [TrackedRange.toRun_start, Nat.mul_div_cancel _ (by decide)] at hle
    omega
  refine ⟨⟨⟨fun t ht => ?_, hsort, fun f => rfl⟩, ⟨hsort, ?_⟩, ?_⟩, ?_⟩
  · obtain ⟨i, _, _, -, _, rfl⟩ := mem_fragmentedAllocator ht
    refine ⟨Nat.mul_mod_left _ _, ?_⟩
    rw [maxTrackedRanges] at hn
    rw [wordSize_eq, pageSize]
    simp only
    omega
  · exact pairwise_map.2 (hpair.imp fun hlt heq => absurd heq (Nat.ne_of_lt hlt))
  · rw [fragmentedAllocator, length_append, length_map, length_range]
    exact hn
  · refine ⟨fun f o ho => ?_, fun f o ho => ?_, fun st o ho => absurd rfl (hfree ho).2⟩
    · exact congrArg Prod.snd (hfree ho).1
    · cases (hfree ho).1

/-- A machine with a fragmented allocator. -/
def fragmentedMemory (n : ℕ) : Memory := { bootMemory with allocator := fragmentedAllocator n }

/-- **Destruction can run out of tracking room.**  Freeing the middle one of three frames splits
a tracked range in three. -/
theorem destroy_exhausts_tracking :
    ∃ (space : UserAddressSpace) (created used : Memory),
      (fragmentedMemory 509).allocator.Consistent ∧
      (getKernelLevel4Frame (fragmentedMemory 509)).isSome ∧
      createUserAddressSpace (fragmentedMemory 509) = .ok (space, created) ∧
      SpaceRun walkMapper space created used [] ∧
      destroyUserAddressSpace used space = .error capacityExhausted := by
  have hrun : (do
    let (space, _, used) ← threePages (fragmentedMemory 509)
    match destroyUserAddressSpace used space with
    | .error message => return message
    | .ok _ => return "destroyed") = .ok capacityExhausted := by
    decide +kernel
  simp only [bind_eq_ok, Prod.exists] at hrun
  obtain ⟨space, created, used, hpages, hmessage⟩ := hrun
  obtain ⟨hcreate, hspace⟩ := threePages_run hpages
  refine ⟨space, created, used, fragmentedAllocator_consistent (by decide), by decide, hcreate,
    hspace, ?_⟩
  split at hmessage
  · rename_i message hdestroy
    rw [hdestroy, pure_eq_ok.1 hmessage]
  · exact absurd (pure_eq_ok.1 hmessage) (by decide)

/-- With fewer tracked ranges, the same life restores every frame and counts three pages and
four tables. -/
theorem destroyed_space_restores_frames_small : ∃ (space : UserAddressSpace)
  (created used destroyed : Memory),
  createUserAddressSpace (fragmentedMemory 4) = .ok (space, created) ∧
  SpaceRun walkMapper space created used [] ∧
  destroyUserAddressSpace used space = .ok (⟨3, 4⟩, destroyed) ∧
  destroyed.allocator.frameMap = (fragmentedMemory 4).allocator.frameMap ∧
  (mappedPages used.tables space.level4Frame.asAddress).ncard = 3 ∧
  (tableFrames used.tables space.level4Frame.asAddress).ncard = 4 := by
  have hrun : (do
    let (space, _, used) ← threePages (fragmentedMemory 4)
    let (reclaim, _) ← destroyUserAddressSpace used space
    return reclaim) = .ok ⟨3, 4⟩ := by
    decide +kernel
  simp only [bind_eq_ok, Prod.exists, pure_eq_ok] at hrun
  obtain ⟨space, created, used, hpages, reclaim, destroyed, hdestroy, rfl⟩ := hrun
  obtain ⟨hcreate, hspace⟩ := threePages_run hpages
  have hallocator : (fragmentedMemory 4).allocator.Consistent :=
    fragmentedAllocator_consistent (by decide)
  obtain ⟨kernel, hkernel⟩ : ∃ kernel, getKernelLevel4Frame (fragmentedMemory 4) = some kernel :=
    ⟨_, rfl⟩
  have hroom : CanFreeSpace used space := by
    rcases SpaceRun.destroyed walkMapper_walks hallocator hkernel hcreate hspace with
      ⟨-, hfailed⟩ | ⟨hroom, -⟩
    · cases hfailed.symm.trans hdestroy
    · exact hroom
  obtain ⟨_, _, hdestroy', hmap, hpages, htables, -⟩ :=
    (((destroyed_space_restores_frames walkMapper_walks hallocator hkernel).2 space created
      hcreate).2 used hspace).2 hroom
  cases hdestroy.symm.trans hdestroy'
  exact ⟨space, created, used, destroyed, hcreate, hspace, hdestroy, hmap, hpages.symm,
    htables.symm⟩

end ManaOS
