/-
Creating and destroying an address space.

`Reclaimed` says what has become of a housed state when the frames at some positions are gone; it
composes, so the nested loops are followed one entry at a time.

* `createUserAddressSpace_created`, `destroyUserAddressSpace_spec`: the two calls.
-/
import ManaOS.Memory.PageLeaves

namespace ManaOS
open Checked TableForest PageTables PhysicalFrameAllocator List Function UserAddressSpaceReclaim

lemma Memory.setTable_self (memory : Memory) (frame : ℕ)
  (table : PageTable) : (memory.setTable frame table).tables frame = table := update_self ..

lemma Memory.setTable_of_ne {memory : Memory} (h : n ≠ frame) (table : PageTable) :
  (memory.setTable frame table).tables n = memory.tables n := update_of_ne h ..

/-- A new root with an empty window, in a frame that was free. -/
structure Created (s : PageState) (root : ℕ) (s' : PageState) : Prop where
  housed : s'.Housed
  free : s.labels.IsFree (root / pageSize)
  unplaced : s.place root = none
  place_eq : s'.place = Function.update s.place root (some (root, []))
  labels_eq : s'.labels = s.labels.mark (root / pageSize) 1 (.used, .pageTable)
  tables_eq : ∀ {n}, n ≠ root → s'.tables n = s.tables n
  empty : ∀ {index}, index ∈ processWindow → s'.tables root index = .unused

lemma PageState.Housed.created {s : PageState} (h : s.Housed) {root : PhysicalFrameStart}
    (hfree : s.labels.IsFree (root.asAddress / pageSize)) (tables : PageTables)
    (htbls : ∀ {n}, n ≠ root.asAddress → tables n = s.tables n)
    (hempty : ∀ {index}, index ∈ processWindow → tables root.asAddress index = .unused) :
    Created s root.asAddress
      ⟨tables, Function.update s.place root.asAddress (some (root.asAddress, [])), s.labels.mark
        (root.asAddress / pageSize) 1 (.used, .pageTable)⟩ := by
  have halign := root.div_mul
  have hunpl : s.place root.asAddress = none := halign ▸ h.place_of_free hfree
  have hold : ∀ {n x}, s.place n = some x → n ≠ root.asAddress := fun hn heq => by
    rw [heq, hunpl] at hn
    cases hn
  have hlab : ∀ {n f x}, s.place n = some x → n = f * pageSize →
    s.labels.mark (root.asAddress / pageSize) 1 (.used, .pageTable) f = s.labels f := by
    intro n f x hn hf
    refine if_neg fun hle => hold hn ?_
    rw [hf, ← halign, Nat.le_antisymm (Nat.le_of_lt_succ hle.2) hle.1]
  have hplanted : Planted 4 processWindow tables.child
    (Function.update s.place root.asAddress (some (root.asAddress, []))) :=
    (h.forest.planted.congr fun hn _ => child_congr (by rw [htbls (hold hn)])).plant
      hunpl fun hopen => child_of_unused (hempty (hopen.2 rfl))
  have hsplit : ∀ {n r path}, Function.update s.place root.asAddress (some (root.asAddress, [])) n =
    some (r, path) → n = root.asAddress ∧ path = [] ∨ s.place n = some (r, path) := by
    intro n r _ hn
    by_cases hne : n = root.asAddress
    · rw [hne, update_self, Option.some.injEq, Prod.mk.injEq] at hn
      exact .inl ⟨hne, hn.2.symm⟩
    · rw [update_of_ne hne] at hn
      exact .inr hn
  refine ⟨⟨⟨hplanted, fun hn hi hnone => ?_⟩, ?_, fun hn hlt => ?_, fun hn heq => ?_⟩, hfree,
    hunpl, rfl, rfl, htbls, hempty⟩
  · rcases hsplit hn with ⟨rfl, rfl⟩ | hn
    · exact hempty (hi.2 rfl)
    · have hent := congrFun (htbls (hold hn))
      exact (hent _).trans
        (h.forest.regular hn hi ((child_congr (hent _)).symm.trans hnone))
  · refine h.sound.mark (fun heq => by cases heq) (fun _ => by simp) fun _ => ?_
    refine Nat.pos_of_ne_zero fun hzero => ?_
    obtain ⟨owner, hfree⟩ := hfree
    rw [hzero] at hfree
    cases h.sound.zero _ _ hfree
  · rcases hsplit hn with ⟨rfl, rfl⟩ | hn
    · exact ⟨_, halign.symm, if_pos ⟨Nat.le_refl _, Nat.lt_succ_self _⟩⟩
    · obtain ⟨f, hf, hused⟩ := h.table_label hn hlt
      exact ⟨f, hf, (hlab hn hf).trans hused⟩
  · rcases hsplit hn with ⟨rfl, rfl⟩ | hn
    · cases heq
    · obtain ⟨f, hf, owner, hown, hused⟩ := h.leaf_label hn heq
      exact ⟨f, hf, owner, hown, (hlab hn hf).trans hused⟩

/-- **Creation.** -/
lemma createUserAddressSpace_created {memory : Memory} (h : memory.Realizes s)
  (hok : createUserAddressSpace memory = .ok (space, memory')) :
  ∃ s', Created s space.root s' ∧ memory'.Realizes s' ∧
    s.labels.Serves [(1, .pageTable)] s'.labels ∧ memory.OnlyMapped memory' := by
  rw [createUserAddressSpace, bind_eq_ok] at hok
  obtain ⟨⟨frame, _⟩, halloc, hok⟩ := hok
  rw [bind_eq_ok] at hok
  obtain ⟨_, hfrm, hok⟩ := hok
  obtain rfl := expect_eq_ok.1 hfrm
  rw [Memory.allocateFrameFor, bind_eq_ok] at halloc
  obtain ⟨⟨_, _⟩, halloc, hpure⟩ := halloc
  obtain ⟨rfl, rfl⟩ := Prod.mk.injEq .. ▸ pure_eq_ok.1 hpure
  obtain ⟨rfl, hmemory⟩ := Prod.mk.injEq .. ▸ pure_eq_ok.1 hok
  obtain ⟨hfit, hroom, hrep⟩ :=
    PhysicalFrameAllocator.allocateFrameFor_some h.represents h.housed.sound (by simp) halloc
  have hcrd := h.housed.created hfit.isFree memory'.tables
    (fun hne => by
      rw [← hmemory, Memory.setTable_of_ne hne, Memory.setTable_of_ne hne, h.tables_eq])
    fun hidx => by
      rw [← hmemory, Memory.setTable_self]
      exact if_pos hidx
  subst hmemory
  refine ⟨_, hcrd, ⟨rfl, hrep, hcrd.housed⟩, .cons hfit hroom ?_, rfl⟩
  rw [hcrd.labels_eq]
  exact .nil

lemma exists_createUserAddressSpace {memory : Memory} (h : memory.Realizes s)
  (hfit : s.labels.FirstFit 1 start) (hroom : s.labels.HasRoom start 1) :
  ∃ space memory', createUserAddressSpace memory = .ok (space, memory') := by
  have hown : FrameRangeOwner.pageTable ≠ .free := by simp
  obtain ⟨_, _, halloc, -⟩ := exists_allocateFrameFor
    h.represents h.housed.sound hown hfit hroom
  rw [createUserAddressSpace, Memory.allocateFrameFor, halloc]
  exact ⟨_, _, rfl⟩

/-! ### Positions that are gone -/

/-- The frames at some positions are unlinked and freed; only entries that led to them changed. -/
structure Reclaimed (s : PageState) (gone : ℕ → List (Fin 512) → Prop) (s' : PageState) : Prop where
  housed : s'.Housed
  place_iff : ∀ {n root path},
    s'.place n = some (root, path) ↔ s.place n = some (root, path) ∧ ¬ gone root path
  freed : ∀ {n root path}, s.place n = some (root, path) → gone root path →
    s'.labels (n / pageSize) = some (.free, .free)
  labels_eq : ∀ {f}, (∀ {root path}, s.place (f * pageSize) = some (root, path) →
    ¬ gone root path) → s'.labels f = s.labels f
  tables_eq : ∀ {n}, s.place n = none → s'.tables n = s.tables n
  entry_eq : ∀ {n root path index}, s.place n = some (root, path) → ¬ gone root path →
    ¬ gone root (path ++ [index]) → s'.tables n index = s.tables n index

namespace Reclaimed
variable {s s' : PageState} {gone gone' : ℕ → List (Fin 512) → Prop}

lemma of_empty (hs : s.Housed)
  (h : ∀ {n root path}, s.place n = some (root, path) → ¬ gone root path) :
  Reclaimed s gone s where
  housed := hs
  place_iff := ⟨fun hn => ⟨hn, h hn⟩, fun hn => hn.1⟩
  freed hn hgone := absurd hgone (h hn)
  labels_eq _ := rfl
  tables_eq _ := rfl
  entry_eq _ _ _ := rfl

lemma unplaced (h : Reclaimed s gone s') (hn : s.place n = none) : s'.place n = none :=
  Option.eq_none_iff_forall_ne_some.2 fun x hx => by
    rw [(h.place_iff.1 hx).1] at hn
    cases hn

lemma trans (hs : s.Housed) (h : Reclaimed s gone s') (h' : Reclaimed s' gone' s'') :
  Reclaimed s (fun root path => gone root path ∨ gone' root path) s'' where
  housed := h'.housed
  place_iff := by
    intro n root path
    rw [h'.place_iff, h.place_iff, not_or, and_assoc]
  freed {n root path} hn hgone := by
    by_cases hfirst : gone root path
    · -- once unlinked, the frame is left alone
      rw [h'.labels_eq, h.freed hn hfirst]
      intro r p hplc
      rw [(hs.used hn).1] at hplc
      have hsame := (h.place_iff.1 hplc).1
      rw [hn, Option.some.injEq, Prod.mk.injEq] at hsame
      obtain ⟨rfl, rfl⟩ := hsame
      exact absurd hfirst (h.place_iff.1 hplc).2
    · exact h'.freed (h.place_iff.2 ⟨hn, hfirst⟩) (hgone.resolve_left hfirst)
  labels_eq hf := by
    rw [h'.labels_eq fun hn hgone => hf (h.place_iff.1 hn).1 (.inr hgone),
      h.labels_eq fun hn hgone => hf hn (.inl hgone)]
  tables_eq hn := (h'.tables_eq (h.unplaced hn)).trans (h.tables_eq hn)
  entry_eq hn hpath hent := by
    rw [not_or] at hpath hent
    rw [h'.entry_eq (h.place_iff.2 ⟨hn, hpath.1⟩) hpath.2 hent.2, h.entry_eq hn hpath.1 hent.1]

lemma congr (h : Reclaimed s gone s') (hsub : ∀ {root path}, gone root path → gone' root path)
  (hpl : ∀ {n root path}, s.place n = some (root, path) → gone' root path →
    gone root path) : Reclaimed s gone' s' where
  housed := h.housed
  place_iff {n root path} := by
    rw [h.place_iff]
    exact and_congr_right fun hn => not_congr ⟨hsub, hpl hn⟩
  freed hn hgone := h.freed hn (hpl hn hgone)
  labels_eq hf := h.labels_eq fun hn hgone => hf hn (hsub hgone)
  tables_eq := h.tables_eq
  entry_eq hn hpath hent :=
    h.entry_eq hn (fun hgone => hpath (hsub hgone)) fun hgone => hent (hsub hgone)

end Reclaimed

namespace PageState.Housed
variable {s : PageState} {frame root : ℕ} {tables : PageTables}

lemma reclaimed_of_cut (h : s.Housed)
  (hfrm : s.place frame = some (root, path)) (hhoused : (s.cut tables frame).Housed)
  (htbls : ∀ {n}, s.place n = none → tables n = s.tables n)
  (hent : ∀ {n r p i}, s.place n = some (r, p) → n ≠ frame → ¬ (r = root ∧ p ++ [i] = path) →
    tables n i = s.tables n i) :
  Reclaimed s (fun r p => r = root ∧ p = path) (s.cut tables frame) := by
  have hgone : ∀ {n r p}, s.place n = some (r, p) → (n = frame ↔ r = root ∧ p = path) := by
    intro n r p hn
    constructor
    · rintro rfl
      rw [hfrm, Option.some.injEq, Prod.mk.injEq] at hn
      exact ⟨hn.1.symm, hn.2.symm⟩
    · rintro ⟨rfl, rfl⟩
      exact h.forest.planted.place_inj hn hfrm
  refine ⟨hhoused, fun {n r p} => ⟨fun hn => ?_, fun ⟨hn, hpath⟩ => ?_⟩, fun {n r p} hn hpath => ?_,
    fun {f} hf => ?_, htbls, fun {n r p i} hn hpath hslot => ?_⟩
  · obtain ⟨hne, hn⟩ := PageState.place_of_cut hn
    exact ⟨hn, fun hpath => hne ((hgone hn).2 hpath)⟩
  · exact (PageState.cut_place_of_ne fun heq => hpath ((hgone hn).1 heq)).trans hn
  · rw [(hgone hn).2 hpath]
    exact if_pos ⟨Nat.le_refl _, Nat.lt_succ_self _⟩
  · refine PageState.cut_labels_of_ne fun heq => ?_
    rw [heq, (h.used hfrm).1] at hf
    exact hf hfrm ⟨rfl, rfl⟩
  · exact hent hn (fun heq => hpath ((hgone hn).1 heq)) hslot

lemma reclaimed_cut (h : s.Housed) (htab : s.place table = some (root, front))
  (hfrm : s.place frame = some (root, front ++ [index]))
  (hbare : ∀ {i}, Open 4 processWindow (front ++ [index]) i → s.tables.child frame i = none)
  (hunlink : tables table index = .unused)
  (hkept : ∀ {n i}, n ≠ frame → (n, i) ≠ (table, index) → tables n i = s.tables n i) :
  Reclaimed s (fun r path => r = root ∧ path = front ++ [index]) (s.cut tables frame) := by
  refine h.reclaimed_of_cut hfrm (h.cut htab hfrm hbare hunlink fun _ => hkept)
    (fun {n} hn => ?_) fun {n r p i} hn hne hslot => ?_
  · have hne : n ≠ frame := fun heq => by rw [heq, hfrm] at hn; cases hn
    have hne' : n ≠ table := fun heq => by rw [heq, htab] at hn; cases hn
    exact funext fun i => hkept hne fun hslot => hne' (congrArg Prod.fst hslot)
  refine hkept hne fun heq => hslot ?_
  obtain ⟨rfl, rfl⟩ := Prod.mk.injEq .. ▸ heq
  rw [htab, Option.some.injEq, Prod.mk.injEq] at hn
  exact ⟨hn.1.symm, by rw [hn.2]⟩

lemma reclaimed_root (h : s.Housed) (hroot : s.IsRoot root)
  (hbare : ∀ {i}, Open 4 processWindow [] i → s.tables.child root i = none)
  (htbls : ∀ {n}, n ≠ root → tables n = s.tables n) :
  Reclaimed s (fun r path => r = root ∧ path = []) (s.cut tables root) := by
  have hplanted : Planted 4 processWindow tables.child (s.cut tables root).place := by
    refine (h.forest.planted.uproot hroot hbare).congr fun {n r path i} hn _ => ?_
    have hn : (s.cut tables root).place n = some (r, path) := hn
    exact child_congr (congrFun (htbls (PageState.place_of_cut hn).1) _)
  refine h.reclaimed_of_cut hroot
    (h.cut_of_planted hroot hplanted fun _ hne => .inr (congrFun (htbls hne) _))
    (fun {n} hn => htbls fun heq => ?_) fun _ hne _ => congrFun (htbls hne) _
  rw [heq, hroot] at hn
  cases hn

end PageState.Housed

/-! ### Freeing frames one after the other -/

/-- The page counts after one more frame. -/
def UserAddressSpaceReclaim.add (ownerOf : ℕ → FrameRangeOwner)
  (reclaim : UserAddressSpaceReclaim) (frame : PhysicalFrameStart) : UserAddressSpaceReclaim :=
  if ownerOf frame.asAddress = .pageTable then
    { reclaim with pageTablePages := saturatingAdd reclaim.pageTablePages 1 }
  else { reclaim with userPages := saturatingAdd reclaim.userPages 1 }

/-- The owners that the placed frames are labelled with. -/
def PageState.OwnedBy (s : PageState) (ownerOf : ℕ → FrameRangeOwner) : Prop :=
  ∀ {n x}, s.place n = some x → s.labels (n / pageSize) = some (.used, ownerOf n)

lemma Reclaimed.ownedBy {gone : ℕ → List (Fin 512) → Prop}
  {ownerOf : ℕ → FrameRangeOwner} (h : Reclaimed s gone s') (hs : s.Housed)
  (howned : s.OwnedBy ownerOf) : s'.OwnedBy ownerOf := by
  rintro n ⟨_, _⟩ hn
  obtain ⟨hn, _⟩ := h.place_iff.1 hn
  rw [h.labels_eq, howned hn]
  intro r p hplc
  rw [(hs.used hn).1, hn, Option.some.injEq, Prod.mk.injEq] at hplc
  rwa [← hplc.1, ← hplc.2]

section
variable {s : PageState} {ownerOf : ℕ → FrameRangeOwner} (hs : s.Housed)
  (howned : s.OwnedBy ownerOf)
include hs howned in
lemma PageState.OwnedBy.table (hn : s.place n = some (root, path)) (hlen : path.length < 4) :
  ownerOf n = .pageTable := by
  obtain ⟨f, rfl, hlab⟩ := hs.table_label hn hlen
  have hown := howned hn
  rw [Nat.mul_div_cancel _ (by decide), hlab, Option.some.injEq, Prod.mk.injEq] at hown
  exact hown.2.symm

include hs howned in
lemma PageState.OwnedBy.leaf {n root : ℕ} {path : List (Fin 512)}
    (hn : s.place n = some (root, path)) (hlen : path.length = 4) : ownerOf n ∈ userDataOwners := by
  obtain ⟨f, rfl, _, _, hlab⟩ := hs.leaf_label hn hlen
  have hown := howned hn
  rw [Nat.mul_div_cancel _ (by decide), hlab, Option.some.injEq, Prod.mk.injEq] at hown
  rwa [← hown.2]

end

/-- The loop frees the frames: it fails without room to track them, and otherwise the positions are
gone and the frames counted. -/
def Frees (ownerOf : ℕ → FrameRangeOwner) (frames : List PhysicalFrameStart)
  (gone : ℕ → List (Fin 512) → Prop) (s : PageState) (state : ReclaimState)
  (result : Panicking ReclaimState) : Prop :=
  (¬ s.labels.CanFree frames ∧ result = .error capacityExhausted) ∨
  s.labels.CanFree frames ∧ ∃ allocator s',
    result = .ok ({ state.1 with tables := s'.tables, allocator },
      frames.foldl (add ownerOf) state.2) ∧
    s'.labels = s.labels.freeAll frames ∧ Reclaimed s gone s' ∧
    Represents allocator.trackedRanges s'.labels

namespace Frees
variable {ownerOf : ℕ → FrameRangeOwner} {gone gone' : ℕ → List (Fin 512) → Prop} {s : PageState}

lemma nil (hs : s.Housed) {state : ReclaimState} (h : state.1.Realizes s)
  (hgone : ∀ {n root path}, s.place n = some (root, path) → ¬ gone root path) :
  Frees ownerOf [] gone s state (.ok state) := by
  refine .inr ⟨.nil, state.1.allocator, s, ?_, rfl, .of_empty hs hgone, h.represents⟩
  rw [← h.tables_eq]
  rfl

lemma bind (hs : s.Housed) (h : Frees ownerOf frames gone s state x)
    {k : ReclaimState → Panicking ReclaimState}
    (hk : ∀ s' state',
        Reclaimed s gone s' →
        state'.1.Realizes s' →
        Frees ownerOf frames' gone' s' state' (k state')) :
    Frees ownerOf (frames ++ frames') (fun root path => gone root path ∨ gone' root path) s state
      (x >>= k) := by
  rw [Frees, FrameMap.canFree_append]
  rcases h with ⟨hroom, rfl⟩ | ⟨hroom, allocator, s', rfl, hlabs, hgone, hrep⟩
  · exact .inl ⟨fun hall => hroom hall.1, rfl⟩
  have hreal : Memory.Realizes { state.1 with tables := s'.tables, allocator } s' :=
    ⟨rfl, hrep, hgone.housed⟩
  have hrest := hk s' (_, frames.foldl (add ownerOf) state.2) hgone
    hreal
  rw [Frees, hlabs] at hrest
  rcases hrest with ⟨hroom', hres⟩ | ⟨hroom', allocator', s'', hres, hlabs', hgone', hrep'⟩
  · exact .inl ⟨fun hall => hroom' hall.2, hres⟩
  refine .inr ⟨⟨hroom, hroom'⟩, allocator', s'', ?_, ?_, hgone.trans hs hgone', hrep'⟩
  · rw [foldl_append]
    exact hres
  · rw [hlabs', FrameMap.freeAll, FrameMap.freeAll, FrameMap.freeAll, foldl_append]

lemma congr (h : Frees ownerOf frames gone s state result) (hfrms : frames = frames')
  (hsub : ∀ {root path}, gone root path → gone' root path)
  (hpl : ∀ {n root path}, s.place n = some (root, path) → gone' root path →
    gone root path) : Frees ownerOf frames' gone' s state result := by
  subst hfrms
  rcases h with herr | ⟨hroom, allocator, s', hres, hlabs, hgone, hrep⟩
  · exact .inl herr
  · exact .inr ⟨hroom, allocator, s', hres, hlabs, hgone.congr hsub hpl, hrep⟩

lemma one (hs : s.Housed) (howned : s.OwnedBy ownerOf) {state : ReclaimState}
  (h : state.1.Realizes s) {frame : PhysicalFrameStart} (hfrm : s.place frame.asAddress = some x)
  (hgone : Reclaimed s gone (s.cut tables frame.asAddress)) (hres : ∀ hfits, ∃ message, result =
    (state.1.allocator.freeFramesFor (frameRange frame hfits) (ownerOf frame.asAddress)).bind
      fun p => (require p.1 message).bind fun _ =>
        .ok ({ state.1 with tables, allocator := p.2 }, state.2.add ownerOf frame)) :
  Frees ownerOf [frame] gone s state result := by
  have hlab := howned hfrm
  have hfits : frame.asAddress + pageSize < wordSize := by
    have hfits := h.represents.frame_fits hlab
    rwa [(hs.used hfrm).1] at hfits
  obtain ⟨_, hres⟩ := hres hfits
  rcases freeFrame_spec h.represents hs.sound hfits
    (ownerOf frame.asAddress) with ⟨hne, -⟩ | ⟨-, ⟨hroom, herr⟩ | ⟨hroom, allocator, hok, hrep⟩⟩
  · exact absurd hlab hne
  · refine .inl ⟨fun hall => hroom (FrameMap.canFree_cons.1 hall).1, ?_⟩
    rw [hres, herr]
    rfl
  · refine .inr ⟨.cons hroom .nil, allocator, s.cut tables frame.asAddress, ?_, rfl, hgone, hrep⟩
    rw [hres, hok]
    rfl

end Frees

/-! ### The loops of the walk -/

/-- The frames that an entry leads to: those below the frame it links, then that frame. -/
def entryFrames (tables : PageTables) (below : ℕ → List PhysicalFrameStart) (table : ℕ)
  (index : Fin 512) : List PhysicalFrameStart :=
  match (tables table index).frame with
  | none => []
  | some frame => below frame.asAddress ++ [frame]

/-- The frames below a table with a number of levels under it. -/
def framesBelow (tables : PageTables) : ℕ → ℕ → List PhysicalFrameStart
  | 0, _ => []
  | levels + 1, table =>
    (List.finRange 512).flatMap (entryFrames tables (framesBelow tables levels) table)

/-- The frames of an address space, in the order in which the walk frees them. -/
def spaceFrames (tables : PageTables) (root : PhysicalFrameStart) : List PhysicalFrameStart :=
  processUserWindow.flatMap (entryFrames tables (framesBelow tables 3) root.asAddress) ++ [root]

lemma open_of_length (index : Fin 512) (hfront : front ≠ []) (hlen : front.length <
  4) : Open 4 processWindow front index := ⟨hlen, fun hnil => absurd hnil hfront⟩

section Stable
variable {s s' : PageState} {gone : ℕ → List (Fin 512) → Prop} (hs : s.Housed)
  (h : Reclaimed s gone s')
include hs h in
lemma framesBelow_congr (htab : s.place table = some (root, path)) (hpath : path ≠ [])
  (hlen : path.length + levels ≤ 4) (hgone : ∀ rest, ¬ gone root (path ++ rest)) :
  framesBelow s'.tables levels table = framesBelow s.tables levels table := by
  induction levels generalizing table path with
  | zero => rfl
  | succ _ ih =>
    rw [framesBelow, framesBelow]
    refine flatMap_congr fun index _ => ?_
    have hself : ¬ gone root path := by simpa using hgone []
    rw [entryFrames, entryFrames, h.entry_eq htab hself (hgone [index])]
    cases hfrm : (s.tables table index).frame with
    | none => rfl
    | some frame =>
      have hopen := open_of_length index hpath (by omega)
      have hch := hs.forest.planted.down htab hopen
        (child_eq_some.2 ⟨frame, hfrm, rfl⟩)
      have hbelow := ih hch (by simp) (by simp; omega) fun rest => by
        rw [append_assoc]
        exact hgone _
      simp only [hbelow]

include hs h in
lemma entryFrames_congr (htab : s.place table = some (root, front))
    (hopen : Open 4 processWindow front index) (hlen : front.length + levels ≤ 3)
    (hself : ¬ gone root front) (hgone : ∀ rest, ¬ gone root (front ++ index :: rest)) :
    entryFrames s'.tables (framesBelow s'.tables levels) table index =
      entryFrames s.tables (framesBelow s.tables levels) table index := by
  rw [entryFrames, entryFrames, h.entry_eq htab hself (hgone [])]
  cases hfrm : (s.tables table index).frame with
  | none => rfl
  | some frame =>
    have hch := hs.forest.planted.down htab hopen
      (child_eq_some.2 ⟨frame, hfrm, rfl⟩)
    have hbelow : framesBelow s'.tables levels frame.asAddress =
      framesBelow s.tables levels frame.asAddress :=
      framesBelow_congr hs h hch (by simp) (by simp; omega) fun rest => by
        rw [append_assoc, singleton_append]
        exact hgone rest
    simp only [hbelow]

end Stable

/-- The position lies below an entry of a table. -/
def Under (root : ℕ) (front : List (Fin 512)) (index : Fin 512)
  (r : ℕ) (path : List (Fin 512)) : Prop := r = root ∧ ∃ rest, path = front ++ index :: rest

lemma Frees.loop {ownerOf : ℕ → FrameRangeOwner}
    {body : ReclaimState → Fin 512 → Panicking ReclaimState} {indices : List (Fin 512)}
    (hnodup : indices.Nodup) (hopen : ∀ index ∈ indices, Open 4 processWindow front index)
    (hlen : front.length + levels ≤ 3)
    (hbody : ∀ (s : PageState) (state : ReclaimState) (index : Fin 512),
        index ∈ indices →
        state.1.Realizes s →
        s.OwnedBy ownerOf →
        s.place table = some (root, front) →
        Frees ownerOf (entryFrames s.tables (framesBelow s.tables levels) table index)
          (Under root front index) s state (body state index)) (h : state.1.Realizes s)
    (howned : s.OwnedBy ownerOf) (htab : s.place table = some (root, front)) :
    Frees ownerOf (indices.flatMap (entryFrames s.tables (framesBelow s.tables levels) table))
      (fun r path => ∃ index ∈ indices, Under root front index r path) s state
      (indices.foldlM body state) := by
  induction indices generalizing s state with
  | nil => exact .nil h.housed h fun _ ⟨_, hmem, _⟩ => by cases hmem
  | cons index indices ih =>
    have hfirst := hbody s state index (by simp) h howned htab
    have hne : ∀ {j}, j ∈ indices → j ≠ index := fun hj heq =>
      (nodup_cons.1 hnodup).1 (heq ▸ hj)
    have hself : ¬ Under root front index root front := by
      rintro ⟨-, rest, heq⟩
      simp at heq
    have hrest : ∀ s' state', Reclaimed s (Under root front index) s' → state'.1.Realizes s' →
      Frees ownerOf (indices.flatMap (entryFrames s.tables (framesBelow s.tables levels) table))
        (fun r path => ∃ j ∈ indices, Under root front j r path) s' state'
        (indices.foldlM body state') := by
      intro _ _ hgone h'
      have hrest := ih (nodup_cons.1 hnodup).2 (fun j hj => hopen j (by simp [hj]))
        (fun s state j hj => hbody s state j (by simp [hj])) h' (hgone.ownedBy h.housed howned)
        (hgone.place_iff.2 ⟨htab, hself⟩)
      refine hrest.congr (flatMap_congr fun j hj => ?_) (fun h => h) fun _ h => h
      refine entryFrames_congr h.housed hgone htab (hopen j (by simp [hj])) hlen hself ?_
      rintro _ ⟨-, _, heq⟩
      exact hne hj (List.cons.inj (append_cancel_left heq)).1
    rw [flatMap_cons, foldlM_cons]
    refine (hfirst.bind h.housed hrest).congr rfl (fun hgone => ?_) fun _ hgone => ?_
    · rcases hgone with hgone | ⟨j, hj, hgone⟩
      · exact ⟨index, by simp, hgone⟩
      · exact ⟨j, by simp [hj], hgone⟩
    obtain ⟨j, hj, hgone⟩ := hgone
    rcases mem_cons.1 hj with rfl | hj
    · exact .inl hgone
    · exact .inr ⟨j, hj, hgone⟩

lemma PageState.Housed.not_under {s : PageState} (hs : s.Housed)
  (htab : s.place table = some (root, front)) (hent : s.tables table index = .unused)
  (hn : s.place n = some (r, path)) : ¬ Under root front index r path := by
  rintro ⟨rfl, _, rfl⟩
  rw [← singleton_append, ← append_assoc] at hn
  obtain ⟨c, hc⟩ := hs.forest.planted.exists_place hn
  obtain ⟨-, _, hpar, hlink⟩ := hs.forest.planted.up hc
  rw [hs.forest.planted.place_inj hpar htab, child_of_unused hent] at hlink
  cases hlink

lemma freeFramesForAny_eq {memory : Memory}
  (hrep : Represents memory.allocator.trackedRanges labels) (hs : labels.IsSound)
  {frame : PhysicalFrameStart} (hfits : frame.asAddress + pageSize < wordSize)
  (hlab : labels (frame.asAddress / pageSize) = some (.used, owner)) (hown : owner ∈ owners) :
  freeFramesForAny memory (frameRange frame hfits) owners =
    memory.freeFramesFor (frameRange frame hfits) owner := by
  induction owners with
  | nil => cases hown
  | cons first rest ih =>
    rw [freeFramesForAny, Memory.freeFramesFor, Memory.freeFramesFor]
    rcases freeFrame_spec hrep hs hfits first with
      ⟨hne, hok⟩ | ⟨heq, ⟨-, herr⟩ | ⟨-, a, hok, -⟩⟩
    · have hrest : owner ∈ rest := by
        rcases mem_cons.1 hown with rfl | hrest
        · exact absurd hlab hne
        · exact hrest
      rw [hok, ← Memory.freeFramesFor]
      exact ih hrest
    · obtain rfl : owner = first := by
        rw [hlab, Option.some.injEq, Prod.mk.injEq] at heq
        exact heq.2
      rw [herr]
      rfl
    · obtain rfl : owner = first := by
        rw [hlab, Option.some.injEq, Prod.mk.injEq] at heq
        exact heq.2
      rw [hok]
      rfl

lemma freeUserDataFrame_eq (memory : Memory)
  (hrep : Represents memory.allocator.trackedRanges labels) (hs : labels.IsSound)
  {frame : PhysicalFrameStart} (hfits : frame.asAddress + pageSize < wordSize)
  (hlab : labels (frame.asAddress / pageSize) = some (.used, owner))
  (hown : owner ∈ userDataOwners) (reclaim : UserAddressSpaceReclaim) :
  ∃ message, freeUserDataFrame frame (memory, reclaim) =
    (memory.allocator.freeFramesFor (frameRange frame hfits) owner).bind fun p =>
      (require p.1 message).bind fun _ => .ok ({ memory with allocator := p.2 },
        { reclaim with userPages := saturatingAdd reclaim.userPages 1 }) := by
  rw [freeUserDataFrame, oneFrameRange_eq hfits, ok_bind,
    freeFramesForAny_eq hrep hs hfits hlab hown, Memory.freeFramesFor]
  cases memory.allocator.freeFramesFor (frameRange frame hfits) owner with
  | error message => exact ⟨message, rfl⟩
  | ok _ => exact ⟨_, rfl⟩

lemma freePageTableFrame_eq (memory : Memory) {frame : PhysicalFrameStart}
  (hfits : frame.asAddress + pageSize < wordSize) (reclaim : UserAddressSpaceReclaim) :
  ∃ message, freePageTableFrame frame (memory, reclaim) =
    (memory.allocator.freeFramesFor (frameRange frame hfits) .pageTable).bind fun p =>
      (require p.1 message).bind fun _ => .ok ({ memory with allocator := p.2 },
        { reclaim with pageTablePages := saturatingAdd reclaim.pageTablePages 1 }) := by
  rw [freePageTableFrame, oneFrameRange_eq hfits, ok_bind, Memory.freeFramesFor]
  cases memory.allocator.freeFramesFor (frameRange frame hfits) .pageTable with
  | error message => exact ⟨message, rfl⟩
  | ok _ => exact ⟨_, rfl⟩

lemma PageTableEntry.linked {entry : PageTableEntry} {frame : PhysicalFrameStart}
  (h : entry.frame = some frame) : entry.isUnused = false ∧ entry.flags.hugePage = false ∧
    entryFrameStart entry = .ok frame := by
  obtain ⟨-, hpres, hhuge⟩ := PageTableEntry.frame_eq_some.1 h
  refine ⟨Bool.eq_false_iff.2 fun hunu => ?_, hhuge, by rw [entryFrameStart, h]; rfl⟩
  rw [PageTableEntry.isUnused_iff.1 hunu] at hpres
  cases hpres

section Bodies
variable {ownerOf : ℕ → FrameRangeOwner} {s : PageState} {state : ReclaimState}
  (h : state.1.Realizes s) (howned : s.OwnedBy ownerOf) {table root : ℕ}
  {front : List (Fin 512)} {index : Fin 512} (htab : s.place table = some (root, front))
include h howned htab in
lemma reclaimLeaf_frees (hlen : front.length = 3) :
  Frees ownerOf (entryFrames s.tables (framesBelow s.tables 0) table index)
    (Under root front index) s state (reclaimLeaf table state index) := by
  have hfront : front ≠ [] := by
    rintro rfl
    cases hlen
  have hopen := open_of_length index hfront (by omega)
  rw [entryFrames]
  cases hfrm : (s.tables table index).frame with
  | none =>
    have hunu := h.housed.forest.regular htab hopen (by rw [PageTables.child, hfrm]; rfl)
    rw [reclaimLeaf, h.tables_eq, PageTableEntry.isUnused_iff.2 hunu]
    exact .nil h.housed h fun hn => h.housed.not_under htab hunu hn
  | some frame =>
    obtain ⟨hused, hhuge, hst⟩ := PageTableEntry.linked hfrm
    have hplc := h.housed.forest.planted.down htab hopen
      (PageTables.child_eq_some.2 ⟨frame, hfrm, rfl⟩)
    have hdepth : (front ++ [index]).length = 4 := by
      rw [length_append, hlen, length_singleton]
    have hown := PageState.OwnedBy.leaf h.housed howned hplc hdepth
    have hadd : ∀ reclaim, add ownerOf reclaim frame =
      { reclaim with userPages := saturatingAdd reclaim.userPages 1 } := fun reclaim =>
      if_neg fun heq => by
        rw [heq] at hown
        exact absurd hown (by decide)
    have hone : Frees ownerOf [frame] (fun r path => r = root ∧ path = front ++ [index]) s state
      (freeUserDataFrame frame (state.1.setEntry table index .unused, state.2)) := by
      have hgone := h.housed.reclaimed_cut htab hplc
        (fun hdeep => absurd hdeep.1 (by omega)) (s.tables.set_self table index .unused)
        (fun _ hslot => s.tables.set_of_ne _ hslot)
      refine Frees.one h.housed howned h hplc hgone fun hfits => ?_
      · rw [hadd, ← h.tables_eq]
        exact freeUserDataFrame_eq (state.1.setEntry table index .unused) h.represents
          h.housed.sound hfits (howned hplc) hown state.2
    have hrun : reclaimLeaf table state index =
      freeUserDataFrame frame (state.1.setEntry table index .unused, state.2) := by
      rw [reclaimLeaf, h.tables_eq]
      simp only [hused, hhuge, hst, ok_bind, Bool.false_eq_true, if_false, Bool.not_false,
        require, if_true]
    rw [hrun]
    refine hone.congr rfl (fun hgone => ⟨hgone.1, [], hgone.2⟩) ?_
    rintro n r _ hn ⟨rfl, rest, rfl⟩
    have hle := h.housed.forest.planted.length_le hn
    rw [length_append, length_cons, hlen] at hle
    have hrest : rest.length = 0 := by omega
    rw [eq_nil_of_length_eq_zero hrest]
    exact ⟨rfl, rfl⟩

include h howned htab in
lemma reclaimChildTable_frees {levels : ℕ} (hlevels : 0 < levels)
    (hlen : front.length + levels = 3) (hopen : Open 4 processWindow front index)
    {reclaimTable : ℕ → ReclaimState → Panicking ReclaimState}
    (hbelow : ∀ {child},
        s.place child = some (root, front ++ [index]) →
        Frees ownerOf (framesBelow s.tables levels child)
          (fun r path => ∃ i, Under root (front ++ [index]) i r path) s state
          (reclaimTable child state)) :
    Frees ownerOf (entryFrames s.tables (framesBelow s.tables levels) table index)
      (Under root front index) s state
      (reclaimChildTable hugePageMessage reclaimTable table state index) := by
  rw [entryFrames]
  cases hfrm : (s.tables table index).frame with
  | none =>
    have hunu := h.housed.forest.regular htab hopen (by rw [PageTables.child, hfrm]; rfl)
    rw [reclaimChildTable, h.tables_eq, PageTableEntry.isUnused_iff.2 hunu]
    exact .nil h.housed h fun hn => h.housed.not_under htab hunu hn
  | some frame =>
    obtain ⟨hused, hhuge, hst⟩ := PageTableEntry.linked hfrm
    have hplc := h.housed.forest.planted.down htab hopen
      (PageTables.child_eq_some.2 ⟨frame, hfrm, rfl⟩)
    have hrun : reclaimChildTable hugePageMessage reclaimTable table state index =
      reclaimTable frame.asAddress state >>= fun state' => freePageTableFrame frame
          ((state'.1.setTable frame.asAddress zeroTable).setEntry table index .unused,
            state'.2) := by
      rw [reclaimChildTable, h.tables_eq]
      simp only [hused, hhuge, hst, ok_bind, Bool.false_eq_true, if_false, Bool.not_false,
        require, if_true]
    have hcut : ∀ s' state', Reclaimed s (fun r path => ∃ i, Under root (front ++ [index]) i r path)
      s' → state'.1.Realizes s' →
      Frees ownerOf [frame] (fun r path => r = root ∧ path = front ++ [index]) s' state'
        (freePageTableFrame frame ((state'.1.setTable frame.asAddress zeroTable).setEntry
          table index .unused, state'.2)) := by
      intro s' state' hgone h'
      have hstays : ∀ {n path}, s.place n = some (root, path) →
        path.length ≤ front.length + 1 → s'.place n = some (root, path) := by
        intro n _ hn hle
        refine hgone.place_iff.2 ⟨hn, ?_⟩
        rintro ⟨i, -, rest, rfl⟩
        simp only [length_append, length_cons] at hle
        omega
      have hplc' := hstays hplc (by simp)
      have howned' : s'.OwnedBy ownerOf := hgone.ownedBy h.housed howned
      have hown : ownerOf frame.asAddress = .pageTable :=
        PageState.OwnedBy.table h.housed howned hplc (by simp; omega)
      have hcut := h'.housed.reclaimed_cut (hstays htab (by simp)) hplc'
        (fun {i} hi => ?_)
        (PageTables.set_self (Function.update s'.tables frame.asAddress zeroTable) table index
          .unused)
        fun {n i} hne hslot => by rw [PageTables.set_of_ne _ _ hslot, update_of_ne hne]
      · refine Frees.one h'.housed howned' h' hplc' hcut fun hfits => ?_
        rw [hown, add, if_pos hown, ← h'.tables_eq]
        exact freePageTableFrame_eq _ hfits state'.2
      -- every entry of the child table leads to a position that is gone
      refine Option.eq_none_iff_forall_ne_some.2 fun c hc => ?_
      have hpl := h'.housed.forest.planted.down hplc' hi hc
      exact (hgone.place_iff.1 hpl).2 ⟨i, rfl, [], rfl⟩
    rw [hrun]
    refine ((hbelow hplc).bind h.housed hcut).congr rfl (fun hgone => ?_) ?_
    · rcases hgone with ⟨i, rfl, rest, rfl⟩ | ⟨rfl, rfl⟩
      · exact ⟨rfl, i :: rest, by rw [append_assoc, singleton_append]⟩
      · exact ⟨rfl, [], rfl⟩
    rintro n r _ - ⟨rfl, rest, rfl⟩
    cases rest with
    | nil => exact .inr ⟨rfl, rfl⟩
    | cons i rest => exact .inl ⟨i, rfl, rest, by rw [append_assoc, singleton_append]⟩

end Bodies

/-! ### The levels -/

section Levels
variable {ownerOf : ℕ → FrameRangeOwner} {s : PageState} {state : ReclaimState}
  (h : state.1.Realizes s) (howned : s.OwnedBy ownerOf) {table root : ℕ}
  {front : List (Fin 512)} (htab : s.place table = some (root, front)) (hfront : front ≠ [])
include h howned htab hfront in
lemma Frees.entries (hlen : front.length + levels = 3)
    {body : ReclaimState → Fin 512 → Panicking ReclaimState}
    (hbody : ∀ (s : PageState) (state : ReclaimState) (index : Fin 512),
        state.1.Realizes s →
        s.OwnedBy ownerOf →
        s.place table = some (root, front) →
        Frees ownerOf (entryFrames s.tables (framesBelow s.tables levels) table index)
          (Under root front index) s state (body state index)) :
    Frees ownerOf (framesBelow s.tables (levels + 1) table)
      (fun r path => ∃ index, Under root front index r path) s state
      ((List.finRange 512).foldlM body state) := by
  have hopen : ∀ index ∈ List.finRange 512, Open 4 processWindow front index := fun index _ =>
    open_of_length index hfront (by omega)
  refine (Frees.loop (nodup_finRange 512) hopen (by omega)
    (fun s state index _ => hbody s state index) h howned htab).congr rfl ?_ ?_
  · rintro r path ⟨index, -, hunder⟩
    exact ⟨index, hunder⟩
  · rintro n r _ - ⟨index, hunder⟩
    exact ⟨index, mem_finRange index, hunder⟩

include h howned htab hfront in
lemma reclaimLevel1Table_frees (hlen : front.length = 3) :
    Frees ownerOf (framesBelow s.tables 1 table)
      (fun r path => ∃ index, Under root front index r path) s state
      (reclaimLevel1Table table state) :=
  Frees.entries h howned htab hfront hlen fun _ _ _ h howned htab =>
    reclaimLeaf_frees h howned htab hlen

include h howned htab hfront in
lemma reclaimLevel2Table_frees (hlen : front.length = 2) :
    Frees ownerOf (framesBelow s.tables 2 table)
      (fun r path => ∃ index, Under root front index r path) s state
      (reclaimLevel2Table table state) :=
  Frees.entries h howned htab hfront (by omega) fun _ _ index h howned htab =>
    reclaimChildTable_frees h howned htab (by omega) (by omega)
      (open_of_length index hfront (by omega))
      fun hch => reclaimLevel1Table_frees h howned hch (by simp) (by simp; omega)

include h howned htab hfront in
lemma reclaimLevel3Table_frees (hlen : front.length = 1) :
    Frees ownerOf (framesBelow s.tables 3 table)
      (fun r path => ∃ index, Under root front index r path) s state
      (reclaimLevel3Table table state) :=
  Frees.entries h howned htab hfront (by omega) fun _ _ index h howned htab =>
    reclaimChildTable_frees h howned htab (by omega) (by omega)
      (open_of_length index hfront (by omega))
      fun hch => reclaimLevel2Table_frees h howned hch (by simp) (by simp; omega)

end Levels

lemma mem_processUserWindow : index ∈ processUserWindow ↔ index ∈ processWindow := by
  simp [processUserWindow, processWindow]

lemma reclaimUserChildTables_frees {ownerOf : ℕ → FrameRangeOwner} {state : ReclaimState}
    (h : state.1.Realizes s) (howned : s.OwnedBy ownerOf) (hroot : s.IsRoot root) :
    Frees ownerOf (processUserWindow.flatMap (entryFrames s.tables (framesBelow s.tables 3) root))
      (fun r path => r = root ∧ path ≠ []) s state
      (processUserWindow.foldlM (reclaimUserChildTable root) state) := by
  have hopen : ∀ index ∈ processUserWindow, Open 4 processWindow [] index := fun index hidx =>
    ⟨Nat.zero_lt_succ 3, fun _ => mem_processUserWindow.1 hidx⟩
  have hbody : ∀ (s : PageState) (state : ReclaimState) (index : Fin 512),
    index ∈ processUserWindow → state.1.Realizes s → s.OwnedBy ownerOf →
    s.IsRoot root → Frees ownerOf (entryFrames s.tables (framesBelow s.tables 3) root index)
      (Under root [] index) s state (reclaimUserChildTable root state index) := by
    intro s _ index hidx h howned hroot
    exact reclaimChildTable_frees h howned hroot (by omega) rfl (hopen index hidx)
      fun hch => reclaimLevel3Table_frees h howned hch (by simp) rfl
  have hnodup : processUserWindow.Nodup := (nodup_finRange 512).filter _
  refine (Frees.loop hnodup hopen (Nat.le_refl 3) hbody h howned hroot).congr rfl ?_ ?_
  · rintro r path ⟨index, -, rfl, rest, rfl⟩
    exact ⟨rfl, cons_ne_nil _ _⟩
  rintro n r _ hn ⟨rfl, hne⟩
  obtain ⟨index, rest, rfl⟩ := exists_cons_of_ne_nil hne
  have hwin := h.housed.forest.planted.head_mem hn
  exact ⟨index, mem_processUserWindow.2 hwin, rfl, rest, rfl⟩

/-- **Destruction** fails where freeing the frames fails, and else leaves nothing of the space. -/
lemma destroyUserAddressSpace_spec {ownerOf : ℕ → FrameRangeOwner}
  {memory : Memory} (h : memory.Realizes s) (howned : s.OwnedBy ownerOf)
  {space : UserAddressSpace} (hroot : s.IsRoot space.root)
  (hker : getKernelLevel4Frame memory = some kernel) :
  (¬ s.labels.CanFree (spaceFrames s.tables space.level4Frame) ∧
    destroyUserAddressSpace memory space = .error capacityExhausted) ∨
  s.labels.CanFree (spaceFrames s.tables space.level4Frame) ∧ ∃ allocator s',
    destroyUserAddressSpace memory space =
      .ok ((spaceFrames s.tables space.level4Frame).foldl (add ownerOf)
        ⟨0, 0⟩,
        { memory with tables := s'.tables, allocator, activeLevel4Frame := kernel }) ∧
    Reclaimed s (fun r _ => r = space.root) s' ∧
    Represents allocator.trackedRanges s'.labels := by
  let start : ReclaimState := ({ memory with activeLevel4Frame := kernel }, ⟨0, 0⟩)
  have hst : start.1.Realizes s := ⟨h.tables_eq, h.represents, h.housed⟩
  have hrun : destroyUserAddressSpace memory space =
    (processUserWindow.foldlM (reclaimUserChildTable space.root) start >>= fun state
    => freePageTableFrame space.level4Frame (state.1.setTable space.root zeroTable, state.2)).map
      fun state => (state.2, state.1) := by
    rw [destroyUserAddressSpace, switchToKernelAddressSpace, hker]
    simp only [expect, ok_bind, pure_eq]
    cases processUserWindow.foldlM (reclaimUserChildTable space.root) start with
    | error _ => rfl
    | ok state =>
      rw [ok_bind, ok_bind]
      cases freePageTableFrame space.level4Frame
        (state.1.setTable space.root zeroTable, state.2) <;> rfl
  have hlast : ∀ s' state', Reclaimed s (fun r path => r = space.root ∧ path ≠ []) s' →
    state'.1.Realizes s' → Frees ownerOf [space.level4Frame]
      (fun r path => r = space.root ∧ path = []) s' state'
      (freePageTableFrame space.level4Frame
        (state'.1.setTable space.root zeroTable, state'.2)) := by
    intro s' state' hgone h'
    have hroot' := hgone.place_iff.2 ⟨hroot, fun hne => hne.2 rfl⟩
    have hown : ownerOf space.root = .pageTable :=
      PageState.OwnedBy.table h.housed howned hroot (Nat.zero_lt_succ 3)
    have hcut : Reclaimed s' (fun r path => r = space.root ∧ path = [])
      (s'.cut (Function.update s'.tables space.root zeroTable) _) :=
      h'.housed.reclaimed_root hroot' (fun {i} hi => ?_) fun hne => update_of_ne hne ..
    · refine Frees.one h'.housed (hgone.ownedBy h.housed howned) h' hroot' hcut fun hfits => ?_
      rw [hown, add, if_pos hown, ← h'.tables_eq]
      exact freePageTableFrame_eq _ hfits state'.2
    · refine Option.eq_none_iff_forall_ne_some.2 fun c hc => ?_
      have hpl := h'.housed.forest.planted.down hroot' hi hc
      exact (hgone.place_iff.1 hpl).2 ⟨rfl, cons_ne_nil _ _⟩
  rcases (reclaimUserChildTables_frees hst howned hroot).bind h.housed hlast with
    ⟨hroom, hres⟩ | ⟨hroom, allocator, s', hres, -, hgone, hrep⟩
  · exact .inl ⟨hroom, by rw [hrun, hres]; rfl⟩
  refine .inr ⟨hroom, allocator, s', ?_, ?_, hrep⟩
  · rw [hrun, hres, spaceFrames, Except.map]
  refine hgone.congr (fun hgone => ?_) fun _ heq => ?_
  · rcases hgone with ⟨rfl, -⟩ | ⟨rfl, -⟩ <;> rfl
  · rcases eq_or_ne _ [] with hnil | hne
    · exact .inr ⟨heq, hnil⟩
    · exact .inl ⟨heq, hne⟩

end ManaOS
