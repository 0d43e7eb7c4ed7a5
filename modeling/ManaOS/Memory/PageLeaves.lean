/-
Mapping and unmapping one page.

* `Memory.mapPage_mapped`, `Memory.exists_mapPage`: what mapping does, and when it succeeds;
* `UserAddressSpace.unmapUserPageFor_spec`: unmapping;
* `Memory.mapPage_of_leaf`: a page in use is not mapped again.
-/
import ManaOS.Memory.PageForest

namespace ManaOS
open Checked TableForest PageTables Option

/-- The indices of a page above its leaf entry. -/
def upperPath (page : ℕ) : List (Fin 512) :=
  [tableIndex 4 page, tableIndex 3 page, tableIndex 2 page]

lemma upperPath_append (page : ℕ) : upperPath page ++ [tableIndex 1 page] = tablePath page := rfl

lemma tablePath_ne_upperPath (page page' : ℕ) : tablePath page ≠ upperPath page' := fun h =>
  absurd (congrArg List.length h) (by simp [tablePath, upperPath])

variable {page' : ℕ} {owner : FrameRangeOwner}

lemma tablePath_eq_iff : tablePath page = tablePath page' ↔
  upperPath page = upperPath page' ∧ tableIndex 1 page = tableIndex 1 page' := by
  rw [← upperPath_append, ← upperPath_append]
  refine ⟨fun h => ?_, fun ⟨h, h'⟩ => by rw [h, h']⟩
  obtain ⟨hupper, hlast⟩ := List.append_inj h rfl
  exact ⟨hupper, List.singleton_inj.1 hlast⟩

/-- The page lies in the process window. -/
def InWindow (page : ℕ) : Prop := tableIndex 4 page ∈ processWindow

instance (page : ℕ) : Decidable (InWindow page) := inferInstanceAs (Decidable (_ ∧ _))

lemma inWindow_of_bounds (hbase : userProgramBase ≤ page) (hend : page < userSpaceEnd) :
  InWindow page := by
  simp only [userProgramBase, userSpaceEnd] at hbase hend
  refine ⟨?_, ?_⟩
  · simp only [tableIndex, processUserPml4Start]
    omega
  · simp only [tableIndex, processUserPml4EndExclusive]
    omega

/-- The entry of a page below a level-4 frame, if it is in use. -/
def PageTables.leaf (tables : PageTables) (root page : ℕ) : Option PageTableEntry :=
  (walk tables.child root (upperPath page)).bind fun table =>
    if tables table (tableIndex 1 page) = .unused then none
    else some (tables table (tableIndex 1 page))

lemma tablePath_inj (hpage : page % pageSize = 0) (hpage' : page' % pageSize = 0)
  (hlt : page < 2 ^ 48) (hlt' : page' < 2 ^ 48) (h : tablePath page = tablePath page') :
  page = page' := by
  simp only [tablePath, tableIndex, List.cons.injEq, Fin.mk.injEq, and_true] at h
  rw [pageSize] at hpage hpage'
  omega

lemma UserPageStart.eq_of_tablePath {page page' : UserPageStart}
  (h : tablePath page.asU64 = tablePath page'.asU64) : page = page' := by
  have hbound : ∀ p : UserPageStart, p.asU64 < 2 ^ 48 := fun p => by
    have hlt := p.asAddress.lt_end
    rw [userSpaceEnd] at hlt
    rw [UserPageStart.asU64]
    omega
  exact UserPageStart.eq_of_asU64
    (tablePath_inj page.aligned page'.aligned (hbound page) (hbound page') h)

namespace Forest

lemma walk_upperPath (h : Forest tables place) (hroot : place root = some (root, []))
  (hpage : InWindow page) :
  walk tables.child root (upperPath page) = some table ↔
    place table = some (root, upperPath page) := by
  refine h.planted.walk_eq_some hroot (Nat.le_succ 3) fun index hidx => ?_
  obtain rfl : tableIndex 4 page = index := some.inj hidx
  exact hpage

lemma leaf_eq_some (h : Forest tables place) (hroot : place root = some (root, []))
  (hpage : InWindow page) :
  tables.leaf root page = some entry ↔ entry ≠ .unused ∧ ∃ table,
    place table = some (root, upperPath page) ∧ tables table (tableIndex 1 page) = entry := by
  rw [leaf, bind_eq_some_iff]
  constructor
  · rintro ⟨table, htab, hent⟩
    split_ifs at hent with hunu
    obtain rfl := some.inj hent
    exact ⟨hunu, table, (h.walk_upperPath hroot hpage).1 htab, rfl⟩
  · rintro ⟨hunu, table, htab, rfl⟩
    exact ⟨table, (h.walk_upperPath hroot hpage).2 htab, if_neg hunu⟩

lemma place_of_leaf (h : Forest tables place) (hroot : place root = some (root, []))
  (hpage : InWindow page) (hleaf : tables.leaf root page = some entry) :
  place entry.address.asAddress = some (root, tablePath page) := by
  obtain ⟨hused, table, htab, rfl⟩ := (h.leaf_eq_some hroot hpage).1 hleaf
  have hopen : Open 4 processWindow (upperPath page) (tableIndex 1 page) :=
    ⟨Nat.lt_succ_self 3, fun hnil => by cases hnil⟩
  cases hch : tables.child table (tableIndex 1 page) with
  | none => exact absurd (h.regular htab hopen hch) hused
  | some _ =>
    obtain ⟨_, hfrm, rfl⟩ := child_eq_some.1 hch
    rw [(PageTableEntry.frame_eq_some.1 hfrm).1]
    exact h.planted.down htab hopen hch

lemma leaf_of_place (h : Forest tables place) (hroot : place root = some (root, []))
  (hpage : InWindow page) (hn : place n = some (root, tablePath page)) :
  ∃ entry, tables.leaf root page = some entry ∧ entry.address.asAddress = n := by
  rw [← upperPath_append] at hn
  obtain ⟨-, table, htab, hch⟩ := h.planted.up hn
  obtain ⟨_, hfrm, rfl⟩ := child_eq_some.1 hch
  obtain ⟨haddr, hpres, -⟩ := PageTableEntry.frame_eq_some.1 hfrm
  refine ⟨_, (h.leaf_eq_some hroot hpage).2 ⟨fun hunu => ?_, table, htab, rfl⟩, by rw [haddr]⟩
  rw [hunu] at hpres
  cases hpres

end Forest

lemma Grown.leaf_eq (h : Grown s s') (hs : s.Housed) (hs' : s'.Housed)
  (hroot : s.IsRoot root) (hpage : InWindow page) :
  s'.tables.leaf root page = s.tables.leaf root page := by
  refine ext fun entry => ?_
  rw [hs'.forest.leaf_eq_some (h.kept hroot) hpage, hs.forest.leaf_eq_some hroot hpage]
  refine and_congr_right fun hent => exists_congr fun table => ?_
  constructor
  · rintro ⟨htab, rfl⟩
    cases hplc : s.place table with
    | some x =>
      obtain rfl : x = (root, upperPath page) := some.inj ((h.kept hplc).symm.trans htab)
      exact ⟨rfl, by rw [h.leaves_eq hplc rfl]⟩
    | none =>
      -- a new table is empty
      rw [(h.fresh hplc htab).2.1 rfl] at hent
      cases hent rfl
  · rintro ⟨htab, rfl⟩
    exact ⟨h.kept htab, by rw [h.leaves_eq htab rfl]⟩

/-! ### Mapping -/

/-- What mapping a page does: tables in free frames are added, one leaf is written. -/
structure Mapped (s : PageState) (root page : ℕ) (entry : PageTableEntry) (s' : PageState) :
    Prop where
  housed : s'.Housed
  kept : ∀ {n x}, s.place n = some x → s'.place n = some x
  placed : s'.place entry.address.asAddress = some (root, tablePath page)
  fresh : ∀ {n r path}, s.place n = none → s'.place n = some (r, path) → n = entry.address.asAddress
    ∨ (path ≠ [] ∧ path.length < 4) ∧ ∃ f, n = f * pageSize ∧ s.labels.IsFree f
  along : ∀ {n r path}, s.place n = none → s'.place n = some (r, path) →
    r = root ∧ path <+: tablePath page
  serves : s.labels.Serves
    (List.replicate (s.tables.missing root (tablePath page)) (1, .pageTable)) s'.labels
  labels_eq : ∀ f, s'.labels f =
    if f * pageSize ≠ entry.address.asAddress ∧ s.place (f * pageSize) = none ∧
        s'.place (f * pageSize) ≠ none
      then some (.used, .pageTable) else s.labels f
  tables_eq : ∀ {n}, s'.place n = none → s'.tables n = s.tables n
  shared_eq : ∀ {n r index}, s.place n = some (r, []) → index ∉ processWindow →
    s'.tables n index = s.tables n index
  unmapped : s.tables.leaf root page = none
  leaf_eq : ∀ {r page'}, s.place r = some (r, []) → InWindow page' → s'.tables.leaf r page' =
      if r = root ∧ tablePath page' = tablePath page then some entry else s.tables.leaf r page'

lemma Mapped.root_iff (h : Mapped s root page entry s') :
  s'.place r = some (r, []) ↔ s.place r = some (r, []) := by
  refine ⟨fun hr => ?_, h.kept⟩
  cases hplc : s.place r with
  | some x => rw [← h.kept hplc, hr]
  | none =>
    rcases h.fresh hplc hr with rfl | ⟨⟨hne, -⟩, -⟩
    · cases h.placed.symm.trans hr
    · exact absurd rfl hne

/-- A leaf entry is written, and its frame placed. -/
def PageState.linkLeaf (s : PageState) (table : ℕ) (index : Fin 512) (entry : PageTableEntry)
  (position : ℕ × List (Fin 512)) : PageState where
  tables := s.tables.set table index entry
  place := Function.update s.place entry.address.asAddress (some position)
  labels := s.labels

section LinkLeaf
variable (s : PageState) (table : ℕ) (index : Fin 512) (entry : PageTableEntry)
  (position : ℕ × List (Fin 512))

lemma PageState.linkLeaf_place_self : (s.linkLeaf table index entry position).place
  entry.address.asAddress = some position := Function.update_self ..

lemma PageState.linkLeaf_place_of_ne (h : n ≠ entry.address.asAddress) :
  (s.linkLeaf table index entry position).place n = s.place n := Function.update_of_ne h ..

end LinkLeaf

namespace PageState.Housed
variable {s : PageState} {table root : ℕ} {front : List (Fin 512)} {index : Fin 512}
  {entry : PageTableEntry} (h : s.Housed) (htab : s.place table = some (root, front))
  (hlen : front.length = 3) (hent : s.tables table index = .unused)
  (hfrm : s.place entry.address.asAddress = none) (hpres : entry.flags.present = true)
  (hhuge : entry.flags.hugePage = false)
include h htab hlen hent hfrm hpres hhuge in
lemma linkLeaf_forest :
    Forest (s.linkLeaf table index entry (root, front ++ [index])).tables
      (s.linkLeaf table index entry (root, front ++ [index])).place := by
  have hopen : Open 4 processWindow front index := by
    refine ⟨by omega, fun hnil => ?_⟩
    rw [hnil] at hlen
    cases hlen
  have hlink : (s.tables.set table index entry).child table index = some entry.address.asAddress :=
    child_of_entry (s.tables.set_self _ _ _) hpres hhuge
  refine ⟨h.forest.planted.graft htab hopen (child_of_unused hent) hfrm hlink (fun hdeep => ?_)
    (fun _ _ hslot => child_congr (s.tables.set_of_ne _ hslot)), fun {n r path i} hn hi hnone => ?_⟩
  · -- no slot is open below a leaf
    have hlt := hdeep.1
    rw [List.length_append, List.length_singleton] at hlt
    omega
  have hslot : (n, i) ≠ (table, index) := by
    intro hslot
    obtain ⟨rfl, rfl⟩ := Prod.mk.injEq .. ▸ hslot
    cases hlink.symm.trans hnone
  have hkept := s.tables.set_of_ne entry hslot
  have hne : n ≠ entry.address.asAddress := by
    rintro rfl
    rw [s.linkLeaf_place_self, some.injEq, Prod.mk.injEq] at hn
    obtain ⟨-, rfl⟩ := hn
    have hlt := hi.1
    rw [List.length_append, List.length_singleton] at hlt
    omega
  rw [s.linkLeaf_place_of_ne _ _ _ _ hne] at hn
  exact hkept.trans (h.forest.regular hn hi ((child_congr hkept).symm.trans hnone))

include h htab hlen hent hfrm hpres hhuge in
lemma linkLeaf_housed (hown : owner ∈ userDataOwners)
  (hlab : s.labels (entry.address.asAddress / pageSize) = some (.used, owner)) :
  (s.linkLeaf table index entry (root, front ++ [index])).Housed := by
  have hsplit : ∀ {n r path}, (s.linkLeaf table index entry (root, front ++ [index])).place n = some
    (r, path) → n = entry.address.asAddress ∧ path.length = 4 ∨ s.place n = some (r, path) := by
    intro n r _ hn
    by_cases hne : n = entry.address.asAddress
    · subst hne
      rw [s.linkLeaf_place_self, some.injEq, Prod.mk.injEq] at hn
      refine .inl ⟨rfl, ?_⟩
      rw [← hn.2, List.length_append, List.length_singleton, hlen]
    · rw [s.linkLeaf_place_of_ne _ _ _ _ hne] at hn
      exact .inr hn
  refine ⟨h.linkLeaf_forest htab hlen hent hfrm hpres hhuge, h.sound,
    fun hn hlt => ?_, fun hn heq => ?_⟩
  · rcases hsplit hn with ⟨-, _⟩ | hn
    · omega
    · exact h.table_label hn hlt
  · rcases hsplit hn with ⟨rfl, -⟩ | hn
    · exact ⟨_, entry.address.div_mul.symm, owner, hown, hlab⟩
    · exact h.leaf_label hn heq

end PageState.Housed

lemma PageState.Housed.linkLeaf_leaf {s : PageState} (h : s.Housed) {entry : PageTableEntry}
    (htab : s.place table = some (root, upperPath page))
    (hfrm : s.place entry.address.asAddress = none) (hent : entry ≠ .unused)
    (h' : (s.linkLeaf table (tableIndex 1 page) entry (root, tablePath page)).Housed)
    (hroot : s.place r = some (r, [])) (hpage : InWindow page') :
    (s.linkLeaf table (tableIndex 1 page) entry (root, tablePath page)).tables.leaf r page' =
      if r = root ∧ tablePath page' = tablePath page then some entry else s.tables.leaf r
        page' := by
  have hkept : ∀ {n x}, s.place n = some x →
    (s.linkLeaf table (tableIndex 1 page) entry (root, tablePath page)).place n = some x := by
    intro n x hn
    have hne : n ≠ entry.address.asAddress := fun heq => by rw [heq, hfrm] at hn; cases hn
    rwa [s.linkLeaf_place_of_ne _ _ _ _ hne]
  have hupper : ∀ {n}, (s.linkLeaf table (tableIndex 1 page) entry (root, tablePath page)).place n =
    some (r, upperPath page') ↔ s.place n = some (r, upperPath page') := by
    intro n
    by_cases hne : n = entry.address.asAddress
    · -- the new leaf is placed one index further
      rw [hne, s.linkLeaf_place_self, hfrm]
      refine iff_of_false (fun hplc => ?_) (by simp)
      rw [some.injEq, Prod.mk.injEq] at hplc
      exact tablePath_ne_upperPath _ _ hplc.2
    · rw [s.linkLeaf_place_of_ne _ _ _ _ hne]
  refine ext fun e => ?_
  rw [h'.forest.leaf_eq_some (hkept hroot) hpage]
  simp only [hupper]
  split_ifs with hsame
  · obtain ⟨rfl, hpath⟩ := hsame
    obtain ⟨hpath, hlast⟩ := tablePath_eq_iff.1 hpath
    rw [hpath, hlast, some.injEq]
    constructor
    · rintro ⟨-, n, hn, rfl⟩
      rw [h.forest.planted.place_inj hn htab]
      exact (s.tables.set_self _ _ _).symm
    · rintro rfl
      exact ⟨hent, table, htab, s.tables.set_self _ _ _⟩
  rw [h.forest.leaf_eq_some hroot hpage]
  refine and_congr_right fun _ => exists_congr fun n => and_congr_right fun hn => ?_
  have hslot : (n, tableIndex 1 page') ≠ (table, tableIndex 1 page) := by
    intro hslot
    obtain ⟨rfl, hlast⟩ := Prod.mk.injEq .. ▸ hslot
    rw [htab, some.injEq, Prod.mk.injEq] at hn
    exact hsame ⟨hn.1.symm, tablePath_eq_iff.2 ⟨hn.2.symm, hlast⟩⟩
  exact Eq.congr_left (s.tables.set_of_ne entry hslot)

/-- The memory holds the tables and its allocator tracks the labels of a housed state. -/
structure Memory.Realizes (memory : Memory) (s : PageState) : Prop where
  tables_eq : memory.tables = s.tables
  represents : Represents memory.allocator.trackedRanges s.labels
  housed : s.Housed

lemma Grown.mapped {s s1 : PageState} (h : Grown s s1) (hs : s.Housed) (hs1 : s1.Housed)
    {root page table : ℕ} {entry : PageTableEntry} (hroot : s.IsRoot root) (hpage : InWindow page)
    (hfrm : s.place entry.address.asAddress = none) (hown : owner ∈ userDataOwners)
    (hlab : s.labels (entry.address.asAddress / pageSize) = some (.used, owner))
    (hpres : entry.flags.present = true) (hhuge : entry.flags.hugePage = false)
    (htab : s1.place table = some (root, upperPath page))
    (hent : s1.tables table (tableIndex 1 page) = .unused)
    (halong : ∀ {n r path},
        s.place n = none → s1.place n = some (r, path) → r = root ∧ path <+: tablePath page)
    (hserv :
      s.labels.Serves (List.replicate (s.tables.missing root (tablePath page)) (1, .pageTable))
        s1.labels) :
    Mapped s root page entry
      (s1.linkLeaf table (tableIndex 1 page) entry (root, tablePath page)) := by
  have haddr := entry.address.div_mul
  -- the frame is in use, so no table was put there
  have hfrm1 : s1.place entry.address.asAddress = none := by
    cases hplc : s1.place entry.address.asAddress with
    | none => rfl
    | some x =>
      obtain ⟨-, -, f, hf, o, hfree⟩ := h.fresh hfrm hplc
      rw [hf, Nat.mul_div_cancel _ (by decide)] at hlab
      cases hlab.symm.trans hfree
  have hlab1 : s1.labels (entry.address.asAddress / pageSize) = some (.used, owner) := by
    rw [h.labels_eq, haddr, if_neg fun hplc => hplc.2 hfrm1, hlab]
  have hused : entry ≠ .unused := by
    rintro rfl
    cases hpres
  have hhoused := hs1.linkLeaf_housed htab rfl hent hfrm1 hpres hhuge hown hlab1
  refine ⟨hhoused, fun {n x} hn => ?_, s1.linkLeaf_place_self .., fun {n r path} hn hn' => ?_,
    fun {n r path} hn hn' => ?_, hserv, fun f => ?_, fun {n} hn => ?_, fun {n r i} hn hi => ?_,
    ?_, fun {r page'} hr hpage' => ?_⟩
  · have hne : n ≠ entry.address.asAddress := fun heq => by rw [heq, hfrm] at hn; cases hn
    rw [s1.linkLeaf_place_of_ne _ _ _ _ hne, h.kept hn]
  · by_cases hne : n = entry.address.asAddress
    · exact .inl hne
    · rw [s1.linkLeaf_place_of_ne _ _ _ _ hne] at hn'
      obtain ⟨hlen, -, hfree⟩ := h.fresh hn hn'
      exact .inr ⟨hlen, hfree⟩
  · by_cases hne : n = entry.address.asAddress
    · rw [hne, s1.linkLeaf_place_self, some.injEq, Prod.mk.injEq] at hn'
      exact ⟨hn'.1.symm, hn'.2 ▸ List.prefix_refl _⟩
    · rw [s1.linkLeaf_place_of_ne _ _ _ _ hne] at hn'
      exact halong hn hn'
  · by_cases hne : f * pageSize = entry.address.asAddress
    · rw [if_neg fun hplc => hplc.1 hne]
      have heq := h.labels_eq f
      rwa [hne, if_neg fun hplc => hplc.2 hfrm1] at heq
    · simp only [s1.linkLeaf_place_of_ne _ _ _ _ hne, ne_eq, hne, not_false_eq_true, true_and]
      exact h.labels_eq f
  · have hne : n ≠ entry.address.asAddress := fun heq => by
      rw [heq, s1.linkLeaf_place_self] at hn
      cases hn
    rw [s1.linkLeaf_place_of_ne _ _ _ _ hne] at hn
    have hne' : n ≠ table := fun heq => by rw [heq, htab] at hn; cases hn
    exact (s1.tables.set_of_table_ne _ _ hne').trans (h.tables_eq hn)
  · have hne : n ≠ table := by
      rintro rfl
      rw [h.kept hn, some.injEq, Prod.mk.injEq] at htab
      cases htab.2
    rw [← h.shared_eq hn hi]
    exact congrFun (s1.tables.set_of_table_ne _ _ hne) i
  · rw [← h.leaf_eq hs hs1 hroot hpage]
    refine eq_none_iff_forall_ne_some.2 fun e he => ?_
    obtain ⟨hne, _, htab', rfl⟩ := (hs1.forest.leaf_eq_some (h.kept hroot) hpage).1 he
    rw [hs1.forest.planted.place_inj htab' htab] at hne
    exact hne hent
  · rw [hs1.linkLeaf_leaf htab hfrm1 hused hhoused (h.kept hr) hpage', h.leaf_eq hs hs1 hr hpage']

/-- **Mapping.**  A `map_to` that returns has mapped the page. -/
lemma Memory.mapPage_mapped {mapper : PageMapper} (hmapper : mapper.Walks)
  {memory : Memory} (h : memory.Realizes s) {root : PhysicalFrameStart}
  (hroot : s.place root.asAddress = some (root.asAddress, []))
  (hpage : InWindow page) {frame : PhysicalFrameStart} (hfrm : s.place frame.asAddress = none)
  (hown : owner ∈ userDataOwners)
  (hlab : s.labels (frame.asAddress / pageSize) = some (.used, owner))
  {flags : PageTableFlags} (hpres : flags.present = true) (hhuge : flags.hugePage = false)
  (hok : memory.mapPage mapper root page frame flags message = .ok memory') :
  ∃ s', Mapped s root.asAddress page ⟨frame, flags⟩ s' ∧ memory'.Realizes s' ∧
    memory.OnlyMapped memory' := by
  have hwalks := hmapper.mapTo allocateTableFrame root page frame memory.tables memory.allocator
    hpres hhuge
  rw [mapPage, bind_eq_ok] at hok
  obtain ⟨⟨error, _, _⟩, hmap, hok⟩ := hok
  rw [bind_eq_ok] at hok
  obtain ⟨_, herr, hok⟩ := hok
  obtain rfl : error = none := beq_iff_eq.1 (require_eq_ok.1 herr)
  obtain rfl := pure_eq_ok.1 hok
  have htbls := h.tables_eq
  rw [htbls] at hwalks hmap
  obtain ⟨s1, hhoused, hrep, hgrown, hserv, halong, last, _, _,
    hlast, hpath, hunu, rfl⟩ := hwalks.grown hmap h.housed h.represents hroot rfl fun i hi => by
      obtain rfl : tableIndex 4 page = i := some.inj hi
      exact hpage
  obtain ⟨rfl, hidx⟩ := List.append_inj' (hpath.trans (upperPath_append page).symm) rfl
  obtain rfl := List.singleton_inj.1 hidx
  have hmpd : Mapped s root.asAddress page ⟨frame, flags⟩
    (s1.linkLeaf last (tableIndex 1 page) ⟨frame, flags⟩ (root.asAddress, tablePath page)) :=
    hgrown.mapped h.housed hhoused hroot hpage hfrm hown hlab hpres hhuge hlast hunu
      halong hserv
  exact ⟨_, hmpd, ⟨rfl, hrep, hmpd.housed⟩, rfl⟩

/-- **Mapping succeeds** when the page is unmapped and the allocator serves the missing tables. -/
lemma Memory.exists_mapPage {mapper : PageMapper} (hmapper : mapper.Walks) {memory : Memory}
    (h : memory.Realizes s) {root : PhysicalFrameStart}
    (hroot : s.place root.asAddress = some (root.asAddress, [])) (hpage : InWindow page)
    (frame : PhysicalFrameStart) {flags : PageTableFlags} (hpres : flags.present = true)
    (hhuge : flags.hugePage = false) (message : String)
    (hleaf : s.tables.leaf root.asAddress page = none)
    (hserv : s.labels.Serves
        (List.replicate (s.tables.missing root.asAddress (tablePath page)) (1, .pageTable))
        served) :
    ∃ memory', memory.mapPage mapper root page frame flags message = .ok memory' := by
  have hwalks := hmapper.mapTo allocateTableFrame root page frame memory.tables memory.allocator
    hpres hhuge
  rw [h.tables_eq] at hwalks
  have hfree : ∀ n, s.place n ≠ some (root.asAddress, [] ++ tablePath page) := by
    intro n hn
    obtain ⟨_, hent, -⟩ := h.housed.forest.leaf_of_place hroot hpage hn
    cases hleaf.symm.trans hent
  obtain ⟨tables', allocator', hok⟩ := hwalks.succeeds h.housed h.represents hroot rfl
    (fun i hi => by
      obtain rfl : tableIndex 4 page = i := some.inj hi
      exact hpage) hfree hserv
  refine ⟨{ memory with tables := tables', allocator := allocator' }, ?_⟩
  rw [mapPage, h.tables_eq, hok]
  rfl

/-! ### Unmapping -/

/-- What unmapping a page does: its leaf is cleared and its frame is free. -/
structure Unmapped (s : PageState) (root page : ℕ) (entry : PageTableEntry) (s' : PageState) :
    Prop where
  housed : s'.Housed
  place_eq : s'.place = Function.update s.place entry.address.asAddress none
  labels_eq : s'.labels = s.labels.mark (entry.address.asAddress / pageSize) 1 (.free, .free)
  placed : s.place entry.address.asAddress = some (root, tablePath page)
  tables_eq : ∀ {n}, s.place n = none → s'.tables n = s.tables n
  shared_eq : ∀ {n r index}, s.place n = some (r, []) → index ∉ processWindow →
    s'.tables n index = s.tables n index
  mapped : s.tables.leaf root page = some entry
  leaf_eq : ∀ {r page'}, s.place r = some (r, []) → InWindow page' → s'.tables.leaf r page' =
      if r = root ∧ tablePath page' = tablePath page then none else s.tables.leaf r page'

lemma WalkMapper.unmap_append (table : ℕ) (path : List (Fin 512)) (index : Fin 512)
  (tables : PageTables) :
  WalkMapper.unmap table (path ++ [index]) tables = match walk tables.child table path with
      | none => (none, tables)
      | some last =>
        match (tables last index).frame with
        | none => (none, tables)
        | some frame => (some frame, tables.set last index .unused) := by
  induction path generalizing table with
  | nil => rfl
  | cons slot path ih =>
    obtain ⟨_, _, hrest⟩ := List.exists_cons_of_ne_nil
      (List.append_ne_nil_of_right_ne_nil path (List.cons_ne_nil index []))
    rw [List.cons_append, hrest, WalkMapper.unmap, walk, ← hrest, PageTables.child]
    cases (tables table slot).frame with
    | none => rfl
    | some child => exact ih child.asAddress

/-- The state after a frame is unlinked and freed. -/
def PageState.cut (s : PageState) (tables : PageTables) (frame : ℕ) : PageState where
  tables := tables
  place := Function.update s.place frame none
  labels := s.labels.mark (frame / pageSize) 1 (.free, .free)

namespace PageState
variable {s : PageState} {tables : PageTables}

lemma place_of_cut (hn : (s.cut tables frame).place n = some x) :
  n ≠ frame ∧ s.place n = some x := by
  have hne : n ≠ frame := fun heq => by
    rw [heq, cut] at hn
    cases (Function.update_self ..).symm.trans hn
  exact ⟨hne, (Function.update_of_ne hne ..).symm.trans hn⟩

lemma cut_place_of_ne (hne : n ≠ frame) : (s.cut tables frame).place n = s.place n :=
  Function.update_of_ne hne ..

lemma cut_labels_of_ne (hne : f ≠ frame / pageSize) : (s.cut tables frame).labels f = s.labels f :=
  if_neg fun hle => hne (by omega)

lemma Housed.cut_of_planted (h : s.Housed) (hfrm : s.place frame = some x)
  (hplanted : Planted 4 processWindow tables.child (s.cut tables frame).place)
  (hent : ∀ {n x i}, s.place n = some x → n ≠ frame →
    tables n i = .unused ∨ tables n i = s.tables n i) : (s.cut tables frame).Housed := by
  have hlab : ∀ {n f x y}, s.place n = some x → n ≠ frame → n = f * pageSize →
    s.labels f = some y → (s.cut tables frame).labels f = some y := by
    rintro n f x y hn hne rfl hf
    have hne' : f ≠ frame / pageSize := fun heq => hne (by rw [heq, (h.used hfrm).1])
    rw [cut_labels_of_ne hne', hf]
  refine ⟨⟨hplanted, fun {n r path i} hn hi hnone => ?_⟩, ?_, fun hn hlt => ?_, fun hn heq => ?_⟩
  · obtain ⟨hne, hn⟩ := place_of_cut hn
    rcases hent hn hne with hunu | hkept
    · exact hunu
    · exact hkept.trans (h.forest.regular hn hi ((PageTables.child_congr hkept).symm.trans hnone))
  · refine h.sound.mark (fun _ => rfl) (fun heq => by cases heq) fun _ => ?_
    obtain ⟨-, owner, hused⟩ := h.used hfrm
    refine Nat.pos_of_ne_zero fun hzero => ?_
    rw [hzero] at hused
    cases h.sound.zero _ _ hused
  · obtain ⟨hne, hn⟩ := place_of_cut hn
    obtain ⟨f, hf, hused⟩ := h.table_label hn hlt
    exact ⟨f, hf, hlab hn hne hf hused⟩
  · obtain ⟨hne, hn⟩ := place_of_cut hn
    obtain ⟨f, hf, owner, hown, hused⟩ := h.leaf_label hn heq
    exact ⟨f, hf, owner, hown, hlab hn hne hf hused⟩

lemma Housed.cut (h : s.Housed) (htab : s.place table = some (root, front))
  (hfrm : s.place frame = some (root, front ++ [index]))
  (hbare : ∀ {i}, Open 4 processWindow (front ++ [index]) i → s.tables.child frame i = none)
  (hunlink : tables table index = .unused)
  (hkept : ∀ {n x i}, s.place n = some x → n ≠ frame → (n, i) ≠ (table, index) →
    tables n i = s.tables n i) : (s.cut tables frame).Housed := by
  have hplanted : Planted 4 processWindow tables.child (s.cut tables frame).place :=
    h.forest.planted.prune htab hfrm hbare (PageTables.child_of_unused hunlink)
      fun hm _ hne hslot => PageTables.child_congr (hkept hm hne hslot)
  refine h.cut_of_planted hfrm hplanted fun {n x i} hn hne => ?_
  by_cases hslot : (n, i) = (table, index)
  · obtain ⟨rfl, rfl⟩ := Prod.mk.injEq .. ▸ hslot
    exact .inl hunlink
  · exact .inr (hkept hn hne hslot)

end PageState

lemma PageState.Housed.unmapped {s : PageState} (h : s.Housed) {root page table : ℕ}
  (hroot : s.IsRoot root) (hpage : InWindow page)
  (htab : s.place table = some (root, upperPath page)) {frame : PhysicalFrameStart}
  (hfrm : (s.tables table (tableIndex 1 page)).frame = some frame) :
  Unmapped s root page (s.tables table (tableIndex 1 page))
    (s.cut (s.tables.set table (tableIndex 1 page) .unused) frame.asAddress) := by
  obtain ⟨haddr, hpres, -⟩ := PageTableEntry.frame_eq_some.1 hfrm
  have hused : s.tables table (tableIndex 1 page) ≠ .unused := fun heq => by
    rw [heq] at hpres
    cases hpres
  have hopen : Open 4 processWindow (upperPath page) (tableIndex 1 page) :=
    ⟨Nat.lt_succ_self 3, fun hnil => by cases hnil⟩
  have hpl : s.place frame.asAddress = some (root, tablePath page) :=
    h.forest.planted.down htab hopen (PageTables.child_eq_some.2 ⟨frame, hfrm, rfl⟩)
  have hhoused : (s.cut (s.tables.set table (tableIndex 1 page) .unused) frame.asAddress).Housed :=
    h.cut htab hpl (fun hdeep => absurd hdeep.1 (Nat.lt_irrefl 4)) (s.tables.set_self _ _ _)
      fun _ _ hslot => s.tables.set_of_ne _ hslot
  have hupper : ∀ {n r page'}, s.place n = some (r, upperPath page') → n ≠ frame.asAddress := by
    rintro n r page' hn rfl
    rw [hpl, some.injEq, Prod.mk.injEq] at hn
    exact tablePath_ne_upperPath _ _ hn.2
  -- the entry that is cleared belongs to no other page
  have hslot : ∀ {n r page'}, s.place n = some (r, upperPath page') → ¬ (r = root ∧
    tablePath page' = tablePath page) → (n, tableIndex 1 page') ≠ (table, tableIndex 1 page) := by
    intro n r page' hn hsame hslot
    obtain ⟨rfl, hlast⟩ := Prod.mk.injEq .. ▸ hslot
    rw [htab, some.injEq, Prod.mk.injEq] at hn
    exact hsame ⟨hn.1.symm, tablePath_eq_iff.2 ⟨hn.2.symm, hlast⟩⟩
  refine ⟨hhoused, by rw [haddr]; rfl, by rw [haddr]; rfl, by rw [haddr, hpl],
    fun {n} hn => ?_, fun {n r i} hn hi => ?_, ?_, fun {r page'} hr hpage' => ?_⟩
  · have hne : n ≠ table := fun heq => by rw [heq, htab] at hn; cases hn
    exact s.tables.set_of_table_ne _ _ hne
  · have hne : n ≠ table := by
      rintro rfl
      rw [htab, some.injEq, Prod.mk.injEq] at hn
      cases hn.2
    exact congrFun (s.tables.set_of_table_ne _ _ hne) i
  · exact (h.forest.leaf_eq_some hroot hpage).2 ⟨hused, table, htab, rfl⟩
  have hne : r ≠ frame.asAddress := by
    rintro rfl
    rw [hpl, some.injEq, Prod.mk.injEq] at hr
    cases hr.2
  refine ext fun e => ?_
  rw [hhoused.forest.leaf_eq_some ((PageState.cut_place_of_ne hne).trans hr) hpage']
  split_ifs with hsame
  · obtain ⟨rfl, hpath⟩ := hsame
    obtain ⟨hpath, hlast⟩ := tablePath_eq_iff.1 hpath
    refine iff_of_false ?_ (by simp)
    rintro ⟨hent, n, hn, rfl⟩
    rw [hpath] at hn
    rw [h.forest.planted.place_inj (PageState.place_of_cut hn).2 htab, hlast] at hent
    exact hent (s.tables.set_self _ _ _)
  rw [h.forest.leaf_eq_some hr hpage']
  refine and_congr_right fun _ => exists_congr fun n => ?_
  constructor
  · rintro ⟨hn, rfl⟩
    have hn := (PageState.place_of_cut hn).2
    exact ⟨hn, (s.tables.set_of_ne _ (hslot hn hsame)).symm⟩
  · rintro ⟨hn, rfl⟩
    exact ⟨(PageState.cut_place_of_ne (hupper hn)).trans hn, s.tables.set_of_ne _ (hslot hn hsame)⟩

lemma PageState.Housed.relabel {s : PageState} (h : s.Housed) {labels : FrameMap}
  (hsound : labels.IsSound)
  (hkept : ∀ {n x}, s.place n = some x → labels (n / pageSize) = s.labels (n / pageSize)) :
  PageState.Housed { s with labels } := by
  refine ⟨h.forest, hsound, fun hn hlt => ?_, fun hn heq => ?_⟩
  · obtain ⟨f, rfl, hf⟩ := h.table_label hn hlt
    have hlab := hkept hn
    rw [Nat.mul_div_cancel _ (by decide), hf] at hlab
    exact ⟨f, rfl, hlab⟩
  obtain ⟨f, rfl, owner, hown, hf⟩ := h.leaf_label hn heq
  have hlab := hkept hn
  rw [Nat.mul_div_cancel _ (by decide), hf] at hlab
  exact ⟨f, rfl, owner, hown, hlab⟩

lemma PageState.Housed.allocate {s : PageState} (h : s.Housed)
  (hcnt : 0 < count) (hfree : s.labels.FreeRun start count) (hown : owner ≠ .free) :
  PageState.Housed { s with labels := s.labels.mark start count (.used, owner) } := by
  refine h.relabel (h.sound.mark (fun heq => by cases heq) (fun _ => hown)
    fun _ => h.sound.start_pos hcnt hfree) fun hn => if_neg fun hrg => ?_
  obtain ⟨-, o, hused⟩ := h.used hn
  obtain ⟨_, hlab⟩ := hfree _ hrg.1 hrg.2
  cases hused.symm.trans hlab

lemma Represents.frame_fits (h : Represents ranges m) (hf : m f = some label) :
  f * pageSize + pageSize < wordSize := by
  rw [← h.labelAt_eq] at hf
  obtain ⟨_, hrun, hcov, -⟩ := h.sorted.labelAt_eq_some.1 hf
  obtain ⟨t, ht, rfl⟩ := List.mem_map.1 hrun
  have hex := h.exact t ht
  have halign := hex.aligned
  have hfits := hex.fits
  have hlt := hcov.2
  rw [RunList.Run.stop, TrackedRange.toRun_start, TrackedRange.toRun_len] at hlt
  rw [pageSize] at *
  omega

/-- The range of one frame. -/
def frameRange (frame : PhysicalFrameStart) (h : frame.asAddress + pageSize < wordSize) :
  PhysicalFrameRange :=
  ⟨frame, .one, by rw [FrameCount.byteLen]; exact h⟩

lemma oneFrameRange_eq {frame : PhysicalFrameStart} (h : frame.asAddress + pageSize < wordSize)
  (message : String) : oneFrameRange frame message = .ok (frameRange frame h) := by
  have hfits : frame.asAddress + FrameCount.one.byteLen < wordSize := h
  simp only [oneFrameRange, FrameCount.new_one, expect, ok_bind,
    PhysicalFrameRange.new_eq_some hfits]
  rfl

lemma PhysicalFrameAllocator.freeFrame_spec {a : PhysicalFrameAllocator}
    (hrep : Represents a.trackedRanges m) (hs : m.IsSound) {frame : PhysicalFrameStart}
    (hfits : frame.asAddress + pageSize < wordSize) (owner : FrameRangeOwner) :
    (m (frame.asAddress / pageSize) ≠ some (.used, owner) ∧
     a.freeFramesFor (frameRange frame hfits) owner = .ok (false, a)) ∨
    (m (frame.asAddress / pageSize) = some (.used, owner) ∧
     ((¬ m.HasRoom (frame.asAddress / pageSize) 1 ∧
       a.freeFramesFor (frameRange frame hfits) owner = .error capacityExhausted) ∨
      m.HasRoom (frame.asAddress / pageSize) 1 ∧
      ∃ a',
        a.freeFramesFor (frameRange frame hfits) owner = .ok (true, a') ∧
        Represents a'.trackedRanges (m.mark (frame.asAddress / pageSize) 1 (.free, .free)))) := by
  by_cases hown : owner = .free
  · refine .inl ⟨fun heq => hs.used_owner _ _ heq hown, ?_⟩
    rw [freeFramesFor, if_pos hown]
  have hall : m.AllLabelled (frameRange frame hfits).firstFrame
    (frameRange frame hfits).frameCount.asU64 (.used, owner) ↔
    m (frame.asAddress / pageSize) = some (.used, owner) := by
    refine ⟨fun h => h _ (Nat.le_refl _) (Nat.lt_succ_self _), fun h f hle hlt => ?_⟩
    obtain rfl : f = frame.asAddress / pageSize := Nat.le_antisymm (Nat.le_of_lt_succ hlt) hle
    exact h
  rcases freeFramesFor_spec hrep (frameRange frame hfits) hown with
    ⟨hnot, hok⟩ | ⟨hlab, ⟨hroom, herr⟩ | ⟨hroom, a', hok, hrep'⟩⟩
  · exact .inl ⟨fun h => hnot (hall.2 h), hok⟩
  · exact .inr ⟨hall.1 hlab, .inl ⟨hroom, herr⟩⟩
  · exact .inr ⟨hall.1 hlab, .inr ⟨hroom, a', hok, hrep'⟩⟩

def ownerMismatch : String := "unmapped user page frame owner did not match expected owner"

section
variable {mapper : PageMapper} (hmapper : mapper.Walks) {memory : Memory} {s : PageState}
  (h : memory.Realizes s) {space : UserAddressSpace}
  (hroot : s.place space.level4Frame.asAddress = some (space.level4Frame.asAddress, []))
  {page : UserPageStart} (hpage : InWindow page.asU64)
include hmapper h hroot hpage in
/-- **Unmapping.**  An unmapped page is refused; a mapped one is unmapped when its frame has the
owner and the free can be tracked. -/
lemma UserAddressSpace.unmapUserPageFor_spec (owner : FrameRangeOwner) :
    (s.tables.leaf space.root page.asU64 = none ∧
     space.unmapUserPageFor mapper memory page owner = .ok (false, memory)) ∨
    ∃ entry,
      s.tables.leaf space.root page.asU64 = some entry ∧
      ((s.labels (entry.address.asAddress / pageSize) ≠ some (.used, owner) ∧
        space.unmapUserPageFor mapper memory page owner = .error ownerMismatch) ∨
       (s.labels (entry.address.asAddress / pageSize) = some (.used, owner) ∧
        ((¬ s.labels.HasRoom (entry.address.asAddress / pageSize) 1 ∧
          space.unmapUserPageFor mapper memory page owner = .error capacityExhausted) ∨
         s.labels.HasRoom (entry.address.asAddress / pageSize) 1 ∧
         ∃ s' memory',
           space.unmapUserPageFor mapper memory page owner = .ok (true, memory') ∧
           Unmapped s space.root page.asU64 entry s' ∧
           memory'.Realizes s' ∧
           memory.OnlyMapped memory'))) := by
  have hwalk := hmapper.unmap space.level4Frame page.asU64 memory.tables
  rw [← upperPath_append, WalkMapper.unmap_append, h.tables_eq] at hwalk
  cases htab : walk s.tables.child space.root (upperPath page.asU64) with
  | none =>
    rw [htab] at hwalk
    refine .inl ⟨by rw [leaf, htab]; rfl, ?_⟩
    rw [unmapUserPageFor, h.tables_eq, hwalk]
  | some table =>
    have hpl := (h.housed.forest.walk_upperPath hroot hpage).1 htab
    cases hfrm : (s.tables table (tableIndex 1 page.asU64)).frame with
    | none =>
      have hunu := h.housed.forest.regular hpl
        ⟨Nat.lt_succ_self 3, fun hnil => by cases hnil⟩ (by rw [child, hfrm]; rfl)
      refine .inl ⟨?_, ?_⟩
      · rw [leaf, htab]
        exact if_pos hunu
      · simp only [htab, hfrm] at hwalk
        rw [unmapUserPageFor, h.tables_eq, hwalk]
    | some frame =>
      have hunmap := h.housed.unmapped hroot hpage hpl hfrm
      obtain ⟨haddr, -⟩ := PageTableEntry.frame_eq_some.1 hfrm
      obtain ⟨halign, o, hlab⟩ := h.housed.used hunmap.placed
      have hfits : frame.asAddress + pageSize < wordSize := by
        have hfits := h.represents.frame_fits hlab
        rwa [halign, haddr] at hfits
      simp only [htab, hfrm] at hwalk
      have hcall : space.unmapUserPageFor mapper memory page owner =
        (memory.allocator.freeFramesFor (frameRange frame hfits) owner).bind fun p =>
          (require p.1 ownerMismatch).bind fun _ => .ok (true, { memory with
            tables := s.tables.set table (tableIndex 1 page.asU64) .unused,
            allocator := p.2 }) := by
        rw [unmapUserPageFor, h.tables_eq, hwalk]
        simp only [oneFrameRange_eq hfits, ok_bind, Memory.freeFramesFor]
        cases memory.allocator.freeFramesFor (frameRange frame hfits) owner <;> rfl
      refine .inr ⟨_, hunmap.mapped, ?_⟩
      rw [haddr, hcall]
      rcases PhysicalFrameAllocator.freeFrame_spec h.represents h.housed.sound hfits owner with
        ⟨hne, hok⟩ | ⟨heq, ⟨hroom, herr⟩ | ⟨hroom, a', hok, hrep⟩⟩
      · exact .inl ⟨hne, by rw [hok]; rfl⟩
      · exact .inr ⟨heq, .inl ⟨hroom, by rw [herr]; rfl⟩⟩
      · refine .inr ⟨heq, .inr ⟨hroom, _, _, by rw [hok]; rfl, hunmap, ⟨rfl, hrep, ?_⟩, rfl⟩⟩
        exact hunmap.housed

include hmapper h hroot hpage in
lemma UserAddressSpace.unmapUserPageFor_ok
    (hok : space.unmapUserPageFor mapper memory page owner = .ok (done, memory')) :
    memory' = memory ∨
    ∃ entry s',
      Unmapped s space.root page.asU64 entry s' ∧
      memory'.Realizes s' ∧
      memory.OnlyMapped memory' := by
  rcases unmapUserPageFor_spec hmapper h hroot hpage owner with
    ⟨-, hcall⟩ | ⟨entry,
      -, ⟨-, hcall⟩ | ⟨-, ⟨-, hcall⟩ | ⟨-, s', memory1, hcall, hunmap, hs', heq⟩⟩⟩
  · cases hcall.symm.trans hok
    exact .inl rfl
  · cases hcall.symm.trans hok
  · cases hcall.symm.trans hok
  · cases hcall.symm.trans hok
    exact .inr ⟨entry, s', hunmap, hs', heq⟩

end

/-! ### Pages that are mapped already -/

lemma PageTables.child_set {tables : PageTables} {linked : PhysicalFrameStart}
    (hframe : (tables table index).frame = some linked) {flags : PageTableFlags}
    (hpresent : flags.present = true) (hhuge : flags.hugePage = false) :
    (tables.set table index ⟨linked, flags⟩).child = tables.child := by
  funext table' index'
  by_cases heq : (table', index') = (table, index)
  · cases heq
    rw [PageTables.child, PageTables.child, set_self, hframe,
      PageTableEntry.frame_eq_some.2 ⟨rfl, hpresent, hhuge⟩]
  · rw [PageTables.child, PageTables.child, set_of_ne _ _ heq]

/-- A walk that ends at an entry in use maps nothing. -/
lemma MapsTo.error_of_used {source : TableFrameSource} {frame : PhysicalFrameStart}
    {flags : PageTableFlags} {front : List (Fin 512)}
    (hmaps : MapsTo source frame flags table (front ++ [index]) tables allocator
      (.ok (error, tables', allocator')))
    (hwalk : TableForest.walk tables.child table front = some last)
    (hused : tables last index ≠ .unused) :
    error ≠ none := by
  induction front generalizing table tables allocator with
  | nil =>
    cases hwalk
    rw [List.nil_append] at hmaps
    cases hmaps with
    | leaf hentry => exact absurd hentry hused
    | mapped => exact Option.some_ne_none _
  | cons slot front ih =>
    obtain ⟨next, rest, hrest⟩ := List.exists_cons_of_ne_nil
      (List.append_ne_nil_of_right_ne_nil front (List.cons_ne_nil index []))
    obtain ⟨_, hchild, hwalk⟩ := Option.bind_eq_some_iff.1 hwalk
    obtain ⟨linked, hlinked, rfl⟩ := Option.map_eq_some_iff.1 hchild
    rw [List.cons_append, hrest] at hmaps
    cases hmaps with
    | refused => exact Option.some_ne_none _
    | huge => exact Option.some_ne_none _
    | created hentry =>
      rw [hentry] at hlinked
      cases hlinked
    | @entered _ _ _ _ _ _ child _ flags' hframe hpresent hhuge hmaps =>
      cases hlinked.symm.trans hframe
      refine ih (hrest ▸ hmaps) (by rwa [PageTables.child_set hframe hpresent hhuge]) ?_
      by_cases heq : (last, index) = (table, slot)
      · cases heq
        rw [PageTables.set_self]
        intro hnone
        have hflags : flags' = PageTableEntry.unused.flags := congrArg PageTableEntry.flags hnone
        rw [hflags] at hpresent
        cases hpresent
      · rwa [PageTables.set_of_ne _ _ heq]

/-- **A page that is in use is not mapped again**: `map_user_page` panics. -/
lemma Memory.mapPage_of_leaf {mapper : PageMapper} (hmapper : mapper.Walks) {memory : Memory}
    {root : PhysicalFrameStart} (hleaf : memory.tables.leaf root.asAddress page ≠ none)
    {flags : PageTableFlags} (hpresent : flags.present = true) (hhuge : flags.hugePage = false)
    (frame : PhysicalFrameStart) (message : String) (memory' : Memory) :
    memory.mapPage mapper root page frame flags message ≠ .ok memory' := by
  intro hok
  simp only [mapPage, bind_eq_ok, require_eq_ok, Prod.exists] at hok
  obtain ⟨error, _, _, hmap, _, hnone, -⟩ := hok
  have hmaps := hmapper.mapTo allocateTableFrame root page frame memory.tables memory.allocator
    hpresent hhuge
  rw [hmap, ← upperPath_append] at hmaps
  obtain ⟨_, hentry⟩ := Option.ne_none_iff_exists'.1 hleaf
  obtain ⟨_, hwalk, hentry⟩ := Option.bind_eq_some_iff.1 hentry
  split at hentry
  · cases hentry
  · next hused => exact hmaps.error_of_used hwalk hused (by simpa using hnone)

end ManaOS
