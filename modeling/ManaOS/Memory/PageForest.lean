/-
The page tables of the user address spaces as a forest.

The roots are the level-4 tables of the live address spaces, the leaves the mapped frames.

* `MapsTo.grown`, `MapsTo.succeeds`: what `map_to` does, and when it succeeds.
-/
import ManaOS.Memory.AddressSpace
import ManaOS.Memory.MapperLaws
import ManaOS.Memory.FrameScript
import ManaOS.Lib.TableForest

namespace ManaOS
open Checked TableForest Function List

/-- Where a frame stands: the level-4 frame and the indices below it. -/
abbrev Placement := ℕ → Option (ℕ × List (Fin 512))

/-- The level-4 indices of the process window. -/
def processWindow : Set (Fin 512) :=
  {index | processUserPml4Start ≤ index.val ∧ index.val < processUserPml4EndExclusive}

/-- The frame that an entry of a table links. -/
def PageTables.child (tables : PageTables) (table : ℕ) (index : Fin 512) : Option ℕ :=
  (tables table index).frame.map PhysicalFrameStart.asAddress

/-- The tables below the placed roots form a forest, and each of their entries is unused or
links a frame. -/
structure Forest (tables : PageTables) (place : Placement) : Prop where
  planted : Planted 4 processWindow tables.child place
  regular : ∀ {table root path index}, place table = some (root, path) →
    Open 4 processWindow path index → tables.child table index = none → tables table index = .unused

/-! ### Entries -/

namespace PageTables

lemma set_self (tables : PageTables) (table : ℕ) (index : Fin 512) (entry : PageTableEntry) :
  tables.set table index entry table index = entry := by
  rw [set, update_self, update_self]

lemma set_of_ne (tables : PageTables)
  (entry : PageTableEntry) (h : (table', index') ≠ (table, index)) :
  tables.set table index entry table' index' = tables table' index' := by
  rw [set]
  by_cases htab : table' = table
  · subst htab
    have hidx : index' ≠ index := fun heq => h (by rw [heq])
    rw [update_self, update_of_ne hidx]
  · rw [update_of_ne htab]

lemma set_of_table_ne (tables : PageTables) (index : Fin 512)
  (entry : PageTableEntry) (h : table' ≠ table) :
  tables.set table index entry table' = tables table' :=
  update_of_ne h _ _

variable {tables : PageTables}

lemma child_eq_some : tables.child table index = some frame ↔ ∃ start : PhysicalFrameStart,
  (tables table index).frame = some start ∧ start.asAddress = frame := by
  rw [child, Option.map_eq_some_iff]

lemma child_of_unused (h : tables table index = .unused) : tables.child table index = none := by
  rw [child, h]
  rfl

lemma child_of_entry (h : tables table index = ⟨frame, flags⟩) (hpres : flags.present = true)
  (hhuge : flags.hugePage = false) : tables.child table index = some frame.asAddress := by
  rw [child, h, PageTableEntry.frame_eq_some.2 ⟨rfl, hpres, hhuge⟩]
  rfl

lemma child_congr {tables' : PageTables} {table : ℕ} {index : Fin 512}
  (h : tables' table index = tables table index) :
  tables'.child table index = tables.child table index := by
  rw [child, child, h]

lemma child_set_flags (hfrm : (tables table index).frame = some frame)
  {flags : PageTableFlags} (hpres : flags.present = true) (hhuge : flags.hugePage = false)
  (n : ℕ) (i : Fin 512) :
  (tables.set table index ⟨frame, flags⟩).child n i = tables.child n i := by
  by_cases hslot : (n, i) = (table, index)
  · obtain ⟨rfl, rfl⟩ := Prod.mk.injEq .. ▸ hslot
    rw [child_eq_some.2 ⟨frame, hfrm, rfl⟩]
    exact child_of_entry (tables.set_self _ _ _) hpres hhuge
  · exact child_congr (tables.set_of_ne _ hslot)

end PageTables

/-! ### Housed frames -/

/-- The tables, the placement of their frames and the labels of all frames. -/
structure PageState where
  tables : PageTables
  place : Placement
  labels : FrameMap

/-- Nothing but tables and allocator has changed. -/
abbrev Memory.OnlyMapped (memory memory' : Memory) : Prop :=
  memory' = { memory with tables := memory'.tables, allocator := memory'.allocator }

/-- The address is a placed level-4 table. -/
abbrev PageState.IsRoot (s : PageState) (root : ℕ) : Prop := s.place root = some (root, [])

/-- The tables form a forest, its tables are labelled as page tables and its leaves as user
data. -/
structure PageState.Housed (s : PageState) : Prop where
  forest : Forest s.tables s.place
  sound : s.labels.IsSound
  table_label : ∀ {n root path}, s.place n = some (root, path) → path.length < 4 →
    ∃ f, n = f * pageSize ∧ s.labels f = some (.used, .pageTable)
  leaf_label : ∀ {n root path}, s.place n = some (root, path) → path.length = 4 →
    ∃ f, n = f * pageSize ∧ ∃ owner ∈ userDataOwners, s.labels f = some (.used, owner)

/-- The walk of `map_to` adds tables in free frames; every leaf and every entry outside the window
stays. -/
structure Grown (s s' : PageState) : Prop where
  kept : ∀ {n x}, s.place n = some x → s'.place n = some x
  fresh : ∀ {n root path}, s.place n = none → s'.place n = some (root, path) →
    (path ≠ [] ∧ path.length < 4) ∧ (path.length = 3 → s'.tables n = zeroTable) ∧
      ∃ f, n = f * pageSize ∧ s.labels.IsFree f
  labels_eq : ∀ f, s'.labels f = if s.place (f * pageSize) = none ∧ s'.place (f * pageSize) ≠ none
      then some (.used, .pageTable) else s.labels f
  tables_eq : ∀ {n}, s'.place n = none → s'.tables n = s.tables n
  leaves_eq : ∀ {n root path}, s.place n = some (root, path) → path.length = 3 →
    s'.tables n = s.tables n
  shared_eq : ∀ {n root index}, s.place n = some (root, []) → index ∉ processWindow →
    s'.tables n index = s.tables n index

namespace PageState.Housed
variable {s : PageState}

lemma used (h : s.Housed) (hn : s.place n = some x) :
  n / pageSize * pageSize = n ∧ ∃ owner, s.labels (n / pageSize) = some (.used, owner) := by
  obtain ⟨_, _⟩ := x
  rcases Nat.lt_or_eq_of_le (h.forest.planted.length_le hn) with hlt | heq
  · obtain ⟨f, rfl, hlab⟩ := h.table_label hn hlt
    rw [Nat.mul_div_cancel _ (by decide)]
    exact ⟨rfl, _, hlab⟩
  · obtain ⟨f, rfl, owner, -, hlab⟩ := h.leaf_label hn heq
    rw [Nat.mul_div_cancel _ (by decide)]
    exact ⟨rfl, owner, hlab⟩

lemma place_of_free (h : s.Housed) (hf : s.labels.IsFree f) : s.place (f * pageSize) = none := by
  cases hplc : s.place (f * pageSize) with
  | none => rfl
  | some x =>
    obtain ⟨-, _, hlab⟩ := h.used hplc
    obtain ⟨_, hfree⟩ := hf
    rw [Nat.mul_div_cancel _ (by decide), hfree] at hlab
    cases hlab

end PageState.Housed

namespace Grown
variable {s : PageState}

lemma of_tables (htbls : ∀ {n}, s.place n = none → tables n = s.tables n)
  (hleaves : ∀ {n root path}, s.place n = some (root, path) → path.length = 3 →
    tables n = s.tables n)
  (hshared : ∀ {n root index}, s.place n = some (root, []) → index ∉ processWindow →
    tables n index = s.tables n index) : Grown s { s with tables } where
  kept h := h
  fresh h h' := by cases h.symm.trans h'
  labels_eq f := by rw [if_neg fun h => h.2 h.1]
  tables_eq := htbls
  leaves_eq := hleaves
  shared_eq := hshared

lemma refl (s : PageState) : Grown s s := of_tables (fun _ => rfl) (fun _ _ => rfl) fun _ _ => rfl

lemma unplaced (h : Grown s s') (hn : s'.place n = none) : s.place n = none := by
  cases hplc : s.place n with
  | none => rfl
  | some x => rw [h.kept hplc] at hn; cases hn

lemma trans (h : Grown s s') (h' : Grown s' s'') : Grown s s'' where
  kept hn := h'.kept (h.kept hn)
  fresh {n root path} hn hn'' := by
    cases hplc : s'.place n with
    | none =>
      obtain ⟨hlen, hzero, f, hf, hown⟩ := h'.fresh hplc hn''
      refine ⟨hlen, hzero, f, hf, ?_⟩
      have heq := h.labels_eq f
      rw [← hf, if_neg fun hne => hne.2 hplc] at heq
      rwa [FrameMap.IsFree, heq] at hown
    | some x =>
      obtain rfl : x = (root, path) := Option.some.inj ((h'.kept hplc).symm.trans hn'')
      obtain ⟨hlen, hzero, hfree⟩ := h.fresh hn hplc
      exact ⟨hlen, fun hlast => (h'.leaves_eq hplc hlast).trans (hzero hlast), hfree⟩
  labels_eq f := by
    rw [h'.labels_eq f, h.labels_eq f]
    cases hplc : s'.place (f * pageSize) with
    | none =>
      rw [h.unplaced hplc]
      simp
    | some x =>
      rw [h'.kept hplc]
      simp
  tables_eq hn := (h'.tables_eq hn).trans (h.tables_eq (h'.unplaced hn))
  leaves_eq hn hlen := (h'.leaves_eq (h.kept hn) hlen).trans (h.leaves_eq hn hlen)
  shared_eq hn hidx := (h'.shared_eq (h.kept hn) hidx).trans (h.shared_eq hn hidx)

lemma housed (h : Grown s s') (hs : s.Housed) (hforest : Forest s'.tables s'.place) :
    s'.Housed := by
  have hkept : ∀ {f x}, s.place (f * pageSize) = some x → s'.labels f = s.labels f := by
    intro f x hf
    rw [h.labels_eq, if_neg fun hplc => by cases hf.symm.trans hplc.1]
  have hlab : ∀ {f x}, s'.labels f = some x → x = (.used, .pageTable) ∧ s.labels.IsFree f ∨
    s.labels f = some x := by
    intro f x hx
    rw [h.labels_eq] at hx
    split_ifs at hx with hplc
    · obtain ⟨⟨root, path⟩, hplc'⟩ := Option.ne_none_iff_exists'.1 hplc.2
      obtain ⟨-, -, f', hf', hfree⟩ := h.fresh hplc.1 hplc'
      obtain rfl : f = f' := Nat.eq_of_mul_eq_mul_right (by decide) hf'
      exact .inl ⟨(Option.some.inj hx).symm, hfree⟩
    · exact .inr hx
  refine ⟨hforest, ⟨fun f o ho => ?_, fun f o ho => ?_, fun st o ho => ?_⟩,
    fun {n root path} hn hlen => ?_, fun {n root path} hn hlen => ?_⟩
  · rcases hlab ho with ⟨heq, -⟩ | ho
    · cases heq
    · exact hs.sound.free_owner f o ho
  · rcases hlab ho with ⟨heq, -⟩ | ho
    · cases heq
      simp
    · exact hs.sound.used_owner f o ho
  · rcases hlab ho with ⟨-, owner, hfree⟩ | ho
    · cases hs.sound.zero _ _ hfree
    · exact hs.sound.zero st o ho
  · cases hplc : s.place n with
    | some x =>
      obtain rfl : x = (root, path) := Option.some.inj ((h.kept hplc).symm.trans hn)
      obtain ⟨f, rfl, hf⟩ := hs.table_label hplc hlen
      exact ⟨f, rfl, (hkept hplc).trans hf⟩
    | none =>
      obtain ⟨-, -, f, rfl, -⟩ := h.fresh hplc hn
      exact ⟨f, rfl, by rw [h.labels_eq, if_pos ⟨hplc, by rw [hn]; simp⟩]⟩
  · cases hplc : s.place n with
    | some x =>
      obtain rfl : x = (root, path) := Option.some.inj ((h.kept hplc).symm.trans hn)
      obtain ⟨f, rfl, owner, hown, hf⟩ := hs.leaf_label hplc hlen
      exact ⟨f, rfl, owner, hown, (hkept hplc).trans hf⟩
    | none =>
      have hlt := (h.fresh hplc hn).1.2
      omega

end Grown

/-! ### The steps of a walk -/

namespace PageState.Housed
variable {s : PageState}

lemma enter (h : s.Housed) (htab : s.place table = some (root, front))
  (hopen : Open 4 processWindow front index) (hlen : front.length ≠ 3)
  (hfrm : (s.tables table index).frame = some child)
  {flags : PageTableFlags} (hpres : flags.present = true) (hhuge : flags.hugePage = false) :
  PageState.Housed { s with tables := s.tables.set table index ⟨child, flags⟩ } ∧
    Grown s { s with tables := s.tables.set table index ⟨child, flags⟩ } := by
  have hch : s.tables.child table index = some child.asAddress :=
    PageTables.child_eq_some.2 ⟨child, hfrm, rfl⟩
  have heq := PageTables.child_set_flags hfrm hpres hhuge
  have hforest : Forest (s.tables.set table index ⟨child, flags⟩) s.place := by
    refine ⟨h.forest.planted.congr fun _ _ => heq _ _, fun {n _ _ i} hn hi hnone => ?_⟩
    rw [heq] at hnone
    have hslot : (n, i) ≠ (table, index) := by
      intro hslot
      obtain ⟨rfl, rfl⟩ := Prod.mk.injEq .. ▸ hslot
      rw [hch] at hnone
      cases hnone
    exact (s.tables.set_of_ne _ hslot).trans (h.forest.regular hn hi hnone)
  have hgrown : Grown s { s with tables := s.tables.set table index ⟨child, flags⟩ } := by
    refine Grown.of_tables (fun {n} hn => ?_) (fun {n r path} hn hlast => ?_)
      fun {n r i} hn hi => ?_
    · have hne : n ≠ table := fun heq => by rw [heq, htab] at hn; cases hn
      exact s.tables.set_of_table_ne _ _ hne
    · have hne : n ≠ table := by
        rintro rfl
        rw [htab, Option.some.injEq, Prod.mk.injEq] at hn
        exact hlen (hn.2 ▸ hlast)
      exact s.tables.set_of_table_ne _ _ hne
    refine s.tables.set_of_ne _ fun hslot => ?_
    obtain ⟨rfl, rfl⟩ := Prod.mk.injEq .. ▸ hslot
    rw [htab, Option.some.injEq, Prod.mk.injEq] at hn
    exact hi (hopen.2 hn.2)
  exact ⟨hgrown.housed h hforest, hgrown⟩

end PageState.Housed

/-- A zeroed table in a fresh frame, linked into an entry. -/
def PageState.linkTable (s : PageState) (table : ℕ) (index : Fin 512) (entry : PageTableEntry)
  (position : ℕ × List (Fin 512)) : PageState where
  tables := Function.update (s.tables.set table index entry) entry.address.asAddress zeroTable
  place := Function.update s.place entry.address.asAddress (some position)
  labels := s.labels.mark (entry.address.asAddress / pageSize) 1 (.used, .pageTable)

section LinkTable
variable (s : PageState) (table : ℕ) (index : Fin 512) (entry : PageTableEntry)
  (position : ℕ × List (Fin 512))

lemma PageState.linkTable_tables_self : (s.linkTable table index entry position).tables
  entry.address.asAddress = zeroTable := update_self ..

lemma PageState.linkTable_tables_of_ne (h : n ≠ entry.address.asAddress) : (s.linkTable
  table index entry position).tables n = s.tables.set table index entry n := update_of_ne h ..

lemma PageState.linkTable_place_self : (s.linkTable table index entry position).place
  entry.address.asAddress = some position := update_self ..

lemma PageState.linkTable_place_of_ne (h : n ≠ entry.address.asAddress) :
  (s.linkTable table index entry position).place n = s.place n := update_of_ne h ..

end LinkTable

namespace PageState.Housed

section Create
variable {s : PageState} {table root : ℕ} {front : List (Fin 512)} {index : Fin 512}
  {entry : PageTableEntry}

lemma unplaced_of_free (h : s.Housed)
  (hfree : s.labels.IsFree (entry.address.asAddress / pageSize)) :
  s.place entry.address.asAddress = none := by
  have hplc := h.place_of_free hfree
  rwa [entry.address.div_mul] at hplc

lemma ne_of_free (h : s.Housed) (hfree : s.labels.IsFree (entry.address.asAddress / pageSize))
  (hn : s.place n = some x) : n ≠ entry.address.asAddress := by
  rintro rfl
  rw [h.unplaced_of_free hfree] at hn
  cases hn

lemma linkTable_kept (h : s.Housed) (hfree : s.labels.IsFree (entry.address.asAddress / pageSize))
  (position : ℕ × List (Fin 512)) (hn : s.place n = some x) (hslot : (n, i) ≠ (table, index)) :
  (s.linkTable table index entry position).tables n i = s.tables n i := by
  rw [s.linkTable_tables_of_ne _ _ _ _ (h.ne_of_free hfree hn)]
  exact s.tables.set_of_ne _ hslot

variable (h : s.Housed) (htab : s.place table = some (root, front))
  (hopen : Open 4 processWindow front index) (hent : s.tables table index = .unused)
  (hfree : s.labels.IsFree (entry.address.asAddress / pageSize))
include h htab hfree in
lemma linkTable_entry :
  (s.linkTable table index entry (root, front ++ [index])).tables table index = entry := by
  rw [s.linkTable_tables_of_ne _ _ _ _ (h.ne_of_free hfree htab)]
  exact s.tables.set_self _ _ _

include h htab hopen hent hfree in
lemma linkTable_forest (hpres : entry.flags.present = true) (hhuge : entry.flags.hugePage = false) :
    Forest (s.linkTable table index entry (root, front ++ [index])).tables
      (s.linkTable table index entry (root, front ++ [index])).place := by
  have hzero : ∀ i, (s.linkTable table index entry (root, front ++ [index])).tables
    entry.address.asAddress i = .unused := fun i => by
    rw [s.linkTable_tables_self]
    rfl
  have hlink : (s.linkTable table index entry (root, front ++ [index])).tables.child table index =
    some entry.address.asAddress :=
    PageTables.child_of_entry (h.linkTable_entry htab hfree) hpres hhuge
  refine ⟨h.forest.planted.graft htab hopen (PageTables.child_of_unused hent) (h.unplaced_of_free
    hfree) hlink (fun _ => PageTables.child_of_unused (hzero _)) (fun hm _ hslot =>
    PageTables.child_congr (h.linkTable_kept hfree _ hm hslot)), fun {n r path i} hn hi hnone => ?_⟩
  by_cases hne : n = entry.address.asAddress
  · rw [hne]
    exact hzero i
  rw [s.linkTable_place_of_ne _ _ _ _ hne] at hn
  have hslot : (n, i) ≠ (table, index) := by
    intro hslot
    obtain ⟨rfl, rfl⟩ := Prod.mk.injEq .. ▸ hslot
    rw [hlink] at hnone
    cases hnone
  have hkept := h.linkTable_kept hfree (root, front ++ [index]) hn hslot
  rw [PageTables.child_congr hkept] at hnone
  exact hkept.trans (h.forest.regular hn hi hnone)

include h htab hopen hfree in
lemma linkTable_grown (hlen : front.length < 3) :
  Grown s (s.linkTable table index entry (root, front ++ [index])) where
  kept hn := by rwa [s.linkTable_place_of_ne _ _ _ _ (h.ne_of_free hfree hn)]
  fresh {n r path} hn hn' := by
    by_cases hne : n = entry.address.asAddress
    · subst hne
      rw [s.linkTable_place_self, Option.some.injEq, Prod.mk.injEq] at hn'
      obtain ⟨-, rfl⟩ := hn'
      refine ⟨⟨by simp, ?_⟩, fun _ => s.linkTable_tables_self .., _, ?_, hfree⟩
      · rw [length_append, length_singleton]
        omega
      · exact entry.address.div_mul.symm
    · rw [s.linkTable_place_of_ne _ _ _ _ hne, hn] at hn'
      cases hn'
  labels_eq f := by
    have haddr := entry.address.div_mul
    by_cases hf : f = entry.address.asAddress / pageSize
    · subst hf
      rw [haddr, s.linkTable_place_self, if_pos ⟨h.unplaced_of_free hfree, by simp⟩]
      exact if_pos ⟨Nat.le_refl _, Nat.lt_succ_self _⟩
    have hne : f * pageSize ≠ entry.address.asAddress := fun heq =>
      hf (by rw [← heq, Nat.mul_div_cancel _ (by decide)])
    rw [s.linkTable_place_of_ne _ _ _ _ hne, if_neg fun hplc => hplc.2 hplc.1]
    exact if_neg fun hle => hf (by omega)
  tables_eq {n} hn := by
    have hne : n ≠ entry.address.asAddress := fun heq => by
      rw [heq, s.linkTable_place_self] at hn
      cases hn
    rw [s.linkTable_place_of_ne _ _ _ _ hne] at hn
    have hne' : n ≠ table := fun heq => by
      rw [heq, htab] at hn
      cases hn
    rw [s.linkTable_tables_of_ne _ _ _ _ hne]
    exact s.tables.set_of_table_ne _ _ hne'
  leaves_eq {n r path} hn hlast := by
    have hne : n ≠ table := by
      rintro rfl
      rw [htab, Option.some.injEq, Prod.mk.injEq] at hn
      rw [hn.2] at hlen
      omega
    rw [s.linkTable_tables_of_ne _ _ _ _ (h.ne_of_free hfree hn)]
    exact s.tables.set_of_table_ne _ _ hne
  shared_eq {n r i} hn hi := by
    refine h.linkTable_kept hfree _ hn fun hslot => ?_
    obtain ⟨rfl, rfl⟩ := Prod.mk.injEq .. ▸ hslot
    rw [htab, Option.some.injEq, Prod.mk.injEq] at hn
    exact hi (hopen.2 hn.2)

end Create
end PageState.Housed

/-! ### The walk of `map_to` -/

/-- The number of tables that are missing on the way down a path. -/
def PageTables.missing (tables : PageTables) : ℕ → List (Fin 512) → ℕ
  | table, index :: next :: rest =>
    match tables.child table index with
    | none => (next :: rest).length
    | some child => missing tables child (next :: rest)
  | _, _ => 0

variable {tables : PageTables} {next : Fin 512}

lemma PageTables.missing_of_none (rest : List (Fin 512)) (h : tables.child table index = none) :
  tables.missing table (index :: next :: rest) = rest.length + 1 := by
  rw [missing, h]
  rfl

lemma PageTables.missing_of_some {table child : ℕ}
  (rest : List (Fin 512)) (h : tables.child table index = some child) :
  tables.missing table (index :: next :: rest) = tables.missing child (next :: rest) := by
  rw [missing, h]

lemma PageTables.missing_of_empty (index : Fin 512)
  (rest : List (Fin 512)) (h : tables table = zeroTable) :
  tables.missing table (index :: rest) = rest.length := by
  cases rest with
  | nil => rfl
  | cons _ rest => exact missing_of_none rest (child_of_unused (by rw [h]; rfl))

lemma PageTables.missing_congr {tables' : PageTables}
  (h : ∀ n i, tables'.child n i = tables.child n i) (table : ℕ) (path : List (Fin 512)) :
  tables'.missing table path = tables.missing table path := by
  induction path generalizing table with
  | nil => rfl
  | cons index path ih =>
    cases path with
    | nil => rfl
    | cons _ _ =>
      rw [missing, missing, h]
      cases tables.child table index with
      | none => rfl
      | some child => exact ih child

section Walk

lemma open_of_append (hlen : (front ++ index :: rest).length = 4)
  (hwin : ∀ i ∈ (front ++ index :: rest).head?, i ∈ processWindow) :
  Open 4 processWindow front index := by
  refine ⟨?_, fun hfront => hwin index (by rw [hfront]; rfl)⟩
  rw [length_append, length_cons] at hlen
  omega

lemma append_cons_eq (front : List (Fin 512)) (index : Fin 512) (rest : List (Fin 512)) :
  front ++ index :: rest = front ++ [index] ++ rest := by
  rw [append_assoc, singleton_append]

lemma length_lt_three (hlen : (front ++ index :: next :: rest).length = 4) : front.length < 3 := by
  rw [length_append, length_cons, length_cons] at hlen
  omega

end Walk

/-- **The walk of `map_to`** adds the missing tables in free frames and writes the leaf entry. -/
lemma MapsTo.grown {frame : PhysicalFrameStart} {flags : PageTableFlags} {table : ℕ}
    {path : List (Fin 512)} {tables' : PageTables} {allocator allocator' : PhysicalFrameAllocator}
    {result : Panicking (Option MapToError × PageTables × PhysicalFrameAllocator)}
    (h : MapsTo allocateTableFrame frame flags table path tables allocator result)
    (hres : result = .ok (none, tables', allocator')) {place : Placement} {labels : FrameMap}
    (hs : PageState.Housed ⟨tables, place, labels⟩)
    (hrep : Represents allocator.trackedRanges labels) {root : ℕ} {front : List (Fin 512)}
    (htab : place table = some (root, front)) (hlen : (front ++ path).length = 4)
    (hwin : ∀ index ∈ (front ++ path).head?, index ∈ processWindow) :
    ∃ s' : PageState,
      s'.Housed ∧
      Represents allocator'.trackedRanges s'.labels ∧
      Grown ⟨tables, place, labels⟩ s' ∧
      labels.Serves (List.replicate (tables.missing table path) (1, .pageTable)) s'.labels ∧
      (∀ {n r p}, place n = none → s'.place n = some (r, p) → r = root ∧ p <+: front ++ path) ∧
      ∃ last front' index,
        s'.place last = some (root, front') ∧
        front' ++ [index] = front ++ path ∧
        s'.tables last index = .unused ∧
        tables' = s'.tables.set last index ⟨frame, flags⟩ := by
  induction h generalizing place labels front with
  | @leaf table index tables allocator hent =>
    cases hres
    exact ⟨_, hs, hrep, Grown.refl _, .nil, fun hn hn' => (by cases hn.symm.trans hn'), table,
      front, index, htab, rfl, hent, rfl⟩
  | mapped => cases hres
  | panicked => cases hres
  | refused => cases hres
  | huge => cases hres
  | @created table index next rest tables allocator allocator1 child result parentFlags hent
      hsrc hpres hhuge hrest ih =>
      have hopen := open_of_append hlen hwin
      obtain ⟨hfit, hroom, hrep1⟩ :=
        PhysicalFrameAllocator.allocateFrameFor_some hrep hs.sound (by simp) hsrc
      have hgrown : Grown ⟨tables, place, labels⟩ (PageState.linkTable ⟨tables, place, labels⟩
        table index ⟨child, parentFlags⟩ (root, front ++ [index])) :=
        hs.linkTable_grown htab hopen hfit.isFree (length_lt_three hlen)
      have hhoused := hgrown.housed hs
        (hs.linkTable_forest htab hopen hent hfit.isFree hpres hhuge)
      rw [append_cons_eq] at hlen hwin ⊢
      obtain ⟨s', hs', hrep', hgrown', hserv, hfresh, hlast⟩ := ih hres hhoused hrep1
        (update_self ..) hlen hwin
      rw [PageTables.missing_of_empty _ _ (update_self ..)] at hserv
      rw [PageTables.missing_of_none _ (PageTables.child_of_unused hent)]
      refine ⟨s', hs', hrep', hgrown.trans hgrown', .cons hfit hroom hserv, ?_, hlast⟩
      intro n r p hn hn'
      by_cases hch : n = child.asAddress
      · have hpl := hgrown'.kept (PageState.linkTable_place_self ⟨tables, place, labels⟩ table
          index ⟨child, parentFlags⟩ (root, front ++ [index]))
        rw [hch] at hn'
        cases hpl.symm.trans hn'
        exact ⟨rfl, prefix_append _ _⟩
      · exact hfresh ((update_of_ne hch ..).trans hn) hn'
  | @entered table index next rest tables allocator child result parentFlags hfrm hpres
      hhuge hrest ih =>
      have hopen := open_of_append hlen hwin
      obtain ⟨hhoused, hgrown⟩ := hs.enter htab hopen (length_lt_three hlen).ne hfrm hpres hhuge
      have hlink : tables.child table index = some child.asAddress :=
        PageTables.child_eq_some.2 ⟨child, hfrm, rfl⟩
      rw [append_cons_eq] at hlen hwin ⊢
      obtain ⟨s', hs', hrep', hgrown', hserv, hlast⟩ := ih hres hhoused hrep
        (hs.forest.planted.down htab hopen hlink) hlen hwin
      rw [PageTables.missing_congr (PageTables.child_set_flags hfrm hpres hhuge)] at hserv
      rw [PageTables.missing_of_some _ hlink]
      exact ⟨s', hs', hrep', hgrown.trans hgrown', hserv, hlast⟩

/-- **`map_to` succeeds** when the path ends in no frame and the missing tables are served. -/
lemma MapsTo.succeeds (h : MapsTo allocateTableFrame frame flags table path tables allocator result)
  (hs : PageState.Housed ⟨tables, place, labels⟩)
  (hrep : Represents allocator.trackedRanges labels)
  (htab : place table = some (root, front)) (hlen : (front ++ path).length = 4)
  (hwin : ∀ index ∈ (front ++ path).head?, index ∈ processWindow)
  (hfree : ∀ n, place n ≠ some (root, front ++ path))
  (hserv : labels.Serves (List.replicate (tables.missing table path) (1, .pageTable)) served) :
  ∃ tables' allocator', result = .ok (none, tables', allocator') := by
  have hsrc : ∀ {allocator : PhysicalFrameAllocator} {labels served : FrameMap} {k : ℕ},
    Represents allocator.trackedRanges labels →
    labels.IsSound → labels.Serves (List.replicate (k + 1) (1, .pageTable)) served →
    ∃ child allocator', allocateTableFrame allocator = .ok (some child, allocator') ∧
    labels.FirstFit 1 (child.asAddress / pageSize) ∧ Represents allocator'.trackedRanges
        (labels.mark (child.asAddress / pageSize) 1 (.used, .pageTable)) ∧
      (labels.mark (child.asAddress / pageSize) 1 (.used, .pageTable)).Serves
        (List.replicate k (1, .pageTable)) served := by
    intro allocator labels _ k hrep hsound hserv
    rw [replicate_succ] at hserv
    cases hserv with
    | cons fit room rest =>
      have hown : FrameRangeOwner.pageTable ≠ .free := by simp
      obtain ⟨child, allocator', hok, rfl, hrep'⟩ :=
        PhysicalFrameAllocator.exists_allocateFrameFor hrep hsound hown fit room
      exact ⟨child, allocator', hok, fit, hrep', rest⟩
  induction h generalizing place labels front with
  | leaf => exact ⟨_, _, rfl⟩
  | @mapped table index tables tables' allocator hent =>
    have hopen := open_of_append hlen hwin
    cases hch : tables.child table index with
    | none => exact absurd (hs.forest.regular htab hopen hch) hent
    | some child => exact absurd (hs.forest.planted.down htab hopen hch) (hfree child)
  | @panicked table index next rest tables allocator _ hent herr =>
    rw [PageTables.missing_of_none _ (PageTables.child_of_unused hent)] at hserv
    obtain ⟨child, allocator', hok, -⟩ := hsrc hrep hs.sound hserv
    cases herr.symm.trans hok
  | @refused table index next rest tables tables' allocator allocator' hent hnone =>
    rw [PageTables.missing_of_none _ (PageTables.child_of_unused hent)] at hserv
    obtain ⟨child, allocator', hok, -⟩ := hsrc hrep hs.sound hserv
    cases hnone.symm.trans hok
  | @created table index next rest tables allocator allocator1 child result parentFlags hent
      hcrd hpres hhuge hrest ih =>
      have hopen := open_of_append hlen hwin
      rw [PageTables.missing_of_none _ (PageTables.child_of_unused hent)] at hserv
      obtain ⟨_, _, hok, hfit, hrep', _⟩ := hsrc hrep hs.sound hserv
      cases hcrd.symm.trans hok
      have hgrown : Grown ⟨tables, place, labels⟩ (PageState.linkTable ⟨tables, place, labels⟩
        table index ⟨child, parentFlags⟩ (root, front ++ [index])) :=
        hs.linkTable_grown htab hopen hfit.isFree (length_lt_three hlen)
      have hhoused := hgrown.housed hs
        (hs.linkTable_forest htab hopen hent hfit.isFree hpres hhuge)
      have hend : (front ++ index :: next :: rest).length = 4 := hlen
      rw [append_cons_eq] at hlen hwin
      refine ih hhoused hrep' (update_self ..) hlen hwin (fun n hn => ?_) ?_
      · -- the new table stands above the end of the path
        by_cases hch : n = child.asAddress
        · have hpl := PageState.linkTable_place_self ⟨tables, place, labels⟩ table index
            ⟨child, parentFlags⟩ (root, front ++ [index])
          rw [hch] at hn
          have hpath := congrArg (fun x => x.2.length) (Option.some.inj (hpl.symm.trans hn))
          simp only [length_append, length_cons, length_nil] at hpath hend
          omega
        · rw [← append_cons_eq] at hn
          exact hfree n ((update_of_ne hch ..).symm.trans hn)
      · rwa [PageTables.missing_of_empty _ _ (update_self ..)]
  | @huge table index next rest tables _ allocator hent hfrm =>
    have hopen := open_of_append hlen hwin
    have hch : tables.child table index = none := by
      rw [PageTables.child, hfrm]
      rfl
    exact absurd (hs.forest.regular htab hopen hch) hent
  | @entered table index next rest tables allocator child result parentFlags hfrm hpres
      hhuge hrest ih =>
      have hopen := open_of_append hlen hwin
      obtain ⟨hhoused, -⟩ := hs.enter htab hopen (length_lt_three hlen).ne hfrm hpres hhuge
      have hlink : tables.child table index = some child.asAddress :=
        PageTables.child_eq_some.2 ⟨child, hfrm, rfl⟩
      rw [PageTables.missing_of_some _ hlink] at hserv
      rw [append_cons_eq] at hlen hwin hfree
      refine ih hhoused hrep (hs.forest.planted.down htab hopen hlink) hlen hwin hfree ?_
      rwa [PageTables.missing_congr (PageTables.child_set_flags hfrm hpres hhuge)]

end ManaOS
