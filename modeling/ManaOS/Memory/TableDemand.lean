/-
The page tables that a sequence of mappings needs.

`map_to` takes one frame for each table that is missing above a page.  `PageTables.newTables` counts
them, and `PageTables.requests` lists the allocations of the whole sequence.

* `Mapped.requests_eq`: what a mapping leaves to be allocated for the pages after it.
-/
import ManaOS.Memory.PageLeaves

namespace ManaOS
open TableForest List

/-- The positions of the tables above a page. -/
def tablePaths (page : ℕ) : List (List (Fin 512)) :=
  [[tableIndex 4 page], [tableIndex 4 page, tableIndex 3 page], upperPath page]

lemma mem_tablePaths :
  path ∈ tablePaths page ↔ path <+: tablePath page ∧ path ≠ [] ∧ path.length < 4 := by
  constructor
  · intro h
    simp only [tablePaths, mem_cons, not_mem_nil, or_false] at h
    rcases h with rfl | rfl | rfl
    · exact ⟨⟨_, rfl⟩, by simp, by simp⟩
    · exact ⟨⟨_, rfl⟩, by simp, by simp⟩
    · exact ⟨⟨_, rfl⟩, by simp [upperPath], by simp [upperPath]⟩
  rintro ⟨hbelow, hne, _⟩
  have htake := prefix_iff_eq_take.1 hbelow
  have hpos := length_pos_of_ne_nil hne
  have hcases : path.length = 1 ∨ path.length = 2 ∨ path.length = 3 := by omega
  rcases hcases with h | h | h <;> rw [h] at htake <;> rw [htake] <;>
    simp [tablePaths, tablePath, upperPath]

lemma head_of_mem_tablePaths (h : path ∈ tablePaths page) :
  path.head? = some (tableIndex 4 page) := by
  simp only [tablePaths, mem_cons, not_mem_nil, or_false] at h
  rcases h with rfl | rfl | rfl <;> rfl

/-- The tables that mapping a page adds, once some other pages have been mapped. -/
def PageTables.newTables (tables : PageTables) (root : ℕ) (earlier : List ℕ) (page : ℕ) : ℕ :=
  (tablePaths page).countP fun path =>
    (walk tables.child root path).isNone && !earlier.any fun p => (tablePaths p).contains path

/-- The allocations for a sequence of mappings, with those before each of them. -/
def PageTables.requests (tables : PageTables) (root : ℕ) (data : List FrameMap.Request) :
  List ℕ → List ℕ → List FrameMap.Request
  | _, [] => []
  | earlier, page :: pages =>
    data ++ List.replicate (tables.newTables root earlier page) (1, .pageTable) ++
      requests tables root data (earlier ++ [page]) pages

lemma PageTables.newTables_eq_zero (tables : PageTables) (root : ℕ)
  (hp : p ∈ earlier) (h : upperPath p = upperPath page) :
  tables.newTables root earlier page = 0 := by
  have hsame : tablePaths p = tablePaths page := by
    rw [upperPath, upperPath, List.cons.injEq, List.cons.injEq] at h
    rw [tablePaths, tablePaths, upperPath, upperPath, h.1, h.2.1, h.2.2]
  refine countP_eq_zero.2 fun path hpath => ?_
  rw [← hsame] at hpath
  simpa using fun _ => ⟨p, hp, hpath⟩

lemma PageTables.requests_eq_nil (tables : PageTables) (root : ℕ)
  (hpages : ∀ page ∈ pages, upperPath p = upperPath page) (hp : p ∈ earlier) :
  tables.requests root [] earlier pages = [] := by
  induction pages generalizing earlier with
  | nil => rfl
  | cons page _ ih =>
    rw [requests, newTables_eq_zero tables root hp (hpages page mem_cons_self),
      ih (fun q hq => hpages q (mem_cons_of_mem page hq)) (mem_append_left _ hp)]
    rfl

lemma PageTables.missing_eq_newTables (tables : PageTables) (root page : ℕ) :
  tables.missing root (tablePath page) = tables.newTables root [] page := by
  simp only [newTables, tablePaths, upperPath, tablePath, walk, countP_cons, countP_nil]
  rcases Option.eq_none_or_eq_some (tables.child root (tableIndex 4 page)) with h4 | ⟨table3, h4⟩
  · simp [missing_of_none _ h4, h4]
  rw [missing_of_some _ h4]
  rcases Option.eq_none_or_eq_some (tables.child table3 (tableIndex 3 page)) with
    h3 | ⟨table2, h3⟩
  · simp [missing_of_none _ h3, h4, h3]
  rw [missing_of_some _ h3]
  rcases Option.eq_none_or_eq_some (tables.child table2 (tableIndex 2 page)) with
    h2 | ⟨table1, h2⟩
  · simp [missing_of_none _ h2, h4, h3, h2]
  · simp [h4, h3, h2, missing]

section
variable {s : PageState}

lemma PageState.Housed.walk_tablePath (h : s.Housed) (hroot : s.IsRoot root)
  (hpage : InWindow page') (hpath : path ∈ tablePaths page') :
  walk s.tables.child root path = some table ↔ s.place table = some (root, path) := by
  refine h.forest.planted.walk_eq_some hroot ?_ fun index hidx => ?_
  · exact Nat.le_of_lt (mem_tablePaths.1 hpath).2.2
  · rw [nil_append, head_of_mem_tablePaths hpath] at hidx
    obtain rfl := Option.some.inj hidx
    exact hpage

lemma Mapped.walk_isNone (h : Mapped s root page entry s') (hs : s.Housed) (hroot : s.IsRoot root)
  (hpage : InWindow page') (hpath : path ∈ tablePaths page') :
  (walk s'.tables.child root path).isNone =
    ((walk s.tables.child root path).isNone && !(tablePaths page).contains path) := by
  have hwalk : ∀ {table : ℕ}, walk s.tables.child root path = some table ↔
    s.place table = some (root, path) := hs.walk_tablePath hroot hpage hpath
  have hwalk' : ∀ {table : ℕ}, walk s'.tables.child root path = some table ↔
    s'.place table = some (root, path) := h.housed.walk_tablePath (h.kept hroot) hpage hpath
  cases hold : walk s.tables.child root path with
  | some table => rw [hwalk'.2 (h.kept (hwalk.1 hold))]; rfl
  | none =>
    cases hnew : walk s'.tables.child root path with
    | some table =>
      have hunpl : s.place table = none := by
        refine Option.eq_none_iff_forall_ne_some.2 fun x hx => ?_
        have hsame := (h.kept hx).symm.trans (hwalk'.1 hnew)
        rw [hsame] at hx
        cases hold.symm.trans (hwalk.2 hx)
      have hmem : path ∈ tablePaths page := mem_tablePaths.2
        ⟨(h.along hunpl (hwalk'.1 hnew)).2, (mem_tablePaths.1 hpath).2⟩
      simp [hmem]
    | none =>
      have hmem : path ∉ tablePaths page := by
        intro hmem
        obtain ⟨_, hrest⟩ := (mem_tablePaths.1 hmem).1
        have hpl := h.placed
        rw [← hrest] at hpl
        obtain ⟨_, htab⟩ := h.housed.forest.planted.exists_place hpl
        cases hnew.symm.trans (hwalk'.2 htab)
      simp [hmem]

lemma Mapped.newTables_eq (h : Mapped s root page entry s') (hs : s.Housed) (hroot : s.IsRoot root)
  (hpage : InWindow page') (earlier : List ℕ) :
  s'.tables.newTables root earlier page' = s.tables.newTables root (page :: earlier) page' := by
  refine countP_congr fun path hpath => ?_
  rw [h.walk_isNone hs hroot hpage hpath, any_cons, Bool.not_or, Bool.and_assoc]

lemma Mapped.requests_eq (h : Mapped s root page entry s') (hs : s.Housed)
  (hroot : s.IsRoot root) (data : List FrameMap.Request)
  (hpages : ∀ p ∈ pages, InWindow p) (earlier : List ℕ) :
  s'.tables.requests root data earlier pages =
    s.tables.requests root data (page :: earlier) pages := by
  induction pages generalizing earlier with
  | nil => rfl
  | cons p _ ih =>
    rw [PageTables.requests, PageTables.requests, h.newTables_eq hs hroot (hpages p mem_cons_self),
      ih (fun q hq => hpages q (mem_cons_of_mem p hq)), cons_append]

lemma Unmapped.newTables_eq (h : Unmapped s root page entry s') (hs : s.Housed)
  (hroot : s.IsRoot root) (hpage : InWindow page') (earlier : List ℕ) :
  s'.tables.newTables root earlier page' = s.tables.newTables root earlier page' := by
  have hkept : ∀ {n path}, path.length < 4 →
    (s'.place n = some (root, path) ↔ s.place n = some (root, path)) := by
    intro n path hlen
    rw [h.place_eq]
    by_cases hne : n = entry.address.asAddress
    · rw [hne, Function.update_self, h.placed]
      refine iff_of_false (by simp) fun heq => ?_
      rw [Option.some.injEq, Prod.mk.injEq] at heq
      rw [← heq.2] at hlen
      exact absurd hlen (by simp [tablePath])
    · rw [Function.update_of_ne hne]
  refine countP_congr fun path hpath => ?_
  have hlen := (mem_tablePaths.1 hpath).2.2
  have hroot' : s'.IsRoot root := (hkept (by simp)).2 hroot
  have hwalk : walk s'.tables.child root path = walk s.tables.child root path :=
    Option.ext fun table => by
      rw [h.housed.walk_tablePath hroot' hpage hpath, hs.walk_tablePath hroot hpage hpath,
        hkept hlen]
  rw [hwalk]

end
end ManaOS
