/-
Path normalisation: `pathSegments` is the stack on which `normalize_path` runs the segments.

* `pathSegments_renderPath`: rendering and reading clean segments is the identity.
-/
import ManaOS.Filesystem.Descriptor
import Mathlib.Data.List.Basic

namespace ManaOS
open List

/-! ### Segments -/

/-- A segment that a canonical path may contain. -/
structure CleanSegment (segment : Path) : Prop where
  ne_nil : segment ≠ []
  ne_dot : segment ≠ ['.']
  ne_dotDot : segment ≠ ['.', '.']
  not_mem : '/' ∉ segment

/-- The segments that `normalize_path` keeps, in order. -/
def pathSegments (path : Path) : List Path := ((path.splitOn '/').foldl pushSegment []).reverse

def renderPath (segments : List Path) : Path :=
  if segments = [] then ['/'] else segments.flatMap ('/' :: ·)

lemma normalizePath_eq (path : Path) : normalizePath path = renderPath (pathSegments path) := rfl

variable {segment : Path} {segments : List Path}

lemma pushSegment_clean (h : CleanSegment segment) (stack : List Path) :
  pushSegment stack segment = segment :: stack := by
  rw [pushSegment, if_neg (not_or.2 ⟨h.ne_nil, h.ne_dot⟩), if_neg h.ne_dotDot]

lemma pushSegment_nil (stack : List Path) : pushSegment stack [] = stack := rfl

lemma pushSegment_dotDot (stack : List Path) : pushSegment stack ['.', '.'] = stack.tail := rfl

lemma foldl_pushSegment_clean (h : ∀ s ∈ segments, CleanSegment s)
  (stack : List Path) : segments.foldl pushSegment stack = segments.reverse ++ stack := by
  induction segments generalizing stack with
  | nil => rfl
  | cons segment _ ih =>
    rw [foldl_cons, pushSegment_clean (h segment (by simp)),
      ih (fun s hs => h s (by simp [hs])), reverse_cons, append_assoc]
    rfl

lemma clean_pushSegment (h : ∀ s ∈ stack, CleanSegment s) (hseg : '/' ∉ segment) :
  ∀ s ∈ pushSegment stack segment, CleanSegment s := by
  rw [pushSegment]
  split_ifs with hskip hpop
  · exact h
  · exact fun s hs => h s (mem_of_mem_tail hs)
  rw [not_or] at hskip
  intro s hs
  rcases mem_cons.1 hs with rfl | hs
  · exact ⟨hskip.1, hskip.2, hpop, hseg⟩
  · exact h s hs

lemma clean_foldl_pushSegment (h : ∀ s ∈ stack, CleanSegment s)
  (hsegs : ∀ s ∈ segments, '/' ∉ s) :
  ∀ s ∈ segments.foldl pushSegment stack, CleanSegment s := by
  induction segments generalizing stack with
  | nil => exact h
  | cons segment _ ih =>
    exact ih (clean_pushSegment h (hsegs segment (by simp)))
      fun s hs => hsegs s (by simp [hs])

lemma not_mem_of_mem_splitOn (path : Path) : ∀ s ∈ path.splitOn '/', '/' ∉ s := by
  induction path with
  | nil => simp [List.splitOn]
  | cons c path ih =>
    rw [List.splitOn, splitOnP_cons_eq_if_modifyHead]
    rw [List.splitOn] at ih
    split_ifs with hc
    · intro s hs
      rcases mem_cons.1 hs with rfl | hs
      · simp
      · exact ih s hs
    cases hsplit : path.splitOnP (· == '/') with
    | nil => simp
    | cons head _ =>
      rw [hsplit] at ih
      intro s hs
      rcases mem_cons.1 hs with rfl | hs
      · have hhead := ih head (by simp)
        have hne : '/' ≠ c := by
          rintro rfl
          exact hc (beq_self_eq_true _)
        exact not_mem_cons_of_ne_of_not_mem hne hhead
      · exact ih s (by simp [hs])

lemma clean_pathSegments (path : Path) : ∀ s ∈ pathSegments path, CleanSegment s := by
  intro s hs
  exact clean_foldl_pushSegment (by simp) (not_mem_of_mem_splitOn path) s (mem_reverse.1 hs)

/-! ### Reading a rendered path -/

lemma splitOn_of_not_mem (h : '/' ∉ segment) : segment.splitOn '/' = [segment] := by
  have hsplit : (['/'].intercalate [segment]).splitOn '/' = [segment] :=
    splitOn_intercalate '/' (by simpa using h) (by simp)
  simpa using hsplit

lemma splitOn_append_flatMap (hseg : '/' ∉ segment) (h : ∀ s ∈ segments, '/' ∉ s) :
  (segment ++ segments.flatMap ('/' :: ·)).splitOn '/' = segment :: segments := by
  induction segments generalizing segment with
  | nil => simpa using splitOn_of_not_mem hseg
  | cons next _ ih =>
    rw [flatMap_cons, cons_append, splitOn_append_cons_self,
      splitOn_of_not_mem hseg, ih (h next (by simp)) fun s hs => h s (by simp [hs])]
    rfl

lemma splitOn_renderPath (h : ∀ s ∈ segments, '/' ∉ s)
  (hne : segments ≠ []) : (renderPath segments).splitOn '/' = [] :: segments := by
  rw [renderPath, if_neg hne]
  have hempty : '/' ∉ ([] : Path) := by simp
  exact splitOn_append_flatMap hempty h

lemma pathSegments_renderPath (h : ∀ s ∈ segments, CleanSegment s) :
  pathSegments (renderPath segments) = segments := by
  by_cases hne : segments = []
  · subst hne
    rfl
  · rw [pathSegments, splitOn_renderPath (fun s hs => (h s hs).not_mem) hne, foldl_cons,
      pushSegment_nil, foldl_pushSegment_clean h, append_nil, reverse_reverse]

lemma pathSegments_normalizePath (path : Path) : pathSegments (normalizePath path) =
  pathSegments path := pathSegments_renderPath (clean_pathSegments path)

lemma pathSegments_append (path rest : Path) : pathSegments (path ++ '/' :: rest) =
  ((rest.splitOn '/').foldl pushSegment (pathSegments path).reverse).reverse := by
  rw [pathSegments, pathSegments, splitOn_append_cons_self, foldl_append, reverse_reverse]

lemma normalizePath_append_congr (h : pathSegments path = pathSegments path') (rest : Path) :
  normalizePath (path ++ '/' :: rest) = normalizePath (path' ++ '/' :: rest) := by
  rw [normalizePath_eq, normalizePath_eq, pathSegments_append, pathSegments_append, h]

lemma pathSegments_cons_slash (path : Path) : pathSegments ('/' :: path) = pathSegments path := by
  have h := pathSegments_append [] path
  rw [nil_append] at h
  exact h

/-- The root, or a path with a leading slash, no trailing one and no empty or dot segments. -/
structure CanonicalPath (path : Path) : Prop where
  head : path.head? = some '/'
  segments : path = ['/'] ∨ path.getLast? ≠ some '/' ∧
      ∀ s ∈ (path.splitOn '/').tail, s ≠ [] ∧ s ≠ ['.'] ∧ s ≠ ['.', '.']

lemma getLast?_flatMap (h : ∀ s ∈ segments, CleanSegment s)
  (hne : segments ≠ []) : (segments.flatMap ('/' :: ·)).getLast? ≠ some '/' := by
  obtain ⟨_, last, rfl⟩ := eq_nil_or_concat segments |>.resolve_left hne
  have hclean := h last (by simp)
  obtain ⟨c, _, hlast⟩ := exists_cons_of_ne_nil hclean.ne_nil
  rw [concat_eq_append, flatMap_append, flatMap_cons, flatMap_nil,
    append_nil, getLast?_append_of_ne_nil _ (cons_ne_nil _ _), hlast, getLast?_cons_cons, ← hlast]
  exact fun hslash => hclean.not_mem (mem_of_getLast? hslash)

lemma canonicalPath_renderPath (h : ∀ s ∈ segments, CleanSegment s) :
  CanonicalPath (renderPath segments) := by
  by_cases hne : segments = []
  · subst hne
    exact ⟨rfl, .inl rfl⟩
  refine ⟨?_, .inr ⟨?_, ?_⟩⟩
  · obtain ⟨_, _, rfl⟩ := exists_cons_of_ne_nil hne
    rfl
  · rw [renderPath, if_neg hne]
    exact getLast?_flatMap h hne
  · rw [splitOn_renderPath (fun s hs => (h s hs).not_mem) hne]
    exact fun s hs => ⟨(h s hs).ne_nil, (h s hs).ne_dot, (h s hs).ne_dotDot⟩

/-! ### Resolution -/

lemma foldl_pushSegment_dotDots (n : ℕ) (stack : List Path) :
  (List.replicate n ['.', '.']).foldl pushSegment stack = stack.drop n := by
  induction n generalizing stack with
  | zero => rfl
  | succ n ih => rw [replicate_succ, foldl_cons, ih, pushSegment_dotDot, drop_tail]

/-- `n` times `../`, then a path. -/
def climb (n : ℕ) (path : Path) : Path := (List.replicate n ['.', '.', '/']).flatten ++ path

lemma splitOn_climb (n : ℕ) (path : Path) :
  (climb n path).splitOn '/' = List.replicate n ['.', '.'] ++ path.splitOn '/' := by
  induction n with
  | zero => rfl
  | succ n ih =>
    have hstep : climb (n + 1) path = ['.', '.'] ++ '/' :: climb n path := rfl
    have hdots : (['.', '.'] : Path).splitOn '/' = [['.', '.']] := by decide
    rw [hstep, splitOn_append_cons_self, ih, hdots]
    rfl

lemma pathSegments_climb (h : (pathSegments directory).length ≤ n) (path : Path) :
  pathSegments (directory ++ '/' :: climb n path) = pathSegments path := by
  have hdrop : (pathSegments directory).reverse.drop n = [] :=
    drop_eq_nil_of_le (by rwa [length_reverse])
  rw [pathSegments_append, splitOn_climb, foldl_append, foldl_pushSegment_dotDots, hdrop]
  rfl

lemma resolvePath_climb (h : (pathSegments directory).length ≤ n) (path : Path) :
  resolvePath directory (climb n path) = normalizePath ('/' :: path) := by
  rw [resolvePath, normalizePath_eq ('/' :: path), pathSegments_cons_slash]
  split_ifs with habsolute
  · -- only a climb of no step can start with a slash
    cases n with
    | zero => rfl
    | succ n => cases habsolute
  · rw [normalizePath_eq, pathSegments_climb h]

lemma resolvePath_resolvePath (directory : Path) {q : Path} (hp : p ≠ [])
  (hq : q.head? ≠ some '/') :
  resolvePath (resolvePath directory p) q = resolvePath directory (p ++ '/' :: q) := by
  obtain ⟨c, _, rfl⟩ := exists_cons_of_ne_nil hp
  rw [resolvePath, if_neg hq, resolvePath, resolvePath, cons_append, head?_cons, head?_cons]
  split_ifs with habsolute
  · exact normalizePath_append_congr (pathSegments_normalizePath _) q
  · rw [normalizePath_append_congr (pathSegments_normalizePath _) q, append_assoc]
    rfl

lemma FileSystem.getNode_congr (fileSystem : FileSystem) {p q : Path} (hp : 0 ∉ p.bytes)
  (hq : 0 ∉ q.bytes) (h : normalizePath p = normalizePath q) :
  fileSystem.getNode p = fileSystem.getNode q := by
  have hfree : ∀ {path : Path}, 0 ∉ path.bytes → path.bytes.contains 0 = false := fun h =>
    Bool.eq_false_iff.2 fun hcont => h (contains_iff_mem.1 hcont)
  rw [getNode, getNode, hfree hp, hfree hq, h]

/-- **The laws of paths.**

* a normal form is canonical, and normalising it again changes nothing;
* resolving a relative path against a resolved one is resolving the joined path;
* an absolute path ignores the working directory;
* any number of `..` beyond the depth of the directory stays at the root;
* `get_node` depends on the normal form of a path without NUL only. -/
theorem paths_resolve_canonically :
    (∀ path,
      CanonicalPath (normalizePath path) ∧
      normalizePath (normalizePath path) = normalizePath path) ∧
    (∀ directory p q,
      p ≠ [] →
      q.head? ≠ some '/' →
      resolvePath (resolvePath directory p) q = resolvePath directory (p ++ '/' :: q)) ∧
    (∀ directory path, path.head? = some '/' → resolvePath directory path = normalizePath path) ∧
    (∀ directory n path,
      (pathSegments directory).length ≤ n →
      resolvePath directory (climb n path) = normalizePath ('/' :: path)) ∧
    (∀ (fileSystem : FileSystem) (p q : Path),
      0 ∉ p.bytes →
      0 ∉ q.bytes →
      normalizePath p = normalizePath q →
      fileSystem.getNode p = fileSystem.getNode q) := by
  refine ⟨fun path => ⟨?_, ?_⟩, fun directory p q => resolvePath_resolvePath directory, ?_, fun
    directory n path h => resolvePath_climb h path, fun fileSystem p q => fileSystem.getNode_congr⟩
  · exact canonicalPath_renderPath (clean_pathSegments path)
  · rw [normalizePath_eq, pathSegments_normalizePath, ← normalizePath_eq]
  · exact fun directory path h => if_pos h

/-- The laws at `../b` and `./c` under `/a`, at `/b` and `//b`, and at two steps up. -/
theorem paths_resolve_canonically_steps :
  CanonicalPath (normalizePath "/a//./b/".toList) ∧
    resolvePath (resolvePath "/a".toList "../b".toList) "./c".toList =
      resolvePath "/a".toList "../b/./c".toList ∧
    resolvePath "/a".toList "/b".toList = normalizePath "/b".toList ∧
    resolvePath "/a".toList (climb 2 "b".toList) = normalizePath "/b".toList ∧
    ∀ fileSystem : FileSystem,
      fileSystem.getNode "/b".toList = fileSystem.getNode "//b".toList := by
  obtain ⟨hcanonical, hjoined, habsolute, hclimb, hnode⟩ := paths_resolve_canonically
  exact ⟨(hcanonical _).1, hjoined _ _ _ (by decide) (by decide), habsolute _ _ (by decide),
    hclimb _ _ _ (by decide),
    fun fileSystem => hnode fileSystem _ _ (by decide) (by decide) (by decide)⟩

end ManaOS
