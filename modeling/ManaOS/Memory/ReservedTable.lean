/-
The order of the tracked ranges after reservations (`memory/frame_allocator.rs`).

`reserve_region_for` puts what is left of a free range beyond the reserved one directly behind what
is left before it.  With rests on both sides the order is lost; otherwise it stays.

* `reserved_table_sorted` (**order**): when it stays;
* `split_range_out_of_order`: when it is lost.
-/
import ManaOS.Memory.Reservations

namespace ManaOS
open Checked RunList

/-- The region is cut out of all free ranges. -/
def cutAll (region : Region) (ranges : List TrackedRange) : List TrackedRange :=
  ranges.flatMap (cutFree region.start region.stop)

lemma cutAll_cons (region : Region) (t : TrackedRange) (ranges : List TrackedRange) : cutAll region
  (t :: ranges) = cutFree region.start region.stop t ++ cutAll region ranges := List.flatMap_cons ..

lemma cutAll_append (region : Region) (ranges ranges' : List TrackedRange) : cutAll region
  (ranges ++ ranges') = cutAll region ranges ++ cutAll region ranges' := List.flatMap_append ..

variable {u t : TrackedRange} {owner : FrameRangeOwner}

lemma mem_cutAll :
    u ∈ cutAll region ranges ↔ ∃ t ∈ ranges, u ∈ cutFree region.start region.stop t :=
  List.mem_flatMap

lemma cutFree_of_not_free (h : t.state ≠ .free)
  (reservedStart reservedEnd : ℕ) : cutFree reservedStart reservedEnd t = [t] := if_pos h

/-! ### The merge pass before the cut -/

/-- Two ranges that the merge pass would join. -/
def Joins (t u : TrackedRange) : Prop :=
  t.state = u.state ∧ t.owner = u.owner ∧ regionEnd t.region = some u.region.start

/-- The range that the merge pass makes of two. -/
def join (t u : TrackedRange) : TrackedRange :=
  { t with region := { t.region with pages := saturatingAdd t.region.pages u.region.pages } }

lemma mergeTrackedFrom_of_joins (h : Joins t u) (l : List TrackedRange) : mergeTrackedFrom
  t (u :: l) = mergeTrackedFrom (join t u) l := if_pos h

lemma mergeTrackedFrom_of_not_joins (h : ¬ Joins t u)
  (l : List TrackedRange) : mergeTrackedFrom t (u :: l) = t :: mergeTrackedFrom u l :=
  if_neg h

lemma toRun_join (ht : t.region.IsExact) (hu : u.region.IsExact)
  (h : Joins t u) : (join t u).region.IsExact ∧
    (join t u).toRun = { t.toRun with len := t.toRun.len + u.toRun.len } := by
  have hend := h.2.2
  rw [ht.regionEnd_eq, Option.some_inj] at hend
  have hfit := hu.fits
  have hsum : saturatingAdd t.region.pages u.region.pages = t.region.pages + u.region.pages := by
    refine saturatingAdd_of_lt ?_
    rw [pageSize] at *
    omega
  rw [join, hsum]
  refine ⟨⟨ht.aligned, ?_⟩, rfl⟩
  simp only [pageSize] at *
  omega

lemma sorted_cut_merge (region : Region) (hex : ∀ t ∈ c :: l, t.region.IsExact)
    (hqt : (c :: l).Pairwise fun t u => t.state = .free → ¬ Joins t u)
    (hsort : IsSorted (runs (cutAll region (c :: l)))) :
    IsSorted (runs (cutAll region (mergeTrackedFrom c l))) ∧
    ∀ f,
      labelAt (runs (cutAll region (mergeTrackedFrom c l))) f =
        labelAt (runs (cutAll region (c :: l))) f := by
  induction l generalizing c with
  | nil => exact ⟨hsort, fun f => rfl⟩
  | cons n l ih =>
    obtain ⟨hhead, hqt'⟩ := List.pairwise_cons.1 hqt
    have hc := hex c (by simp)
    have hn := hex n (by simp)
    by_cases hjoins : Joins c n
    · -- the joined ranges are not free, and the cut leaves them alone
      have hsta : c.state ≠ .free := fun hfree => hhead n (by simp) hfree hjoins
      have hsta' : n.state ≠ .free := hjoins.1 ▸ hsta
      have hstate'' : (join c n).state ≠ .free := hsta
      obtain ⟨hex', hrun⟩ := toRun_join hc hn hjoins
      have htouch : c.toRun.stop = n.toRun.start := (regionEnd_eq_start_iff hc hn).1 hjoins.2.2
      have hlab : c.toRun.label = n.toRun.label := Prod.ext hjoins.1 hjoins.2.1
      rw [mergeTrackedFrom_of_joins hjoins]
      rw [cutAll_cons, cutAll_cons, cutFree_of_not_free hsta, cutFree_of_not_free hsta',
        List.singleton_append, List.singleton_append, runs_cons, runs_cons] at hsort ⊢
      have hrest : runs (cutAll region (join c n :: l)) =
        (join c n).toRun :: runs (cutAll region l) := by
        rw [cutAll_cons, cutFree_of_not_free hstate'', List.singleton_append, runs_cons]
      have hjoined := isSorted_absorb hsort htouch
      rw [← hrun, ← hrest] at hjoined
      obtain ⟨h1, h2⟩ := ih (c := join c n)
        (List.forall_mem_cons.2 ⟨hex', fun t ht => hex t (by simp [ht])⟩)
        (List.pairwise_cons.2 ⟨fun _ _ hfree => absurd hfree hstate'', hqt'.tail⟩) hjoined
      refine ⟨h1, fun f => (h2 f).trans ?_⟩
      rw [hrest, hrun, labelAt_cons, labelAt_cons, labelAt_cons, ← hlab]
      by_cases hcov : c.toRun.Covers f
      · rw [if_pos ((covers_absorb htouch f).2 (.inl hcov)), if_pos hcov]
      rw [if_neg hcov]
      refine if_congr ?_ rfl rfl
      rw [covers_absorb htouch]
      exact or_iff_right hcov
    · rw [mergeTrackedFrom_of_not_joins hjoins]
      rw [cutAll_cons, runs_append] at hsort ⊢
      obtain ⟨h1, h2⟩ := ih (fun t ht => hex t (List.mem_cons_of_mem _ ht)) hqt'
        (isSorted_append.1 hsort).2.1
      refine ⟨hsort.append_of_labelAt_eq h1 h2, fun f => ?_⟩
      rw [cutAll_cons, runs_append, labelAt_append, labelAt_append, h2]

lemma sorted_cutFree {region : Region} (ht : t.region.IsExact)
  (hreg : region.IsExact) (hpos : 0 < t.region.pages) :
  IsSorted (runs (cutFree region.start region.stop t)) := by
  have hpieces : ∀ u ∈ cutFree region.start region.stop t, 0 < u.region.pages :=
    fun u hu => (mem_cutFree ht hreg hu).pos hpos
  refine ⟨fun r hr => ?_, List.pairwise_map.2 ?_⟩
  · obtain ⟨u, hu, rfl⟩ := List.mem_map.1 hr
    exact hpieces u hu
  have hst := ht.start_eq
  rw [cutFree, ht.regionEnd_eq]
  by_cases hfree : t.state ≠ .free
  · rw [if_pos hfree]
    exact List.pairwise_singleton _ _
  rw [if_neg hfree]
  simp only
  split
  · exact List.pairwise_singleton _ _
  next _ =>
  split
  · split
    · refine List.pairwise_pair.2 ?_
      rw [Run.stop, TrackedRange.toRun_start, TrackedRange.toRun_start, TrackedRange.toRun_len]
      simp only [Region.stop, pageSize] at *
      omega
    · exact List.pairwise_singleton _ _
  · split
    · exact List.pairwise_singleton _ _
    · exact List.Pairwise.nil

lemma Piece.bounds (h : Piece region t u) (hpos : 0 < t.region.pages) :
  t.toRun.start ≤ u.toRun.start ∧ u.toRun.stop ≤ t.toRun.stop := by
  have hlen : 0 < u.toRun.len := h.pos hpos
  exact (covers_subset_iff hlen).1 fun f hf => h.covers hf

lemma sorted_cutAll {region : Region} (hreg : region.IsExact)
  (hex : ∀ t ∈ ranges, t.region.IsExact) (hsort : IsSorted (runs ranges)) :
  IsSorted (runs (cutAll region ranges)) := by
  induction ranges with
  | nil => exact .nil
  | cons t ranges ih =>
    have ht := hex t (by simp)
    have hpos : 0 < t.region.pages := hsort.len_pos t.toRun (by simp)
    have hex' : ∀ u ∈ ranges, u.region.IsExact := fun u hu => hex u (by simp [hu])
    rw [cutAll_cons, runs_append]
    refine isSorted_append.2 ⟨sorted_cutFree ht hreg hpos, ih hex' hsort.tail, ?_⟩
    intro a ha b hb
    obtain ⟨u, hu, rfl⟩ := List.mem_map.1 ha
    obtain ⟨v, hv, rfl⟩ := List.mem_map.1 hb
    obtain ⟨t', ht', hv⟩ := mem_cutAll.1 hv
    have hmem := toRun_mem_runs ht'
    have hpos' : 0 < t'.region.pages := hsort.tail.len_pos _ hmem
    have hu := ((mem_cutFree ht hreg hu).bounds hpos).2
    have hv := ((mem_cutFree (hex' t' ht') hreg hv).bounds hpos').1
    exact hu.trans ((hsort.stop_le hmem).trans hv)

/-! ### The table with the reserved range in it -/

lemma insertIdx_insertionIndex {α : Type} (startOf : α → ℕ) (start : ℕ) (x : α) (l : List α) :
  l.insertIdx (insertionIndex startOf start l) x =
    l.takeWhile (startOf · < start) ++ x :: l.dropWhile (startOf · < start) := by
  induction l with
  | nil => rfl
  | cons a l ih =>
    rw [insertionIndex, List.takeWhile_cons, List.dropWhile_cons]
    by_cases h : startOf a < start
    · simp [h, ih]
    · simp [h]

/-- The table with the reserved range put in by its start. -/
def withReserved (region : Region) (owner : FrameRangeOwner) (ranges : List TrackedRange) : List
  TrackedRange := ranges.takeWhile (·.region.start < region.start) ++
    ⟨region, .reserved, owner⟩ :: ranges.dropWhile (·.region.start < region.start)

lemma mem_withReserved :
  t ∈ withReserved region owner ranges ↔ t = ⟨region, .reserved, owner⟩ ∨ t ∈ ranges := by
  rw [withReserved, List.mem_append, List.mem_cons, or_left_comm, ← List.mem_append,
    List.takeWhile_append_dropWhile]

lemma cutFree_reserved (region : Region) (owner : FrameRangeOwner) :
  cutFree region.start region.stop ⟨region, .reserved, owner⟩ = [⟨region, .reserved, owner⟩] :=
  cutFree_of_not_free (fun h => FrameRangeState.noConfusion h) _ _

/-- What `reserve_region_for` needs: no used range meets the region, no free range reaches beyond
both its ends. -/
structure Reservable (region : Region) (ranges : List TrackedRange) : Prop where
  apart : ∀ t ∈ ranges, t.state ≠ .free → ∀ {f}, t.region.Covers f → ¬ region.Covers f
  oneSided : ∀ t ∈ ranges, t.state = .free →
    ¬ (t.region.start < region.start ∧ region.stop < t.region.stop)

section Inserted
variable {region : Region} {ranges : List TrackedRange} {m : FrameMap} (hrep : Represents ranges m)
  (hreg : region.IsExact) (hpos : 0 < region.pages) (hresv : Reservable region ranges)
include hrep hreg hresv
include hpos in
lemma stop_le_of_start_lt (ht : t ∈ ranges)
  (hlt : t.region.start < region.start) (hu : u ∈ cutFree region.start region.stop t) :
  u.toRun.stop ≤ region.start / pageSize := by
  have hex := hrep.exact t ht
  have hpiece := mem_cutFree hex hreg hu
  have htpos : 0 < t.region.pages := hrep.sorted.len_pos _ (toRun_mem_runs ht)
  have hupos := hpiece.pos htpos
  have hbnd := hpiece.bounds htpos
  have hst := hex.start_eq
  have hst' := hreg.start_eq
  by_contra hbeyond
  -- a frame of the piece at or behind the start of the region
  have hlast : u.region.Covers (u.toRun.stop - 1) := ⟨Nat.le_sub_one_of_lt
    (Nat.lt_add_of_pos_right hupos), Nat.sub_one_lt (Nat.ne_of_gt (Nat.add_pos_right _ hupos))⟩
  by_cases hfree : t.state = .free
  · have hone := hresv.oneSided t ht hfree
    have hout := hpiece.apart hfree hlast
    simp only [Region.Covers, Region.stop, Run.stop, TrackedRange.toRun_start,
      TrackedRange.toRun_len, pageSize] at *
    omega
  -- then the first frame of the region lies in the range
  have hfirst : t.region.Covers (region.start / pageSize) := by
    simp only [Region.Covers, Run.stop, TrackedRange.toRun_start, TrackedRange.toRun_len,
      pageSize] at *
    omega
  exact hresv.apart t ht hfree hfirst ⟨Nat.le_refl _, Nat.lt_add_of_pos_right hpos⟩

lemma le_start_of_le_start (ht : t ∈ ranges)
  (hle : region.start ≤ t.region.start) (hu : u ∈ cutFree region.start region.stop t) :
  region.start / pageSize + region.pages ≤ u.toRun.start := by
  have hex := hrep.exact t ht
  have hpiece := mem_cutFree hex hreg hu
  have htpos : 0 < t.region.pages := hrep.sorted.len_pos _ (toRun_mem_runs ht)
  have hupos := hpiece.pos htpos
  have hbnd := hpiece.bounds htpos
  have hfirst : u.region.Covers u.toRun.start := ⟨Nat.le_refl _, Nat.lt_add_of_pos_right hupos⟩
  have hdiv : region.start / pageSize ≤ t.region.start / pageSize := Nat.div_le_div_right hle
  by_contra hins
  have hmeet : region.Covers u.toRun.start := ⟨hdiv.trans hbnd.1, Nat.not_le.1 hins⟩
  by_cases hfree : t.state = .free
  · exact hpiece.apart hfree hfirst hmeet
  · exact hresv.apart t ht hfree (hpiece.covers hfirst) hmeet

include hpos in
lemma sorted_cutAll_withReserved (owner : FrameRangeOwner) :
  IsSorted (runs (cutAll region (withReserved region owner ranges))) := by
  have htake := List.takeWhile_sublist (l := ranges) fun t => t.region.start < region.start
  have hdrop := List.dropWhile_sublist (l := ranges) fun t => t.region.start < region.start
  have hbef : IsSorted (runs (ranges.takeWhile (·.region.start < region.start))) :=
    (hrep.canonical.sublist (htake.map _)).toIsSorted
  have haft : IsSorted (runs (ranges.dropWhile (·.region.start < region.start))) :=
    (hrep.canonical.sublist (hdrop.map _)).toIsSorted
  have hordered : ranges.Pairwise fun t u => t.region.start ≤ u.region.start := by
    refine (List.pairwise_map.1 hrep.sorted.ordered).imp_of_mem fun {t u} ht hu hle => ?_
    have hst := (hrep.exact t ht).start_eq
    have hst' := (hrep.exact u hu).start_eq
    have hle : t.region.start / pageSize ≤ u.region.start / pageSize :=
      (Nat.le_add_right _ _).trans hle
    rw [hst, hst']
    exact Nat.mul_le_mul_right _ hle
  rw [withReserved, cutAll_append, cutAll_cons, cutFree_reserved, List.singleton_append,
    runs_append, runs_cons]
  -- all that starts before the region ends before it, the rest starts behind it
  have hends : ∀ u ∈ cutAll region (ranges.takeWhile (·.region.start < region.start)),
    u.toRun.stop ≤ region.start / pageSize := by
    intro u hu
    obtain ⟨t, ht, hu⟩ := mem_cutAll.1 hu
    exact stop_le_of_start_lt hrep hreg hpos hresv (htake.subset ht)
      (of_decide_eq_true (List.all_eq_true.1 List.all_takeWhile t ht)) hu
  have hstarts : ∀ u ∈ cutAll region (ranges.dropWhile (·.region.start < region.start)),
    region.start / pageSize + region.pages ≤ u.toRun.start := by
    intro u hu
    obtain ⟨t, ht, hu⟩ := mem_cutAll.1 hu
    exact le_start_of_le_start hrep hreg hresv (hdrop.subset ht)
      (le_of_mem_dropWhile hordered ht) hu
  refine isSorted_append.2 ⟨sorted_cutAll hreg (fun t ht => hrep.exact t (htake.subset ht)) hbef,
    .cons hpos (sorted_cutAll hreg (fun t ht => hrep.exact t (hdrop.subset ht)) haft) ?_, ?_⟩
  · intro r hr
    obtain ⟨u, hu, rfl⟩ := List.mem_map.1 hr
    exact hstarts u hu
  intro a ha b hb
  obtain ⟨u, hu, rfl⟩ := List.mem_map.1 ha
  rcases List.mem_cons.1 hb with rfl | hb
  · exact hends u hu
  · obtain ⟨v, hv, rfl⟩ := List.mem_map.1 hb
    exact (hends u hu).trans ((Nat.le_add_right _ _).trans (hstarts v hv))

end Inserted

lemma Piece.label_eq (h : Piece region t u) (hown : t.state = .free → t.owner = .free) :
  u.label = t.label := by
  refine Prod.ext h.state_eq ?_
  rcases h.owner_eq with heq | ⟨hfree, heq⟩
  · exact heq
  · exact heq.trans (hown hfree).symm

lemma labelAt_cutAll_withReserved {region : Region}
  (hrep : Represents ranges m) (hs : m.IsSound) (hreg : region.IsExact)
  (hsort : IsSorted (runs (cutAll region (withReserved region owner ranges)))) (f : ℕ) :
  labelAt (runs (cutAll region (withReserved region owner ranges))) f =
    m.mark (region.start / pageSize) region.pages (.reserved, owner) f := by
  have hown : ∀ t ∈ ranges, ∀ {f}, t.region.Covers f → t.state = .free → t.owner = .free := by
    intro t ht f hf hfree
    refine hs.free_owner f t.owner ?_
    rw [hrep.map_eq ht hf, TrackedRange.label, hfree]
  by_cases hf : region.start / pageSize ≤ f ∧ f < region.start / pageSize + region.pages
  · rw [FrameMap.mark, if_pos hf, hsort.labelAt_eq_some]
    refine ⟨TrackedRange.toRun ⟨region, .reserved, owner⟩, toRun_mem_runs
      (mem_cutAll.2 ⟨_, mem_withReserved.2 (.inl rfl), ?_⟩), hf, rfl⟩
    rw [cutFree_reserved]
    exact List.mem_singleton_self _
  rw [FrameMap.mark, if_neg hf, ← hrep.labelAt_eq]
  refine Option.ext fun label => ?_
  rw [hsort.labelAt_eq_some, hrep.sorted.labelAt_eq_some]
  constructor
  · rintro ⟨r, hr, hcov, rfl⟩
    obtain ⟨u, hu, rfl⟩ := List.mem_map.1 hr
    obtain ⟨t, ht, hu⟩ := mem_cutAll.1 hu
    rcases mem_withReserved.1 ht with rfl | ht
    · rw [cutFree_reserved, List.mem_singleton] at hu
      rw [hu] at hcov
      exact absurd hcov hf
    · have hpiece := mem_cutFree (hrep.exact t ht) hreg hu
      exact ⟨t.toRun, toRun_mem_runs ht, hpiece.covers hcov,
        (hpiece.label_eq (hown t ht (hpiece.covers hcov))).symm⟩
  rintro ⟨r, hr, hcov, rfl⟩
  obtain ⟨t, ht, rfl⟩ := List.mem_map.1 hr
  obtain ⟨u, hu, hcov'⟩ := exists_mem_cutFree (hrep.exact t ht) hreg hcov fun _ => hf
  exact ⟨u.toRun, toRun_mem_runs (mem_cutAll.2 ⟨t, mem_withReserved.2 (.inr ht), hu⟩),
    hcov', (mem_cutFree (hrep.exact t ht) hreg hu).label_eq (hown t ht hcov)⟩

lemma insertTrackedRange_eq {region : Region} (hpos : 0 < region.pages) :
    insertTrackedRange ranges region .reserved owner =
      if ranges.length < maxTrackedRanges then .ok
        (mergeAdjacentTrackedRanges (withReserved region owner ranges)) else .error
        capacityExhausted := by
  have hidx := insertionIndex_le (fun t : TrackedRange => t.region.start) region.start ranges
  rw [insertTrackedRange, if_neg (Nat.ne_of_gt hpos)]
  simp only [insertTrackedRangeAt]
  by_cases hroom : ranges.length < maxTrackedRanges
  · rw [require_pos hroom, require_pos hidx, if_pos hroom, withReserved, ← insertIdx_insertionIndex]
    rfl
  · rw [require_neg hroom, if_neg hroom]
    rfl

lemma Represents.quiet_withReserved (hrep : Represents ranges m) (region : Region)
    (owner : FrameRangeOwner) :
    (withReserved region owner ranges).Pairwise fun t u => t.state = .free → ¬ Joins t u := by
  have hseparated : ranges.Pairwise fun t u => ¬ Joins t u := by
    refine (List.pairwise_map.1 hrep.canonical.separated).imp_of_mem
      fun {t u} ht hu hne hjoins => hne ?_ (Prod.ext hjoins.1 hjoins.2.1)
    exact (regionEnd_eq_start_iff (hrep.exact t ht) (hrep.exact u hu)).1 hjoins.2.2
  have hqt : ranges.Pairwise fun t u => t.state = .free → ¬ Joins t u :=
    hseparated.imp fun {t u} (h : ¬ Joins t u) (_ : t.state = .free) => h
  rw [← List.takeWhile_append_dropWhile (p := fun t : TrackedRange => decide (t.region.start <
    region.start)) (l := ranges), List.pairwise_append] at hqt
  obtain ⟨hbef, haft, hcross⟩ := hqt
  refine List.pairwise_append.2 ⟨hbef, List.pairwise_cons.2 ⟨?_, haft⟩, ?_⟩
  · intro u _ hfree
    cases hfree
  intro t ht u hu hfree
  rcases List.mem_cons.1 hu with rfl | hu
  · intro hjoins
    cases hfree.symm.trans hjoins.1
  · exact hcross t ht u hu hfree

/-- **A reservation that leaves no rest on both sides** keeps the table in order, or exceeds the
capacity. -/
lemma Represents.reserve (hrep : Represents ranges m)
  (hs : m.IsSound) {region : Region} (hreg : region.IsExact) (hpos : 0 < region.pages)
  (hresv : Reservable region ranges)
  (hinsert : insertTrackedRange ranges region .reserved owner = .ok inserted)
  (hcut : removeReservedRegionFromFreeRanges inserted region = .ok ranges') :
  Represents ranges' (m.mark (region.start / pageSize) region.pages (.reserved, owner)) := by
  rw [insertTrackedRange_eq hpos] at hinsert
  split at hinsert
  on_goal 2 => cases hinsert
  next _ =>
  cases hinsert
  have hex : ∀ t ∈ withReserved region owner ranges, t.region.IsExact := by
    intro t ht
    rcases mem_withReserved.1 ht with rfl | ht
    · exact hreg
    · exact hrep.exact t ht
  have hsort := sorted_cutAll_withReserved hrep hreg hpos hresv owner
  have hlabs := labelAt_cutAll_withReserved hrep hs hreg hsort
  have hqt := hrep.quiet_withReserved region owner
  have hlen : (withReserved region owner ranges).length ≤ maxTrackedRanges := by
    have hsplit := congrArg List.length (List.takeWhile_append_dropWhile
      (p := fun t : TrackedRange => decide (t.region.start < region.start)) (l := ranges))
    rw [List.length_append] at hsplit
    rw [withReserved, List.length_append, List.length_cons]
    omega
  -- the merge pass in between changes neither the order nor the labels
  obtain ⟨hruns, hex'⟩ := runs_mergeAdjacentTrackedRanges hex
  have hmerged : IsSorted (runs (cutAll
      region (mergeAdjacentTrackedRanges (withReserved region owner ranges)))) ∧ ∀ f, labelAt
      (runs (cutAll region (mergeAdjacentTrackedRanges (withReserved region owner ranges)))) f =
      labelAt (runs (cutAll region (withReserved region owner ranges))) f := by
    cases hlist : withReserved region owner ranges with
    | nil => exact ⟨.nil, fun f => rfl⟩
    | cons c l =>
      rw [hlist] at hex hqt hsort
      exact sorted_cut_merge region hex hqt hsort
  have hlen' : (mergeAdjacentTrackedRanges (withReserved region owner ranges)).length ≤
    maxTrackedRanges := by
    have hle := length_coalesce_le (runs (withReserved region owner ranges))
    rw [← hruns, runs, runs, List.length_map, List.length_map] at hle
    exact hle.trans hlen
  rw [removeReservedRegionFromFreeRanges, hreg.regionEnd_eq] at hcut
  obtain ⟨_, hpieces, hcut⟩ := bind_eq_ok.1 hcut
  cases hcut
  rcases removeReservedLoop_eq_flatMap region.start (region.start + region.pages * pageSize) []
    (mergeAdjacentTrackedRanges (withReserved region owner ranges)) hlen' with
    herr | ⟨hok, hlen''⟩
  · rw [herr] at hpieces
    cases hpieces
  rw [hok] at hpieces
  cases hpieces
  rw [List.nil_append] at hlen'' ⊢
  refine Encodes.merge ⟨fun u hu => ?_, hmerged.1, fun f => ?_⟩ hlen''
  · obtain ⟨t, ht, hu⟩ := mem_cutAll.1 hu
    exact (mem_cutFree (hex' t ht) hreg hu).exact
  · exact (hmerged.2 f).trans (hlabs f)

/-! ### Any number of reservations -/

/-- Reservations, where no free range ever reaches beyond both ends of the reserved region. -/
inductive ReserveRun : PhysicalFrameAllocator → List Registration → PhysicalFrameAllocator → Prop
  | done (a : PhysicalFrameAllocator) : ReserveRun a [] a
  | reserve {a b a' : PhysicalFrameAllocator} {start : ℕ} {frameCount : FrameCount}
      {owner : FrameRangeOwner} {rest : List Registration}
      (hsides : ∀ t ∈ a.trackedRanges, t.state = .free →
        ¬ (t.region.start < start ∧ start + frameCount.byteLen < t.region.stop))
      (hcall : a.reserveRegionFor start frameCount owner = .ok b) (hrest : ReserveRun b rest a') :
      ReserveRun a (.reserve start frameCount owner :: rest) a'

/-- Before reservations, frames are free, or reserved by one of the earlier calls. -/
structure Registered (a : PhysicalFrameAllocator) (m : FrameMap) (earlier : List Registration) :
    Prop where
  represents : Represents a.trackedRanges m
  sound : m.IsSound
  reserved : ∀ {f label}, m f = some label → label.1 ≠ .free → ∃ r ∈ earlier, r.Covers f

lemma Registered.reserve (h : Registered a m earlier) {frameCount : FrameCount}
  (halign : start % pageSize = 0)
  (hdisj : ∀ r ∈ earlier, r.stop ≤ start ∨ start + frameCount.byteLen ≤ r.start)
  (hsides : ∀ t ∈ a.trackedRanges, t.state = .free →
    ¬ (t.region.start < start ∧ start + frameCount.byteLen < t.region.stop))
  (hcall : a.reserveRegionFor start frameCount owner = .ok a') :
  ∃ m', Registered a' m' (.reserve start frameCount owner :: earlier) := by
  let r : Registration := .reserve start frameCount owner
  have hnorm : normalizeReservedRegion start frameCount =
    if r.HasRegion then some r.region else none := Registration.normalize_eq (r := r) halign
  rw [PhysicalFrameAllocator.reserveRegionFor, hnorm] at hcall
  by_cases hregion : r.HasRegion
  · rw [if_pos hregion] at hcall
    obtain ⟨_, hins, hcall⟩ := bind_eq_ok.1 hcall
    obtain ⟨_, hranges, hcall⟩ := bind_eq_ok.1 hcall
    cases hcall
    have hex := Registration.isExact_region (r := r) halign hregion
    have hpos := Registration.region_pages_pos (r := r) halign hregion
    have hpages : r.region.pages = frameCount.asU64 := by
      change (start + frameCount.byteLen - start) / pageSize = _
      rw [Nat.add_sub_cancel_left, FrameCount.byteLen, Nat.mul_div_cancel _ (by decide)]
    have hstop : r.region.stop = start + frameCount.byteLen := by
      rw [Region.stop, hpages]
      rfl
    have hcov : ∀ {f}, r.region.Covers f → r.Covers f := by
      rintro f ⟨hlow, hhigh⟩
      rw [hpages] at hhigh
      have hlow : start / pageSize ≤ f := hlow
      have hhigh : f < start / pageSize + frameCount.asU64 := hhigh
      change start ≤ f * pageSize ∧ f * pageSize < start + frameCount.byteLen
      simp only [FrameCount.byteLen, pageSize] at *
      omega
    refine ⟨_, h.represents.reserve h.sound hex hpos ⟨fun t ht hsta f hf hmeet => ?_,
      fun t ht hfree => ?_⟩ hins hranges, ?_, fun {f label} hf hsta => ?_⟩
    · -- the frame was reserved by an earlier call
      obtain ⟨r', hr', hcov'⟩ := h.reserved (h.represents.map_eq ht hf) hsta
      have hnew := hcov hmeet
      have hlow : start ≤ f * pageSize := hnew.1
      have hhigh : f * pageSize < start + frameCount.byteLen := hnew.2
      have hlow' := hcov'.1
      have hhigh' := hcov'.2
      have := hdisj r' hr'
      omega
    · rw [hstop]
      exact hsides t ht hfree
    · exact h.sound.mark (fun hfree => by cases hfree) (fun hused => by cases hused)
        fun hne => absurd rfl hne
    · rw [FrameMap.mark] at hf
      split at hf
      next hin => exact ⟨r, by simp [r], hcov hin⟩
      next =>
        obtain ⟨r', hr', hcov'⟩ := h.reserved hf hsta
        exact ⟨r', List.mem_cons_of_mem _ hr', hcov'⟩
  · rw [if_neg hregion] at hcall
    cases hcall
    exact ⟨m, h.represents, h.sound, fun hf hsta => (h.reserved hf hsta).imp
      fun r hr => ⟨List.mem_cons_of_mem _ hr.1, hr.2⟩⟩

lemma ReserveRun.registered (hrun : ReserveRun a reserves a') (h : Registered a m earlier)
  (halign : ∀ r ∈ reserves, r.start % pageSize = 0)
  (hdisj : reserves.Pairwise fun r s => r.stop ≤ s.start ∨ s.stop ≤ r.start)
  (hearl : ∀ r ∈ earlier, ∀ s ∈ reserves, r.stop ≤ s.start ∨ s.stop ≤ r.start) :
  ∃ m' earlier', Registered a' m' earlier' := by
  induction hrun generalizing m earlier with
  | done a => exact ⟨m, earlier, h⟩
  | reserve hsides hcall _ ih =>
    obtain ⟨hhead, hdisj'⟩ := List.pairwise_cons.1 hdisj
    obtain ⟨_, h'⟩ := h.reserve (halign _ List.mem_cons_self)
      (fun r hr => hearl r hr _ List.mem_cons_self) hsides hcall
    refine ih h' (fun r hr => halign r (List.mem_cons_of_mem _ hr)) hdisj' ?_
    intro r hr s hs
    rcases List.mem_cons.1 hr with rfl | hr
    · exact hhead s hs
    · exact hearl r hr s (List.mem_cons_of_mem _ hs)

lemma foldl_apply_free {adds : List Registration} (hfree : ∀ r ∈ adds, r.label.1 = .free)
    {m : FrameMap} {f : ℕ} (hm : ∀ {label}, m f = some label → label.1 = .free)
    {label : FrameLabel} (h : adds.foldl Registration.apply m f = some label) :
    label.1 = .free := by
  induction adds generalizing m with
  | nil => exact hm h
  | cons r _ ih =>
    refine ih (fun s hs => hfree s (List.mem_cons_of_mem _ hs)) (fun {label} hlab => ?_) h
    rw [Registration.apply] at hlab
    split at hlab
    · cases hlab
      exact hfree r List.mem_cons_self
    · exact hm hlab

/-- **The table stays sorted, disjoint and merged** through page-aligned disjoint additions and then
page-aligned disjoint reservations, as long as no free range reaches beyond both ends of a region
when it is reserved. -/
theorem reserved_table_sorted {adds reserves : List Registration} (hadds : WellPlaced adds)
  (hfree : ∀ r ∈ adds, r.label.1 = .free) (hreserves : WellPlaced reserves)
  {a a' : PhysicalFrameAllocator}
  (hadd : adds.foldlM Registration.perform PhysicalFrameAllocator.new = .ok a)
  (hrun : ReserveRun a reserves a') :
  (a'.trackedRanges.Pairwise fun t u => t.region.stop ≤ u.region.start) ∧
  (∀ t ∈ a'.trackedRanges, 0 < t.region.pages) ∧
  a'.trackedRanges.Pairwise fun t u => t.region.stop = u.region.start →
    ¬ (t.state = u.state ∧ t.owner = u.owner) := by
  obtain ⟨hrep, hs⟩ := represents_foldlM hadds represents_new isSound_empty (fun _ _ _ _ => rfl)
    hadd
  have hstart : Registered a (registeredMap adds) [] := by
    refine ⟨hrep, hs, fun {f label} hf hstate => absurd ?_ hstate⟩
    exact foldl_apply_free hfree (fun {label} hnone => by cases hnone) hf
  obtain ⟨m, _, h⟩ := hrun.registered hstart hreserves.aligned hreserves.disjoint (by simp)
  exact ⟨h.represents.pairwise_le, fun t ht => h.represents.sorted.len_pos _ (toRun_mem_runs ht),
    h.represents.pairwise_differ⟩

/-- One frame beside a reserved one. -/
theorem reserved_table_sorted_one_sided :
    ∃ a',
      ReserveRun ⟨[⟨4096, 2⟩], [⟨⟨4096, 2⟩, .free, .free⟩]⟩
        [.reserve 8192 FrameCount.one .kernelImage] a' ∧
      a'.trackedRanges.Pairwise fun t u => t.region.stop ≤ u.region.start := by
  have hrun : ReserveRun ⟨[⟨4096, 2⟩], [⟨⟨4096, 2⟩, .free, .free⟩]⟩
    [.reserve 8192 FrameCount.one .kernelImage]
    ⟨[⟨4096, 2⟩], [⟨⟨4096, 1⟩, .free, .free⟩, ⟨⟨8192, 1⟩, .reserved, .kernelImage⟩]⟩ :=
    .reserve (by decide) (by decide +kernel) (.done _)
  have hadds : WellPlaced [.add 4096 ⟨2, by decide, by decide⟩] :=
    ⟨by decide, List.pairwise_singleton _ _⟩
  have hreserves : WellPlaced [.reserve 8192 FrameCount.one .kernelImage] :=
    ⟨by decide, List.pairwise_singleton _ _⟩
  exact ⟨_, hrun, (reserved_table_sorted hadds (by decide) hreserves (by decide +kernel) hrun).1⟩

/-- Four frames of memory of which the second is reserved: the free range behind it stands in front
of it. -/
theorem split_range_out_of_order :
    ∃ a a',
      [Registration.add 4096 ⟨4, by decide, by decide⟩].foldlM Registration.perform
        PhysicalFrameAllocator.new =
        .ok a ∧
      a.reserveRegionFor 8192 FrameCount.one .kernelImage = .ok a' ∧
      a'.trackedRanges.map (fun t => t.region.start) = [4096, 12288, 8192] ∧
      ¬ a'.trackedRanges.Pairwise fun t u => t.region.stop ≤ u.region.start := by
  refine ⟨⟨[⟨4096, 4⟩], [⟨⟨4096, 4⟩, .free, .free⟩]⟩, ⟨[⟨4096, 4⟩], [⟨⟨4096, 1⟩, .free, .free⟩,
    ⟨⟨12288, 2⟩, .free, .free⟩, ⟨⟨8192, 1⟩, .reserved, .kernelImage⟩]⟩, ?_⟩
  decide +kernel

end ManaOS
