/-
Registration orders of the frame allocator (`memory/frame_allocator.rs`).

`reserve_region_for` cuts the reserved range out of the free ranges that are there.  A free range
that is registered later, or shares only a part of a frame with it, stays free.

* `allocated_apart_from_reserved` (**reserved bytes**): when allocations stay apart from them;
* `reserved_bytes_allocated`: two orders in which they do not.
-/
import ManaOS.Memory.FrameRefinement

namespace ManaOS
open Checked RunList Option PhysicalFrameAllocator

/-- What a reserved region leaves of a range: a range that is not free, or has no end, stays. -/
def cutFree (reservedStart reservedEnd : ℕ) (tracked : TrackedRange) : List TrackedRange :=
  if tracked.state ≠ .free then [tracked]
  else
    match regionEnd tracked.region with
    | none => [tracked]
    | some trackedEnd =>
      let overlapStart := max tracked.region.start reservedStart
      let overlapEnd := min trackedEnd reservedEnd
      if overlapEnd ≤ overlapStart then [tracked]
      else
        let beforePages := (overlapStart - tracked.region.start) / pageSize
        let afterPages := (trackedEnd - overlapEnd) / pageSize
        (if 0 < beforePages then
          [{ tracked with region := { tracked.region with pages := beforePages } }] else []) ++
        if 0 < afterPages then
          [⟨⟨overlapEnd, afterPages⟩, .free, if 0 < beforePages then .free else tracked.owner⟩]
        else []

section Both
variable {reservedStart reservedEnd trackedEnd : ℕ} {tracked : TrackedRange}
  (done rest : List TrackedRange) (hfree : ¬ tracked.state ≠ .free)
  (hend : regionEnd tracked.region = some trackedEnd)
  (hover : ¬ min trackedEnd reservedEnd ≤ max tracked.region.start reservedStart)
  (hbef : 0 < (max tracked.region.start reservedStart - tracked.region.start) / pageSize)
  (haft : 0 < (trackedEnd - min trackedEnd reservedEnd) / pageSize)
include hfree hend hover hbef haft

lemma cutFree_both : cutFree reservedStart reservedEnd tracked =
  [{ tracked with region := { tracked.region with
      pages := (max tracked.region.start reservedStart - tracked.region.start) / pageSize } },
    ⟨⟨min trackedEnd reservedEnd, (trackedEnd - min trackedEnd reservedEnd) / pageSize⟩,
      .free, .free⟩] := by
  rw [cutFree, if_neg hfree, hend]
  simp only [if_neg hover, if_pos hbef, if_pos haft, List.cons_append, List.nil_append]

lemma removeReservedLoop_both :
  removeReservedLoop reservedStart reservedEnd done (tracked :: rest) =
    if (done ++ tracked :: rest).length < maxTrackedRanges then
      removeReservedLoop reservedStart reservedEnd
        (done ++ [{ tracked with region := { tracked.region with
            pages := (max tracked.region.start reservedStart - tracked.region.start) /
              pageSize } },
          ⟨⟨min trackedEnd reservedEnd, (trackedEnd - min trackedEnd reservedEnd) / pageSize⟩,
            .free, .free⟩]) rest
    else .error capacityExhausted := by
  rw [removeReservedLoop, if_neg hfree, hend]
  simp only [if_neg hover, if_pos (And.intro hbef haft), List.length_append, List.length_cons]
  split
  next hroom => rw [require_pos hroom, ok_bind]
  next hroom => rw [require_neg hroom, error_bind]

end Both

/-- The loop cuts every range, unless the table is full when a range falls into two. -/
lemma removeReservedLoop_eq_flatMap (reservedStart reservedEnd : ℕ) (done : List TrackedRange)
  (rest : List TrackedRange) (hlen : (done ++ rest).length ≤ maxTrackedRanges) :
  removeReservedLoop reservedStart reservedEnd done rest = .error capacityExhausted ∨
    removeReservedLoop reservedStart reservedEnd done rest =
        .ok (done ++ rest.flatMap (cutFree reservedStart reservedEnd)) ∧
      (done ++ rest.flatMap (cutFree reservedStart reservedEnd)).length ≤ maxTrackedRanges := by
  induction rest generalizing done with
  | nil =>
    rw [removeReservedLoop]
    exact .inr ⟨by simp, by simpa using hlen⟩
  | cons tracked rest ih =>
    -- the pieces of a range move to the front, and the loop goes on with the rest
    have hstep : ∀ pieces : List TrackedRange, cutFree reservedStart reservedEnd tracked = pieces →
      (done ++ pieces ++ rest).length ≤ maxTrackedRanges → removeReservedLoop reservedStart
      reservedEnd done (tracked :: rest) = removeReservedLoop reservedStart reservedEnd (done ++
      pieces) rest → removeReservedLoop reservedStart reservedEnd done (tracked :: rest) = .error
      capacityExhausted ∨ removeReservedLoop reservedStart reservedEnd done (tracked :: rest) =
      .ok (done ++ (tracked :: rest).flatMap (cutFree reservedStart reservedEnd)) ∧
      (done ++ (tracked :: rest).flatMap (cutFree reservedStart reservedEnd)).length ≤
      maxTrackedRanges := by
      intro pieces hpieces hfit hturn
      rw [hturn, List.flatMap_cons, hpieces, ← List.append_assoc]
      exact ih (done ++ pieces) hfit
    have hkeep : (done ++ [tracked] ++ rest).length ≤ maxTrackedRanges := by
      simpa using hlen
    by_cases hfree : tracked.state ≠ .free
    · exact hstep [tracked] (by rw [cutFree, if_pos hfree]) hkeep
        (by rw [removeReservedLoop, if_pos hfree])
    cases hend : regionEnd tracked.region with
    | none =>
      exact hstep [tracked] (by rw [cutFree, if_neg hfree, hend]) hkeep
        (by rw [removeReservedLoop, if_neg hfree, hend])
    | some trackedEnd =>
      by_cases hover : min trackedEnd reservedEnd ≤ max tracked.region.start reservedStart
      · exact hstep [tracked] (by rw [cutFree, if_neg hfree, hend]; simp only [if_pos hover])
          hkeep (by rw [removeReservedLoop, if_neg hfree, hend]; simp only [if_pos hover])
      -- the four ways the rests before and after can be empty
      by_cases hbef :
          0 < (max tracked.region.start reservedStart - tracked.region.start) / pageSize <;>
        by_cases haft : 0 < (trackedEnd - min trackedEnd reservedEnd) / pageSize
      · have hloop := removeReservedLoop_both done rest hfree hend hover
          hbef haft
        have hcut := cutFree_both hfree hend hover hbef haft
        split at hloop
        next hroom =>
          refine hstep _ hcut ?_ hloop
          simp only [List.length_append, List.length_cons, List.length_nil] at hroom ⊢
          omega
        next => exact .inl hloop
      · refine hstep [{ tracked with region := { tracked.region with
          pages := (max tracked.region.start reservedStart - tracked.region.start) /
            pageSize } }] ?_ (by simpa using hlen) ?_
        · rw [cutFree, if_neg hfree, hend]
          simp only [if_neg hover, if_pos hbef, if_neg haft, List.append_nil]
        · rw [removeReservedLoop, if_neg hfree, hend]
          simp only [if_neg hover, if_pos hbef, if_neg fun h : _ ∧ _ => haft h.2]
      · refine hstep [{ tracked with region := ⟨min trackedEnd reservedEnd,
          (trackedEnd - min trackedEnd reservedEnd) / pageSize⟩ }] ?_ (by simpa using hlen) ?_
        · rw [cutFree, if_neg hfree, hend]
          simp only [if_neg hover, if_neg hbef, if_pos haft, List.nil_append, not_not.1 hfree]
        · rw [removeReservedLoop, if_neg hfree, hend]
          simp only [if_neg hover, if_neg hbef, if_pos haft, if_neg fun h : _ ∧ _ => hbef h.1]
      · refine hstep [] ?_ ?_ ?_
        · rw [cutFree, if_neg hfree, hend]
          simp only [if_neg hover, if_neg hbef, if_neg haft, List.append_nil]
        · simp only [List.length_append, List.length_cons, List.length_nil] at hlen ⊢
          omega
        · rw [removeReservedLoop, if_neg hfree, hend]
          simp only [if_neg hover, if_neg hbef, if_neg haft, List.append_nil,
            if_neg fun h : _ ∧ _ => hbef h.1]

def Region.Covers (region : Region) (f : ℕ) : Prop :=
  region.start / pageSize ≤ f ∧ f < region.start / pageSize + region.pages

def Region.stop (region : Region) : ℕ := region.start + region.pages * pageSize

/-- A piece of a range, or the range itself. -/
structure Piece (region : Region) (t u : TrackedRange) : Prop where
  exact : u.region.IsExact
  state_eq : u.state = t.state
  owner_eq : u.owner = t.owner ∨ t.state = .free ∧ u.owner = .free
  pos : 0 < t.region.pages → 0 < u.region.pages
  covers : ∀ {f}, u.region.Covers f → t.region.Covers f
  apart : t.state = .free → ∀ {f}, u.region.Covers f → ¬ region.Covers f

lemma mem_cutFree {region : Region} {t : TrackedRange} (ht : t.region.IsExact)
  (hreg : region.IsExact) (hu : u ∈ cutFree region.start region.stop t) : Piece region t u := by
  have hst := ht.start_eq
  have hst' := hreg.start_eq
  have hfits := ht.fits
  have halign := ht.aligned
  have halign' := hreg.aligned
  rw [cutFree, ht.regionEnd_eq] at hu
  by_cases hfree : t.state ≠ .free
  · rw [if_pos hfree] at hu
    obtain rfl := List.mem_singleton.1 hu
    exact ⟨ht, rfl, .inl rfl, id, id, fun h => absurd h hfree⟩
  have hfree' : t.state = .free := not_not.1 hfree
  rw [if_neg hfree] at hu
  simp only at hu
  split at hu
  next hover =>
    obtain rfl := List.mem_singleton.1 hu
    refine ⟨ht, rfl, .inl rfl, id, id, fun _ f hcov hmeets => ?_⟩
    simp only [Region.Covers, Region.stop, pageSize] at *
    omega
  next _ =>
    rcases List.mem_append.1 hu with hu | hu
    · -- the rest before the reserved region
      split at hu
      next hpos =>
        rw [List.mem_singleton] at hu
        rw [hu]
        refine ⟨⟨halign, Nat.lt_of_le_of_lt ?_ hfits⟩, rfl, .inl rfl, fun _ => hpos,
          fun hcov => ?_, fun _ f hcov hmeets => ?_⟩
        all_goals
          clear hfits
          simp only [Region.Covers, Region.stop, pageSize] at *
          omega
      next => simp at hu
    -- the rest after it
    split at hu
    next hpos =>
      rw [List.mem_singleton] at hu
      rw [hu]
      refine ⟨⟨?_, Nat.lt_of_le_of_lt ?_ hfits⟩, hfree'.symm, ?_, fun _ => hpos,
        fun hcov => ?_, fun _ f hcov hmeets => ?_⟩
      on_goal 3 =>
        split
        · exact .inr ⟨hfree', rfl⟩
        · exact .inl rfl
      all_goals
        clear hfits
        simp only [Region.Covers, Region.stop, pageSize] at *
        omega
    next => simp at hu

lemma exists_mem_cutFree {region : Region} {t : TrackedRange} (ht : t.region.IsExact)
  (hreg : region.IsExact) (hf : t.region.Covers f) (hout : t.state = .free → ¬ region.Covers f) :
  ∃ u ∈ cutFree region.start region.stop t, u.region.Covers f := by
  have hst := ht.start_eq
  have hst' := hreg.start_eq
  rw [cutFree, ht.regionEnd_eq]
  by_cases hfree : t.state ≠ .free
  · rw [if_pos hfree]
    exact ⟨t, by simp, hf⟩
  have hout := hout (not_not.1 hfree)
  rw [if_neg hfree]
  simp only
  split
  next hover => exact ⟨t, by simp, hf⟩
  next _ =>
    by_cases hside : f < region.start / pageSize
    · refine ⟨{ t with region := { t.region with pages :=
        (max t.region.start region.start - t.region.start) / pageSize } }, ?_, ?_⟩
      · rw [if_pos]
        · simp
        · simp only [Region.Covers, Region.stop, pageSize] at *
          omega
      · simp only [Region.Covers, Region.stop, pageSize] at *
        omega
    have hpos : 0 < (t.region.start + t.region.pages * pageSize -
      min (t.region.start + t.region.pages * pageSize) region.stop) / pageSize := by
      simp only [Region.Covers, Region.stop, pageSize] at *
      omega
    rw [if_pos hpos]
    refine ⟨_, List.mem_append_right _ (List.mem_singleton_self _), ?_⟩
    simp only [Region.Covers, Region.stop, pageSize] at *
    omega

/-! ### Tables whose free and used ranges lie in a set of frames -/

/-- Where the ranges of each state may lie. -/
def bounds (free used : Set ℕ) : FrameRangeState → Set ℕ
  | .reserved => Set.univ
  | .free => free
  | .used => used

/-- The ranges are exact, within capacity, and cover allowed frames only, in any order. -/
structure Within (allowed : FrameRangeState → Set ℕ) (ranges : List TrackedRange) : Prop where
  exact : ∀ t ∈ ranges, t.region.IsExact
  covers : ∀ t ∈ ranges, ∀ {f}, t.region.Covers f → f ∈ allowed t.state
  length_le : ranges.length ≤ maxTrackedRanges

section Within
variable {allowed allowed' : FrameRangeState → Set ℕ} {region : Region}

lemma Within.mono (h : Within allowed ranges) (hsub : ∀ state, allowed state ⊆ allowed' state) :
  Within allowed' ranges := ⟨h.exact, fun t ht _ hf => hsub _ (h.covers t ht hf), h.length_le⟩

lemma Within.merge (h : Within allowed ranges) :
  Within allowed (mergeAdjacentTrackedRanges ranges) := by
  obtain ⟨hruns, hex⟩ := runs_mergeAdjacentTrackedRanges h.exact
  refine ⟨hex, fun t ht f hf => ?_, ?_⟩
  · have hmem := toRun_mem_runs ht
    rw [hruns] at hmem
    obtain ⟨a, ha, hlab, hcov⟩ := exists_of_mem_coalesce hmem hf
    obtain ⟨u, hu, rfl⟩ := List.mem_map.1 ha
    have hsta : u.state = t.state := congrArg Prod.fst hlab
    exact hsta ▸ h.covers u hu hcov
  · have hle := length_coalesce_le (runs ranges)
    rw [← hruns, runs, runs, List.length_map, List.length_map] at hle
    exact hle.trans h.length_le

lemma Within.insert (h : Within allowed ranges)
  (hreg : region.IsExact) (hcall : insertTrackedRange ranges region state owner = .ok ranges')
  (hregion : ∀ {f}, region.Covers f → f ∈ allowed state) : Within allowed ranges' := by
  rw [insertTrackedRange] at hcall
  split at hcall
  · cases hcall
    exact h
  obtain ⟨_, hins, hcall⟩ := bind_eq_ok.1 hcall
  cases hcall
  obtain ⟨_, hroom, hins⟩ := bind_eq_ok.1 hins
  obtain ⟨_, -, hins⟩ := bind_eq_ok.1 hins
  cases hins
  have hroom : ranges.length < maxTrackedRanges := of_decide_eq_true (require_eq_ok.1 hroom)
  refine Within.merge ⟨fun t ht => ?_, fun t ht f hf => ?_, ?_⟩
  · rcases List.eq_or_mem_of_mem_insertIdx ht with rfl | ht
    · exact hreg
    · exact h.exact t ht
  · rcases List.eq_or_mem_of_mem_insertIdx ht with rfl | ht
    · exact hregion hf
    · exact h.covers t ht hf
  · rw [List.length_insertIdx_of_le_length (insertionIndex_le _ _ _)]
    exact hroom

lemma Within.cut (h : Within (bounds free used) ranges) (hreg : region.IsExact)
  (hcall : removeReservedRegionFromFreeRanges ranges region = .ok ranges') :
  Within (bounds (free \ {f | region.Covers f}) used) ranges' := by
  rw [removeReservedRegionFromFreeRanges, hreg.regionEnd_eq] at hcall
  obtain ⟨_, hpieces, hcall⟩ := bind_eq_ok.1 hcall
  cases hcall
  rcases removeReservedLoop_eq_flatMap region.start (region.start + region.pages * pageSize) []
    ranges h.length_le with
    herr | ⟨hok, hlen⟩
  · rw [herr] at hpieces
    cases hpieces
  rw [hok] at hpieces
  cases hpieces
  rw [List.nil_append] at hlen ⊢
  have hpiece : ∀ u ∈ ranges.flatMap (cutFree region.start region.stop),
    ∃ t ∈ ranges, Piece region t u := by
    intro u hu
    obtain ⟨t, ht, hu⟩ := List.mem_flatMap.1 hu
    exact ⟨t, ht, mem_cutFree (h.exact t ht) hreg hu⟩
  refine Within.merge ⟨fun u hu => ?_, fun u hu f hf => ?_, hlen⟩
  · obtain ⟨t, -, hpiece⟩ := hpiece u hu
    exact hpiece.exact
  obtain ⟨t, ht, hpiece⟩ := hpiece u hu
  have hmem := h.covers t ht (hpiece.covers hf)
  have hapart : t.state = .free → ¬ region.Covers f := fun hfree => hpiece.apart hfree hf
  rw [hpiece.state_eq]
  cases hsta : t.state with
  | reserved => trivial
  | free =>
    rw [hsta] at hmem
    exact ⟨hmem, hapart hsta⟩
  | used =>
    rw [hsta] at hmem
    exact hmem

lemma Within.markRange {eligible : TrackedRange → Bool} (frames : Set ℕ)
  (h : Within allowed ranges) (hreg : region.IsExact)
  (heligible : ∀ t, eligible t = true → allowed t.state = frames)
  (hkept : allowed keptState = frames) (hnew : allowed newState = frames)
  (hcall : markRange eligible keptState keptOwner newState newOwner ranges region =
    .ok (marked, ranges')) :
  Within allowed ranges' ∧ (marked = true → ∀ {f}, region.Covers f → f ∈ frames) := by
  rw [ManaOS.markRange, hreg.regionEnd_eq] at hcall
  simp only at hcall
  cases hscan : markScan eligible region.start (region.start + region.pages * pageSize) 0
      ranges with
  | notFound =>
    rw [hscan] at hcall
    cases hcall
    exact ⟨h, fun hfalse => by cases hfalse⟩
  | found _ t _ =>
    rw [hscan] at hcall
    obtain ⟨pre, post, rfl, rfl, ht, hend, hlo, hhi⟩ := markScan_eq_found hscan
    have hmem : t ∈ pre ++ t :: post := by simp
    have hex := h.exact t hmem
    rw [hex.regionEnd_eq, some_inj] at hend
    subst hend
    have hopen : ∀ {f}, t.region.Covers f → f ∈ frames := fun hf =>
      heligible t ht ▸ h.covers t hmem hf
    have hcon := (contains_toRun_iff hex hreg).2 ⟨hlo, hhi⟩
    have hsub : ∀ {f}, region.Covers f → t.region.Covers f := fun hf => hcon.covers hf.1 hf.2
    have hbef := isExact_restBefore hex hreg hcon
    have haft := isExact_restAfter hex hreg hcon
    obtain ⟨_, hpl, hcall⟩ := bind_eq_ok.1 hcall
    cases hcall
    rw [Nat.zero_add, placeMarked_append _ _ _ _ _ _ h.length_le] at hpl
    split at hpl
    on_goal 2 => cases hpl
    next hfit =>
    cases hpl
    refine ⟨Within.merge ⟨fun u hu => ?_, fun u hu f hf => ?_, hfit⟩, fun _ _ hf => hopen (hsub hf)⟩
    · simp only [List.mem_append] at hu
      rcases hu with hu | hu | hu
      · exact h.exact u (by simp [hu])
      · rcases mem_markPieces hu with rfl | rfl | rfl
        · exact hbef
        · exact hreg
        · exact haft
      · exact h.exact u (by simp [hu])
    simp only [List.mem_append] at hu
    rcases hu with hu | hu | hu
    · exact h.covers u (by simp [hu]) hf
    · -- the three pieces lie in the range that was found
      rcases mem_markPieces hu with rfl | rfl | rfl
      · rw [hkept]
        refine hopen ?_
        simp only [Region.Covers, pageSize] at *
        omega
      · rw [hnew]
        exact hopen (hsub hf)
      rw [hkept]
      refine hopen ?_
      simp only [Region.Covers, pageSize] at *
      omega
    · exact h.covers u (by simp [hu]) hf

end Within

/-! ### Registrations in any order -/

/-- Normalization leaves the frames that lie in the registered bytes as a whole. -/
lemma normalizeFrom_some (h : normalizeFrom lowest start frameCount = some region) :
  region.IsExact ∧ start + frameCount.byteLen < wordSize ∧ ∀ f, region.Covers f ↔
      lowest ≤ f * pageSize ∧ (f + 1) * pageSize ≤ start + frameCount.byteLen := by
  obtain ⟨_, hstop, h⟩ := bind_eq_some_iff.1 h
  obtain ⟨_, halign, h⟩ := bind_eq_some_iff.1 h
  obtain ⟨hfits, rfl⟩ := checkedAdd_eq_some.1 hstop
  obtain ⟨_, hmask, halign⟩ := bind_eq_some_iff.1 halign
  obtain ⟨-, rfl⟩ := checkedSub_eq_some.1 hmask
  obtain ⟨_, hraised, rfl⟩ := map_eq_some_iff.1 halign
  obtain ⟨-, rfl⟩ := checkedAdd_eq_some.1 hraised
  split at h
  next => cases h
  next _ =>
    cases h
    refine ⟨⟨Nat.mul_mod_left _ _, Nat.lt_of_le_of_lt ?_ hfits⟩, hfits, fun f => ?_⟩
    all_goals
      clear hfits hstop hraised
      generalize frameCount.byteLen = bytes at *
      simp only [Region.Covers, alignDown, pageSize] at *
      omega

lemma normalizeFrom_none (h : normalizeFrom lowest start frameCount = none)
  (hfits : start + frameCount.byteLen < wordSize) (f : ℕ) :
  ¬ (lowest ≤ f * pageSize ∧ (f + 1) * pageSize ≤ start + frameCount.byteLen) := by
  rintro ⟨_, _⟩
  have hraised : lowest + (pageSize - 1) < wordSize := by
    refine Nat.lt_of_le_of_lt ?_ hfits
    simp only [pageSize] at *
    omega
  rw [normalizeFrom, checkedAdd_eq_some.2 ⟨hfits, rfl⟩, bind_some, alignUp,
    checkedSub_eq_some.2 ⟨by decide, rfl⟩, bind_some,
    checkedAdd_eq_some.2 ⟨hraised, rfl⟩, map_some, bind_some, if_neg] at h
  · cases h
  · clear hfits hraised h
    simp only [alignDown, pageSize] at *
    omega

namespace Registration

/-- The frame has a byte in common with the registered region. -/
def Touches (r : Registration) (f : ℕ) : Prop :=
  r.start < (f + 1) * pageSize ∧ f * pageSize < r.stop

/-- The frame lies in the registered region as a whole, and the end of the region fits a word. -/
def Encloses (r : Registration) (f : ℕ) : Prop :=
  r.stop < wordSize ∧ r.start ≤ f * pageSize ∧ (f + 1) * pageSize ≤ r.stop

/-- The frames that are free after one more registration. -/
def freeAfter (frames : Set ℕ) : Registration → Set ℕ
  | add start frameCount => frames ∪ {f | f ≠ 0 ∧ (add start frameCount).Encloses f}
  | reserve start frameCount owner => frames \ {f | (reserve start frameCount owner).Encloses f}

lemma within_perform {a : PhysicalFrameAllocator} (r : Registration)
  (h : Within (bounds free ∅) a.trackedRanges) (hcall : r.perform a = .ok a') :
  Within (bounds (r.freeAfter free) ∅) a'.trackedRanges := by
  cases r with
  | add start frameCount =>
    have hmono : Within (bounds ((add start frameCount).freeAfter free) ∅) a.trackedRanges :=
      h.mono fun state => by
        cases state with
        | free => exact Set.subset_union_left
        | reserved => exact Set.Subset.refl _
        | used => exact Set.Subset.refl _
    rw [perform, addRegion] at hcall
    split at hcall
    · cases hcall
      exact hmono
    next region hreg =>
    obtain ⟨ranges, hranges, hcall⟩ := bind_eq_ok.1 hcall
    cases hcall
    obtain ⟨hex, hfits, hcov⟩ := normalizeFrom_some hreg
    refine hmono.insert hex hranges fun {f} hf => .inr ?_
    obtain ⟨hlow, hhigh⟩ := (hcov f).1 hf
    refine ⟨?_, hfits, (Nat.le_max_left _ _).trans hlow, hhigh⟩
    rintro rfl
    simp [pageSize] at hlow
  | reserve start frameCount _ =>
    rw [perform, reserveRegionFor] at hcall
    split at hcall
    · next hreg =>
      cases hcall
      refine ⟨h.exact, fun t ht f hf => ?_, h.length_le⟩
      have hmem := h.covers t ht hf
      cases hsta : t.state with
      | reserved => trivial
      | used => rwa [hsta] at hmem
      | free =>
        rw [hsta] at hmem
        exact ⟨hmem, fun henc => normalizeFrom_none hreg henc.1 f henc.2⟩
    next _ hreg =>
    obtain ⟨_, hranges, hcall⟩ := bind_eq_ok.1 hcall
    obtain ⟨_, hranges', hcall⟩ := bind_eq_ok.1 hcall
    cases hcall
    obtain ⟨hex, _, hcov⟩ := normalizeFrom_some hreg
    refine ((h.insert hex hranges fun _ => trivial).cut hex hranges').mono
      fun state => ?_
    cases state with
    | free => exact Set.sdiff_subset_sdiff_right fun f henc => (hcov f).2 henc.2
    | reserved => exact Set.Subset.refl _
    | used => exact Set.Subset.refl _

end Registration

/-- The frames that registrations leave free: inside an added region as a whole, not so inside one
reserved later. -/
def freeFrames (regs : List Registration) : Set ℕ := regs.foldl Registration.freeAfter ∅

lemma within_foldlM {a : PhysicalFrameAllocator} {regs : List Registration}
  (h : Within (bounds free ∅) a.trackedRanges)
  (hcall : regs.foldlM Registration.perform a = .ok a') :
  Within (bounds (regs.foldl Registration.freeAfter free) ∅) a'.trackedRanges := by
  induction regs generalizing free a with
  | nil =>
    cases hcall
    exact h
  | cons r _ ih =>
    rw [List.foldlM_cons] at hcall
    obtain ⟨b, hb, hcall⟩ := bind_eq_ok.1 hcall
    exact ih (r.within_perform h hb) hcall

/-! ### Allocations and frees -/

section Calls
variable {a : PhysicalFrameAllocator}

lemma Within.allocateFramesLoop (h : Within (bounds frames frames) ranges)
    (hrest : ∀ t ∈ rest, t ∈ ranges)
    (hcall : allocateFramesLoop ranges frameCount owner rest = .ok (range, ranges')) :
    Within (bounds frames frames) ranges' ∧
    ∀ r, range = some r → ∀ {f}, r.Covers f → f ∈ frames := by
  induction rest with
  | nil =>
    cases hcall
    exact ⟨h, fun r hr => nomatch hr⟩
  | cons tracked rest ih =>
    have hrest' : ∀ t ∈ rest, t ∈ ranges := fun t ht => hrest t (by simp [ht])
    rw [ManaOS.allocateFramesLoop] at hcall
    split at hcall
    · exact ih hrest' hcall
    next hlarge =>
    obtain ⟨⟨marked, _⟩, hmarked, hcall⟩ := bind_eq_ok.1 hcall
    have htracked := h.exact tracked (hrest tracked (by simp))
    have hex : Region.IsExact ⟨tracked.region.start, frameCount.asU64⟩ := by
      refine ⟨htracked.aligned, Nat.lt_of_le_of_lt ?_ htracked.fits⟩
      have hle : frameCount.asU64 ≤ tracked.region.pages := by
        by_contra hlt
        exact hlarge (.inr (Nat.not_le.1 hlt))
      exact Nat.add_le_add_left (Nat.mul_le_mul_right _ hle) _
    obtain ⟨hwin, hcov⟩ := h.markRange frames hex
      (fun t ht => by rw [eq_of_beq ht]; rfl) rfl rfl hmarked
    cases marked with
    | true =>
      obtain ⟨_, hst, hcall⟩ := bind_eq_ok.1 hcall
      cases hcall
      refine ⟨hwin, fun r hr f hf => hcov rfl ?_⟩
      rw [PhysicalFrameRange.new] at hr
      split_ifs at hr
      cases hr
      rw [expect_eq_ok, PhysicalFrameStart.new] at hst
      split_ifs at hst
      cases hst
      exact hf
    | false => exact ih hrest' hcall

lemma Within.allocateFramesFor (h : Within (bounds frames frames) a.trackedRanges)
  (hcall : a.allocateFramesFor frameCount owner = .ok (range, a')) :
  Within (bounds frames frames) a'.trackedRanges ∧
    ∀ r, range = some r → ∀ {f}, r.Covers f → f ∈ frames := by
  obtain ⟨_, -, hcall⟩ := bind_eq_ok.1 hcall
  obtain ⟨_, hloop, hcall⟩ := bind_eq_ok.1 hcall
  cases hcall
  exact h.allocateFramesLoop (fun _ ht => ht) hloop

lemma Within.freeFramesFor (h : Within (bounds frames frames) a.trackedRanges)
  (hcall : a.freeFramesFor range owner = .ok (freed, a')) :
  Within (bounds frames frames) a'.trackedRanges := by
  rw [PhysicalFrameAllocator.freeFramesFor] at hcall
  split at hcall
  · cases hcall
    exact h
  obtain ⟨_, hmark, hcall⟩ := bind_eq_ok.1 hcall
  cases hcall
  refine (h.markRange frames ⟨range.start.aligned, range.fits⟩ (fun t ht => ?_) rfl rfl hmark).1
  rw [Bool.and_eq_true] at ht
  rw [eq_of_beq ht.1]
  rfl

lemma Reached.within (h : Reached regs trace a) :
    Within (bounds (freeFrames regs) (freeFrames regs)) a.trackedRanges ∧
    ∀ call range,
      (call, .allocated (some range)) ∈ trace → ∀ {f}, range.Covers f → f ∈ freeFrames regs := by
  induction h with
  | registered hregs =>
    have hnew : Within (bounds ∅ ∅) new.trackedRanges :=
      ⟨by simp [new], by simp [new], by decide⟩
    refine ⟨(within_foldlM hnew hregs).mono fun state => ?_, by simp⟩
    cases state with
    | used => exact Set.empty_subset _
    | free => exact Set.Subset.refl _
    | reserved => exact Set.Subset.refl _
  | called _ hcall ih =>
    rename_i trace b b' call reply _
    obtain ⟨hwin, hold⟩ := ih
    -- the frames of the last reply lie in the same set
    have hlast : Within (bounds (freeFrames regs) (freeFrames regs)) b'.trackedRanges ∧
      ∀ range, reply = .allocated (some range) → ∀ {f}, range.Covers f → f ∈ freeFrames regs := by
      cases call with
      | allocate _ owner =>
        obtain ⟨result, hres, hcall⟩ := bind_eq_ok.1 hcall
        cases hcall
        obtain ⟨hwin', hrg⟩ := hwin.allocateFramesFor hres
        exact ⟨hwin', fun range heq => hrg range (FrameReply.allocated.inj heq)⟩
      | free range _ =>
        obtain ⟨_, hres, hcall⟩ := bind_eq_ok.1 hcall
        cases hcall
        exact ⟨hwin.freeFramesFor hres, fun range heq => by cases heq⟩
    refine ⟨hlast.1, fun call' range hmem => ?_⟩
    rcases List.mem_append.1 hmem with hmem | hmem
    · exact hold call' range hmem
    · cases List.mem_singleton.1 hmem
      exact hlast.2 range rfl

end Calls

lemma apart_of_not_touches {r : Registration} (halign : start % pageSize = 0) (hpos : 0 < pages)
  (h : ∀ f, start / pageSize ≤ f → f < start / pageSize + pages → ¬ r.Touches f) :
  start + pages * pageSize ≤ r.start ∨ r.stop ≤ start := by
  by_contra hmeet
  have hlt := r.start_lt_stop
  -- the frame of the first common byte
  refine h (max start r.start / pageSize) ?_ ?_ ⟨?_, ?_⟩
  all_goals
    clear h
    generalize r.start = first at *
    generalize r.stop = stop at *
    simp only [pageSize] at *
    omega

/-- **Allocations stay apart from reserved bytes**, where every frame of an added region that some
reserved region touches lies in a region reserved later as a whole. -/
theorem allocated_apart_from_reserved {regs : List Registration}
  (hregs : ∀ f ∈ freeFrames regs, ∀ r ∈ regs, r.label.1 = .reserved → ¬ r.Touches f)
  {trace : List (FrameCall × FrameReply)} {a : PhysicalFrameAllocator}
  (h : Reached regs trace a) :
  (∀ call range, (call, .allocated (some range)) ∈ trace → ∀ r ∈ regs, r.label.1 = .reserved →
      range.start.asAddress + range.frameCount.byteLen ≤ r.start ∨ r.stop ≤ range.start.asAddress) ∧
  ∀ t ∈ a.trackedRanges, t.state = .used → ∀ f, t.region.Covers f →
    ∀ r ∈ regs, r.label.1 = .reserved → ¬ r.Touches f := by
  obtain ⟨hwithin, hallocated⟩ := h.within
  refine ⟨fun call range hmem r hr hreserved => ?_, fun t ht hused f hf r hr hreserved => ?_⟩
  · exact apart_of_not_touches range.start.aligned range.frameCount.pos fun f hlow hhigh =>
      hregs f (hallocated call range hmem ⟨hlow, hhigh⟩) r hr hreserved
  · have hmem := hwithin.covers t ht hf
    rw [hused] at hmem
    exact hregs f hmem r hr hreserved

def firstFrameAllocated : FrameCall × FrameReply :=
  (.allocate FrameCount.one .userHeap,
    .allocated (some ⟨⟨4096, by decide⟩, FrameCount.one, by decide⟩))

/-- Two frames of memory of which the second is reserved. -/
def secondFrameReserved : List Registration :=
  [.add 4096 ⟨2, by decide, by decide⟩, .reserve 8192 FrameCount.one .kernelImage]

lemma freeFrames_secondFrameReserved (hf : f ∈ freeFrames secondFrameReserved) : f = 1 := by
  obtain ⟨hadded, hkept⟩ := hf
  rcases hadded with hempty | ⟨-, -, hlow, hhigh⟩
  · exact absurd hempty (Set.notMem_empty f)
  have hne : f ≠ 2 := by
    rintro rfl
    exact hkept ⟨by decide, by decide, by decide⟩
  simp only [Registration.start, Registration.stop, Registration.frameCount,
    FrameCount.byteLen, pageSize] at hlow hhigh
  omega

/-- The frame beside the reserved one is allocated. -/
theorem allocated_apart_from_second_frame : ∃ a, Reached secondFrameReserved [firstFrameAllocated]
  a ∧ ∀ r ∈ secondFrameReserved, r.label.1 = .reserved → 8192 ≤ r.start ∨ r.stop ≤ 4096 := by
  have hreached : Reached secondFrameReserved [firstFrameAllocated]
    ⟨[⟨4096, 2⟩], [⟨⟨4096, 1⟩, .used, .userHeap⟩, ⟨⟨8192, 1⟩, .reserved, .kernelImage⟩]⟩ :=
    Reached.called (Reached.registered
      (a := ⟨[⟨4096, 2⟩], [⟨⟨4096, 1⟩, .free, .free⟩, ⟨⟨8192, 1⟩, .reserved, .kernelImage⟩]⟩)
      (by decide +kernel)) (by decide +kernel)
  refine ⟨_, hreached, (allocated_apart_from_reserved (fun f hf r hr hreserved => ?_)
    hreached).1 _ _ (List.mem_singleton_self _)⟩
  rw [freeFrames_secondFrameReserved hf]
  rcases List.mem_cons.1 hr with rfl | hr
  · cases hreserved
  · obtain rfl := List.mem_singleton.1 hr
    exact fun htouches => absurd htouches.1 (by decide)

/-- Two frames of memory and a reserved page that starts one byte into the first. -/
def unalignedReserve : List Registration :=
  [.add 4096 ⟨2, by decide, by decide⟩, .reserve 4097 FrameCount.one .kernelImage]

/-- A frame that is reserved before the memory it lies in is added. -/
def reserveBeforeAdd : List Registration :=
  [.reserve 4096 FrameCount.one .kernelImage, .add 4096 FrameCount.one]

/-- An unaligned reservation keeps no frame, and a reservation is lost when its memory is added
later: in both cases the reserved bytes are handed out. -/
theorem reserved_bytes_allocated : (∃ a, Reached unalignedReserve [firstFrameAllocated] a) ∧
  (∃ r ∈ unalignedReserve, r.label.1 = .reserved ∧ r.start < 8192 ∧ 4096 < r.stop) ∧
  (∃ a, Reached reserveBeforeAdd [firstFrameAllocated] a) ∧
  ∃ r ∈ reserveBeforeAdd, r.label.1 = .reserved ∧ r.start < 8192 ∧ 4096 < r.stop := by
  refine ⟨⟨⟨[⟨4096, 2⟩], [⟨⟨4096, 1⟩, .used, .userHeap⟩, ⟨⟨8192, 1⟩, .free, .free⟩]⟩, ?_⟩,
    by decide, ⟨⟨[⟨4096, 1⟩], [⟨⟨4096, 1⟩, .used, .userHeap⟩,
      ⟨⟨4096, 1⟩, .reserved, .kernelImage⟩]⟩, ?_⟩, by decide⟩
  · exact Reached.called (Reached.registered
      (a := ⟨[⟨4096, 2⟩], [⟨⟨4096, 2⟩, .free, .free⟩]⟩) (by decide +kernel)) (by decide +kernel)
  · exact Reached.called (Reached.registered
      (a := ⟨[⟨4096, 1⟩], [⟨⟨4096, 1⟩, .free, .free⟩, ⟨⟨4096, 1⟩, .reserved, .kernelImage⟩]⟩)
      (by decide +kernel)) (by decide +kernel)

end ManaOS
