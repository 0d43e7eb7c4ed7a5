/-
The frame map behind the physical frame allocator.

A frame number is mapped to its state and owner, or to nothing.  `Represents` ties a list of
tracked ranges to such a map.

* `Encodes.merge`: the merge pass keeps the map;
* `markRange_spec`: marking a range relabels its frames, or exceeds the capacity.
-/
import ManaOS.Memory.FrameAllocator
import ManaOS.Lib.RunList

namespace ManaOS
open Checked RunList TrackedRange

/-- What the allocator knows of a frame. -/
abbrev FrameLabel := FrameRangeState × FrameRangeOwner

/-- The abstract allocator: what each frame number is labelled with. -/
abbrev FrameMap := ℕ → Option FrameLabel

variable (m : FrameMap)

/-- The map relabelled on `n` frames from `s` on. -/
def FrameMap.mark (s n : ℕ) (label : FrameLabel) : FrameMap :=
  fun f => if s ≤ f ∧ f < s + n then some label else m f

/-- All of `n` frames from `s` on carry the label. -/
def FrameMap.AllLabelled (s n : ℕ) (label : FrameLabel) : Prop :=
  ∀ f, s ≤ f → f < s + n → m f = some label

/-- The number of runs of equally labelled neighbours. -/
noncomputable def FrameMap.runCount : ℕ := {f | IsStart m f}.ncard

/-- The rests that relabelling `n` frames from `s` on leaves of their run. -/
def FrameMap.rests (s n : ℕ) : ℕ :=
  (if 0 < s ∧ m (s - 1) = m s then 1 else 0) + (if m (s + n) = m s then 1 else 0)

lemma FrameMap.rests_le (s n : ℕ) : m.rests s n ≤ 2 := by
  rw [rests]
  split <;> split <;> decide

/-- There is room to track the rests of a relabelling of `n` frames from `s` on. -/
def FrameMap.HasRoom (s n : ℕ) : Prop := m.runCount + m.rests s n ≤ maxTrackedRanges

/-! ### Ranges as runs of frames -/

namespace TrackedRange
variable (t : TrackedRange)

/-- The label of the frames in the range. -/
def label : FrameLabel := (t.state, t.owner)

/-- The range as a run of frame numbers. -/
def toRun : Run FrameLabel := ⟨t.region.start / pageSize, t.region.pages, t.label⟩

@[simp] lemma toRun_start : t.toRun.start = t.region.start / pageSize := rfl

@[simp] lemma toRun_len : t.toRun.len = t.region.pages := rfl

@[simp] lemma toRun_label : t.toRun.label = t.label := rfl

end TrackedRange

/-- A region that starts on a page boundary and whose end fits a word. -/
structure Region.IsExact (r : Region) : Prop where
  aligned : r.start % pageSize = 0
  fits : r.start + r.pages * pageSize < wordSize

namespace Region.IsExact

lemma regionEnd_eq {r : Region} (h : r.IsExact) :
  regionEnd r = some (r.start + r.pages * pageSize) := by
  have hmul : checkedMul r.pages pageSize = some (r.pages * pageSize) :=
    checkedMul_eq_some.mpr ⟨by have := h.fits; omega, rfl⟩
  rw [regionEnd, hmul, Option.bind_some]
  exact checkedAdd_eq_some.mpr ⟨h.fits, rfl⟩

lemma start_eq {r : Region} (h : r.IsExact) : r.start = r.start / pageSize * pageSize := by
  have := h.aligned
  rw [pageSize] at *
  omega

end Region.IsExact

/-- The runs of a list of tracked ranges. -/
def runs (ranges : List TrackedRange) : List (Run FrameLabel) := ranges.map TrackedRange.toRun

@[simp] lemma runs_nil : runs [] = [] := rfl

@[simp] lemma runs_cons (t : TrackedRange) (l : List TrackedRange) :
  runs (t :: l) = t.toRun :: runs l := rfl

@[simp] lemma runs_append (l1 l2 : List TrackedRange) :
  runs (l1 ++ l2) = runs l1 ++ runs l2 := List.map_append ..

variable {l ranges : List TrackedRange} {m : FrameMap}

lemma toRun_mem_runs (h : t ∈ l) : t.toRun ∈ runs l := List.mem_map_of_mem h

lemma regionEnd_eq_start_iff {a b : TrackedRange} (ha : a.region.IsExact) (hb : b.region.IsExact) :
  regionEnd a.region = some b.region.start ↔ a.toRun.stop = b.toRun.start := by
  have h1 := ha.start_eq
  have h2 := hb.start_eq
  rw [ha.regionEnd_eq, Run.stop, toRun_start, toRun_start, toRun_len, Option.some_inj]
  rw [pageSize] at *
  omega

lemma runs_mergeTrackedFrom {c : TrackedRange}
  (hc : c.region.IsExact) (hl : ∀ t ∈ l, t.region.IsExact) :
  runs (mergeTrackedFrom c l) = coalesceFrom c.toRun (runs l) ∧
    ∀ t ∈ mergeTrackedFrom c l, t.region.IsExact := by
  induction l generalizing c with
  | nil => exact ⟨rfl, by simpa [mergeTrackedFrom] using hc⟩
  | cons n l ih =>
    have hn := hl n (by simp)
    have hl' : ∀ t ∈ l, t.region.IsExact := fun t ht => hl t (by simp [ht])
    have htouch := regionEnd_eq_start_iff hc hn
    have hcond : (c.state = n.state ∧ c.owner = n.owner ∧ regionEnd c.region =
      some n.region.start) ↔ (c.toRun.label = n.toRun.label ∧ c.toRun.stop = n.toRun.start) := by
      rw [htouch, toRun_label, toRun_label, label, label, Prod.mk.injEq, and_assoc]
    rw [mergeTrackedFrom, runs_cons, coalesceFrom]
    by_cases h : c.toRun.label = n.toRun.label ∧ c.toRun.stop = n.toRun.start
    · rw [if_pos (hcond.mpr h), if_pos h]
      -- the sum of the page counts stays below a word, so it does not saturate
      have hend := (hcond.mpr h).2.2
      rw [hc.regionEnd_eq, Option.some_inj] at hend
      have hfit := hn.fits
      have hsum : saturatingAdd c.region.pages n.region.pages =
        c.region.pages + n.region.pages := by
        refine saturatingAdd_of_lt ?_
        rw [pageSize] at *
        omega
      rw [hsum]
      refine ih ⟨hc.aligned, ?_⟩ hl'
      simp only [pageSize] at *
      omega
    · rw [if_neg (mt hcond.mp h), if_neg h]
      obtain ⟨h1, h2⟩ := ih hn hl'
      refine ⟨by rw [runs_cons, h1], fun t ht => ?_⟩
      cases List.mem_cons.mp ht with
      | inl heq => exact heq ▸ hc
      | inr ht => exact h2 t ht

lemma runs_mergeAdjacentTrackedRanges (hl : ∀ t ∈ l, t.region.IsExact) :
  runs (mergeAdjacentTrackedRanges l) = coalesce (runs l) ∧
    ∀ t ∈ mergeAdjacentTrackedRanges l, t.region.IsExact := by
  cases l with
  | nil => exact ⟨rfl, by simp [mergeAdjacentTrackedRanges]⟩
  | cons t l => exact runs_mergeTrackedFrom (hl t (by simp)) fun a ha => hl a (by simp [ha])

/-- The ranges are exact, sorted and encode the map. -/
structure Encodes (ranges : List TrackedRange) (m : FrameMap) : Prop where
  exact : ∀ t ∈ ranges, t.region.IsExact
  sorted : IsSorted (runs ranges)
  labelAt_eq : ∀ f, labelAt (runs ranges) f = m f

/-- The ranges are exact, canonical, within capacity, and encode the map. -/
structure Represents (ranges : List TrackedRange) (m : FrameMap) : Prop extends
    Encodes ranges m where
  canonical : IsCanonical (runs ranges)
  length_le : ranges.length ≤ maxTrackedRanges

lemma Represents.runCount_eq (h : Represents ranges m) : m.runCount = ranges.length := by
  have hm : labelAt (runs ranges) = m := funext h.labelAt_eq
  rw [FrameMap.runCount, ← hm, h.canonical.ncard_isStart, runs, List.length_map]

lemma Represents.length_of_not_hasRoom (h : Represents ranges m) (hroom : ¬ m.HasRoom s n) :
  maxTrackedRanges ≤ ranges.length + 1 := by
  have hle := m.rests_le s n
  rw [FrameMap.HasRoom, h.runCount_eq] at hroom
  omega

lemma Encodes.merge (h : Encodes ranges m) (hlen : ranges.length ≤ maxTrackedRanges) :
  Represents (mergeAdjacentTrackedRanges ranges) m := by
  obtain ⟨hruns, hexact⟩ := runs_mergeAdjacentTrackedRanges h.exact
  have hcan : IsCanonical (runs (mergeAdjacentTrackedRanges ranges)) := by
    rw [hruns]
    exact isCanonical_coalesce h.sorted
  refine ⟨⟨hexact, hcan.toIsSorted, fun f => ?_⟩, hcan, ?_⟩
  · rw [hruns, labelAt_coalesce h.sorted, h.labelAt_eq]
  · have hle := length_coalesce_le (runs ranges)
    rw [← hruns, runs, runs, List.length_map, List.length_map] at hle
    omega

/-! ### Marking a region -/

section Mark
variable {eligible : TrackedRange → Bool} {start stop : ℕ}

lemma markScan_eq_found (h : markScan eligible start stop i l = .found index t trackedEnd) :
  ∃ pre post, l = pre ++ t :: post ∧ index = i + pre.length ∧ eligible t = true ∧
    regionEnd t.region = some trackedEnd ∧ t.region.start ≤ start ∧ stop ≤ trackedEnd := by
  induction l generalizing i with
  | nil => simp [markScan] at h
  | cons a l ih =>
    -- skipping `a` moves it into the prefix
    have hskip : markScan eligible start stop (i + 1) l = .found index t trackedEnd →
      ∃ pre post, a :: l = pre ++ t :: post ∧ index = i + pre.length ∧ eligible t = true ∧
        regionEnd t.region = some trackedEnd ∧ t.region.start ≤ start ∧ stop ≤ trackedEnd := by
      intro hrec
      obtain ⟨pre, post, rfl, rfl, hrest⟩ := ih hrec
      exact ⟨a :: pre, post, rfl, by simp only [List.length_cons]; omega, hrest⟩
    rw [markScan] at h
    split at h
    · rename_i ha
      split at h
      · simp at h
      rename_i aEnd haEnd
      split at h
      · exact hskip h
      rename_i hin
      injection h with h1 h2 h3
      subst h1 h2 h3
      exact ⟨[], l, rfl, rfl, ha, haEnd, by omega, by omega⟩
    · exact hskip h

lemma markScan_eq_notFound (hl : ∀ t ∈ l, t.region.IsExact)
    (h : markScan eligible start stop i l = .notFound) :
    ∀ t ∈ l,
      eligible t = true →
      start < t.region.start ∨ t.region.start + t.region.pages * pageSize < stop := by
  induction l generalizing i with
  | nil => simp
  | cons a l ih =>
    have hl' : ∀ t ∈ l, t.region.IsExact := fun t ht => hl t (by simp [ht])
    have haEnd := (hl a (by simp)).regionEnd_eq
    intro t ht helig
    rw [markScan] at h
    by_cases ha : eligible a = true
    · rw [if_pos ha, haEnd] at h
      simp only at h
      split at h
      · rename_i hout
        cases List.mem_cons.mp ht with
        | inl heq => exact heq ▸ hout
        | inr ht => exact ih hl' h t ht helig
      · simp at h
    rw [if_neg ha] at h
    cases List.mem_cons.mp ht with
    | inl heq => exact absurd (heq ▸ helig) ha
    | inr ht => exact ih hl' h t ht helig

/-- The nonempty ones of the three pieces a mark leaves. -/
def markPieces (before marked after : TrackedRange) : List TrackedRange :=
  (if 0 < before.region.pages then [before] else []) ++
    marked :: (if 0 < after.region.pages then [after] else [])

lemma insertTrackedRangeAt_append (pre post : List TrackedRange) (a b : TrackedRange) :
  insertTrackedRangeAt (pre ++ a :: post) (pre.length + 1) b =
    if (pre ++ a :: post).length < maxTrackedRanges then .ok (pre ++ a :: b :: post)
    else .error capacityExhausted := by
  have hidx : (pre ++ a :: post).insertIdx (pre.length + 1) b = pre ++ a :: b :: post := by
    induction pre with
    | nil => rfl
    | cons c pre ih => simpa using ih
  rw [insertTrackedRangeAt]
  by_cases h : (pre ++ a :: post).length < maxTrackedRanges
  · have hle : pre.length + 1 ≤ (pre ++ a :: post).length := by simp
    rw [require_pos h, require_pos hle, if_pos h, hidx]
    rfl
  · rw [require_neg h, if_neg h]
    rfl

lemma placeMarked_append (pre post : List TrackedRange) (t before marked after : TrackedRange)
    (hlen : (pre ++ t :: post).length ≤ maxTrackedRanges) :
    placeMarked (pre ++ t :: post) pre.length before marked after =
      if (pre ++ (markPieces before marked after ++ post)).length ≤ maxTrackedRanges then .ok
        (pre ++ (markPieces before marked after ++ post)) else .error capacityExhausted := by
  have hset : ∀ a : TrackedRange, (pre ++ t :: post).set pre.length a = pre ++ a :: post := by
    intro a
    simp
  simp only [List.length_append, List.length_cons] at hlen
  -- the shapes of a split, by which of the two rests are empty
  by_cases hb : 0 < before.region.pages <;> by_cases ha : 0 < after.region.pages <;>
    simp only [placeMarked, markPieces, hset, hb, ha, if_true, if_false,
      insertTrackedRangeAt_append, List.length_append, List.length_cons, List.cons_append,
      List.nil_append, pure_eq]
  · have hnext := insertTrackedRangeAt_append (pre ++ [before]) post marked after
    simp only [List.append_assoc, List.cons_append, List.nil_append, List.length_append,
      List.length_cons, List.length_nil] at hnext
    by_cases hfit : pre.length + (post.length + 1) < maxTrackedRanges
    · rw [if_pos hfit, ok_bind, hnext]
      refine if_congr ?_ rfl rfl
      omega
    · rw [if_neg hfit, error_bind, if_neg (by omega)]
  · by_cases hfit : pre.length + (post.length + 1) < maxTrackedRanges
    · rw [if_pos hfit, if_pos (by omega), ok_bind]
    · rw [if_neg hfit, if_neg (by omega), error_bind]
  · exact if_congr (by omega) rfl rfl
  · rw [if_pos hlen]

lemma contains_toRun_iff {t : TrackedRange} {region : Region} (ht : t.region.IsExact)
  (hr : region.IsExact) :
  t.toRun.Contains (region.start / pageSize) region.pages ↔ t.region.start ≤ region.start ∧
      region.start + region.pages * pageSize ≤ t.region.start + t.region.pages * pageSize := by
  have h1 := ht.start_eq
  have h2 := hr.start_eq
  rw [Run.Contains, Run.stop, toRun_start, toRun_len]
  rw [pageSize] at *
  omega

lemma mem_markPieces (h : a ∈ markPieces before marked after) :
  a = before ∨ a = marked ∨ a = after := by
  rw [markPieces] at h
  split at h <;> split at h <;> simp at h <;> tauto

/-- What is left of an exact range before an exact region inside it. -/
def restBefore (t : TrackedRange) (region : Region) : TrackedRange :=
  ⟨⟨t.region.start, (region.start - t.region.start) / pageSize⟩, t.state, t.owner⟩

/-- What is left of an exact range after an exact region inside it. -/
def restAfter (t : TrackedRange) (region : Region) : TrackedRange :=
  ⟨⟨region.start + region.pages * pageSize, (t.region.start + t.region.pages *
  pageSize - (region.start + region.pages * pageSize)) / pageSize⟩, t.state, t.owner⟩

section Rests
variable {t : TrackedRange} {region : Region} (ht : t.region.IsExact) (hr : region.IsExact)
include ht hr

lemma isExact_restBefore (hin : t.toRun.Contains (region.start / pageSize) region.pages) :
  (restBefore t region).region.IsExact := by
  obtain ⟨_, _⟩ := (contains_toRun_iff ht hr).mp hin
  have hfits := ht.fits
  have hle := Nat.div_mul_le_self (region.start - t.region.start) pageSize
  refine ⟨ht.aligned, ?_⟩
  simp only [restBefore]
  omega

lemma isExact_restAfter (hin : t.toRun.Contains (region.start / pageSize) region.pages) :
  (restAfter t region).region.IsExact := by
  obtain ⟨hlo, hhi⟩ := (contains_toRun_iff ht hr).mp hin
  have hfits := ht.fits
  have halign := hr.aligned
  simp only [pageSize] at hlo hhi hfits halign
  refine ⟨?_, ?_⟩ <;> simp only [restAfter, pageSize] <;> omega

lemma toRun_restBefore : (restBefore t region).toRun =
  ⟨t.toRun.start, region.start / pageSize - t.toRun.start, t.toRun.label⟩ := by
  have hlen : (region.start - t.region.start) / pageSize =
    region.start / pageSize - t.region.start / pageSize := by
    have h1 := ht.start_eq
    have h2 := hr.start_eq
    rw [pageSize] at *
    omega
  simp [restBefore, toRun, label, hlen]

lemma toRun_restAfter :
    (restAfter t region).toRun =
      ⟨region.start / pageSize + region.pages, t.toRun.stop - (region.start / pageSize +
        region.pages), t.toRun.label⟩ := by
  have h1 := ht.start_eq
  have h2 := hr.start_eq
  have hlen : (t.region.start + t.region.pages * pageSize -
    (region.start + region.pages * pageSize)) / pageSize =
      t.region.start / pageSize + t.region.pages - (region.start / pageSize + region.pages) := by
    rw [pageSize] at *
    omega
  have hst : (region.start + region.pages * pageSize) / pageSize =
    region.start / pageSize + region.pages := by
    rw [pageSize] at *
    omega
  simp [restAfter, toRun, label, Run.stop, hlen, hst]

lemma runs_markPieces (newState : FrameRangeState) (newOwner : FrameRangeOwner) :
  runs (markPieces (restBefore t region) ⟨region, newState, newOwner⟩ (restAfter t region)) =
    cut t.toRun (region.start / pageSize) region.pages (newState, newOwner) := by
  have hb := toRun_restBefore ht hr
  have ha := toRun_restAfter ht hr
  have hb' : 0 < (restBefore t region).region.pages ↔ t.toRun.start < region.start / pageSize := by
    rw [← toRun_len, hb]
    exact tsub_pos_iff_lt
  have ha' : 0 < (restAfter t region).region.pages ↔
    region.start / pageSize + region.pages < t.toRun.stop := by
    rw [← toRun_len, ha]
    exact tsub_pos_iff_lt
  rw [markPieces, cut, runs_append, runs_cons, if_congr hb' rfl rfl, if_congr ha' rfl rfl]
  congr 1
  · rw [apply_ite runs, runs_cons, runs_nil, hb]
  · rw [apply_ite runs, runs_cons, runs_nil, ha]
    rfl

end Rests

lemma length_markPieces {region : Region} (hrep : Represents (pre ++ t :: post) m)
    (hreg : region.IsExact) (hpos : 0 < region.pages)
    (hcon : t.toRun.Contains (region.start / pageSize) region.pages) (newState : FrameRangeState)
    (newOwner : FrameRangeOwner) :
    (pre ++ (markPieces (restBefore t region) ⟨region, newState, newOwner⟩ (restAfter t region) ++
      post)).length =
      m.runCount + m.rests (region.start / pageSize) region.pages := by
  have hmem : t ∈ pre ++ t :: post := by simp
  have hpieces := congrArg List.length
    (runs_markPieces (hrep.exact t hmem) hreg newState newOwner)
  rw [runs, List.length_map, length_cut] at hpieces
  have hcov : t.toRun.Covers (region.start / pageSize) :=
    hcon.covers (Nat.le_refl _) (Nat.lt_add_of_pos_right hpos)
  have hleft := hrep.canonical.start_lt_iff (toRun_mem_runs hmem) hcov
  have hright := hrep.canonical.lt_stop_iff (toRun_mem_runs hmem)
    (Nat.lt_of_le_of_lt hcon.1 (Nat.lt_add_of_pos_right hpos)) hcon.2
  have hlabel : m (region.start / pageSize) = some t.toRun.label := by
    rw [← hrep.labelAt_eq]
    exact hrep.sorted.labelAt_eq_some.mpr ⟨t.toRun, toRun_mem_runs hmem, hcov, rfl⟩
  rw [hrep.labelAt_eq, ← hlabel] at hleft hright
  rw [if_congr hleft rfl rfl, if_congr hright rfl rfl] at hpieces
  rw [FrameMap.rests, hrep.runCount_eq, List.length_append, List.length_append, hpieces,
    List.length_append, List.length_cons]
  omega

/-- A mark relabels its region when all frames carry the kept label and the rests can be tracked,
and changes nothing when some frame does not. -/
lemma markRange_spec {region : Region} (newState : FrameRangeState) (newOwner : FrameRangeOwner)
    (hrep : Represents ranges m) (hreg : region.IsExact) (hpos : 0 < region.pages)
    (helig : ∀ t ∈ ranges, eligible t = true ↔ t.label = (keptState, keptOwner)) :
    (¬ m.AllLabelled (region.start / pageSize) region.pages (keptState, keptOwner) ∧
     markRange eligible keptState keptOwner newState newOwner ranges region = .ok (false, ranges)) ∨
    (m.AllLabelled (region.start / pageSize) region.pages (keptState, keptOwner) ∧
     ((¬ m.HasRoom (region.start / pageSize) region.pages ∧
       markRange eligible keptState keptOwner newState newOwner ranges region =
         .error capacityExhausted) ∨
      m.HasRoom (region.start / pageSize) region.pages ∧
      ∃ ranges',
        markRange eligible keptState keptOwner newState newOwner ranges region =
          .ok (true, ranges') ∧
        Represents ranges'
          (m.mark (region.start / pageSize) region.pages (newState, newOwner)))) := by
  have hstop := hreg.regionEnd_eq
  cases hscan : markScan eligible region.start (region.start + region.pages * pageSize) 0
      ranges with
  | notFound =>
    refine Or.inl ⟨fun hall => ?_, ?_⟩
    · -- one run contains the region, so the scan would have stopped at its range
      have hall' : ∀ f, region.start / pageSize ≤ f → f < region.start / pageSize + region.pages →
          labelAt (runs ranges) f = some (keptState, keptOwner) := by
        intro f h1 h2
        rw [hrep.labelAt_eq]
        exact hall f h1 h2
      obtain ⟨r, hr, hlab, hcon⟩ := hrep.canonical.exists_run_of_forall hpos hall'
      obtain ⟨t, ht, rfl⟩ := List.mem_map.mp hr
      have hout := markScan_eq_notFound hrep.exact hscan t ht ((helig t ht).mpr hlab)
      have hin := (contains_toRun_iff (hrep.exact t ht) hreg).mp hcon
      omega
    · simp only [markRange, hstop, hscan]
  | found _ t trackedEnd =>
    obtain ⟨pre, post, rfl, rfl, ht, hend, hlo, hhi⟩ := markScan_eq_found hscan
    have hmem : t ∈ pre ++ t :: post := by simp
    have hex := hrep.exact t hmem
    obtain rfl : trackedEnd = t.region.start + t.region.pages * pageSize := by
      rw [hex.regionEnd_eq] at hend
      exact (Option.some_inj.mp hend).symm
    have hcon := (contains_toRun_iff hex hreg).mpr ⟨hlo, hhi⟩
    have hlab := (helig t hmem).mp ht
    refine Or.inr ⟨fun f h1 h2 => ?_, ?_⟩
    · rw [← hrep.labelAt_eq]
      exact hrep.sorted.labelAt_eq_some.mpr
        ⟨t.toRun, toRun_mem_runs hmem, hcon.covers h1 h2, hlab⟩
    obtain ⟨rfl, rfl⟩ : t.state = keptState ∧ t.owner = keptOwner := by
      simpa [label] using hlab
    have hruns := runs_markPieces hex hreg newState newOwner
    have hmark : markRange eligible t.state t.owner newState newOwner (pre ++ t :: post)
      region = (placeMarked (pre ++ t :: post) pre.length (restBefore t region)
        ⟨region, newState, newOwner⟩ (restAfter t region)).bind fun ranges =>
          .ok (true, mergeAdjacentTrackedRanges ranges) := by
      rw [Nat.zero_add] at hscan
      simp only [markRange, hstop, hscan]
      rfl
    rw [hmark, placeMarked_append _ _ _ _ _ _ hrep.length_le, length_markPieces hrep hreg hpos hcon]
    split
    · rename_i hfit
      refine Or.inr ⟨hfit, _, rfl, Encodes.merge ⟨fun a ha => ?_, ?_, fun f => ?_⟩ ?_⟩
      · simp only [List.mem_append] at ha
        rcases ha with ha | ha | ha
        · exact hrep.exact a (by simp [ha])
        · rcases mem_markPieces ha with rfl | rfl | rfl
          · exact isExact_restBefore hex hreg hcon
          · exact hreg
          · exact isExact_restAfter hex hreg hcon
        · exact hrep.exact a (by simp [ha])
      · rw [runs_append, runs_append, hruns]
        have hs := hrep.sorted
        rw [runs_append, runs_cons] at hs
        exact hs.cut hcon hpos _
      · have hs := hrep.sorted
        have hl := hrep.labelAt_eq f
        rw [runs_append, runs_cons] at hs hl
        rw [runs_append, runs_append, hruns, hs.labelAt_cut hcon, hl]
        rfl
      · exact (length_markPieces hrep hreg hpos hcon newState newOwner).trans_le hfit
    · rename_i hfit
      exact Or.inl ⟨hfit, rfl⟩

end Mark
end ManaOS
