/-
What each operation of the frame allocator does to the frame map.

* `FrameMap.IsSound`: what holds of every map the allocator can represent;
* `freeFramesFor_spec`: a free succeeds exactly on frames used by its owner;
* `Registration.perform_spec`: a registration labels its frames.
-/
import ManaOS.Memory.FrameMap

namespace ManaOS
open Checked RunList Option

/-- Frame labels the allocator can produce. -/
structure FrameMap.IsSound (m : FrameMap) : Prop where
  free_owner : ∀ f o, m f = some (.free, o) → o = .free
  used_owner : ∀ f o, m f = some (.used, o) → o ≠ .free
  zero : ∀ s o, m 0 = some (s, o) → s = .reserved

namespace FrameMap

def IsFree (m : FrameMap) (f : ℕ) : Prop := ∃ o, m f = some (.free, o)

/-- The frame is handed out to the owner. -/
def IsUsedBy (m : FrameMap) (owner : FrameRangeOwner) (f : ℕ) : Prop := m f = some (.used, owner)

def IsReserved (m : FrameMap) (f : ℕ) : Prop := ∃ o, m f = some (.reserved, o)

/-- `n` consecutive free frames from `s` on. -/
def FreeRun (m : FrameMap) (s n : ℕ) : Prop := ∀ f, s ≤ f → f < s + n → m.IsFree f

/-- The lowest run of `n` free frames starts at `s`. -/
structure FirstFit (m : FrameMap) (n s : ℕ) : Prop where
  free : m.FreeRun s n
  least : ∀ t, m.FreeRun t n → s ≤ t

lemma FirstFit.unique {m : FrameMap} (hs : m.FirstFit n s) (ht : m.FirstFit n t) : s = t :=
  Nat.le_antisymm (hs.least t ht.free) (ht.least s hs.free)

lemma FirstFit.isFree {m : FrameMap} (h : m.FirstFit 1 s) : m.IsFree s :=
  h.free s (Nat.le_refl s) (Nat.lt_succ_self s)

lemma IsSound.isFree_iff {m : FrameMap} (h : m.IsSound) :
  m.IsFree f ↔ m f = some (.free, .free) := by
  refine ⟨fun ⟨o, ho⟩ => ?_, fun ho => ⟨_, ho⟩⟩
  rw [ho, h.free_owner f o ho]

lemma IsSound.freeRun_iff {m : FrameMap} (h : m.IsSound) : m.FreeRun s n ↔ m.AllLabelled s n (.free,
  .free) := forall_congr' fun _ => imp_congr_right fun _ => imp_congr_right fun _ => h.isFree_iff

lemma IsSound.start_pos {m : FrameMap} (h : m.IsSound) (hn : 0 < n) (hrun : m.FreeRun s n) :
  0 < s := by
  by_contra hs
  obtain ⟨o, ho⟩ := hrun 0 (by omega) (by omega)
  exact absurd (h.zero _ _ ho) (by simp)

/-- Relabelling keeps a map sound when the new label is fit for frames other than
zero, or reserves. -/
lemma IsSound.mark {m : FrameMap} (h : m.IsSound) (hfree : state = .free → owner = .free)
  (hused : state = .used → owner ≠ .free) (hzero : state ≠ .reserved → 0 < s) :
  (m.mark s n (state, owner)).IsSound := by
  refine ⟨fun f o ho => ?_, fun f o ho => ?_, fun st o ho => ?_⟩ <;> rw [FrameMap.mark] at ho <;>
    split at ho
  · simp only [some_inj, Prod.mk.injEq] at ho
    exact ho.2 ▸ hfree ho.1
  · exact h.free_owner f o ho
  · simp only [some_inj, Prod.mk.injEq] at ho
    exact ho.2 ▸ hused ho.1
  · exact h.used_owner f o ho
  · rename_i hin
    simp only [some_inj, Prod.mk.injEq] at ho
    by_contra hst
    have := hzero (ho.1 ▸ hst)
    omega
  · exact h.zero st o ho

end FrameMap

variable {t : TrackedRange}

lemma Represents.map_eq (h : Represents ranges m) (ht : t ∈ ranges) (hf : t.toRun.Covers f) :
  m f = some t.label := by
  rw [← h.labelAt_eq]
  exact h.sorted.labelAt_eq_some.mpr ⟨t.toRun, toRun_mem_runs ht, hf, rfl⟩

lemma Represents.covers_start (h : Represents ranges m) (ht : t ∈ ranges) :
  t.toRun.Covers t.toRun.start := by
  have := h.sorted.len_pos _ (toRun_mem_runs ht)
  exact ⟨le_rfl, by rw [Run.stop]; omega⟩

lemma Represents.free_iff (h : Represents ranges m) (hs : m.IsSound) :
  ∀ t ∈ ranges, (t.state == .free) = true ↔ t.label = (.free, .free) := by
  intro t ht
  have hmap := h.map_eq ht (h.covers_start ht)
  rw [beq_iff_eq, TrackedRange.label, Prod.mk.injEq]
  refine ⟨fun hst => ⟨hst, ?_⟩, fun hl => hl.1⟩
  rw [TrackedRange.label, hst] at hmap
  exact hs.free_owner _ _ hmap

lemma used_iff (owner : FrameRangeOwner) (t : TrackedRange) :
  (t.state == .used && t.owner == owner) = true ↔ t.label = (.used, owner) := by
  simp [TrackedRange.label]

/-! ### Allocation -/

/-- The range is free and has room for `n` frames. -/
def TrackedRange.offers (n : ℕ) (t : TrackedRange) : Bool :=
  t.state == .free && decide (n ≤ t.region.pages)

lemma TrackedRange.offers_iff : t.offers n = true ↔ t.state = .free ∧ n ≤ t.region.pages := by
  simp [offers]

lemma allocateFramesLoop_spec (hrep : Represents ranges m) (hs : m.IsSound)
    (frameCount : FrameCount) (owner : FrameRangeOwner) (hsub : ∀ t ∈ rest, t ∈ ranges) :
    (rest.find? (TrackedRange.offers frameCount.asU64) = none ∧
     allocateFramesLoop ranges frameCount owner rest = .ok (none, ranges)) ∨
    ∃ t,
      rest.find? (TrackedRange.offers frameCount.asU64) = some t ∧
      ((¬ m.HasRoom (t.region.start / pageSize) frameCount.asU64 ∧
        allocateFramesLoop ranges frameCount owner rest = .error capacityExhausted) ∨
       m.HasRoom (t.region.start / pageSize) frameCount.asU64 ∧
       ∃ range ranges',
         allocateFramesLoop ranges frameCount owner rest = .ok (some range, ranges') ∧
         range.start.asAddress = t.region.start ∧
         range.frameCount = frameCount ∧
         Represents ranges'
           (m.mark (t.region.start / pageSize) frameCount.asU64 (.used, owner))) := by
  induction rest with
  | nil => exact Or.inl ⟨rfl, rfl⟩
  | cons t rest ih =>
    have hrec := ih fun a ha => hsub a (by simp [ha])
    have ht := hsub t (by simp)
    by_cases hpass : t.offers frameCount.asU64 = true
    · have hfit := TrackedRange.offers_iff.mp hpass
      have hex := hrep.exact t ht
      have hle := Nat.mul_le_mul_right pageSize hfit.2
      have hcand : Region.IsExact ⟨t.region.start, frameCount.asU64⟩ :=
        ⟨hex.aligned, by have := hex.fits; simp only at *; omega⟩
      -- the candidate lies inside `t`, so the mark finds a range for it
      have hall : m.AllLabelled (t.region.start / pageSize) frameCount.asU64 (.free, .free) := by
        intro f h1 h2
        rw [hrep.map_eq ht ⟨h1, h2.trans_le (Nat.add_le_add_left hfit.2 _)⟩]
        rw [(hrep.free_iff hs t ht).mp (by simp [hfit.1])]
      have hloop : allocateFramesLoop ranges frameCount owner (t :: rest) =
        (markRangeUsed ranges ⟨t.region.start, frameCount.asU64⟩ owner).bind fun p =>
          if p.1 then
            (expect (PhysicalFrameStart.new t.region.start)
              "frame allocator returned an unaligned physical frame").bind fun start =>
                .ok (PhysicalFrameRange.new start frameCount, p.2)
          else allocateFramesLoop ranges frameCount owner rest := by
        rw [allocateFramesLoop, if_neg (by rw [not_or, not_not]; exact ⟨hfit.1, by omega⟩)]
        rfl
      refine Or.inr ⟨t, by rw [List.find?_cons, hpass], ?_⟩
      rw [hloop, markRangeUsed]
      rcases markRange_spec .used owner hrep hcand frameCount.pos
        (hrep.free_iff hs) with ⟨hno, -⟩ | ⟨-, ⟨hroom, herr⟩ | ⟨hroom, ranges', hok, hrep'⟩⟩
      · exact absurd hall hno
      · exact Or.inl ⟨hroom, by rw [herr]; rfl⟩
      refine Or.inr ⟨hroom, ⟨⟨t.region.start, hex.aligned⟩, frameCount, ?_⟩, ranges', ?_, rfl,
        rfl, hrep'⟩
      · exact hcand.fits
      · rw [hok]
        simp only [Except.bind, if_true, PhysicalFrameStart.new_eq_some hex.aligned, expect]
        rw [PhysicalFrameRange.new_eq_some hcand.fits]
    · have hskip : t.state ≠ .free ∨ t.region.pages < frameCount.asU64 := by
        by_contra h
        rw [not_or, not_not, not_lt] at h
        exact hpass (TrackedRange.offers_iff.mpr h)
      rw [List.find?_cons_of_neg hpass, allocateFramesLoop, if_pos hskip]
      exact hrec

namespace PhysicalFrameAllocator
variable {a : PhysicalFrameAllocator}

lemma start_le_of_find?_offers (hrep : Represents ranges m) (hs : m.IsSound) (hn : 0 < n)
  (hfind : ranges.find? (TrackedRange.offers n) = some t) (hrun : m.FreeRun s n) :
  t.region.start / pageSize ≤ s := by
  have hfind' : (runs ranges).find? (fun r => (r.label.1 == .free) && decide (n ≤ r.len)) =
    some t.toRun := by
    rw [runs, List.find?_map]
    exact congrArg (Option.map TrackedRange.toRun) hfind
  refine hrep.canonical.start_le_of_find? (p := fun l => l.1 == .free) (x := (.free, .free))
    hfind' hn rfl fun f h1 h2 => ?_
  rw [hrep.labelAt_eq]
  exact hs.freeRun_iff.mp hrun f h1 h2

lemma not_freeRun_of_find?_offers (hrep : Represents ranges m) (hs : m.IsSound) (hn : 0 < n)
  (hfind : ranges.find? (TrackedRange.offers n) = none) (s : ℕ) : ¬ m.FreeRun s n := by
  intro hrun
  have hall : ∀ f, s ≤ f → f < s + n → labelAt (runs ranges) f = some (.free, .free) := by
    intro f h1 h2
    rw [hrep.labelAt_eq]
    exact hs.freeRun_iff.mp hrun f h1 h2
  obtain ⟨r, hr, hlab, hcon⟩ := hrep.canonical.exists_run_of_forall hn hall
  obtain ⟨t, ht, rfl⟩ := List.mem_map.mp hr
  refine List.find?_eq_none.mp hfind t ht (TrackedRange.offers_iff.mpr ⟨?_, ?_⟩)
  · exact congrArg Prod.fst hlab
  have h1 := hcon.1
  have h2 := hcon.2
  rw [Run.stop, TrackedRange.toRun_len] at h2
  omega

lemma allocateFramesFor_spec (hrep : Represents a.trackedRanges m) (hs : m.IsSound)
    (frameCount : FrameCount) (hown : owner ≠ .free) :
    ((∀ s, ¬ m.FreeRun s frameCount.asU64) ∧ a.allocateFramesFor frameCount owner = .ok (none, a)) ∨
    (∃ s,
      m.FirstFit frameCount.asU64 s ∧
      ¬ m.HasRoom s frameCount.asU64 ∧
      a.allocateFramesFor frameCount owner = .error capacityExhausted) ∨
    ∃ range a',
      a.allocateFramesFor frameCount owner = .ok (some range, a') ∧
      range.frameCount = frameCount ∧
      m.FirstFit frameCount.asU64 range.firstFrame ∧
      m.HasRoom range.firstFrame frameCount.asU64 ∧
      Represents a'.trackedRanges (m.mark range.firstFrame frameCount.asU64 (.used, owner)) := by
  have hcall : a.allocateFramesFor frameCount owner =
    (allocateFramesLoop a.trackedRanges frameCount owner a.trackedRanges).bind fun p =>
      .ok (p.1, { a with trackedRanges := p.2 }) := by
    rw [allocateFramesFor]
    simp only [bne_iff_ne, ne_eq, hown, not_false_eq_true, require, if_true, ok_bind]
    rfl
  rcases allocateFramesLoop_spec hrep hs frameCount owner (fun t ht => ht) with
    ⟨hnone, hok⟩ | ⟨t, hfind, hfound⟩
  · refine Or.inl ⟨not_freeRun_of_find?_offers hrep hs frameCount.pos hnone, ?_⟩
    rw [hcall, hok]
    rfl
  have ht := List.mem_of_find?_eq_some hfind
  have hoffer := TrackedRange.offers_iff.mp (List.find?_some hfind)
  have hfit : m.FirstFit frameCount.asU64 (t.region.start / pageSize) := by
    refine ⟨fun f h1 h2 => ?_, fun s => start_le_of_find?_offers hrep hs frameCount.pos hfind⟩
    have hcov : t.toRun.Covers f := ⟨h1, h2.trans_le (Nat.add_le_add_left hoffer.2 _)⟩
    exact ⟨t.owner, by rw [hrep.map_eq ht hcov, TrackedRange.label, hoffer.1]⟩
  rcases hfound with ⟨hroom, herr⟩ | ⟨hroom, range, ranges', hok, hstart, hcnt, hrep'⟩
  · refine Or.inr (Or.inl ⟨_, hfit, hroom, ?_⟩)
    rw [hcall, herr]
    rfl
  have hfirst : range.firstFrame = t.region.start / pageSize := by
    rw [PhysicalFrameRange.firstFrame, hstart]
  rw [← hfirst] at hfit hroom hrep'
  refine Or.inr (Or.inr ⟨range, { a with trackedRanges := ranges' }, ?_, hcnt, hfit, hroom, hrep'⟩)
  rw [hcall, hok]
  rfl

lemma allocateFramesFor_some (hrep : Represents a.trackedRanges m) (hs : m.IsSound)
    (hown : owner ≠ .free) (h : a.allocateFramesFor frameCount owner = .ok (some range, a')) :
    range.frameCount = frameCount ∧
    m.FirstFit frameCount.asU64 range.firstFrame ∧
    m.HasRoom range.firstFrame frameCount.asU64 ∧
    Represents a'.trackedRanges (m.mark range.firstFrame frameCount.asU64 (.used, owner)) := by
  rcases allocateFramesFor_spec hrep hs frameCount hown with
    ⟨-, hok⟩ | ⟨-, -, -, herror⟩ | ⟨range', a'', hok, hfound⟩
  · cases hok.symm.trans h
  · cases herror.symm.trans h
  · cases hok.symm.trans h
    exact hfound

lemma exists_allocateFramesFor (hrep : Represents a.trackedRanges m) (hs : m.IsSound)
    {frameCount : FrameCount} (hown : owner ≠ .free) (hfit : m.FirstFit frameCount.asU64 start)
    (hroom : m.HasRoom start frameCount.asU64) :
    ∃ range a',
      a.allocateFramesFor frameCount owner = .ok (some range, a') ∧
      range.firstFrame = start ∧
      range.frameCount = frameCount ∧
      Represents a'.trackedRanges (m.mark start frameCount.asU64 (.used, owner)) := by
  rcases allocateFramesFor_spec hrep hs frameCount hown with
    ⟨hnone, -⟩ | ⟨start', hfit', hroom', -⟩ | ⟨range, a', hok, hcnt, hfit', -, hrep'⟩
  · exact absurd hfit.free (hnone start)
  · rw [hfit'.unique hfit] at hroom'
    exact absurd hroom hroom'
  · obtain rfl := hfit'.unique hfit
    exact ⟨range, a', hok, rfl, hcnt, hrep'⟩

lemma allocateFrameFor_eq (owner : FrameRangeOwner) : a.allocateFrameFor owner =
  (a.allocateFramesFor .one owner).map fun p => (p.1.map PhysicalFrameRange.start, p.2) := by
  rw [allocateFrameFor, FrameCount.new_one]
  change ((a.allocateFramesFor .one owner).bind fun p => .ok (p.1.map _, p.2)) = _
  cases a.allocateFramesFor .one owner <;> rfl

lemma allocateFrameFor_spec (hrep : Represents a.trackedRanges m) (hs : m.IsSound)
  (hown : owner ≠ .free) :
  ((∀ f, ¬ m.IsFree f) ∧ a.allocateFrameFor owner = .ok (none, a)) ∨
  (∃ s, m.FirstFit 1 s ∧ ¬ m.HasRoom s 1 ∧ a.allocateFrameFor owner = .error capacityExhausted) ∨
  ∃ frame a', a.allocateFrameFor owner = .ok (some frame, a') ∧
    m.FirstFit 1 (frame.asAddress / pageSize) ∧ m.HasRoom (frame.asAddress / pageSize) 1 ∧
    Represents a'.trackedRanges (m.mark (frame.asAddress / pageSize) 1 (.used, owner)) := by
  rw [allocateFrameFor_eq]
  rcases allocateFramesFor_spec hrep hs .one hown with
    ⟨hnone, hok⟩ | ⟨start, hfit, hroom, herror⟩ | ⟨range, a', hok, hcnt, hfit, hroom, hrep'⟩
  · refine .inl ⟨fun f hf => hnone f fun g h1 h2 => ?_, by rw [hok]; rfl⟩
    obtain rfl : g = f := by
      have hone : FrameCount.one.asU64 = 1 := rfl
      omega
    exact hf
  · exact .inr (.inl ⟨start, hfit, hroom, by rw [herror]; rfl⟩)
  · exact .inr (.inr ⟨range.start, a', by rw [hok]; rfl, hfit, hroom, hrep'⟩)

lemma exists_allocateFrameFor (hrep : Represents a.trackedRanges m) (hs : m.IsSound)
    (hown : owner ≠ .free) (hfit : m.FirstFit 1 start) (hroom : m.HasRoom start 1) :
    ∃ frame a',
      a.allocateFrameFor owner = .ok (some frame, a') ∧
      frame.asAddress / pageSize = start ∧
      Represents a'.trackedRanges (m.mark start 1 (.used, owner)) := by
  have hfit : m.FirstFit FrameCount.one.asU64 start := hfit
  obtain ⟨range, a', hok, hstart, -, hrep'⟩ := exists_allocateFramesFor hrep hs hown hfit hroom
  exact ⟨range.start, a', by rw [allocateFrameFor_eq, hok]; rfl, hstart, hrep'⟩

lemma allocateFrameFor_some (hrep : Represents a.trackedRanges m) (hs : m.IsSound)
  (hown : owner ≠ .free) (h : a.allocateFrameFor owner = .ok (some frame, a')) :
  m.FirstFit 1 (frame.asAddress / pageSize) ∧ m.HasRoom (frame.asAddress / pageSize) 1 ∧
    Represents a'.trackedRanges (m.mark (frame.asAddress / pageSize) 1 (.used, owner)) := by
  rcases allocateFrameFor_spec hrep hs hown with
    ⟨-, hok⟩ | ⟨-, -, -, herror⟩ | ⟨frame', a'', hok, hfit, hroom, hrep'⟩
  · cases hok.symm.trans h
  · cases herror.symm.trans h
  · cases hok.symm.trans h
    exact ⟨hfit, hroom, hrep'⟩

lemma freeFramesFor_spec (hrep : Represents a.trackedRanges m) (range : PhysicalFrameRange)
    (hown : owner ≠ .free) :
    (¬ m.AllLabelled range.firstFrame range.frameCount.asU64 (.used, owner) ∧
     a.freeFramesFor range owner = .ok (false, a)) ∨
    (m.AllLabelled range.firstFrame range.frameCount.asU64 (.used, owner) ∧
     ((¬ m.HasRoom range.firstFrame range.frameCount.asU64 ∧
       a.freeFramesFor range owner = .error capacityExhausted) ∨
      m.HasRoom range.firstFrame range.frameCount.asU64 ∧
      ∃ a',
        a.freeFramesFor range owner = .ok (true, a') ∧
        Represents a'.trackedRanges
          (m.mark range.firstFrame range.frameCount.asU64 (.free, .free)))) := by
  have hcall : a.freeFramesFor range owner =
    (markRangeFree a.trackedRanges ⟨range.start.asAddress, range.frameCount.asU64⟩ owner).bind
      fun p => .ok (p.1, { a with trackedRanges := p.2 }) := by
    rw [freeFramesFor, if_neg hown]
    rfl
  have hexact : Region.IsExact ⟨range.start.asAddress, range.frameCount.asU64⟩ :=
    ⟨range.start.aligned, range.fits⟩
  rw [hcall, markRangeFree]
  rcases markRange_spec .free .free hrep hexact range.frameCount.pos
    (fun t _ => used_iff owner t) with
    ⟨hno, hok⟩ | ⟨hall, ⟨hroom, herr⟩ | ⟨hroom, ranges', hok, hrep'⟩⟩
  · exact Or.inl ⟨hno, by rw [hok]; rfl⟩
  · exact Or.inr ⟨hall, Or.inl ⟨hroom, by rw [herr]; rfl⟩⟩
  · exact Or.inr ⟨hall, Or.inr ⟨hroom, { a with trackedRanges := ranges' }, by rw [hok]; rfl,
      hrep'⟩⟩

end PhysicalFrameAllocator

/-! ### Registration -/

lemma normalizeFrom_eq (frameCount : FrameCount) (hstart : start % pageSize = 0)
    (hlowest : lowest % pageSize = 0) :
    normalizeFrom lowest start frameCount =
      if start + frameCount.byteLen < wordSize ∧ lowest < start + frameCount.byteLen then some
        ⟨lowest, (start + frameCount.byteLen - lowest) / pageSize⟩ else none := by
  rw [normalizeFrom, checkedAdd]
  by_cases hfit : start + frameCount.byteLen < wordSize
  · rw [if_pos hfit, bind_some]
    by_cases hlt : lowest < start + frameCount.byteLen
    · -- the end is at least a page above, so rounding up does not overflow
      have halign : alignUp lowest pageSize = some lowest := by
        have hsub : checkedSub pageSize 1 = some 4095 := rfl
        have hadd : checkedAdd lowest 4095 = some (lowest + 4095) := by
          refine checkedAdd_eq_some.mpr ⟨?_, rfl⟩
          simp only [FrameCount.byteLen, pageSize, wordSize_eq] at *
          omega
        rw [alignUp, hsub, bind_some, hadd, map_some, alignDown]
        simp only [pageSize] at *
        exact congrArg some (by omega)
      rw [halign, bind_some, if_neg (by omega), if_pos ⟨hfit, hlt⟩]
    rw [if_neg (by tauto)]
    cases halign : alignUp lowest pageSize with
    | none => rfl
    | some b =>
      -- rounding up an aligned address is the identity
      have hb : lowest ≤ b := by
        simp only [alignUp, bind_eq_some_iff, map_eq_some_iff,
          checkedSub_eq_some, checkedAdd_eq_some, alignDown] at halign
        obtain ⟨_, ⟨-, rfl⟩, c, ⟨-, rfl⟩, rfl⟩ := halign
        simp only [pageSize] at *
        omega
      rw [bind_some, if_pos (by omega)]
  · rw [if_neg hfit, if_neg (by tauto)]
    rfl

lemma runs_insertIdx (ht : t.region.IsExact) (hr : ∀ a ∈ ranges, a.region.IsExact) :
    runs
      (ranges.insertIdx
         (insertionIndex (fun a : TrackedRange => a.region.start) t.region.start ranges) t) =
      insertRun t.toRun (runs ranges) := by
  induction ranges with
  | nil => rfl
  | cons a _ ih =>
    have ha := (hr a (by simp)).start_eq
    have ht' := ht.start_eq
    have hiff : t.toRun.start ≤ a.toRun.start ↔ ¬ a.region.start < t.region.start := by
      rw [TrackedRange.toRun_start, TrackedRange.toRun_start]
      rw [pageSize] at *
      omega
    rw [runs_cons, insertRun_cons, insertionIndex]
    by_cases hlt : a.region.start < t.region.start
    · rw [if_pos hlt, if_neg (by rw [hiff, not_not]; exact hlt), List.insertIdx_succ_cons,
        runs_cons, ih fun b hb => hr b (by simp [hb])]
    · rw [if_neg hlt, if_pos (hiff.mpr hlt)]
      rfl

lemma insertionIndex_le {α : Type} (startOf : α → ℕ) (start : ℕ) (l : List α) :
  insertionIndex startOf start l ≤ l.length := by
  induction l with
  | nil => exact le_rfl
  | cons a l ih =>
    rw [insertionIndex]
    split
    · exact Nat.succ_le_succ ih
    · exact Nat.zero_le _

/-- The frames of a region carry no label. -/
def FrameMap.Unlabelled (m : FrameMap) (s n : ℕ) : Prop := ∀ f, s ≤ f → f < s + n → m f = none

lemma Represents.apart (h : Represents ranges m)
  {r : Run FrameLabel} (hr : 0 < r.len) (hfree : m.Unlabelled r.start r.len) :
  Apart r (runs ranges) := by
  intro b hb
  obtain ⟨t, ht, rfl⟩ := List.mem_map.mp hb
  by_contra hov
  rw [not_or, not_le, not_le] at hov
  -- the later of the two starts is a common frame
  have hpos := h.sorted.len_pos _ hb
  have hcov : t.toRun.Covers (max t.toRun.start r.start) := by
    simp only [Run.Covers, Run.stop] at *
    omega
  have hnone : m (max t.toRun.start r.start) = none := by
    refine hfree _ (le_max_right _ _) ?_
    simp only [Run.stop] at *
    omega
  rw [h.map_eq ht hcov] at hnone
  simp at hnone

lemma insertTrackedRange_spec (hrep : Represents ranges m) {region : Region} (hreg : region.IsExact)
  (hpos : 0 < region.pages)
  (hfree : m.Unlabelled (region.start / pageSize) region.pages) (state : FrameRangeState)
  (owner : FrameRangeOwner) :
  (insertTrackedRange ranges region state owner = .error capacityExhausted ∧
    maxTrackedRanges ≤ ranges.length) ∨
  ∃ ranges', insertTrackedRange ranges region state owner = .ok ranges' ∧
    Represents ranges' (m.mark (region.start / pageSize) region.pages (state, owner)) := by
  let t : TrackedRange := ⟨region, state, owner⟩
  have hidx := insertionIndex_le (fun a : TrackedRange => a.region.start) region.start ranges
  rw [insertTrackedRange, if_neg (by omega)]
  simp only [insertTrackedRangeAt]
  by_cases hcap : ranges.length < maxTrackedRanges
  · rw [require_pos hcap, require_pos hidx]
    have hruns := runs_insertIdx (t := t) hreg hrep.exact
    have hap : Apart t.toRun (runs ranges) := hrep.apart hpos hfree
    refine Or.inr ⟨_, rfl, Encodes.merge ⟨fun a ha => ?_, ?_, fun f => ?_⟩ ?_⟩
    · cases List.eq_or_mem_of_mem_insertIdx ha with
      | inl heq => exact heq ▸ hreg
      | inr ha => exact hrep.exact a ha
    · exact hruns ▸ hrep.sorted.insertRun hpos hap
    · exact (congrFun (congrArg labelAt hruns) f).trans ((labelAt_insertRun hap f).trans
        (by rw [hrep.labelAt_eq]; rfl))
    · rw [List.length_insertIdx_of_le_length hidx]
      omega
  · rw [require_neg hcap]
    exact Or.inl ⟨rfl, by omega⟩

lemma removeReservedLoop_eq (done : List TrackedRange)
  (hrest : ∀ t ∈ rest, t.state = .free → ∀ trackedEnd, regionEnd t.region = some trackedEnd →
    min trackedEnd reservedEnd ≤ max t.region.start reservedStart) :
  removeReservedLoop reservedStart reservedEnd done rest = .ok (done ++ rest) := by
  induction rest generalizing done with
  | nil => rw [removeReservedLoop, List.append_nil]
  | cons t _ ih =>
    have hrec := ih (done ++ [t]) fun a ha => hrest a (by simp [ha])
    rw [List.append_assoc] at hrec
    rw [removeReservedLoop]
    by_cases hfree : t.state = .free
    · rw [if_neg (not_not.mpr hfree)]
      cases hend : regionEnd t.region with
      | none => exact hrec
      | some trackedEnd =>
        simp only [if_pos (hrest t (by simp) hfree trackedEnd hend)]
        exact hrec
    · rw [if_pos hfree]
      exact hrec

lemma removeReserved_spec (hrep : Represents ranges m) {region : Region} (hreg : region.IsExact)
  (hres : ∀ f, region.start / pageSize ≤ f → f < region.start / pageSize + region.pages →
    m.IsReserved f) :
  ∃ ranges', removeReservedRegionFromFreeRanges ranges region = .ok ranges' ∧
    Represents ranges' m := by
  rw [removeReservedRegionFromFreeRanges, hreg.regionEnd_eq]
  simp only
  rw [removeReservedLoop_eq]
  · exact ⟨_, rfl, hrep.toEncodes.merge hrep.length_le⟩
  intro t ht hfree _ hend
  have hex := hrep.exact t ht
  rw [hex.regionEnd_eq, Option.some_inj] at hend
  subst hend
  by_contra hov
  -- a common frame would be free and reserved
  let f := max t.region.start region.start / pageSize
  have h1 := hex.start_eq
  have h2 := hreg.start_eq
  have hcov : t.toRun.Covers f := by
    simp only [Run.Covers, Run.stop, TrackedRange.toRun_start, TrackedRange.toRun_len, f]
    rw [pageSize] at *
    omega
  obtain ⟨o, ho⟩ := hres f (Nat.div_le_div_right (le_max_right _ _)) (by
    simp only [f]
    rw [pageSize] at *
    omega)
  rw [hrep.map_eq ht hcov, TrackedRange.label, hfree] at ho
  simp at ho

/-- What the boot code tells the allocator. -/
inductive Registration
  | add (start : ℕ) (frameCount : FrameCount)
  | reserve (start : ℕ) (frameCount : FrameCount) (owner : FrameRangeOwner)

namespace Registration

def start : Registration → ℕ
  | add start _ => start
  | reserve start _ _ => start

def frameCount : Registration → FrameCount
  | add _ frameCount => frameCount
  | reserve _ frameCount _ => frameCount

/-- The label that a registration leaves. -/
def label : Registration → FrameLabel
  | add _ _ => (.free, .free)
  | reserve _ _ owner => (.reserved, owner)

/-- The first byte after the registration. -/
def stop (r : Registration) : ℕ := r.start + r.frameCount.byteLen

/-- The registration contains the frame. -/
def Covers (r : Registration) (f : ℕ) : Prop := r.start ≤ f * pageSize ∧ f * pageSize < r.stop

instance (r : Registration) (f : ℕ) : Decidable (r.Covers f) := inferInstanceAs (Decidable (_ ∧ _))

/-- The registration affects the frame: its end fits a word, frame zero is never conventional. -/
def Labels (r : Registration) (f : ℕ) : Prop :=
  r.stop < wordSize ∧ r.Covers f ∧ (r.label.1 = .free → f ≠ 0)

instance (r : Registration) (f : ℕ) : Decidable (r.Labels f) :=
  inferInstanceAs (Decidable (_ ∧ _ ∧ (_ → _)))

/-- A registration on the frame map. -/
def apply (m : FrameMap) (r : Registration) : FrameMap :=
  fun f => if r.Labels f then some r.label else m f

/-- A registration on the allocator. -/
def perform (a : PhysicalFrameAllocator) : Registration → Panicking PhysicalFrameAllocator
  | add start frameCount => a.addRegion start frameCount
  | reserve start frameCount owner => a.reserveRegionFor start frameCount owner

lemma isSound_apply {m : FrameMap} (hs : m.IsSound) (r : Registration) : (r.apply m).IsSound := by
  refine ⟨fun f o ho => ?_, fun f o ho => ?_, fun st o ho => ?_⟩ <;> rw [apply] at ho <;>
    split at ho
  · cases r with
    | add => simpa [label, eq_comm] using ho
    | reserve => simp [label] at ho
  · exact hs.free_owner f o ho
  · cases r with
    | add => simp [label] at ho
    | reserve => simp [label] at ho
  · exact hs.used_owner f o ho
  · rename_i hlab
    cases r with
    | add => exact absurd rfl (hlab.2.2 rfl)
    | reserve => simpa [label, eq_comm] using congrArg Prod.fst (some_inj.mp ho)
  · exact hs.zero st o ho

/-- The lowest address the registration may track. -/
def lowest : Registration → ℕ
  | add start _ => max start pageSize
  | reserve start _ _ => start

/-- The region a page-aligned registration tracks. -/
def region (r : Registration) : Region := ⟨r.lowest, (r.stop - r.lowest) / pageSize⟩

/-- The registration leaves a region to track. -/
def HasRegion (r : Registration) : Prop := r.stop < wordSize ∧ r.lowest < r.stop

instance (r : Registration) : Decidable r.HasRegion := inferInstanceAs (Decidable (_ ∧ _))

lemma start_lt_stop (r : Registration) : r.start < r.stop := by
  have := r.frameCount.pos
  simp only [stop, FrameCount.byteLen, pageSize]
  omega

lemma lowest_eq (r : Registration) :
  r.lowest = if r.label.1 = .free then max r.start pageSize else r.start := by
  cases r <;> rfl

lemma start_le_lowest (r : Registration) : r.start ≤ r.lowest := by
  rw [lowest_eq]
  split <;> omega

section Aligned
variable {r : Registration} (halign : r.start % pageSize = 0)
include halign

lemma lowest_aligned : r.lowest % pageSize = 0 := by
  rw [lowest_eq]
  split <;> simp only [pageSize] at * <;> omega

lemma stop_aligned : r.stop % pageSize = 0 := by
  simp only [stop, FrameCount.byteLen, pageSize] at *
  omega

lemma normalize_eq : normalizeFrom r.lowest r.start r.frameCount =
  if r.HasRegion then some r.region else none :=
  normalizeFrom_eq r.frameCount halign (lowest_aligned halign)

lemma isExact_region (hreg : r.HasRegion) : r.region.IsExact := by
  have hlow := lowest_aligned halign
  obtain ⟨_, _⟩ := hreg
  refine ⟨hlow, ?_⟩
  simp only [region, pageSize] at *
  omega

lemma region_pages_pos (hreg : r.HasRegion) : 0 < r.region.pages := by
  have hlow := lowest_aligned halign
  have hstop := stop_aligned halign
  have hlt := hreg.2
  simp only [region, pageSize] at *
  omega

lemma apply_eq_mark (m : FrameMap) (hreg : r.HasRegion) :
  r.apply m = m.mark (r.region.start / pageSize) r.region.pages r.label := by
  have hlow := lowest_aligned halign
  have hstop := stop_aligned halign
  have hcase := r.lowest_eq
  obtain ⟨_, _⟩ := hreg
  funext f
  rw [apply, FrameMap.mark]
  refine if_congr ?_ rfl rfl
  rw [Labels, Covers, region]
  split at hcase <;> simp only [pageSize] at * <;> grind

lemma unlabelled_region {m : FrameMap} (hfree : ∀ f, r.Covers f → m f = none) :
  m.Unlabelled (r.region.start / pageSize) r.region.pages := by
  have hlow := r.start_le_lowest
  intro f _ _
  refine hfree f ⟨?_, ?_⟩ <;> simp only [region, pageSize] at * <;> omega

end Aligned

lemma apply_eq_self (m : FrameMap) {r : Registration} (h : ¬ r.HasRegion) : r.apply m = m := by
  funext f
  rw [apply, if_neg]
  rintro ⟨hfit, ⟨_, _⟩, hzero⟩
  have hlt := r.start_lt_stop
  have hle : r.stop ≤ r.lowest := by
    by_contra hlt'
    exact h ⟨hfit, by omega⟩
  have hcase := r.lowest_eq
  split at hcase
  · rename_i hfree
    have hf := hzero hfree
    simp only [pageSize] at *
    omega
  · omega

/-- A registration of unlabelled frames does what its abstract counterpart says, or exceeds
capacity. -/
lemma perform_spec {a : PhysicalFrameAllocator} {m : FrameMap}
  (hrep : Represents a.trackedRanges m) (r : Registration)
  (halign : r.start % pageSize = 0) (hfree : ∀ f, r.Covers f → m f = none) :
  (r.perform a = .error capacityExhausted ∧ maxTrackedRanges ≤ a.trackedRanges.length) ∨
  ∃ a', r.perform a = .ok a' ∧ Represents a'.trackedRanges (r.apply m) := by
  have hnorm := normalize_eq halign
  by_cases hreg : r.HasRegion
  · have hexact := isExact_region halign hreg
    have hpos := region_pages_pos halign hreg
    have hunl := unlabelled_region halign hfree
    rw [if_pos hreg] at hnorm
    rw [apply_eq_mark halign m hreg]
    cases r with
    | add start frameCount =>
      have hcall : perform a (add start frameCount) =
        (insertTrackedRange a.trackedRanges (add start frameCount).region .free .free).bind
          fun ranges => .ok ⟨insertRegion a.regions (add start frameCount).region, ranges⟩ := by
        rw [perform, PhysicalFrameAllocator.addRegion, normalizeRegion]
        erw [hnorm]
        rfl
      rw [hcall]
      rcases insertTrackedRange_spec hrep hexact hpos hunl .free .free with
        ⟨herr, hcap⟩ | ⟨ranges', hok, hrep'⟩
      · exact Or.inl ⟨by rw [herr]; rfl, hcap⟩
      · exact Or.inr ⟨_, by rw [hok]; rfl, hrep'⟩
    | reserve start frameCount owner =>
      have hcall : perform a (reserve start frameCount owner) =
        (insertTrackedRange a.trackedRanges (reserve start frameCount owner).region
          .reserved owner).bind fun ranges =>
            (removeReservedRegionFromFreeRanges ranges
              (reserve start frameCount owner).region).bind fun ranges =>
                .ok { a with trackedRanges := ranges } := by
        rw [perform, PhysicalFrameAllocator.reserveRegionFor, normalizeReservedRegion]
        erw [hnorm]
        rfl
      rw [hcall]
      rcases insertTrackedRange_spec hrep hexact hpos hunl .reserved owner with
        ⟨herr, hcap⟩ | ⟨ranges', hok, hrep'⟩
      · exact Or.inl ⟨by rw [herr]; rfl, hcap⟩
      obtain ⟨ranges'', hok', hrep''⟩ := removeReserved_spec hrep' hexact fun f h1 h2 =>
        ⟨owner, by rw [FrameMap.mark, if_pos ⟨h1, h2⟩]⟩
      refine Or.inr ⟨{ a with trackedRanges := ranges'' }, ?_, hrep''⟩
      rw [hok, Except.bind, hok']
      rfl
  · rw [if_neg hreg] at hnorm
    refine Or.inr ⟨a, ?_, by rw [apply_eq_self m hreg]; exact hrep⟩
    cases r with
    | add start frameCount =>
      rw [perform, PhysicalFrameAllocator.addRegion, normalizeRegion]
      erw [hnorm]
    | reserve _ _ _ =>
      rw [perform, PhysicalFrameAllocator.reserveRegionFor, normalizeReservedRegion]
      erw [hnorm]

end Registration
end ManaOS
