/-
Run-length encoded partial functions on the naturals.

A sorted list of labelled intervals encodes `labelAt`.  In a *canonical* one, where no two touching
runs carry the same label, a single run answers a question about a whole interval.

* `IsCanonical.eq_of_labelAt`: a canonical list is determined by its function.
-/
import Mathlib.Data.Set.Card
import Mathlib.Order.Interval.Finset.Nat
import Mathlib.Data.List.Pairwise
import Mathlib.Data.List.Sort
import Mathlib.Order.CompletePartialOrder
import Mathlib.Tactic.Common

namespace RunList
open List
variable {L : Type*}

/-- A labelled interval `[start, start + len)`. -/
structure Run (L : Type*) where
  start : ℕ
  len : ℕ
  label : L
  deriving DecidableEq

namespace Run

/-- The first position after the run. -/
def stop (r : Run L) : ℕ := r.start + r.len

def Covers (r : Run L) (f : ℕ) : Prop := r.start ≤ f ∧ f < r.stop

instance (r : Run L) (f : ℕ) : Decidable (r.Covers f) := inferInstanceAs (Decidable (_ ∧ _))

/-- The run contains the whole interval `[s, s + n)`. -/
def Contains (r : Run L) (s n : ℕ) : Prop := r.start ≤ s ∧ s + n ≤ r.stop

lemma Contains.covers {r : Run L} (h : r.Contains s n) (hs : s ≤ f) (hf : f < s + n) : r.Covers f :=
  ⟨h.1.trans hs, hf.trans_le h.2⟩

end Run

/-- The function a list of runs encodes: the label of the first run covering the point. -/
def labelAt : List (Run L) → ℕ → Option L
  | [], _ => none
  | r :: l, f => if r.Covers f then some r.label else labelAt l f

@[simp] lemma labelAt_nil (f : ℕ) : labelAt ([] : List (Run L)) f = none := rfl

lemma labelAt_cons (r : Run L) (l : List (Run L)) (f : ℕ) :
  labelAt (r :: l) f = if r.Covers f then some r.label else labelAt l f := rfl

lemma labelAt_append (l1 l2 : List (Run L)) (f : ℕ) :
  labelAt (l1 ++ l2) f = (labelAt l1 f).or (labelAt l2 f) := by
  induction l1 with
  | nil => simp
  | cons r _ ih =>
    rw [cons_append, labelAt_cons, labelAt_cons, ih]
    split <;> simp

variable {f s n : ℕ} {l pre post : List (Run L)} {r a : Run L}

lemma labelAt_eq_none : labelAt l f = none ↔ ∀ r ∈ l, ¬ r.Covers f := by
  induction l with
  | nil => simp
  | cons r l _ =>
    rw [labelAt_cons]
    split
    · simp_all
    · simp_all

/-! ### Sorted lists -/

/-- The runs are nonempty and each ends before every later one starts. -/
structure IsSorted (l : List (Run L)) : Prop where
  len_pos : ∀ r ∈ l, 0 < r.len
  ordered : l.Pairwise fun a b => a.stop ≤ b.start

namespace IsSorted

lemma nil : IsSorted ([] : List (Run L)) := ⟨by simp, List.Pairwise.nil⟩

variable {l : List (Run L)} {r : Run L}

lemma tail (h : IsSorted (r :: l)) : IsSorted l :=
  ⟨fun a ha => h.len_pos a (mem_cons_of_mem _ ha), h.ordered.tail⟩

lemma stop_le (h : IsSorted (r :: l)) (ha : a ∈ l) : r.stop ≤ a.start :=
  (pairwise_cons.mp h.ordered).1 a ha

lemma cons (hr : 0 < r.len) (hl : IsSorted l)
  (h : ∀ a ∈ l, r.stop ≤ a.start) : IsSorted (r :: l) where
  len_pos a ha := by
    rcases mem_cons.mp ha with rfl | ha
    · exact hr
    · exact hl.len_pos a ha
  ordered := pairwise_cons.mpr ⟨h, hl.ordered⟩

/-- A point is labelled `x` exactly when some run labelled `x` covers it. -/
lemma labelAt_eq_some (h : IsSorted l) :
  labelAt l f = some x ↔ ∃ r ∈ l, r.Covers f ∧ r.label = x := by
  induction l with
  | nil => simp
  | cons r l ih =>
    rw [labelAt_cons]
    split
    · rename_i hr
      constructor
      · intro hx
        exact ⟨r, by simp, hr, by simpa using hx⟩
      rintro ⟨a, ha, hcov, rfl⟩
      rcases mem_cons.mp ha with rfl | ha
      · rfl
      -- a later run starts after `r` ends, so it cannot cover `f`
      have := h.stop_le ha
      have := hr.2
      have := hcov.1
      omega
    · rename_i hr
      rw [ih h.tail]
      simp [hr]

lemma eq_of_covers (h : IsSorted l) (ha : a ∈ l) (hb : b ∈ l) (hfa : a.Covers f)
  (hfb : b.Covers f) : a = b := by
  obtain ⟨_, _⟩ := hfa
  obtain ⟨_, _⟩ := hfb
  induction l with
  | nil => simp at ha
  | cons r l ih =>
    rcases mem_cons.mp ha with rfl | ha' <;> rcases mem_cons.mp hb with rfl | hb'
    · rfl
    · have := h.stop_le hb'
      omega
    · have := h.stop_le ha'
      omega
    · exact ih h.tail ha' hb'

lemma start_le_of_find? (h : IsSorted l) {q : Run L → Bool}
  (hfind : l.find? q = some r) (hb : b ∈ l) (hq : q b = true) : r.start ≤ b.start := by
  induction l with
  | nil => simp at hb
  | cons a l ih =>
    rw [find?_cons] at hfind
    split at hfind
    · obtain rfl : a = r := by simpa using hfind
      rcases mem_cons.mp hb with rfl | hb'
      · exact le_rfl
      · have := h.stop_le hb'
        rw [Run.stop] at this
        omega
    rename_i ha
    rcases mem_cons.mp hb with rfl | hb'
    · simp [hq] at ha
    · exact ih h.tail hfind hb'

end IsSorted

/-! ### Canonical lists and the merge pass -/

/-- Sorted, and touching runs carry different labels. -/
structure IsCanonical (l : List (Run L)) : Prop extends IsSorted l where
  separated : l.Pairwise fun a b => a.stop = b.start → a.label ≠ b.label

namespace IsCanonical
variable {l : List (Run L)} {r : Run L} {s : ℕ}

lemma tail (h : IsCanonical (r :: l)) : IsCanonical l := ⟨h.toIsSorted.tail, h.separated.tail⟩

lemma label_ne (h : IsCanonical l) (ha : a ∈ l) (hb : b ∈ l) (hab : a.stop = b.start) :
  a.label ≠ b.label := by
  induction l with
  | nil => simp at ha
  | cons r l ih =>
    have hr := h.len_pos r (by simp)
    rcases mem_cons.mp ha with rfl | ha' <;> rcases mem_cons.mp hb with rfl | hb'
    · -- a nonempty run does not touch itself
      rw [Run.stop] at hab
      omega
    · exact (pairwise_cons.mp h.separated).1 b hb' hab
    · -- `b` stands before `a`, so `a` cannot end where `b` starts
      have h1 := h.toIsSorted.stop_le ha'
      rw [Run.stop] at hab h1
      omega
    · exact ih h.tail ha' hb'

lemma exists_run_of_forall (h : IsCanonical l)
  (hn : 0 < n) (hx : ∀ f, s ≤ f → f < s + n → labelAt l f = some x) :
  ∃ r ∈ l, r.label = x ∧ r.Contains s n := by
  -- induction on the length: the run that contains the interval without its last
  -- point cannot end exactly there, the next run would touch it with the same label
  induction n with
  | zero => omega
  | succ n ih =>
    obtain ⟨b, hb, hcov, hlab'⟩ :=
      h.labelAt_eq_some.mp (hx (s + n) (by omega) (by omega))
    rcases Nat.eq_zero_or_pos n with rfl | hn
    · exact ⟨b, hb, hlab', hcov.1, hcov.2⟩
    obtain ⟨r, hr, hlab, hcon⟩ := ih hn fun f h1 h2 => hx f h1 (by omega)
    by_cases hstop : s + n < r.stop
    · exact ⟨r, hr, hlab, hcon.1, hstop⟩
    exfalso
    have hre : r.stop = s + n := le_antisymm (by omega) hcon.2
    by_cases hbs : b.start = s + n
    · exact h.label_ne hr hb (hre.trans hbs.symm) (hlab.trans hlab'.symm)
    -- otherwise `b` already covers the last point of `r`
    have hlast : b.Covers (s + n - 1) := ⟨by have := hcov.1; omega, by have := hcov.2; omega⟩
    have heq := h.eq_of_covers hr hb (hcon.covers (by omega) (by omega)) hlast
    have := hcov.2
    rw [← heq] at this
    omega

lemma start_le_of_find? (h : IsCanonical l) {p : L → Bool}
  (hfind : l.find? (fun a => p a.label && decide (n ≤ a.len)) = some r)
  (hn : 0 < n) (hp : p x = true) (hx : ∀ f, s ≤ f → f < s + n → labelAt l f = some x) :
  r.start ≤ s := by
  obtain ⟨b, hb, hlab, hcon⟩ := h.exists_run_of_forall hn hx
  -- the run containing the interval passes the test, so the search stops at it or before
  have hpass : (p b.label && decide (n ≤ b.len)) = true := by
    have h1 := hcon.1
    have h2 := hcon.2
    rw [Run.stop] at h2
    simp only [hlab, hp, Bool.true_and, decide_eq_true_eq]
    omega
  exact (h.toIsSorted.start_le_of_find? hfind hb hpass).trans hcon.1

/-- Inside a run, the label goes on to the left of `s` as long as the run does. -/
lemma start_lt_iff (h : IsCanonical l) (hr : r ∈ l)
  (hs : r.Covers s) : r.start < s ↔ 0 < s ∧ labelAt l (s - 1) = some r.label := by
  constructor
  · intro hlt
    have hcov : r.Covers (s - 1) := ⟨by omega, by have := hs.2; omega⟩
    exact ⟨by omega, h.labelAt_eq_some.mpr ⟨r, hr, hcov, rfl⟩⟩
  rintro ⟨_, hlabel⟩
  obtain ⟨b, hb, hcov, hsame⟩ := h.labelAt_eq_some.mp hlabel
  by_contra hge
  have hst : r.start = s := le_antisymm hs.1 (Nat.le_of_not_lt hge)
  rcases Nat.lt_or_ge s b.stop with hlt | _
  · -- a run over both points would be `r`, which starts at the second
    have heq := h.eq_of_covers hr hb hs ⟨by have := hcov.1; omega, hlt⟩
    have := hcov.1
    rw [← heq] at this
    omega
  · exact h.label_ne hb hr (by have := hcov.2; omega) hsame

lemma lt_stop_iff (h : IsCanonical l) (hr : r ∈ l) (hs : r.start < s) (hstop : s ≤ r.stop) :
  s < r.stop ↔ labelAt l s = some r.label := by
  constructor
  · intro hlt
    exact h.labelAt_eq_some.mpr ⟨r, hr, ⟨Nat.le_of_lt hs, hlt⟩, rfl⟩
  intro hlabel
  obtain ⟨b, hb, hcov, hsame⟩ := h.labelAt_eq_some.mp hlabel
  by_contra hge
  have hlast : r.Covers (s - 1) := ⟨by omega, by omega⟩
  rcases Nat.lt_or_ge b.start s with _ | _
  · have heq := h.eq_of_covers hr hb hlast ⟨by omega, by have := hcov.2; omega⟩
    have := hcov.2
    rw [← heq] at this
    omega
  · exact h.label_ne hr hb (by have := hcov.1; omega) hsame.symm

end IsCanonical

/-- A labelled point whose left neighbour is labelled otherwise, or not at all. -/
def IsStart (m : ℕ → Option L) (f : ℕ) : Prop := ∃ x, m f = some x ∧ ¬ (0 < f ∧ m (f - 1) = some x)

lemma IsCanonical.isStart_iff (h : IsCanonical l) :
    IsStart (labelAt l) f ↔ f ∈ l.map Run.start := by
  rw [mem_map]
  constructor
  · rintro ⟨x, hlabel, hleft⟩
    obtain ⟨r, hr, hcov, rfl⟩ := h.labelAt_eq_some.mp hlabel
    rw [← h.start_lt_iff hr hcov, not_lt] at hleft
    exact ⟨r, hr, le_antisymm hcov.1 hleft⟩
  rintro ⟨r, hr, rfl⟩
  have hcov : r.Covers r.start := ⟨Nat.le_refl _, Nat.lt_add_of_pos_right (h.len_pos r hr)⟩
  refine ⟨r.label, h.labelAt_eq_some.mpr ⟨r, hr, hcov, rfl⟩, ?_⟩
  rw [← h.start_lt_iff hr hcov]
  exact Nat.lt_irrefl _

lemma IsCanonical.ncard_isStart (h : IsCanonical l) :
  {f | IsStart (labelAt l) f}.ncard = l.length := by
  have hnodup : (l.map Run.start).Nodup := by
    refine pairwise_map.mpr (h.ordered.imp_of_mem fun {a b} ha _ hle => ?_)
    have := h.len_pos a ha
    rw [Run.stop] at hle
    omega
  have hset : {f | IsStart (labelAt l) f} = ((l.map Run.start).toFinset : Set ℕ) := by
    ext f
    simp only [Set.mem_ofPred_eq, h.isStart_iff, coe_toFinset]
  rw [hset, Set.ncard_coe_finset, toFinset_card_of_nodup hnodup, length_map]

section Unique
variable {l l' : List (Run L)}

lemma IsCanonical.exists_contains (h : IsCanonical l) (h' : IsCanonical l')
  (heq : labelAt l = labelAt l') (hr : r ∈ l) :
  ∃ a ∈ l', a.label = r.label ∧ a.Contains r.start r.len := by
  refine h'.exists_run_of_forall (h.len_pos r hr) fun f hlow hhigh => ?_
  rw [← heq, h.labelAt_eq_some]
  exact ⟨r, hr, ⟨hlow, hhigh⟩, rfl⟩

lemma IsCanonical.mem_of_labelAt (h : IsCanonical l) (h' : IsCanonical l')
  (heq : labelAt l = labelAt l') (hr : r ∈ l) : r ∈ l' := by
  -- the run lies in one of the other list, and that one in a run of the first list
  obtain ⟨a, ha, hlabel, hcontains⟩ := h.exists_contains h' heq hr
  obtain ⟨b, hb, -, hinside⟩ := h'.exists_contains h heq.symm ha
  have hlt : r.start < r.stop := Nat.lt_add_of_pos_right (h.len_pos r hr)
  obtain rfl := h.eq_of_covers hr hb ⟨le_rfl, hlt⟩
    (hinside.covers hcontains.1 (hlt.trans_le hcontains.2))
  obtain ⟨start, len, label⟩ := a
  obtain ⟨start', len', label'⟩ := r
  obtain ⟨hlow, hhigh⟩ := hcontains
  obtain ⟨hlow', hhigh'⟩ := hinside
  simp only [Run.stop] at *
  obtain rfl : start = start' := le_antisymm hlow hlow'
  obtain rfl : len = len' := by omega
  rwa [← hlabel]

/-- A canonical list is determined by the function it encodes. -/
lemma IsCanonical.eq_of_labelAt (h : IsCanonical l) (h' : IsCanonical l')
  (heq : labelAt l = labelAt l') : l = l' := by
  have hsorted : ∀ {l : List (Run L)}, IsCanonical l → l.Pairwise fun a b => a.start < b.start :=
    fun h => h.ordered.imp_of_mem fun {a _} ha _ hle =>
      (Nat.lt_add_of_pos_right (h.len_pos a ha)).trans_le hle
  have hnodup : ∀ {l : List (Run L)}, IsCanonical l → l.Nodup := fun h =>
    (hsorted h).imp fun hlt heq => (heq ▸ hlt).ne rfl
  exact ((perm_ext_iff_of_nodup (hnodup h) (hnodup h')).2 fun _ =>
    ⟨h.mem_of_labelAt h' heq, h'.mem_of_labelAt h heq.symm⟩).eq_of_pairwise
      (fun _ _ _ _ hlt hgt => absurd hlt hgt.asymm) (hsorted h) (hsorted h')

end Unique

section Coalesce
variable {c r : Run L} {l : List (Run L)}

lemma covers_absorb (h : c.stop = r.start) (f : ℕ) :
  ({ c with len := c.len + r.len } : Run L).Covers f ↔ c.Covers f ∨ r.Covers f := by
  simp only [Run.Covers, Run.stop] at *
  omega

lemma isSorted_absorb (h : IsSorted (c :: r :: l))
  (hcr : c.stop = r.start) : IsSorted ({ c with len := c.len + r.len } :: l) := by
  refine IsSorted.cons ?_ h.tail.tail fun a ha => ?_
  · have := h.len_pos c (by simp)
    exact Nat.add_pos_left this _
  · have := h.tail.stop_le ha
    simp only [Run.stop] at *
    omega

variable [DecidableEq L]

/-- The merge pass with the run under construction, which absorbs touching runs. -/
def coalesceFrom : Run L → List (Run L) → List (Run L)
  | c, [] => [c]
  | c, r :: l =>
    if c.label = r.label ∧ c.stop = r.start then
      coalesceFrom { c with len := c.len + r.len } l
    else c :: coalesceFrom r l

def coalesce : List (Run L) → List (Run L)
  | [] => []
  | r :: l => coalesceFrom r l

lemma labelAt_coalesceFrom (h : IsSorted (c :: l)) (f : ℕ) :
  labelAt (coalesceFrom c l) f = labelAt (c :: l) f := by
  induction l generalizing c with
  | nil => rfl
  | cons r l ih =>
    rw [coalesceFrom]
    split
    · rename_i hm
      rw [ih (isSorted_absorb h hm.2)]
      simp only [labelAt_cons, covers_absorb hm.2]
      by_cases hc : c.Covers f <;> by_cases hr : r.Covers f <;> simp [hc, hr, hm.1]
    · rw [labelAt_cons, labelAt_cons, ih h.tail]

lemma labelAt_coalesce (h : IsSorted l) (f : ℕ) : labelAt (coalesce l) f = labelAt l f := by
  cases l with
  | nil => rfl
  | cons r l => exact labelAt_coalesceFrom h f

lemma start_of_mem_coalesceFrom (h : IsSorted (c :: l)) (hr : r ∈ coalesceFrom c l) :
  (r.start = c.start ∧ r.label = c.label) ∨ c.stop ≤ r.start := by
  induction l generalizing c with
  | nil =>
    obtain rfl : r = c := by simpa [coalesceFrom] using hr
    exact Or.inl ⟨rfl, rfl⟩
  | cons a l ih =>
    rw [coalesceFrom] at hr
    split at hr
    · rename_i hm
      rcases ih (isSorted_absorb h hm.2) hr with h1 | h1
      · exact Or.inl h1
      · simp only [Run.stop] at *
        omega
    have ha := h.stop_le (mem_cons_self (a := a) (l := l))
    rcases mem_cons.mp hr with rfl | hr
    · exact Or.inl ⟨rfl, rfl⟩
    rcases ih h.tail hr with _ | _
    · omega
    · simp only [Run.stop] at *
      omega

lemma isCanonical_coalesceFrom (h : IsSorted (c :: l)) : IsCanonical (coalesceFrom c l) := by
  induction l generalizing c with
  | nil => exact ⟨h, pairwise_singleton _ _⟩
  | cons a l ih =>
    rw [coalesceFrom]
    split
    · rename_i hm
      exact ih (isSorted_absorb h hm.2)
    rename_i hm
    have ha := h.stop_le (mem_cons_self (a := a) (l := l))
    have hpos := h.len_pos a (by simp)
    have hrest := ih h.tail
    refine ⟨IsSorted.cons (h.len_pos c (by simp)) hrest.toIsSorted fun r hr => ?_,
      pairwise_cons.mpr ⟨fun r hr => ?_, hrest.separated⟩⟩
    · rcases start_of_mem_coalesceFrom h.tail hr with h1 | h1
      · omega
      · simp only [Run.stop] at *
        omega
    intro hcr hlab
    rcases start_of_mem_coalesceFrom h.tail hr with h1 | h1
    · exact hm ⟨hlab.trans h1.2, hcr.trans h1.1⟩
    · simp only [Run.stop] at *
      omega

lemma isCanonical_coalesce (h : IsSorted l) : IsCanonical (coalesce l) := by
  cases l with
  | nil => exact ⟨h, List.Pairwise.nil⟩
  | cons r l => exact isCanonical_coalesceFrom h

lemma exists_of_mem_coalesceFrom (hr : r ∈ coalesceFrom c l) (hf : r.Covers f) :
  ∃ a ∈ c :: l, a.label = r.label ∧ a.Covers f := by
  induction l generalizing c with
  | nil =>
    obtain rfl := mem_singleton.mp hr
    exact ⟨r, by simp, rfl, hf⟩
  | cons b l ih =>
    rw [coalesceFrom] at hr
    split at hr
    · rename_i htouch
      obtain ⟨a, ha, hlabel, hcov⟩ := ih hr
      rcases mem_cons.mp ha with rfl | ha
      · rcases (covers_absorb htouch.2 f).mp hcov with hc | hb
        · exact ⟨c, by simp, hlabel, hc⟩
        · exact ⟨b, by simp, htouch.1.symm.trans hlabel, hb⟩
      · exact ⟨a, by simp [ha], hlabel, hcov⟩
    rcases mem_cons.mp hr with rfl | hr
    · exact ⟨r, by simp, rfl, hf⟩
    · obtain ⟨a, ha, hlabel, hcov⟩ := ih hr
      exact ⟨a, mem_cons_of_mem _ ha, hlabel, hcov⟩

lemma exists_of_mem_coalesce (hr : r ∈ coalesce l) (hf : r.Covers f) :
  ∃ a ∈ l, a.label = r.label ∧ a.Covers f := by
  cases l with
  | nil => simp [coalesce] at hr
  | cons c l => exact exists_of_mem_coalesceFrom hr hf

lemma length_coalesceFrom_le (c : Run L) (l : List (Run L)) :
  (coalesceFrom c l).length ≤ l.length + 1 := by
  induction l generalizing c with
  | nil => simp [coalesceFrom]
  | cons r l ih =>
    rw [coalesceFrom]
    split
    · have := ih { c with len := c.len + r.len }
      simp only [length_cons]
      omega
    · have := ih r
      simp only [length_cons]
      omega

lemma length_coalesce_le (l : List (Run L)) : (coalesce l).length ≤ l.length := by
  cases l with
  | nil => simp [coalesce]
  | cons r l => exact length_coalesceFrom_le r l

end Coalesce

/-! ### Relabelling part of a run -/

lemma isSorted_append :
  IsSorted (l1 ++ l2) ↔ IsSorted l1 ∧ IsSorted l2 ∧ ∀ a ∈ l1, ∀ b ∈ l2, a.stop ≤ b.start := by
  constructor
  · intro h
    obtain ⟨h1, h2, h3⟩ := pairwise_append.mp h.ordered
    exact ⟨⟨fun r hr => h.len_pos r (mem_append_left _ hr), h1⟩,
      ⟨fun r hr => h.len_pos r (mem_append_right _ hr), h2⟩, h3⟩
  rintro ⟨h1, h2, h3⟩
  refine ⟨fun r hr => ?_, pairwise_append.mpr ⟨h1.ordered, h2.ordered, h3⟩⟩
  rcases mem_append.mp hr with hr | hr
  · exact h1.len_pos r hr
  · exact h2.len_pos r hr

lemma IsSorted.append_of_labelAt_eq (h : IsSorted (l ++ l1))
  (h2 : IsSorted l2) (heq : ∀ f, labelAt l2 f = labelAt l1 f) : IsSorted (l ++ l2) := by
  obtain ⟨hl, h1, hcross⟩ := isSorted_append.mp h
  refine isSorted_append.mpr ⟨hl, h2, fun a ha b hb => ?_⟩
  -- the first point of `b` is covered by a run of the old part
  have hlabel : labelAt l2 b.start = some b.label := h2.labelAt_eq_some.mpr
      ⟨b, hb, ⟨Nat.le_refl _, Nat.lt_add_of_pos_right (h2.len_pos b hb)⟩, rfl⟩
  rw [heq] at hlabel
  obtain ⟨c, hc, hcov, -⟩ := h1.labelAt_eq_some.mp hlabel
  exact (hcross a ha c hc).trans hcov.1

/-- The run `r` with its sub-interval `[s, s + n)` relabelled, between what is left of it. -/
def cut (r : Run L) (s n : ℕ) (x : L) : List (Run L) :=
  (if r.start < s then [⟨r.start, s - r.start, r.label⟩] else []) ++
    ⟨s, n, x⟩ :: (if s + n < r.stop then [⟨s + n, r.stop - (s + n), r.label⟩] else [])

lemma length_cut (r : Run L) (s n : ℕ) (x : L) :
  (cut r s n x).length =
    1 + (if r.start < s then 1 else 0) + (if s + n < r.stop then 1 else 0) := by
  rw [cut]
  split <;> split <;> rfl

lemma labelAt_cut (h : r.Contains s n) (x : L) (f : ℕ) :
  labelAt (cut r s n x) f =
    if s ≤ f ∧ f < s + n then some x else if r.Covers f then some r.label else none := by
  obtain ⟨_, _⟩ := h
  unfold cut
  by_cases hb : r.start < s <;> by_cases ha : s + n < r.stop <;>
    simp only [hb, ha, if_true, if_false, nil_append, cons_append, labelAt_cons, labelAt_nil] <;>
    split_ifs <;> first | rfl | (simp only [Run.Covers, Run.stop] at *; omega)

lemma mem_cut (h : r.Contains s n) (ha : a ∈ cut r s n x) :
    r.start ≤ a.start ∧ a.stop ≤ r.stop := by
  obtain ⟨_, _⟩ := h
  simp only [cut, Run.stop] at *
  by_cases hb : r.start < s <;> by_cases hc : s + n < r.start + r.len <;>
    simp only [hb, hc, if_true, if_false, nil_append, cons_append,
      mem_cons, not_mem_nil, or_false] at ha <;>
    (rcases ha with rfl | rfl | rfl) <;> simp only <;> omega

lemma isSorted_cut (h : r.Contains s n) (hn : 0 < n) (x : L) : IsSorted (cut r s n x) := by
  obtain ⟨_, _⟩ := h
  unfold cut
  by_cases hb : r.start < s <;> by_cases hc : s + n < r.stop
  all_goals
    simp only [hb, hc, if_true, if_false]
    constructor
    · simp
      omega
    · simp [Run.stop]
      try omega

lemma IsSorted.cut (hs : IsSorted (pre ++ r :: post)) (h : r.Contains s n) (hn : 0 < n) (x : L) :
  IsSorted (pre ++ (cut r s n x ++ post)) := by
  obtain ⟨hpre, hrest, hcross⟩ := isSorted_append.mp hs
  refine isSorted_append.mpr ⟨hpre, isSorted_append.mpr
    ⟨isSorted_cut h hn x, hrest.tail, fun a ha b hb => ?_⟩, fun a ha b hb => ?_⟩
  · exact (mem_cut h ha).2.trans (hrest.stop_le hb)
  · rcases mem_append.mp hb with hb | hb
    · exact (hcross a ha r (by simp)).trans (mem_cut h hb).1
    · exact hcross a ha b (mem_cons_of_mem _ hb)

/-- Relabelling inside one run of a sorted list updates the function on exactly
that interval. -/
lemma IsSorted.labelAt_cut (hs : IsSorted (pre ++ r :: post)) (h : r.Contains s n) (x : L) (f : ℕ) :
  labelAt (pre ++ (RunList.cut r s n x ++ post)) f =
    if s ≤ f ∧ f < s + n then some x else labelAt (pre ++ r :: post) f := by
  obtain ⟨-, -, hcross⟩ := isSorted_append.mp hs
  rw [labelAt_append, labelAt_append, labelAt_append, RunList.labelAt_cut h, labelAt_cons]
  by_cases hf : s ≤ f ∧ f < s + n
  · -- no run before `r` reaches the interval
    have hpre : labelAt pre f = none := by
      refine labelAt_eq_none.mpr fun a ha hcov => ?_
      have h1 := hcross a ha r (by simp)
      have h2 := hcov.2
      have h3 := h.1
      omega
    simp [hf, hpre]
  · by_cases hr : r.Covers f <;> simp [hf, hr]

/-! ### Inserting a run -/

/-- The run is disjoint from every run of the list. -/
def Apart (r : Run L) (l : List (Run L)) : Prop := ∀ a ∈ l, a.stop ≤ r.start ∨ r.stop ≤ a.start

/-- Insert a run before the first one that does not start earlier. -/
def insertRun (r : Run L) (l : List (Run L)) : List (Run L) :=
  l.orderedInsert (fun a b => a.start ≤ b.start) r

lemma insertRun_cons (r a : Run L) (l : List (Run L)) :
  insertRun r (a :: l) = if r.start ≤ a.start then r :: a :: l else a :: insertRun r l :=
  rfl

lemma mem_insertRun : a ∈ insertRun r l ↔ a = r ∨ a ∈ l := mem_orderedInsert _

lemma IsSorted.insertRun (h : IsSorted l) (hr : 0 < r.len)
  (hap : Apart r l) : IsSorted (insertRun r l) := by
  induction l with
  | nil => exact IsSorted.cons hr IsSorted.nil (by simp)
  | cons a l ih =>
    have hpos := h.len_pos a (by simp)
    have ha := hap a (by simp)
    rw [insertRun_cons]
    split
    · refine IsSorted.cons hr h fun b hb => ?_
      rcases mem_cons.mp hb with rfl | hb
      · simp only [Run.stop] at *
        omega
      · have := h.stop_le hb
        simp only [Run.stop] at *
        omega
    refine IsSorted.cons hpos (ih h.tail fun b hb => hap b (by simp [hb])) fun b hb => ?_
    rcases mem_insertRun.mp hb with rfl | hb
    · simp only [Run.stop] at *
      omega
    · exact h.stop_le hb

lemma labelAt_insertRun (hap : Apart r l) (f : ℕ) :
  labelAt (insertRun r l) f = if r.Covers f then some r.label else labelAt l f := by
  induction l with
  | nil => rfl
  | cons a l ih =>
    rw [insertRun_cons]
    split
    · rw [labelAt_cons]
    rw [labelAt_cons, labelAt_cons, ih fun b hb => hap b (by simp [hb])]
    have ha := hap a (by simp)
    by_cases hr : r.Covers f <;> by_cases hc : a.Covers f <;> simp [hr, hc]
    -- both cannot cover the point
    simp only [Run.Covers, Run.stop] at *
    omega

/-! ### Counting points -/

/-- The total length of the runs whose label passes the test. -/
def totalLen (p : L → Bool) (l : List (Run L)) : ℕ :=
  ((l.filter fun r => p r.label).map Run.len).sum

lemma totalLen_cons (p : L → Bool) (r : Run L) (l : List (Run L)) :
  totalLen p (r :: l) = (bif p r.label then r.len else 0) + totalLen p l := by
  unfold totalLen
  by_cases h : p r.label <;> simp [h]

/-- The points whose label passes the test. -/
def labelled (p : L → Bool) (l : List (Run L)) : Set ℕ :=
  {f | ∃ x, labelAt l f = some x ∧ p x = true}

lemma IsSorted.labelled_cons (h : IsSorted (r :: l)) (p : L → Bool) :
  labelled p (r :: l) = {f | r.Covers f ∧ p r.label = true} ∪ labelled p l := by
  ext f
  simp only [labelled, Set.mem_ofPred_eq, Set.mem_union, h.labelAt_eq_some, h.tail.labelAt_eq_some]
  constructor
  · rintro ⟨x, ⟨a, ha, hcov, rfl⟩, hp⟩
    rcases mem_cons.mp ha with rfl | ha
    · exact Or.inl ⟨hcov, hp⟩
    · exact Or.inr ⟨_, ⟨a, ha, hcov, rfl⟩, hp⟩
  · rintro (⟨hcov, hp⟩ | ⟨x, ⟨a, ha, hcov, rfl⟩, hp⟩)
    · exact ⟨_, ⟨r, by simp, hcov, rfl⟩, hp⟩
    · exact ⟨_, ⟨a, by simp [ha], hcov, rfl⟩, hp⟩

lemma ncard_covers (r : Run L) (b : Bool) :
  {f | r.Covers f ∧ b = true}.ncard = bif b then r.len else 0 := by
  cases b with
  | false => simp
  | true =>
    have : {f | r.Covers f ∧ true = true} = ↑(Finset.Ico r.start r.stop) := by
      ext f
      simp [Run.Covers]
    rw [this, Set.ncard_coe_finset, Nat.card_Ico, Run.stop]
    simp

lemma IsSorted.finite_and_ncard_labelled (h : IsSorted l) (p : L → Bool) :
  (labelled p l).Finite ∧ (labelled p l).ncard = totalLen p l := by
  induction l with
  | nil =>
    have : labelled p ([] : List (Run L)) = ∅ := by
      ext f
      simp [labelled]
    simp [this, totalLen]
  | cons r l ih =>
    obtain ⟨hfin, hcard⟩ := ih h.tail
    have hrfin : {f | r.Covers f ∧ p r.label = true}.Finite :=
      (Finset.finite_toSet (Finset.Ico r.start r.stop)).subset fun f hf => by
        simpa [Run.Covers] using hf.1
    -- the first run ends before the points of the others
    have hdisj : Disjoint {f | r.Covers f ∧ p r.label = true} (labelled p l) := by
      rw [Set.disjoint_left]
      rintro f ⟨hcov, -⟩ ⟨x, hx, -⟩
      obtain ⟨a, ha, hcov', -⟩ := h.tail.labelAt_eq_some.mp hx
      have h1 := h.stop_le ha
      have h2 := hcov.2
      have h3 := hcov'.1
      omega
    rw [h.labelled_cons]
    refine ⟨hrfin.union hfin, ?_⟩
    rw [Set.ncard_union_eq hdisj hrfin hfin, ncard_covers, hcard, totalLen_cons]

lemma IsSorted.ncard_labelled (h : IsSorted l) (p : L → Bool) : (labelled p l).ncard =
  totalLen p l := (h.finite_and_ncard_labelled p).2

lemma IsSorted.totalLen_le (h : IsSorted l) (hb : ∀ r ∈ l, r.stop ≤ bound) (p : L → Bool) :
  totalLen p l ≤ bound := by
  rw [← h.ncard_labelled p]
  have hsub : labelled p l ⊆ ↑(Finset.range bound) := by
    rintro f ⟨x, hx, -⟩
    obtain ⟨a, ha, hcov, -⟩ := h.labelAt_eq_some.mp hx
    simpa using hcov.2.trans_le (hb a ha)
  calc (labelled p l).ncard
      ≤ (↑(Finset.range bound) : Set ℕ).ncard := Set.ncard_le_ncard hsub (Finset.finite_toSet _)
    _ = bound := by rw [Set.ncard_coe_finset, Finset.card_range]

lemma le_of_mem_dropWhile {α : Type*} {key : α → ℕ} {bound : ℕ} {l : List α}
  (h : l.Pairwise fun a b => key a ≤ key b) {a : α}
  (ha : a ∈ l.dropWhile fun a => key a < bound) : bound ≤ key a := by
  induction l with
  | nil => simp at ha
  | cons b l ih =>
    rw [dropWhile_cons] at ha
    by_cases hlt : key b < bound
    · rw [decide_eq_true hlt, if_pos rfl] at ha
      exact ih h.tail ha
    rw [decide_eq_false hlt, if_neg Bool.false_ne_true] at ha
    have hle := Nat.not_lt.mp hlt
    rcases mem_cons.mp ha with rfl | ha
    · exact hle
    · exact hle.trans ((pairwise_cons.mp h).1 a ha)

/-! ### Covered points and points taken off the front -/

/-- The positions of all runs. -/
def covered (l : List (Run L)) : Set ℕ := {f | ∃ r ∈ l, r.Covers f}

lemma covers_subset_iff (hr : 0 < r.len) {a b : ℕ} :
  {f | r.Covers f} ⊆ {f | a ≤ f ∧ f < b} ↔ a ≤ r.start ∧ r.stop ≤ b := by
  constructor
  · intro hsub
    have hfirst := hsub (show r.start ∈ {f | r.Covers f} from
      ⟨Nat.le_refl _, Nat.lt_add_of_pos_right hr⟩)
    have hlast := hsub (show r.stop - 1 ∈ {f | r.Covers f} from by
      constructor <;> rw [Run.stop] <;> omega)
    refine ⟨hfirst.1, ?_⟩
    have := hlast.2
    omega
  · rintro ⟨h1, h2⟩ f ⟨h3, h4⟩
    exact ⟨h1.trans h3, h4.trans_le h2⟩

lemma mem_covered_iff : f ∈ covered l ↔ labelAt l f ≠ none := by
  rw [ne_eq, labelAt_eq_none]
  simp [covered]

lemma IsSorted.covered_coalesce [DecidableEq L] (h : IsSorted l) :
  covered (coalesce l) = covered l := by
  ext f
  rw [mem_covered_iff, mem_covered_iff, labelAt_coalesce h]

lemma covered_insertRun (r : Run L) (l : List (Run L)) :
  covered (insertRun r l) = covered l ∪ {f | r.Covers f} := by
  ext f
  constructor
  · rintro ⟨a, ha, hcov⟩
    rcases mem_insertRun.mp ha with rfl | ha
    · exact .inr hcov
    · exact .inl ⟨a, ha, hcov⟩
  · rintro (⟨a, ha, hcov⟩ | hcov)
    · exact ⟨a, mem_insertRun.mpr (.inr ha), hcov⟩
    · exact ⟨r, mem_insertRun.mpr (.inl rfl), hcov⟩

lemma IsSorted.apart_iff (h : IsSorted l) (hr : 0 < r.len) :
  Apart r l ↔ Disjoint {f | r.Covers f} (covered l) := by
  rw [Set.disjoint_left]
  constructor
  · rintro hapart f ⟨_, _⟩ ⟨a, ha, _, _⟩
    have := hapart a ha
    omega
  intro hdisj a ha
  have hlen := h.len_pos a ha
  by_contra hmeet
  refine hdisj (a := max a.start r.start) ?_ ⟨a, ha, ?_⟩
  all_goals
    simp only [Set.mem_ofPred_eq, Run.Covers, Run.stop] at *
    omega

/-- What is left of a run without its first `n` points. -/
def dropFront (r : Run L) (n : ℕ) : List (Run L) :=
  if n < r.len then [⟨r.start + n, r.len - n, r.label⟩] else []

lemma mem_dropFront (ha : a ∈ dropFront r n) : a.start = r.start + n ∧ a.stop = r.stop := by
  rw [dropFront] at ha
  split_ifs at ha with hlen
  · obtain rfl := mem_singleton.mp ha
    refine ⟨rfl, ?_⟩
    change r.start + n + (r.len - n) = r.start + r.len
    omega
  · simp at ha

lemma IsCanonical.sublist {l' : List (Run L)} (h : IsCanonical l) (hsub : l'.Sublist l) :
  IsCanonical l' :=
  ⟨⟨fun r hr => h.len_pos r (hsub.subset hr), h.ordered.sublist hsub⟩, h.separated.sublist hsub⟩

lemma IsCanonical.dropFront (h : IsCanonical (pre ++ r :: post)) (hn : 0 < n) :
  IsCanonical (pre ++ (RunList.dropFront r n ++ post)) := by
  rw [RunList.dropFront]
  split_ifs with hlen
  · obtain ⟨hpre, hrest, hcross⟩ := isSorted_append.mp h.toIsSorted
    obtain ⟨hpre', hrest', hcross'⟩ := pairwise_append.mp h.separated
    obtain ⟨hr', hpost'⟩ := pairwise_cons.mp hrest'
    have hstop : r.start + n + (r.len - n) = r.stop := by
      rw [Run.stop]
      omega
    refine ⟨isSorted_append.mpr ⟨hpre, .cons (Nat.sub_pos_of_lt hlen) hrest.tail ?_, ?_⟩,
      pairwise_append.mpr ⟨hpre', pairwise_cons.mpr ⟨?_, hpost'⟩, ?_⟩⟩
    · intro a ha
      rw [Run.stop, hstop]
      exact hrest.stop_le ha
    · intro a ha b hb
      rcases mem_cons.mp hb with rfl | hb
      · exact (hcross a ha r (by simp)).trans (Nat.le_add_right _ _)
      · exact hcross a ha b (mem_cons_of_mem _ hb)
    · intro a ha heq
      rw [Run.stop, hstop] at heq
      exact hr' a ha heq
    intro a ha b hb heq
    rcases mem_cons.mp hb with rfl | hb
    · -- the run before ends where the old start was at the latest
      have hle := hcross a ha r (by simp)
      rw [heq] at hle
      exact absurd hle (by simp only; omega)
    · exact hcross' a ha b (mem_cons_of_mem _ hb) heq
  · exact h.sublist (List.Sublist.append_left (sublist_cons_self r post) pre)

lemma IsSorted.covered_dropFront (h : IsSorted (pre ++ r :: post)) (hn : n ≤ r.len) :
  covered (pre ++ (RunList.dropFront r n ++ post)) =
    covered (pre ++ r :: post) \ {f | r.start ≤ f ∧ f < r.start + n} := by
  obtain ⟨-, hrest, hcross⟩ := isSorted_append.mp h
  ext f
  constructor
  · rintro ⟨a, ha, hcov⟩
    obtain ⟨hlow, hhigh⟩ := hcov
    rcases mem_append.mp ha with ha | ha
    · refine ⟨⟨a, by simp [ha], hlow, hhigh⟩, fun hfront => ?_⟩
      have := hcross a ha r (by simp)
      have := hfront.1
      omega
    rcases mem_append.mp ha with ha | ha
    · obtain ⟨_, hstop⟩ := mem_dropFront ha
      refine ⟨⟨r, by simp, ⟨by omega, by omega⟩⟩, fun hfront => ?_⟩
      have := hfront.2
      omega
    refine ⟨⟨a, by simp [ha], hlow, hhigh⟩, fun hfront => ?_⟩
    have hle := hrest.stop_le ha
    have := hfront.2
    rw [Run.stop] at hle
    omega
  rintro ⟨⟨a, ha, hcov⟩, hfront⟩
  rcases mem_append.mp ha with ha | ha
  · exact ⟨a, by simp [ha], hcov⟩
  rcases mem_cons.mp ha with rfl | ha
  · have hback : a.start + n ≤ f := by
      by_contra hlt
      exact hfront ⟨hcov.1, by omega⟩
    have hstop := hcov.2
    have hlen : n < a.len := by
      rw [Run.stop] at hstop
      omega
    refine ⟨⟨a.start + n, a.len - n, a.label⟩, by simp [RunList.dropFront, hlen], hback, ?_⟩
    simp only [Run.stop] at *
    omega
  · exact ⟨a, by simp [ha], hcov⟩

end RunList
