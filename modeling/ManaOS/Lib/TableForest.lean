/-
Forests of linked nodes.

`Planted` says that a store of child links agrees with a place for each node, its root and the
slots taken from it, so that no node is linked twice.

* `Planted.graft`, `prune`, `plant`, `uproot`: the four ways a forest changes;
* `Planted.walk_eq_some`: a walk from a node ends where the places say.
-/
import Mathlib.Logic.Function.Basic
import Mathlib.Data.Set.Basic
import Mathlib.Data.List.Induction

namespace TableForest
open Function (update update_of_ne update_self)
variable {ν ι : Type*}

/-- The slots of the forest at the end of a path: the window at a root, every one below it. -/
def Open (depth : ℕ) (window : Set ι) (path : List ι) (slot : ι) : Prop :=
  path.length < depth ∧ (path = [] → slot ∈ window)

/-- The nodes with a place form a forest: a child stands one slot further, and a node stands below
its parent. -/
structure Planted (depth : ℕ) (window : Set ι) (child : ν → ι → Option ν)
    (place : ν → Option (ν × List ι)) : Prop where
  root_eq : ∀ {n r}, place n = some (r, []) → n = r
  down : ∀ {n r path slot c}, place n = some (r, path) → Open depth window path slot →
    child n slot = some c → place c = some (r, path ++ [slot])
  up : ∀ {c r path slot}, place c = some (r, path ++ [slot]) →
    Open depth window path slot ∧ ∃ n, place n = some (r, path) ∧ child n slot = some c

/-- Follow the slots of a path down from a node. -/
def walk (child : ν → ι → Option ν) : ν → List ι → Option ν
  | n, [] => some n
  | n, slot :: path => (child n slot).bind fun c => walk child c path

namespace Planted
variable {child child' : ν → ι → Option ν} {place : ν → Option (ν × List ι)}

lemma length_le (h : Planted depth window child place) (hn : place n = some (r, path)) :
  path.length ≤ depth := by
  rcases List.eq_nil_or_concat path with rfl | ⟨_, _, rfl⟩
  · exact Nat.zero_le _
  rw [List.concat_eq_append] at hn ⊢
  have hopen := (h.up hn).1.1
  rw [List.length_append, List.length_singleton]
  exact hopen

lemma place_inj (h : Planted depth window child place)
  (hn : place n = some (r, path)) (hn' : place n' = some (r, path)) : n = n' := by
  induction path using List.reverseRecOn generalizing n n' with
  | nil => rw [h.root_eq hn, h.root_eq hn']
  | append_singleton _ _ ih =>
    obtain ⟨-, _, hpar, hch⟩ := h.up hn
    obtain ⟨-, _, hpar', hch'⟩ := h.up hn'
    obtain rfl := ih hpar hpar'
    exact Option.some.inj (hch.symm.trans hch')

lemma exists_place (h : Planted depth window child place) (hc : place c = some (r, front ++ path)) :
  ∃ n, place n = some (r, front) := by
  induction path using List.reverseRecOn generalizing c with
  | nil => exact ⟨c, by rwa [List.append_nil] at hc⟩
  | append_singleton _ _ ih =>
    rw [← List.append_assoc] at hc
    obtain ⟨-, n, hn, -⟩ := h.up hc
    exact ih hn

lemma head_mem (h : Planted depth window child place) (hc : place c = some (r, slot :: path)) :
  slot ∈ window := by
  have hc : place c = some (r, [slot] ++ path) := hc
  obtain ⟨n, hn⟩ := h.exists_place hc
  have hn : place n = some (r, [] ++ [slot]) := hn
  exact (h.up hn).1.2 rfl

lemma congr (h : Planted depth window child place)
  (heq : ∀ {n r path slot}, place n = some (r, path) → Open depth window path slot →
    child' n slot = child n slot) : Planted depth window child' place where
  root_eq := h.root_eq
  down hn hopen hc := h.down hn hopen ((heq hn hopen).symm.trans hc)
  up hc := by
    obtain ⟨hopen, n, hn, hch⟩ := h.up hc
    exact ⟨hopen, n, hn, (heq hn hopen).trans hch⟩

section Update
variable [DecidableEq ν]

lemma graft (h : Planted depth window child place)
  (hn : place n = some (r, path)) (hopen : Open depth window path slot)
  (hempty : child n slot = none) (hfresh : place c = none) (hlink : child' n slot = some c)
  (hbare : ∀ {s}, Open depth window (path ++ [slot]) s → child' c s = none)
  (hkept : ∀ {m q p s}, place m = some (q, p) → Open depth window p s → (m, s) ≠ (n, slot) →
    child' m s = child m s) :
  Planted depth window child' (update place c (some (r, path ++ [slot]))) := by
  have hold : ∀ {m q p}, place m = some (q, p) →
    update place c (some (r, path ++ [slot])) m = some (q, p) := by
    intro m q p hm
    have hne : m ≠ c := fun heq => by rw [heq, hfresh] at hm; cases hm
    rw [update_of_ne hne, hm]
  refine ⟨fun {m q} hm => ?_, fun {m q p s d} hm hs hd => ?_, fun {d q p s} hd => ?_⟩
  · by_cases hmc : m = c
    · rw [hmc, update_self, Option.some.injEq, Prod.mk.injEq] at hm
      cases (List.append_ne_nil_of_right_ne_nil path (List.cons_ne_nil slot [])) hm.2
    · rw [update_of_ne hmc] at hm
      exact h.root_eq hm
  · by_cases hmc : m = c
    · subst hmc
      rw [update_self, Option.some.injEq, Prod.mk.injEq] at hm
      obtain ⟨-, rfl⟩ := hm
      rw [hbare hs] at hd
      cases hd
    rw [update_of_ne hmc] at hm
    by_cases hslot : (m, s) = (n, slot)
    · obtain ⟨rfl, rfl⟩ := Prod.mk.injEq .. ▸ hslot
      rw [hn, Option.some.injEq, Prod.mk.injEq] at hm
      obtain ⟨rfl, rfl⟩ := hm
      rw [hlink, Option.some.injEq] at hd
      rw [← hd, update_self]
    · rw [hkept hm hs hslot] at hd
      exact hold (h.down hm hs hd)
  by_cases hdc : d = c
  · subst hdc
    rw [update_self, Option.some.injEq, Prod.mk.injEq] at hd
    obtain ⟨rfl, hpath⟩ := hd
    obtain ⟨rfl, hslot⟩ := List.append_inj' hpath rfl
    obtain rfl : slot = s := by simpa using hslot
    exact ⟨hopen, n, hold hn, hlink⟩
  rw [update_of_ne hdc] at hd
  obtain ⟨hs, m, hm, hch⟩ := h.up hd
  refine ⟨hs, m, hold hm, ?_⟩
  have hslot : (m, s) ≠ (n, slot) := by
    rintro heq
    obtain ⟨rfl, rfl⟩ := Prod.mk.injEq .. ▸ heq
    rw [hempty] at hch
    cases hch
  rw [hkept hm hs hslot, hch]

lemma prune (h : Planted depth window child place)
  (hn : place n = some (r, path)) (hc : place c = some (r, path ++ [slot]))
  (hbare : ∀ {s}, Open depth window (path ++ [slot]) s → child c s = none)
  (hunlink : child' n slot = none)
  (hkept : ∀ {m q p s}, place m = some (q, p) → Open depth window p s → m ≠ c →
    (m, s) ≠ (n, slot) → child' m s = child m s) :
  Planted depth window child' (update place c none) := by
  have hold : ∀ {m q p}, update place c none m = some (q, p) → m ≠ c ∧ place m = some (q, p) := by
    intro m q p hm
    have hne : m ≠ c := fun heq => by rw [heq, update_self] at hm; cases hm
    exact ⟨hne, by rwa [update_of_ne hne] at hm⟩
  refine ⟨fun hm => h.root_eq (hold hm).2, fun {m q p s d} hm hs hd => ?_, fun {d q p s} hd => ?_⟩
  · obtain ⟨hmc, hold⟩ := hold hm
    have hslot : (m, s) ≠ (n, slot) := by
      rintro heq
      obtain ⟨rfl, rfl⟩ := Prod.mk.injEq .. ▸ heq
      rw [hunlink] at hd
      cases hd
    rw [hkept hold hs hmc hslot] at hd
    have hplc := h.down hold hs hd
    have hdc : d ≠ c := by
      rintro rfl
      -- the place of the unlinked node determines its slot
      rw [hc, Option.some.injEq, Prod.mk.injEq] at hplc
      obtain ⟨rfl, hpath⟩ := hplc
      obtain ⟨rfl, heq⟩ := List.append_inj' hpath rfl
      obtain rfl : slot = s := by simpa using heq
      exact hslot (by rw [h.place_inj hold hn])
    rw [update_of_ne hdc, hplc]
  obtain ⟨hdc, hd⟩ := hold hd
  obtain ⟨hs, m, hm, hch⟩ := h.up hd
  have hmc : m ≠ c := by
    rintro rfl
    rw [hc, Option.some.injEq, Prod.mk.injEq] at hm
    obtain ⟨rfl, rfl⟩ := hm
    rw [hbare hs] at hch
    cases hch
  have hslot : (m, s) ≠ (n, slot) := by
    rintro heq
    obtain ⟨rfl, rfl⟩ := Prod.mk.injEq .. ▸ heq
    rw [hn, Option.some.injEq, Prod.mk.injEq] at hm
    obtain ⟨rfl, rfl⟩ := hm
    exact hdc (h.place_inj hd hc)
  exact ⟨hs, m, by rw [update_of_ne hmc, hm], by rw [hkept hm hs hmc hslot, hch]⟩

lemma plant (h : Planted depth window child place) (hfresh : place n = none)
  (hbare : ∀ {s}, Open depth window [] s → child n s = none) :
  Planted depth window child (update place n (some (n, []))) := by
  have hold : ∀ {m x}, place m = some x → update place n (some (n, [])) m = some x := by
    intro m x hm
    have hne : m ≠ n := fun heq => by rw [heq, hfresh] at hm; cases hm
    rw [update_of_ne hne, hm]
  refine ⟨fun {m q} hm => ?_, fun {m q p s d} hm hs hd => ?_, fun {d q p s} hd => ?_⟩
  · by_cases hmn : m = n
    · subst hmn
      rw [update_self, Option.some.injEq, Prod.mk.injEq] at hm
      exact hm.1
    · rw [update_of_ne hmn] at hm
      exact h.root_eq hm
  · by_cases hmn : m = n
    · subst hmn
      rw [update_self, Option.some.injEq, Prod.mk.injEq] at hm
      obtain ⟨-, rfl⟩ := hm
      rw [hbare hs] at hd
      cases hd
    · rw [update_of_ne hmn] at hm
      exact hold (h.down hm hs hd)
  have hdn : d ≠ n := by
    rintro rfl
    rw [update_self, Option.some.injEq, Prod.mk.injEq] at hd
    cases (List.append_ne_nil_of_right_ne_nil p (List.cons_ne_nil s [])) hd.2.symm
  rw [update_of_ne hdn] at hd
  obtain ⟨hs, m, hm, hch⟩ := h.up hd
  exact ⟨hs, m, hold hm, hch⟩

lemma uproot (h : Planted depth window child place) (hn : place n = some (n, []))
  (hbare : ∀ {s}, Open depth window [] s → child n s = none) :
  Planted depth window child (update place n none) := by
  have hold : ∀ {m q p}, update place n none m = some (q, p) → m ≠ n ∧ place m = some (q, p) := by
    intro m q p hm
    have hne : m ≠ n := fun heq => by rw [heq, update_self] at hm; cases hm
    exact ⟨hne, by rwa [update_of_ne hne] at hm⟩
  refine ⟨fun hm => h.root_eq (hold hm).2, fun {m q p s d} hm hs hd => ?_, fun {d q p s} hd => ?_⟩
  · have hplc := h.down (hold hm).2 hs hd
    have hdn : d ≠ n := by
      rintro rfl
      rw [hn, Option.some.injEq, Prod.mk.injEq] at hplc
      cases (List.append_ne_nil_of_right_ne_nil p (List.cons_ne_nil s [])) hplc.2.symm
    rw [update_of_ne hdn, hplc]
  obtain ⟨_, hd⟩ := hold hd
  obtain ⟨hs, m, hm, hch⟩ := h.up hd
  have hmn : m ≠ n := by
    rintro rfl
    rw [hn, Option.some.injEq, Prod.mk.injEq] at hm
    obtain ⟨-, rfl⟩ := hm
    rw [hbare hs] at hch
    cases hch
  exact ⟨hs, m, by rw [update_of_ne hmn, hm], hch⟩

end Update

lemma walk_eq_some (h : Planted depth window child place)
  (hn : place n = some (r, front)) (hlen : (front ++ path).length ≤ depth)
  (hwin : ∀ slot ∈ (front ++ path).head?, slot ∈ window) :
  walk child n path = some c ↔ place c = some (r, front ++ path) := by
  induction path generalizing n front with
  | nil =>
    rw [List.append_nil]
    refine ⟨fun heq => Option.some.inj heq ▸ hn, fun hc => ?_⟩
    rw [walk, h.place_inj hn hc]
  | cons slot path ih =>
    have hopen : Open depth window front slot := by
      refine ⟨?_, fun hfront => hwin slot (by rw [hfront]; rfl)⟩
      rw [List.length_append, List.length_cons] at hlen
      omega
    have happend : front ++ slot :: path = front ++ [slot] ++ path := by
      rw [List.append_assoc, List.singleton_append]
    rw [happend] at hlen hwin ⊢
    rw [walk]
    cases hch : child n slot with
    | some _ => exact ih (h.down hn hopen hch) hlen hwin
    | none =>
      refine ⟨fun heq => (by cases heq), fun hc => ?_⟩
      -- the node one slot further would be linked in the empty slot
      obtain ⟨_, hnext⟩ := h.exists_place hc
      obtain ⟨-, _, hpar, hlink⟩ := h.up hnext
      rw [h.place_inj hpar hn, hch] at hlink
      cases hlink

end Planted
end TableForest
