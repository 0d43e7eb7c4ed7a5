/-
Choosing from a list of groups.

A rule of two ranks picks the first element of the first rank, otherwise the first of the second,
otherwise the first of all; each group may propose one element before the rule is applied.

* `choose_proposals_iff` (**proposals**): when they lead to the choice among all elements.
-/
import Mathlib.Data.List.Nodup

namespace Selection
open List Option
variable {α : Type} {p q : α → Bool} {a : α} {group l : List α} {groups : List (List α)}

/-- The choice among all elements. -/
def choose (p q : α → Bool) (l : List α) : Option α := (l.find? p).or ((l.find? q).or l.head?)

/-- The first element of either rank, otherwise the first of all. -/
def propose (p q : α → Bool) (group : List α) : Option α :=
  (group.find? fun a => p a || q a).or group.head?

/-- One element of each group that has any. -/
def proposals (p q : α → Bool) (groups : List (List α)) : List α :=
  groups.flatMap fun group => (propose p q group).toList

lemma mem_of_propose (h : propose p q group = some a) : a ∈ group := by
  rcases or_eq_some_iff.1 h with hfind | ⟨-, hhead⟩
  · exact mem_of_find?_eq_some hfind
  · exact mem_of_head? hhead

lemma mem_flatten_of_mem_proposals (h : a ∈ proposals p q groups) : a ∈ groups.flatten := by
  obtain ⟨group, hgroup, ha⟩ := mem_flatMap.1 h
  exact mem_flatten.2 ⟨group, hgroup, mem_of_propose (mem_toList.1 ha)⟩

lemma proposals_cons (group : List α) (groups : List (List α)) : proposals p q (group :: groups) =
  (propose p q group).toList ++ proposals p q groups := flatMap_cons

lemma choose_eq_some_iff (ha : p a = true) : choose p q l = some a ↔ l.find? p = some a := by
  rw [choose, or_eq_some_iff, or_iff_left]
  rintro ⟨hnone, hlow⟩
  have hmem : a ∈ l := by
    rcases or_eq_some_iff.1 hlow with hq | ⟨-, hhead⟩
    · exact mem_of_find?_eq_some hq
    · exact mem_of_head? hhead
  exact find?_eq_none.1 hnone a hmem ha

lemma choose_proposals_of_none (h : groups.flatten.find? p = none) :
  choose p q (proposals p q groups) = choose p q groups.flatten := by
  have hprops : (proposals p q groups).find? p = none :=
    find?_eq_none.2 fun a ha => find?_eq_none.1 h a (mem_flatten_of_mem_proposals ha)
  rw [choose, choose, hprops, h, none_or, none_or]
  clear hprops
  induction groups with
  | nil => rfl
  | cons group groups ih =>
    rw [flatten_cons, find?_append, or_eq_none_iff] at h
    have hrest := ih h.2
    have hfind : (group.find? fun a => p a || q a) = group.find? q := by
      rw [← head?_filter, ← head?_filter, filter_congr]
      intro a ha
      have hpa : p a = false := by simpa using find?_eq_none.1 h.1 a ha
      rw [hpa, Bool.false_or]
    rw [proposals_cons, flatten_cons, propose, hfind, find?_append, find?_append, head?_append,
      head?_append]
    cases hq : group.find? q with
    | some b => simp [find?_some hq]
    | none =>
      cases group with
      | nil => simpa using hrest
      | cons b _ =>
        have hb : q b = false := by simpa using find?_eq_none.1 hq b mem_cons_self
        simp only [none_or, head?_cons, toList_some, find?_singleton, hb,
          Bool.false_eq_true, if_false, some_or] at hrest ⊢
        -- below, only elements of second rank can be found
        cases hlow : groups.flatten.find? q with
        | some c =>
          have hsame : (proposals p q groups).find? q = some c := by
            rw [hlow, some_or] at hrest
            cases hfound : (proposals p q groups).find? q with
            | some d => rwa [hfound] at hrest
            | none =>
              rw [hfound, none_or] at hrest
              exact absurd (find?_some hlow) (find?_eq_none.1 hfound c (mem_of_head? hrest))
          rw [hsame]
        | none =>
          rw [find?_eq_none.2 fun a ha => find?_eq_none.1 hlow a (mem_flatten_of_mem_proposals ha)]

lemma choose_proposals_eq_none :
  choose p q (proposals p q groups) = none ↔ groups.flatten = [] := by
  rw [choose, or_eq_none_iff, or_eq_none_iff, head?_eq_none_iff]
  constructor
  · rintro ⟨-, -, hnone⟩
    refine flatten_eq_nil_iff.2 fun group hgroup => ?_
    have hempty := flatMap_eq_nil_iff.1 hnone group hgroup
    rw [toList_eq_nil_iff, propose, or_eq_none_iff, head?_eq_none_iff] at hempty
    exact hempty.2
  intro hnone
  have hempty : proposals p q groups = [] := eq_nil_iff_forall_not_mem.2 fun a ha => by
    have hmem := mem_flatten_of_mem_proposals ha
    rw [hnone] at hmem
    cases hmem
  rw [hempty]
  exact ⟨rfl, rfl, rfl⟩

/-- **The proposals lead to the choice among all elements exactly when** the first group with an
element of first rank proposes it. -/
theorem choose_proposals_iff (hnodup : groups.flatten.Nodup) : choose p q (proposals p q groups) =
  choose p q groups.flatten ↔ ∀ group, groups.find? (fun group => group.any p) =
  some group → (group.find? fun a => p a || q a) = group.find? p := by
  induction groups with
  | nil => exact iff_of_true rfl nofun
  | cons group groups ih =>
    rw [flatten_cons, nodup_append] at hnodup
    rw [proposals_cons, flatten_cons, find?_cons]
    cases hany : group.any p with
    | true =>
      obtain ⟨a, ha, hpa⟩ := any_eq_true.1 hany
      obtain ⟨first, hfirst⟩ := isSome_iff_exists.1 (find?_isSome.2 ⟨a, ha, hpa⟩)
      obtain ⟨b, hb⟩ := isSome_iff_exists.1 ((find?_isSome (p := fun a => p a || q a)).2
        ⟨a, ha, by rw [hpa, Bool.true_or]⟩)
      have hall : choose p q (group ++ groups.flatten) = some first :=
        (choose_eq_some_iff (find?_some hfirst)).2 (by rw [find?_append, hfirst, some_or])
      rw [hall, choose_eq_some_iff (find?_some hfirst), find?_append, propose, hb, some_or,
        toList_some, find?_singleton]
      simp only [some.injEq, forall_eq', hb, hfirst]
      split
      · rw [some_or, some.injEq]
      next hpb =>
      rw [none_or]
      refine iff_of_false (fun hfound => ?_) fun heq => hpb (heq ▸ find?_some hfirst)
      have hlater := mem_flatten_of_mem_proposals (mem_of_find?_eq_some hfound)
      exact hnodup.2.2 first (mem_of_find?_eq_some hfirst) first hlater rfl
    | false =>
      have hnone : group.find? p = none := by
        refine find?_eq_none.2 fun a ha hpa => ?_
        rw [any_eq_true.2 ⟨a, ha, hpa⟩] at hany
        cases hany
      have hprop : (propose p q group).toList.find? p = none := by
        refine find?_eq_none.2 fun a ha => find?_eq_none.1 hnone a ?_
        exact mem_of_propose (mem_toList.1 ha)
      have hrest := ih hnodup.2.1
      dsimp only
      rw [← hrest]
      cases hlater : groups.flatten.find? p with
      | none =>
        have hnothing : (group :: groups).flatten.find? p = none := by
          rw [flatten_cons, find?_append, hnone, hlater, none_or]
        have hsame := choose_proposals_of_none (q := q) hnothing
        rw [proposals_cons, flatten_cons] at hsame
        exact iff_of_true hsame (choose_proposals_of_none hlater)
      | some first =>
        have hpf := find?_some hlater
        have hall : choose p q (group ++ groups.flatten) = some first :=
          (choose_eq_some_iff hpf).2 (by rw [find?_append, hnone, hlater, none_or])
        rw [hall, choose_eq_some_iff hpf, find?_append, hprop, none_or,
          (choose_eq_some_iff hpf).2 hlater, choose_eq_some_iff hpf]

end Selection
