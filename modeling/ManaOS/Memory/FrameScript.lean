/-
Scripts of allocations and frees on the frame map.

Whether a sequence of calls succeeds depends on the frame map alone: on runs of free frames and on
room to track the rests of the runs that are cut.

* `Serves`, `CanFree`: when requests and frees succeed one after the other.
-/
import ManaOS.Memory.FrameOps

namespace ManaOS
open RunList
namespace FrameMap
variable {m m' : FrameMap}

lemma FreeRun.exists_firstFit (h : m.FreeRun s n) : ∃ t ≤ s, m.FirstFit n t := by
  classical
  have hexists : ∃ t, m.FreeRun t n := ⟨s, h⟩
  exact ⟨Nat.find hexists, Nat.find_min' hexists h, Nat.find_spec hexists,
    fun t ht => Nat.find_min' hexists ht⟩

/-! ### Allocations -/

/-- A request: how many frames, for whom. -/
abbrev Request := ℕ × FrameRangeOwner

/-- The requests are served one after the other. -/
inductive Serves : FrameMap → List Request → FrameMap → Prop
  | nil {m : FrameMap} : Serves m [] m
  | cons {m m' : FrameMap} {n s : ℕ} {owner : FrameRangeOwner} {requests : List Request}
      (fit : m.FirstFit n s) (room : m.HasRoom s n)
      (rest : Serves (m.mark s n (.used, owner)) requests m') :
      Serves m ((n, owner) :: requests) m'

namespace Serves

lemma unique (h : m.Serves requests m') (h' : m.Serves requests m'') : m' = m'' := by
  induction h with
  | nil => cases h'; rfl
  | cons fit _ _ ih =>
    cases h' with
    | cons fit' _ rest' =>
      rw [fit'.unique fit] at rest'
      exact ih rest'

lemma append (h : m.Serves requests m') (h' : m'.Serves requests' m'') :
  m.Serves (requests ++ requests') m'' := by
  induction h with
  | nil => exact h'
  | cons fit room _ ih => exact .cons fit room (ih h')

lemma of_append (h : m.Serves (requests ++ requests') m'') :
  ∃ m', m.Serves requests m' ∧ m'.Serves requests' m'' := by
  induction requests generalizing m with
  | nil => exact ⟨m, .nil, h⟩
  | cons _ _ ih =>
    cases h with
    | cons fit room rest =>
      obtain ⟨m', hfirst, hrest⟩ := ih rest
      exact ⟨m', .cons fit room hfirst, hrest⟩

end Serves

/-- The frame map after the frees. -/
def freeAll (m : FrameMap) (frames : List PhysicalFrameStart) : FrameMap :=
  frames.foldl (fun m frame => m.mark (frame.asAddress / pageSize) 1 (.free, .free)) m

/-- There is room to track the frees of the frames one after the other. -/
inductive CanFree : FrameMap → List PhysicalFrameStart → Prop
  | nil {m : FrameMap} : CanFree m []
  | cons {m : FrameMap} {frame : PhysicalFrameStart} {frames : List PhysicalFrameStart}
      (room : m.HasRoom (frame.asAddress / pageSize) 1)
      (rest : CanFree (m.mark (frame.asAddress / pageSize) 1 (.free, .free)) frames) :
      CanFree m (frame :: frames)

lemma canFree_cons :
  m.CanFree (frame :: frames) ↔ m.HasRoom (frame.asAddress / pageSize) 1 ∧
    CanFree (m.mark (frame.asAddress / pageSize) 1 (.free, .free)) frames :=
  ⟨fun h => by cases h with | cons room rest => exact ⟨room, rest⟩, fun h => .cons h.1 h.2⟩

lemma canFree_append :
  m.CanFree (frames ++ frames') ↔ m.CanFree frames ∧ (m.freeAll frames).CanFree frames' := by
  induction frames generalizing m with
  | nil => exact ⟨fun h => ⟨.nil, h⟩, fun h => h.2⟩
  | cons _ _ ih =>
    rw [List.cons_append, canFree_cons, canFree_cons, ih, and_assoc]
    rfl

/-! ### Room -/

/-- The map takes finitely many ranges to track. -/
def Trackable (m : FrameMap) : Prop := {f | IsStart m f}.Finite

lemma isStart_mark (h : IsStart (m.mark s n label) f) : IsStart m f ∨ f = s ∨ f = s + n := by
  by_contra hnot
  rw [not_or, not_or] at hnot
  obtain ⟨hold, _, _⟩ := hnot
  obtain ⟨x, hx, hleft⟩ := h
  have hiff : (s ≤ f - 1 ∧ f - 1 < s + n) ↔ (s ≤ f ∧ f < s + n) ∨ f = 0 ∧ s = 0 ∧ 0 < n := by
    omega
  rw [mark] at hx
  rw [mark] at hleft
  by_cases hin : s ≤ f ∧ f < s + n
  · rw [if_pos hin] at hx
    rw [if_pos (hiff.2 (.inl hin))] at hleft
    exact hleft ⟨by omega, hx⟩
  · rw [if_neg hin] at hx
    rw [if_neg fun hprev => by omega] at hleft
    exact hold ⟨x, hx, hleft⟩

lemma starts_mark_subset (m : FrameMap) (s n : ℕ) (label : FrameLabel) : {f | IsStart (m.mark s
  n label) f} ⊆ {f | IsStart m f} ∪ {s, s + n} := fun _ hf => (isStart_mark hf).imp id fun h => h

lemma Trackable.mark (h : m.Trackable) (s n : ℕ) (label : FrameLabel) : (m.mark s n
  label).Trackable := (h.union (Set.toFinite {s, s + n})).subset (m.starts_mark_subset s n label)

lemma Trackable.runCount_mark_le (h : m.Trackable) (s n : ℕ) (label : FrameLabel) :
  (m.mark s n label).runCount ≤ m.runCount + 2 := by
  have hpair : ({s, s + n} : Set ℕ).ncard ≤ 2 := by
    have hle := Set.ncard_insert_le s {s + n}
    rwa [Set.ncard_singleton] at hle
  calc (m.mark s n label).runCount
      ≤ ({f | IsStart m f} ∪ {s, s + n}).ncard :=
        Set.ncard_le_ncard (m.starts_mark_subset s n label) (h.union (Set.toFinite _))
    _ ≤ m.runCount + ({s, s + n} : Set ℕ).ncard := Set.ncard_union_le _ _
    _ ≤ m.runCount + 2 := Nat.add_le_add_left hpair _

lemma Serves.trackable (h : m.Serves requests m') (hm : m.Trackable) :
  m'.Trackable ∧ m'.runCount ≤ m.runCount + 2 * requests.length := by
  induction h with
  | nil => exact ⟨hm, Nat.le_refl _⟩
  | @cons m _ n s owner _ _ _ _ ih =>
    obtain ⟨htrack, _⟩ := ih (hm.mark ..)
    have hmark := hm.runCount_mark_le s n (.used, owner)
    refine ⟨htrack, ?_⟩
    rw [List.length_cons]
    omega

lemma Serves.exists_changed (h : m.Serves requests m') : ∃ changed : Finset ℕ,
  changed.card ≤ (requests.map Prod.fst).sum ∧ ∀ f, m' f ≠ m f → f ∈ changed := by
  induction h with
  | nil => exact ⟨∅, Nat.le_refl _, fun f hf => absurd rfl hf⟩
  | @cons m _ n s owner _ _ _ _ ih =>
    obtain ⟨changed, _, hchanged⟩ := ih
    refine ⟨Finset.Ico s (s + n) ∪ changed, ?_, fun f hf => ?_⟩
    · have hunion := Finset.card_union_le (Finset.Ico s (s + n)) changed
      rw [Nat.card_Ico] at hunion
      rw [List.map_cons, List.sum_cons]
      omega
    by_cases hin : s ≤ f ∧ f < s + n
    · exact Finset.mem_union_left _ (Finset.mem_Ico.2 hin)
    · have hmark : m.mark s n (.used, owner) f = m f := if_neg hin
      exact Finset.mem_union_right _ (hchanged f (by rwa [hmark]))

lemma canFree_of_runCount (h : m.Trackable) {frames : List PhysicalFrameStart}
  (hroom : m.runCount + 2 * frames.length ≤ maxTrackedRanges) : m.CanFree frames := by
  induction frames generalizing m with
  | nil => exact .nil
  | cons frame _ ih =>
    rw [List.length_cons] at hroom
    have hrests := m.rests_le (frame.asAddress / pageSize) 1
    have hmark := h.runCount_mark_le (frame.asAddress / pageSize) 1 (.free, .free)
    refine .cons ?_ (ih (h.mark ..) (by omega))
    rw [HasRoom]
    omega

lemma exists_serves (h : m.Trackable) {requests : List Request}
  (hrun : m.FreeRun s (requests.map Prod.fst).sum)
  (hroom : m.runCount + 2 * requests.length ≤ maxTrackedRanges) : ∃ m', m.Serves requests m' := by
  induction requests generalizing m s with
  | nil => exact ⟨m, .nil⟩
  | cons request requests ih =>
    obtain ⟨n, owner⟩ := request
    rw [List.map_cons, List.sum_cons] at hrun
    rw [List.length_cons] at hroom
    obtain ⟨t, _, hfit⟩ := FreeRun.exists_firstFit (m := m) (n := n) (s := s)
      fun f h1 h2 => hrun f h1 (by omega)
    have hrests := m.rests_le t n
    have hmark := h.runCount_mark_le t n (.used, owner)
    -- what is left of the run still has room for the other requests
    have hrest : (m.mark t n (.used, owner)).FreeRun (max s (t + n))
      (requests.map Prod.fst).sum := by
      intro f _ _
      obtain ⟨o, ho⟩ := hrun f (by omega) (by omega)
      exact ⟨o, (if_neg (by omega)).trans ho⟩
    obtain ⟨m', hserv⟩ := ih (h.mark ..) hrest (by omega)
    exact ⟨m', .cons hfit (by rw [HasRoom]; omega) hserv⟩

end FrameMap

lemma Represents.trackable (h : Represents ranges m) : m.Trackable := by
  have hm : labelAt (runs ranges) = m := funext h.labelAt_eq
  rw [FrameMap.Trackable, ← hm]
  refine (List.finite_toSet ((runs ranges).map Run.start)).subset fun f hf => ?_
  exact h.canonical.isStart_iff.1 hf

end ManaOS
