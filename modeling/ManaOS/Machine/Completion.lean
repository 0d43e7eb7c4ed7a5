/-
The completions that an entry makes.

A task entered through its saved frame takes its wait completion and its read before Ring 3.

* `completeUserEntry_finishes` (**entry**): it finishes what its task has open.
-/
import ManaOS.Machine.StepEffects
import ManaOS.Task.Rest

namespace ManaOS
open Checked
namespace Scheduler
variable {s s' : Scheduler}

/-- The current user task has nothing open any more, and the others stand as before. -/
structure Finishes (s s' : Scheduler) : Prop where
  currentIndex : s'.currentIndex = s.currentIndex
  others : ∀ i, i ≠ s.currentIndex → s'.standing? i = s.standing? i
  runs : ∃ runtime, s'.Runs runtime ∧ runtime.pending = .clear

lemma Finishes.calm (h : Finishes s s') (hs : s.table.Sound) : Calm s s' := by
  refine .of_cases fun i => ?_
  rcases eq_or_ne i s.currentIndex with rfl | hne
  · obtain ⟨_, ⟨_, hruns⟩, -⟩ := h.runs
    refine .inr ⟨fun old hold => not_sleeps_of_state (Calm.unblocked_current hs hold),
      fun new hnew => not_waits_of_state ?_⟩
    rw [h.currentIndex, hnew] at hruns
    cases hruns
    exact TaskState.noConfusion
  · exact .inl (h.others i hne)

lemma Finishes.inOrder (h : Finishes s s') (hoth : s.OthersInOrder) : s'.InOrder := by
  obtain ⟨_, hruns, hclear⟩ := h.runs
  have hoth' : s'.OthersInOrder := fun i standing hne hi => by
    rw [h.currentIndex] at hne
    rw [h.others i hne] at hi
    exact hoth i standing hne hi
  exact hoth'.inOrder hruns hclear

lemma Finishes.of_standing {s'' : Scheduler} (h : Finishes s s')
  (hidx : s''.currentIndex = s'.currentIndex)
  (hstand : ∀ i, s''.standing? i = s'.standing? i) : Finishes s s'' := by
  obtain ⟨runtime, ⟨context, hruns⟩, hclear⟩ := h.runs
  refine ⟨hidx.trans h.currentIndex, fun i hne => ?_, runtime, ⟨context, ?_⟩, hclear⟩
  · rw [hstand, h.others i hne]
  · rw [hidx, hstand, hruns]

lemma Finishes.setRuntime (h : Finishes s s') {new : UserTaskRuntime}
  (hcur : s'.CurrentUser current runtime) (hpend : new.view.pending = runtime.view.pending) :
  Finishes s (s'.setRuntime s'.currentIndex new) := by
  obtain ⟨_, hruns, hclear⟩ := h.runs
  refine ⟨h.currentIndex, fun i hne => ?_, new.view, hruns.setRuntime new, ?_⟩
  · rw [standing?_setRuntime_of_ne (by rw [h.currentIndex]; exact hne), h.others i hne]
  · rw [hpend, hruns.view_eq hcur, hclear]

lemma Runs.completeWait (h : s.Runs runtime) (he : s.Engaged)
  (hcall : s.completePendingUserWaitpidStatus mapper memory s.currentIndex =
    .ok (result, s', memory')) :
  s'.currentIndex = s.currentIndex ∧ (∀ i, i ≠ s.currentIndex → s'.standing? i = s.standing? i) ∧
  s'.Runs { runtime with waitpidCompletion := none } := by
  obtain ⟨current, found, hcur, rfl⟩ := h.currentUser
  rcases completePendingUserWaitpidStatus_ok hcall with ⟨rfl, -, hnone⟩ |
    ⟨_, _, _, _, hidx, ht, hk, rfl, -⟩
  · have hopen := hnone s'.currentIndex current found (he.getTaskIndex hcur.current_eq)
      hcur.current_eq hcur.kind
    refine ⟨rfl, fun _ _ => rfl, ?_⟩
    have hsame : ({ found.view with waitpidCompletion := none } : RuntimeView) = found.view := by
      rw [← hopen]
      rfl
    rw [hsame]
    exact h
  rw [he.getTaskIndex hcur.current_eq] at hidx
  cases hidx
  rw [hcur.current_eq] at ht
  cases ht
  rw [hcur.kind] at hk
  cases hk
  exact ⟨rfl, fun i hne => standing?_setRuntime_of_ne hne _, h.setRuntime _⟩

lemma takeCurrentUserReadRequest_eq (hcur : s.CurrentUser current runtime) :
  s.takeCurrentUserReadRequest current.getId = .ok (runtime.readRequest,
      s.setRuntime s.currentIndex { runtime with readRequest := none }) := by
  simp only [takeCurrentUserReadRequest, currentTask_eq_ok.2 hcur.current_eq, ok_bind,
    hcur.kind, ne_eq, not_true_eq_false, if_false]
  rfl

end Scheduler

namespace Kernel
variable {kernel : Kernel}

lemma completePendingUserRead_finishes
  (he : kernel.scheduler.Engaged) (hruns : kernel.scheduler.Runs runtime)
  (hclear : ({ runtime with readRequest := none } : RuntimeView).pending = .clear)
  (h : kernel.completePendingUserRead mapper kernel.scheduler.currentIndex =
    .ok (result, kernel')) : Scheduler.Finishes kernel.scheduler kernel'.scheduler := by
  obtain ⟨_, found, hcur, rfl⟩ := hruns.currentUser
  obtain ⟨_, _, htake, h⟩ := completePendingUserRead_ok h
  rw [← he.identified _ _ hcur.current_eq, Scheduler.takeCurrentUserReadRequest_eq hcur] at htake
  cases htake
  have htaken : Scheduler.Finishes kernel.scheduler (kernel.scheduler.setRuntime
    kernel.scheduler.currentIndex { found with readRequest := none }) :=
    ⟨rfl, fun i hne => Scheduler.standing?_setRuntime_of_ne hne _, ⟨_, hruns.setRuntime _, hclear⟩⟩
  rcases h with ⟨-, -, rfl⟩ | ⟨_, _, _, _, -, -, hcmpl, hstore, rfl⟩
  · exact htaken
  have hqt := completeUserReadRequest_quiet hcmpl
  have hread := htaken.of_standing hqt.view.currentIndex hqt.view.standing?_eq
  rcases Scheduler.completeCurrentUserRead_ok hstore with rfl | ⟨_, _, hcur1, rfl⟩
  · exact hread
  · exact hread.setRuntime hcur1 rfl

/-- **An entry finishes what its task has open.** -/
lemma completeUserEntry_finishes (hreach : kernel.scheduler.Reachable mapper)
    (hent : kernel.scheduler.Entering runtime) (htask : taskId = kernel.scheduler.currentIndex)
    (h : kernel.completeUserEntry mapper taskId space frame top =
        .ok (frame', completion, kernel')) :
    Scheduler.Finishes kernel.scheduler kernel'.scheduler := by
  subst htask
  obtain ⟨scheduler, _, hwait, hread, -⟩ := completeUserEntry_ok h
  obtain ⟨hidx, hoth, hruns⟩ := hent.runs.completeWait hreach.engaged hwait
  have hreach' : scheduler.Reachable mapper := hreach.tail (.completePendingUserWaitpidStatus hwait)
  rw [← hidx] at hread
  have hfin := completePendingUserRead_finishes hreach'.engaged hruns
    (by exact Pending.eq_clear_iff.2 ⟨hent.sleep, hent.wait, rfl, rfl⟩) hread
  refine ⟨hfin.currentIndex.trans hidx, fun i hne => ?_, hfin.runs⟩
  rw [hfin.others i (by rw [hidx]; exact hne), hoth i hne]

lemma completeUserEntry_calls (h : kernel.completeUserEntry mapper taskId space frame top =
    .ok (frame', completion, kernel')) : kernel.scheduler.Calls mapper kernel'.scheduler := by
  obtain ⟨_, _, hwait, hread, -⟩ := completeUserEntry_ok h
  obtain ⟨_, taken, htake, hread⟩ := completePendingUserRead_ok hread
  have htaken : kernel.scheduler.Calls mapper taken :=
    (Relation.ReflTransGen.single (.completePendingUserWaitpidStatus hwait)).tail
      (.takeCurrentUserReadRequest htake)
  rcases hread with ⟨-, -, rfl⟩ | ⟨_, _, _, _, -, -, hcmpl, hstore, rfl⟩
  · exact htaken
  · exact (htaken.trans (completeUserReadRequest_quiet hcmpl).calls).tail
      (.completeCurrentUserRead hstore)

end Kernel
end ManaOS
