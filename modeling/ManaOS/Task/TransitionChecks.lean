/-
The transition assertions never fail.

In a reachable scheduler every evaluation of `assert_transition_invariants` passes, also those in
the middle of a call.

* `transition_assertions_never_fail` (**assertions**): none fails in a reachable state.
-/
import ManaOS.Lib.Failures
import ManaOS.Task.ActiveCalls

namespace ManaOS
open Checked
namespace Scheduler
variable {mapper : PageMapper} {s s' : Scheduler}

/-- The messages of `assert_transition_invariants`. -/
def transitionMessages : List String :=
  ["active user task set must not contain duplicate task identifiers",
    "active user task must reference a retained task",
    "active user task must reference a user task",
    "active user task must not be finished",
    "active user task must not be reclaiming an address space",
    "active user task must own an address space",
    "active user task must have a schedulable address space",
    "running user task must remain in the active set",
    "running user task must have a schedulable address space",
    "finished user task must not remain in the active set",
    "reclaiming address space must belong to a finished user task",
    "reclaiming user task must not remain in the active set",
    "reclaiming user task must still own its address space",
    "reclaiming user task must not have a schedulable address space",
    "user task without an address space must not remain in the active set"]

lemma assertActiveFrom_failsOnly (s : Scheduler) (before rest : List ℕ) :
  FailsOnly (· ∈ transitionMessages) (s.assertActiveFrom before rest) := by
  induction rest generalizing before with
  | nil => exact .ok ()
  | cons i _ ih =>
    rw [assertActiveFrom]
    refine .bind (.require fun _ => by decide) fun _ _ => ?_
    refine .bind (.expect fun _ => by decide) fun index hidx => ?_
    obtain ⟨task, ht, -⟩ := getTaskIndex_eq_some (expect_eq_ok.1 hidx)
    refine .bind (.of_eq_ok (taskAt_eq_ok.2 ht)) fun task _ => ?_
    split
    · exact .error (by decide)
    refine .bind (.require fun _ => by decide) fun _ _ => ?_
    refine .bind (.require fun _ => by decide) fun _ _ => ?_
    refine .bind (.require fun _ => by decide) fun _ _ => ?_
    exact .bind (.require fun _ => by decide) fun _ _ => ih _

lemma assertTaskLifecycle_failsOnly (s : Scheduler) (task : Task) :
  FailsOnly (· ∈ transitionMessages) (s.assertTaskLifecycle task) := by
  rw [assertTaskLifecycle]
  split
  · exact .ok ()
  next _ _ =>
  -- a chain of optional checks: each one fails with its own message
  simp only []
  repeat' first
    | exact .require fun _ => by decide
    | exact .pure ()
    | refine .bind (.require fun _ => by decide) fun _ _ => ?_
    | split

lemma assertTransitionInvariants_failsOnly (s : Scheduler) :
  FailsOnly (· ∈ transitionMessages) s.assertTransitionInvariants := by
  refine .bind (s.assertActiveFrom_failsOnly [] _) fun _ _ => ?_
  induction s.tasks with
  | nil => exact .ok ()
  | cons task _ ih => exact .bind (s.assertTaskLifecycle_failsOnly task) fun _ _ => ih

/-! ### The methods that evaluate it -/

/-- A computation that does not fail at the assertion. -/
abbrev ChecksPass {α : Type} (x : Panicking α) : Prop := FailsOnly (· ∉ transitionMessages) x

lemma checksPass_taskAt (s : Scheduler) (i : ℕ) : ChecksPass (s.taskAt i) :=
  .expect fun _ => by decide

lemma checksPass_transitionAt (s : Scheduler) (i : ℕ) (transition : TaskState → Option TaskState) :
  ChecksPass (s.transitionAt i transition) := by
  refine .bind (s.checksPass_taskAt i) fun task _ => ?_
  split <;> exact .pure _

lemma checksPass_activateUserTask {taskId : ℕ}
  (h : ∀ index task runtime, Activatable s taskId index task runtime →
    (s.activated taskId).Engaged) : ChecksPass (s.activateUserTask taskId) := by
  by_cases hex : ∃ index task runtime, Activatable s taskId index task runtime
  · obtain ⟨index, task, runtime, hact⟩ := hex
    rw [hact.activateUserTask_eq, (h index task runtime hact).assertTransitionInvariants]
    exact .ok _
  · rw [activateUserTask_of_not fun index task runtime hact => hex ⟨index, task, runtime, hact⟩]
    exact .ok _

lemma Engaged.activatable (h : s.Engaged) {taskId index : ℕ} {task : Task}
  {runtime : UserTaskRuntime} (ha : Activatable s taskId index task runtime) :
  (s.activated taskId).Engaged := by
  obtain ⟨t, ht, hid⟩ := getTaskIndex_eq_some ha.getTaskIndex
  rw [← hid, h.identified _ t ht]
  exact h.activated ha.task_eq (by rw [ha.kind]; rfl) ha.unfinished

lemma Engaged.checksPass_oneShot (h : s.Engaged) (taskId : ℕ) :
  ChecksPass (s.prepareOneShotUserTask taskId) := by
  rw [prepareOneShotUserTask]
  split
  · exact .pure _
  next index hi =>
  refine .bind (s.checksPass_taskAt index) fun task ht => ?_
  rw [taskAt_eq_ok] at ht
  split
  · exact .pure _
  next runtime hk =>
  split
  · exact .pure _
  next hsched =>
  refine .bind (.expect fun _ => by decide) fun space _ => ?_
  refine .bind (.expect fun _ => by decide) fun top _ => ?_
  split
  · exact .pure _
  next hready =>
  refine .bind (s.checksPass_transitionAt _ _) fun outcome hblock => ?_
  obtain ⟨blocked, _⟩ := outcome
  cases blocked with
  | false => exact .pure _
  | true =>
    obtain ⟨_, hcur, hrunning, rfl⟩ := transitionAt_true hblock
    simp only [Bool.not_true, Bool.false_eq_true, if_false]
    refine .bind (checksPass_transitionAt _ _ _) fun outcome hrun => ?_
    obtain ⟨running, _⟩ := outcome
    cases running with
    | false => exact .bind (checksPass_transitionAt _ _ _) fun _ _ => .pure _
    | true =>
      obtain ⟨-, -, -, rfl⟩ := transitionAt_true hrun
      have hready : task.state = .ready := by simpa [TaskState.isReady] using hready
      have hentered := h.entered hi ht (by rw [hk]; rfl) hready hcur hrunning
      have hne : s.currentIndex ≠ index := by
        rintro rfl
        rw [ht] at hcur
        cases hcur
        rw [hready] at hrunning
        cases hrunning
      have hact := activatable_of_handOff hi ht hk (by simpa using hsched) hne
      simp only [Bool.not_true, Bool.false_eq_true, if_false]
      -- the assertion is evaluated twice on the same scheduler
      refine .bind (checksPass_activateUserTask fun _ _ _ _ => hentered)
        fun outcome hactive => ?_
      obtain ⟨_, _⟩ := outcome
      rcases activateUserTask_ok hactive with ⟨-, hnot⟩ | ⟨_, _, _, -, rfl⟩
      · exact absurd hact (hnot index _ runtime)
      · exact .bind (.of_eq_ok hentered.assertTransitionInvariants) fun _ _ => .pure _

lemma Engaged.retireCurrentTask_eq (h : s.Engaged) (hs : s.table.Sound) {current : Task}
    (hcur : s.tasks[s.currentIndex]? = some current) (huser : current.kind.isUser = true)
    (exitCode : ℕ) :
    ∃ parent,
      s.retireCurrentTask exitCode =
        .ok
          (some (parent, ⟨current.getId, exitCode⟩), s.retired exitCode parent current.getId
             (s.activeUserTaskIdentifiers.filter (· != current.getId))) := by
  have hd := dispatch_sound hs
  have hproc := getElem?_table_of hcur
  have hrun : current.state = .running := hs.current_running hproc
  have hstat : current.metadata.exitStatus = none :=
    hs.status_none hproc (by rw [processOf, hrun]; exact TaskState.noConfusion)
  obtain ⟨parent, hpar⟩ := Option.isSome_iff_exists.1 (hs.user_parent _ _ hproc huser)
  have hpar : current.metadata.parentIdentifier = some parent := hpar
  refine ⟨parent, ?_⟩
  have hfin : s.transitionAt s.currentIndex TaskState.finishRunning = _ :=
    transitionAt_eq_of_state hcur hrun
  obtain ⟨metadata, hrec, hmeta, hmetadataParent⟩ : ∃ metadata,
    current.metadata.recordExitStatus exitCode = some metadata ∧
    metadata = { current.metadata with exitStatus := some ⟨exitCode, false⟩ } ∧
    metadata.parentIdentifier = some parent := by
    refine ⟨_, ?_, rfl, hpar⟩
    rw [TaskMetadata.recordExitStatus, hstat]
    rfl
  have hretd := h.retired hd hcur huser hrun exitCode parent
  let resumed := (((s.modifyTask s.currentIndex
    (exited · exitCode)).reparentOrphanedChildrenToInitialProcess
      current.getId).setState 0 .running).setCurrentIndex 0
  have hdeac : resumed.deactivateUserTask current.getId = .ok { resumed with
    activeUserTaskIdentifiers := s.activeUserTaskIdentifiers.filter (· != current.getId) } := by
    have heng : Engaged { resumed with
      activeUserTaskIdentifiers :=
        resumed.activeUserTaskIdentifiers.filter (· != current.getId) } :=
      hretd.congr rfl rfl
    rw [deactivateUserTask, heng.assertTransitionInvariants, ok_bind]
    rfl
  simp only [retireCurrentTask, currentTask_eq_ok.2 hcur, ok_bind, huser, Bool.not_true,
    Bool.false_eq_true, if_false, hfin, hrec, expect_some, hmetadataParent, setState_currentIndex]
  rw [hmeta, finish_eq_exited hcur, resumeBootstrapTask_exited hd hcur huser, ok_bind, hdeac]
  rfl

lemma checksPass_collect (s : Scheduler) (parentTaskId : ℕ) (childTaskId : Option ℕ) :
  ChecksPass (s.collectWaitableChildExit parentTaskId childTaskId) := by
  rw [collectWaitableChildExit]
  split
  · exact .pure _
  refine .bind (.expect fun _ => by decide) fun record _ => ?_
  refine .bind (.expect fun _ => by decide) fun index _ => ?_
  refine .bind (s.checksPass_taskAt index) fun task _ => ?_
  refine .bind (.expect fun _ => by decide) fun collected _ => ?_
  exact .bind (.require fun _ => by decide) fun _ _ => .pure _

lemma checksPass_wakeParent (s : Scheduler) (parentTaskId childTaskId : ℕ) :
  ChecksPass (s.wakeWaitingParentForChildExit parentTaskId childTaskId) := by
  rw [wakeWaitingParentForChildExit]
  split
  · exact .pure _
  next index _ =>
  refine .bind (s.checksPass_taskAt index) fun parent _ => ?_
  split
  · exact .pure _
  split
  · exact .pure _
  split
  · exact .pure _
  refine .bind (s.checksPass_collect _ _) fun collected _ => ?_
  refine .bind (.expect fun _ => by decide) fun exit _ => ?_
  refine .bind (collected.2.checksPass_taskAt index) fun parent _ => ?_
  split
  · exact .pure _
  · refine .bind (checksPass_transitionAt _ _ _) fun woken _ => ?_
    exact .bind (.require fun _ => by decide) fun _ _ => .pure _

lemma Engaged.checksPass_finish (h : s.Engaged) (hs : s.table.Sound) (exitCode : ℕ) :
  ChecksPass (s.finishCurrentTask exitCode) := by
  obtain ⟨current, hcur⟩ := exists_current hs
  cases huser : current.kind.isUser with
  | false =>
    simp only [finishCurrentTask, retireCurrentTask, currentTask_eq_ok.2 hcur, huser,
      ok_bind, Bool.not_false, if_true]
    exact .pure _
  | true =>
    obtain ⟨parent, hret⟩ := h.retireCurrentTask_eq hs hcur huser exitCode
    have hrun : current.state = .running := hs.current_running (getElem?_table_of hcur)
    have hretd := h.retired (dispatch_sound hs) hcur huser hrun exitCode parent
    rw [finishCurrentTask, hret, ok_bind]
    refine .bind (checksPass_wakeParent _ _ _) fun s1 hwake => ?_
    have hpasses := (hretd.wakeWaitingParentForChildExit hwake).assertTransitionInvariants
    exact .bind (.of_eq_ok hpasses) fun _ _ => .pure _

lemma Engaged.checksPass_replaceImage (h : s.Engaged) (addressSpace : UserAddressSpace)
  (frame : UserTrapFrame) (heapStart : UserVirtualAddress) :
  ChecksPass (s.replaceCurrentUserImage addressSpace frame heapStart) := by
  refine .bind (s.checksPass_taskAt _) fun current hcur => ?_
  rw [currentTask_eq_ok] at hcur
  split
  · exact .pure _
  split
  · exact .pure _
  next runtime hk =>
  split
  · exact .pure _
  next _ hold =>
  refine .bind ?_ fun heap _ => ?_
  · refine .bind (.expect fun _ => by decide) fun _ _ => ?_
    exact .bind (.require fun _ => by decide) fun _ _ => .pure _
  refine .bind (.expect fun _ => by decide) fun _ _ => ?_
  refine .bind (.expect fun _ => by decide) fun _ _ => ?_
  have himage : (s.setRuntime s.currentIndex
    (runtime.withImage addressSpace frame heap)).Engaged :=
    h.setRuntime hcur hk (by rw [hold]; rfl) rfl
  exact .bind (.of_eq_ok (himage.clearContext _).assertTransitionInvariants)
    fun _ _ => .pure _

/-- A failure of the memory part of a reclaim. -/
def ReclaimFails (mapper : PageMapper) (memory : Memory) (message : String) : Prop :=
  (∃ space, destroyUserAddressSpace memory space = .error message) ∨ ∃ (stack : KernelStack)
  (memory' : Memory), ∃ ranges, stack.destroy mapper memory' ranges = .error message

lemma Engaged.failsOnly_reclaimSpace (h : s.Engaged) (memory : Memory) (index : ℕ) :
  FailsOnly (fun message => message ∉ transitionMessages ∨ ReclaimFails mapper memory message)
    (s.reclaimFinishedUserAddressSpaceAtIndex memory index) := by
  refine .bind (.expect fun _ => .inl (by decide)) fun task ht => ?_
  rw [taskAt_eq_ok] at ht
  split
  · exact .pure _
  next hfin =>
  have hfin : task.state = .finished := not_not.1 hfin
  split
  · exact .pure _
  next runtime hk =>
  split
  · exact .pure _
  next hsp =>
  have hsp : runtime.addressSpace.isSome = true := by
    cases hsome : runtime.addressSpace with
    | none =>
      rw [hsome] at hsp
      exact absurd rfl hsp
    | some space => rfl
  -- the task is marked while its address space is destroyed
  have hmarked : (s.setRuntime index { runtime with addressSpaceReclaiming := true }).Engaged :=
    h.setRuntime_finished ht hk hfin fun _ => hsp
  have hget := getElem?_setRuntime_self ht { runtime with addressSpaceReclaiming := true }
  have hdone : ((s.setRuntime index { runtime with addressSpaceReclaiming := true }).setRuntime
    index { runtime with addressSpace := none, addressSpaceReclaiming := false }).Engaged :=
    hmarked.setRuntime_finished hget rfl hfin fun hr => by cases hr
  refine .bind (.require fun _ => .inl (by decide)) fun _ _ => ?_
  refine .bind ?_ fun candidate _ => ?_
  · refine .bind (.expect fun _ => .inl (by decide)) fun _ _ => ?_
    split
    · exact .pure _
    · split <;> exact .pure _
  refine .bind (.require fun _ => .inl (by decide)) fun _ _ => ?_
  refine .bind (.of_eq_ok hmarked.assertTransitionInvariants) fun _ _ => ?_
  refine .bind (.expect fun _ => .inl (by decide)) fun space _ => ?_
  refine .bind (fun message hdest => .inr (.inl ⟨space, hdest⟩)) fun destroyed _ => ?_
  exact .bind (.of_eq_ok hdone.assertTransitionInvariants) fun _ _ => .pure _

lemma Engaged.failsOnly_reclaim (h : s.Engaged) (memory : Memory) (taskId : ℕ) :
  FailsOnly (fun message => message ∉ transitionMessages ∨ ReclaimFails mapper memory message)
    (s.reclaimFinishedUserResources mapper memory taskId) := by
  rw [reclaimFinishedUserResources]
  split
  · exact .pure _
  next index _ =>
  refine .bind (.expect fun _ => .inl (by decide)) fun task _ => ?_
  split
  · exact .pure _
  refine .bind (h.failsOnly_reclaimSpace memory index) fun reclaimed hrecl => ?_
  obtain ⟨_, _, memory1⟩ := reclaimed
  refine .bind ?_ fun freed hfreed => ?_
  · refine .bind (.expect fun _ => .inl (by decide)) fun task _ => ?_
    split
    · exact .pure _
    · next stack _ =>
      refine .bind (fun message hdest => ?_) fun _ _ => .pure _
      exact .inr (.inr ⟨stack, memory1, _, hdest⟩)
  · have hreclaimed := (h.reclaimFinishedUserAddressSpaceAtIndex
      hrecl).reclaimFinishedUserKernelStackAtIndex hfreed
    exact .bind (.of_eq_ok hreclaimed.assertTransitionInvariants) fun _ _ => .pure _

/-- **The transition assertions never fail.**  A failed assertion ends in one of
`transitionMessages`.  In every reachable state the assertion passes, and no activation,
one-shot entry, exit, image replacement or reclaim fails at any of its evaluations: a reclaim
can only fail in its memory part.  The active identifiers are distinct and name unfinished
user tasks with a schedulable address space, and every running user task is active. -/
theorem transition_assertions_never_fail (h : Reachable mapper s) :
    (∀ t : Scheduler, FailsOnly (· ∈ transitionMessages) t.assertTransitionInvariants) ∧
    s.assertTransitionInvariants = .ok () ∧
    (∀ taskId, ChecksPass (s.activateUserTask taskId)) ∧
    (∀ taskId, ChecksPass (s.prepareOneShotUserTask taskId)) ∧
    (∀ exitCode, ChecksPass (s.finishCurrentTask exitCode)) ∧
    (∀ addressSpace frame heapStart,
      ChecksPass (s.replaceCurrentUserImage addressSpace frame heapStart)) ∧
    (∀ memory taskId,
      FailsOnly (fun message => message ∉ transitionMessages ∨ ReclaimFails mapper memory message)
        (s.reclaimFinishedUserResources mapper memory taskId)) ∧
    s.activeUserTaskIdentifiers.Nodup ∧
    (∀ taskId ∈ s.activeUserTaskIdentifiers,
      ∃ (i : ℕ) (task : Task) (runtime : UserTaskRuntime),
        s.tasks[i]? = some task ∧
        task.getId = taskId ∧
        task.kind = .user runtime ∧
        task.state ≠ .finished ∧
        runtime.addressSpaceReclaiming = false ∧
        runtime.hasSchedulableAddressSpace = true) ∧
    ∀ (i : ℕ) (task : Task) (runtime : UserTaskRuntime),
      s.tasks[i]? = some task →
      task.kind = .user runtime →
      (task.state = .running → s.isUserTaskActive task.getId = true) ∧
      (task.state = .finished ∨
       runtime.addressSpaceReclaiming = true ∨
       runtime.addressSpace = none →
       s.isUserTaskActive task.getId = false) := by
  have he := h.engaged
  have hs := h.sound
  refine ⟨assertTransitionInvariants_failsOnly, he.assertTransitionInvariants,
    fun taskId => checksPass_activateUserTask fun _ _ _ ha => he.activatable ha,
    he.checksPass_oneShot, he.checksPass_finish hs, he.checksPass_replaceImage,
    he.failsOnly_reclaim, he.nodup, fun i hi => ?_, fun i task runtime ht hk => ?_⟩
  · obtain ⟨task, ht⟩ : ∃ task, s.tasks[i]? = some task :=
      ⟨_, List.getElem?_eq_getElem (he.retained i hi)⟩
    obtain ⟨runtime, hk, hstate, hreclaiming, hsched⟩ := he.of_active ht hi
    exact ⟨i, task, runtime, ht, he.identified i task ht, hk, hstate, hreclaiming, hsched⟩
  have hactive : s.isUserTaskActive task.getId = true ↔ i ∈ s.activeUserTaskIdentifiers := by
    rw [isUserTaskActive, he.identified i task ht, List.contains_iff_mem]
  refine ⟨fun hrunning => hactive.2 ((he.fits i task ht).engaged ?_ (.inl ?_)), fun hidle => ?_⟩
  · rw [Task.life_user hk]
  · rw [Task.life_state, hrunning]
  rw [← Bool.not_eq_true, hactive]
  intro hmem
  obtain ⟨_, hk', hstate, hreclaiming, hsched⟩ := he.of_active ht hmem
  rw [hk] at hk'
  cases hk'
  rcases hidle with hfin | hrec | hnone
  · exact hstate hfin
  · rw [hreclaiming] at hrec
    cases hrec
  · rw [UserTaskRuntime.hasSchedulableAddressSpace, hnone] at hsched
    cases hsched

/-- After the run in which a user task exits, the assertion passes and no exit fails at it. -/
theorem transition_assertions_never_fail_exitRun : ∃ s, Reachable walkMapper s ∧
  s.tasks.map Task.state = [.running, .finished] ∧ s.assertTransitionInvariants = .ok () ∧
  ∀ exitCode, ChecksPass (s.finishCurrentTask exitCode) := by
  have hrun : exitRun.map (fun s => s.tasks.map Task.state) = .ok [.running, .finished] := by
    decide +kernel
  obtain ⟨s, hs, hstates⟩ := map_eq_ok.1 hrun
  obtain ⟨-, hpasses, -, -, hfinish, -⟩ := transition_assertions_never_fail (exitRun_reachable hs)
  exact ⟨s, exitRun_reachable hs, hstates, hpasses, hfinish⟩

end Scheduler
end ManaOS
