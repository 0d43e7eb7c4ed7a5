/-
The active set in runs of the scheduler.

* `Call.engaged`, `Reachable.engaged`: the active set is in order, after every call and run.
-/
import ManaOS.Task.ActiveSet

namespace ManaOS
open Checked List TaskState
namespace Scheduler
variable {s : Scheduler}

namespace Engaged

variable {task current : Task} {index next : ℕ}

lemma handOff (h : s.Engaged)
  (hcur : s.tasks[s.currentIndex]? = some current) (hrun : current.state = .running)
  (ht : s.tasks[next]? = some task) (hsta : task.state ≠ .finished)
  (hleft : left = .ready ∨ left = .blocked) (hne : s.currentIndex ≠ next)
  (hact : task.kind.isUser = true → next ∈ s.activeUserTaskIdentifiers) :
  (s.handOff left next).Engaged := by
  have hfirst : (s.setState s.currentIndex left).Engaged := by
    refine h.setState (fun t hget => ?_) ?_ fun t hget huser _ => ?_
    · rw [hcur] at hget
      cases hget
      rw [hrun]
      exact noConfusion
    · rcases hleft with rfl | rfl <;> exact noConfusion
    rw [hcur] at hget
    cases hget
    refine (h.fits _ _ hcur).engaged ?_ (.inl ?_)
    · rw [Task.life_isUser]
      exact huser
    · rw [Task.life_state, hrun]
  have hget : (s.setState s.currentIndex left).tasks[next]? = some task :=
    (getElem?_setState_of_ne hne left).trans ht
  have hsecond : ((s.setState s.currentIndex left).setState next .running).Engaged := by
    refine hfirst.setState (fun t hu => ?_) noConfusion fun t hu huser _ => ?_
    · rw [hget] at hu
      cases hu
      exact hsta
    · rw [hget] at hu
      cases hu
      exact hact huser
  exact hsecond.congr rfl rfl

lemma entered (h : s.Engaged) {taskId : ℕ}
  (hi : s.getTaskIndex taskId = some index) (ht : s.tasks[index]? = some task)
  (huser : task.kind.isUser = true) (hready : task.state = .ready)
  (hcur : s.tasks[s.currentIndex]? = some current) (hrun : current.state = .running) :
  (((s.handOff .blocked index).clearContext index).activated taskId).Engaged := by
  have hid : taskId = index := by
    obtain ⟨t, hget, hid⟩ := getTaskIndex_eq_some hi
    rw [← hid, h.identified index t hget]
  subst hid
  have hne : s.currentIndex ≠ taskId := by
    rintro heq
    rw [← heq, hcur] at ht
    cases ht
    rw [hrun] at hready
    cases hready
  have hsta : task.state ≠ .finished := by
    rw [hready]
    exact noConfusion
  -- adding the task to the set first gives the same records and the same set
  have hactivated := h.activated ht huser hsta
  have htasks := (activeOnly_activated s taskId).tasks
  have hidx := (activeOnly_activated s taskId).currentIndex
  have hcur' : (s.activated taskId).tasks[(s.activated taskId).currentIndex]? = some current := by
    rw [htasks, hidx]
    exact hcur
  have hhand : ((s.activated taskId).handOff .blocked taskId).Engaged := by
    refine hactivated.handOff hcur' hrun ?_ hsta (.inr rfl) ?_ fun _ => ?_
    · rw [htasks]
      exact ht
    · rwa [hidx]
    · exact mem_activated s taskId
  refine (hhand.clearContext taskId).congr ?_ ?_
  · rw [(activeOnly_activated _ taskId).tasks]
    simp only [Scheduler.clearContext, Scheduler.handOff, Scheduler.setState,
      Scheduler.modifyTask, setCurrentIndex_tasks, htasks, hidx]
  · show _ = (s.activated taskId).activeUserTaskIdentifiers
    rw [activated_active, activated_active]
    rfl

lemma blocked (h : s.Engaged) (hs : s.dispatch.Sound)
  (hcur : s.tasks[s.currentIndex]? = some current) (huser : current.kind.isUser = true)
  (hrun : current.state = .running) : s.blocked.Engaged := by
  obtain ⟨hpos, first, hfirst, hker, hsta⟩ := bootstrap_waits hs hcur huser
  have hstop : (s.setState s.currentIndex .blocked).Engaged := by
    refine h.setState (fun t ht => ?_) noConfusion fun t ht _ _ => ?_
    · rw [hcur] at ht
      cases ht
      rw [hrun]
      exact noConfusion
    refine (h.fits _ _ hcur).engaged ?_ (.inl ?_)
    · rw [Task.life_isUser]
      exact huser
    · rw [Task.life_state, hrun]
  have hget : ((s.setState s.currentIndex .blocked).clearContext s.currentIndex).tasks[0]? = some
    first := (getElem?_modifyTask_of_ne hpos).trans ((getElem?_setState_of_ne hpos _).trans hfirst)
  have hresume := (hstop.clearContext s.currentIndex).resume hget hker
    (by rcases hsta with hst | hst <;> rw [hst] <;> exact noConfusion)
  exact hresume.congr rfl rfl

lemma wakeSleepingUserTasks (h : s.Engaged) (tick : ℕ) :
    (s.wakeSleepingUserTasks tick).Engaged := by
  refine h.of_tasks rfl (length_map _) fun i t' ht' => ?_
  rw [getElem?_wakeSleepingUserTasks] at ht'
  obtain ⟨t, ht, rfl⟩ := Option.map_eq_some_iff.1 ht'
  refine ⟨t, ht, ?_⟩
  have hfits := h.fits i t ht
  rcases wakeSleepingTask_cases tick t with heq | ⟨_, hk, -, heq⟩
  · rw [heq]
    exact ⟨rfl, hfits⟩
  rw [heq]
  refine ⟨rfl, ?_⟩
  rw [Task.life_user hk] at hfits
  rw [Task.life_user rfl]
  cases hsta : t.state with
  | blocked =>
    rw [hsta] at hfits
    exact hfits.move noConfusion noConfusion
      fun _ hready => by rcases hready with hready | hready <;> cases hready
  | ready | running | finished =>
    rw [hsta] at hfits
    exact hfits

lemma wake (h : s.Engaged) (ht : s.tasks[i]? = some t) (hblk : t.state = .blocked) :
  (s.setState i .ready).Engaged := by
  refine h.setState (fun u hu => ?_) noConfusion fun u hu _ hsta => ?_
  · rw [ht] at hu
    cases hu
    rw [hblk]
    exact noConfusion
  · rcases hsta with hsta | hsta <;> cases hsta

lemma wakeKeyboardReaders (h : s.Engaged) : s.wakeKeyboardReaders.2.Engaged := by
  rcases wakeKeyboardReaders_eq s with heq | ⟨_, _, _, ht, -, -, hblk, heq⟩
  · rw [heq]
    exact h
  · rw [heq]
    exact h.wake ht hblk

lemma collectWaitableChildExit (h : s.Engaged)
    (hcall : s.collectWaitableChildExit parentTaskId childTaskId = .ok (exit, s')) :
    s'.Engaged := by
  rcases collectWaitableChildExit_ok hcall with ⟨-, rfl⟩ |
    ⟨_, _, _, taskIndex, _, -, hcoll⟩
  · exact h
  rw [hcoll.result]
  have hmodify : (s.modifyTask taskIndex reaped).Engaged := h.modifyTask_life fun _ _ => ⟨rfl, rfl⟩
  exact hmodify.congr rfl rfl

lemma wakeWaitingParentForChildExit (h : s.Engaged)
  (hcall : s.wakeWaitingParentForChildExit parentTaskId childTaskId = .ok s') : s'.Engaged := by
  rcases wakeWaitingParentForChildExit_ok hcall with ⟨rfl, -⟩ |
    ⟨index, _, runtime, _, _, s1, hwait, hcoll, hblk, rfl⟩
  · exact h
  obtain ⟨_, hpar⟩ := collectWaitableChildExit_task hcoll hwait.parent_eq
  have hready : ∀ completed : UserTaskRuntime, completed.addressSpace.isSome =
    runtime.addressSpace.isSome → completed.addressSpaceReclaiming =
    runtime.addressSpaceReclaiming → ((s1.setRuntime index completed).setState index
    .ready).Engaged := fun completed hsp hrecl => ((h.collectWaitableChildExit hcoll).setRuntime
      hpar hwait.kind hsp hrecl).wake (getElem?_modifyTask_self hpar) hblk
  exact hready _ rfl rfl

lemma retired (h : s.Engaged) (hs : s.dispatch.Sound)
    (hcur : s.tasks[s.currentIndex]? = some current) (huser : current.kind.isUser = true)
    (hrun : current.state = .running) (exitCode parent : ℕ) :
    (s.retired exitCode parent current.getId (s.activeUserTaskIdentifiers.filter (· !=
      current.getId))).Engaged := by
  obtain ⟨hpos, first, hfirst, hker, hsta⟩ := bootstrap_waits hs hcur huser
  have hid := h.identified _ _ hcur
  let s1 : Scheduler := { s.modifyTask s.currentIndex (exited · exitCode) with
    activeUserTaskIdentifiers := s.activeUserTaskIdentifiers.filter (· != current.getId) }
  have hmem : ∀ i, i ∈ s1.activeUserTaskIdentifiers ↔
    i ∈ s.activeUserTaskIdentifiers ∧ i ≠ s.currentIndex := fun i => by
    simp [s1, hid]
  have hexited : s1.Engaged := by
    refine ⟨fun i t ht => ?_, h.nodup.filter _, fun i hi => ?_, fun i t ht => ?_⟩
    · have ht : (s.modifyTask s.currentIndex (exited · exitCode)).tasks[i]? = some t := ht
      rw [getElem?_modifyTask] at ht
      obtain ⟨u, hu, rfl⟩ := Option.map_eq_some_iff.1 ht
      split <;> exact h.identified i u hu
    · show i < (s.modifyTask s.currentIndex (exited · exitCode)).tasks.length
      rw [length_modifyTask]
      exact h.retained i ((hmem i).1 hi).1
    have ht : (s.modifyTask s.currentIndex (exited · exitCode)).tasks[i]? = some t := ht
    rw [getElem?_modifyTask] at ht
    obtain ⟨u, hu, rfl⟩ := Option.map_eq_some_iff.1 ht
    split
    · next heq =>
      subst heq
      rw [hcur] at hu
      cases hu
      have hlife : (exited current exitCode).life = { current.life with state := .finished } := by
        cases hk : current.kind <;> simp only [exited, Task.life, hk]
      rw [hlife]
      refine ((h.fits _ _ hcur).finish ?_).congr ?_
      · rw [Task.life_state, hrun]
        exact noConfusion
      · rw [hmem]
        exact iff_of_false (fun hno => hno.2 rfl) id
    · next hne =>
      refine (h.fits i u hu).congr ?_
      rw [hmem]
      exact and_iff_left (Ne.symm hne)
  have hmoved : (s1.reparentOrphanedChildrenToInitialProcess current.getId).Engaged := by
    refine hexited.of_tasks rfl (length_map _) fun i t' ht' => ?_
    rw [reparentOrphanedChildrenToInitialProcess, getElem?_map] at ht'
    obtain ⟨t, ht, rfl⟩ := Option.map_eq_some_iff.1 ht'
    refine ⟨t, ht, ?_, ?_⟩
    · rw [reparentTask]
      split
      · rfl
      show t.metadata.reparentToInitialProcess.identifier = t.metadata.identifier
      rw [TaskMetadata.reparentToInitialProcess]
      split
      · rfl
      · split <;> rfl
    have hlife : (reparentTask current.getId t).life = t.life := by
      rw [Task.life, Task.life, reparentTask_kind, reparentTask_state]
    rw [hlife]
    exact hexited.fits i t ht
  have hget : (s1.reparentOrphanedChildrenToInitialProcess current.getId).tasks[0]? =
    some (reparentTask current.getId first) := by
    rw [reparentOrphanedChildrenToInitialProcess, getElem?_map]
    show Option.map _ (s.modifyTask s.currentIndex (exited · exitCode)).tasks[0]? = _
    rw [getElem?_modifyTask_of_ne hpos, hfirst, Option.map_some]
  have hresume := hmoved.resume hget (by rw [reparentTask_kind, hker])
    (by rw [reparentTask_state]; rcases hsta with hst | hst <;> rw [hst] <;>
          exact noConfusion)
  exact hresume.congr rfl rfl

lemma spawns (h : s.Engaged) (hs : s.table.Sound) (hspn : s.Spawns s' task)
    (hid : task.getId = s.nextTaskIdentifier) (hready : task.state = .ready)
    (hsp : ∀ runtime,
        task.kind = .user runtime →
        runtime.addressSpace.isSome = true ∧ runtime.addressSpaceReclaiming = false) :
    s'.Engaged := by
  obtain ⟨_, -, rfl⟩ := hspn
  have hnext : s.nextTaskIdentifier = s.tasks.length := by
    have hlen := hs.next_eq
    rwa [table, length_map] at hlen
  have hcases : ∀ (i : ℕ) (t : Task), (s.tasks ++ [task])[i]? = some t →
    s.tasks[i]? = some t ∨ (i = s.tasks.length ∧ t = task) := by
    intro i t ht
    rcases Nat.lt_or_ge i s.tasks.length with hlt | hge
    · rw [getElem?_append_left hlt] at ht
      exact .inl ht
    rw [getElem?_append_right hge, getElem?_singleton] at ht
    split at ht
    · next _ => exact .inr ⟨by omega, (Option.some.inj ht).symm⟩
    · cases ht
  refine ⟨fun i t ht => ?_, h.nodup, fun i hi => ?_, fun i t ht => ?_⟩
  · rcases hcases i t ht with hold | ⟨rfl, rfl⟩
    · exact h.identified i t hold
    · exact hid.trans hnext
  · rw [length_append]
    exact Nat.lt_of_lt_of_le (h.retained i hi) (Nat.le_add_right _ _)
  rcases hcases i t ht with hold | ⟨rfl, rfl⟩
  · exact h.fits i t hold
  -- the new task is ready and not active
  refine ⟨fun hact => absurd (h.retained _ hact) (Nat.lt_irrefl _), fun huser _ => ?_,
    fun _ hsta => ?_, fun hr => ?_⟩
  · rw [Task.life_isUser] at huser
    obtain ⟨runtime, hk⟩ := TaskKind.isUser_iff.1 huser
    rw [Task.life_user hk]
    exact (hsp runtime hk).1
  · rw [Task.life_state, hready] at hsta
    rcases hsta with hsta | hsta <;> cases hsta
  cases hk : t.kind with
  | kernel =>
    rw [Task.life, hk] at hr
    cases hr
  | user runtime =>
    rw [Task.life_user hk, (hsp runtime hk).2] at hr
    cases hr

lemma setRuntime_finished (h : s.Engaged) {runtime' : UserTaskRuntime}
  (ht : s.tasks[i]? = some t) (hk : t.kind = .user runtime) (hfin : t.state = .finished)
  (hrecl : runtime'.addressSpaceReclaiming = true → runtime'.addressSpace.isSome = true) :
  (s.setRuntime i runtime').Engaged := by
  refine h.modifyTask fun u hu => ⟨rfl, fun hfits => ?_⟩
  rw [ht] at hu
  cases hu
  rw [Task.life_user hk, hfin] at hfits
  rw [Task.life_user rfl, hfin]
  exact ⟨fun hact => absurd rfl (hfits.unfinished hact).2, fun _ hne => absurd rfl hne,
    hfits.engaged, fun hr => ⟨rfl, hrecl hr⟩⟩

lemma reclaimFinishedUserAddressSpaceAtIndex (h : s.Engaged)
  (hcall : s.reclaimFinishedUserAddressSpaceAtIndex memory index =
    .ok (result, s', memory')) : s'.Engaged := by
  rcases reclaimFinishedUserAddressSpaceAtIndex_ok hcall with rfl |
    ⟨_, _, ht, hfin, hk, rfl⟩
  · exact h
  · exact h.setRuntime_finished ht hk hfin fun hr => by cases hr

lemma reclaimFinishedUserKernelStackAtIndex (h : s.Engaged)
  (hcall : s.reclaimFinishedUserKernelStackAtIndex mapper memory index =
    .ok (freed, s', memory')) : s'.Engaged := by
  rcases reclaimFinishedUserKernelStackAtIndex_ok hcall with rfl | ⟨_, rfl⟩
  · exact h
  · have hmodify : (s.modifyTask index ({ · with kernelStack := none })).Engaged :=
      h.modifyTask_life fun _ _ => ⟨rfl, rfl⟩
    exact hmodify.congr rfl rfl

end Engaged

/-! ### Every call -/

lemma CurrentUser.engaged (h : s.Engaged) {runtime' : UserTaskRuntime}
  (hcur : s.CurrentUser current runtime)
  (hsp : runtime'.addressSpace.isSome = runtime.addressSpace.isSome)
  (hrecl : runtime'.addressSpaceReclaiming = runtime.addressSpaceReclaiming) :
  (s.setRuntime s.currentIndex runtime').Engaged :=
  h.setRuntime hcur.current_eq hcur.kind hsp hrecl

/-- **Every call keeps the active set in order.** -/
theorem Call.engaged (hs : s.table.Sound) (h : s.Engaged) (hcall : Call mapper s s') :
  s'.Engaged := by
  have hd := dispatch_sound hs
  cases hcall with
  | spawn hcall =>
    obtain ⟨_, _, ⟨_, -, rfl⟩, hspn⟩ := spawn_ok hcall
    exact h.spawns hs hspn rfl rfl fun runtime hk => by cases hk
  | spawnUserTask hcall =>
    obtain ⟨_, _, _, runtime, ⟨_, -, rfl⟩, -, hrt, hspn⟩ := spawnUserTask_ok hcall
    refine h.spawns hs hspn rfl rfl fun runtime' hk => ?_
    cases hk
    simp only [UserTaskRuntime.new, bind_eq_ok] at hrt
    obtain ⟨_, -, hrt⟩ := hrt
    cases hrt
    exact ⟨rfl, rfl⟩
  | activateUserTask hcall =>
    rcases activateUserTask_ok hcall with ⟨rfl, -⟩ | ⟨index, task, runtime, ha, rfl⟩
    · exact h
    · obtain ⟨t, ht, hid⟩ := getTaskIndex_eq_some ha.getTaskIndex
      rw [← hid, h.identified _ t ht]
      exact h.activated ha.task_eq (by rw [ha.kind]; rfl) ha.unfinished
  | prepareOneShotUserTask hcall =>
    rcases prepareOneShotUserTask_ok hcall with ⟨-, rfl⟩ | ⟨_, _, _, _, _, -, ho⟩
    · exact h
    · rw [ho.active]
      exact h.entered ho.getTaskIndex ho.task_eq (by rw [ho.kind]; rfl) ho.ready ho.current_eq
        ho.running
  | prepareNextSwitch hcall =>
    rcases prepareNextSwitch_ok hcall with ⟨-, ticks, rfl⟩ | ⟨_, next, task, current, -, hsw⟩
    · exact h.congr rfl rfl
    obtain ⟨_, rfl⟩ := hsw.result
    have ht := hsw.schedulable.task_eq
    have hhand : (s.handOff .ready next).Engaged := by
      refine h.handOff hsw.current_eq hsw.running ht ?_ (.inl rfl) hsw.ne
        fun huser => ?_
      · rw [hsw.schedulable.ready]
        exact noConfusion
      · have hact := hsw.schedulable.active huser
        rw [h.identified next task ht] at hact
        simpa [isUserTaskActive] using hact
    exact hhand.congr rfl rfl
  | saveContext _ _ => exact h.modifyTask_life fun _ _ => ⟨rfl, rfl⟩
  | blockCurrentUserAfterSyscall hcall =>
    rcases blockCurrentUserAfterSyscall_ok hd hcall with ⟨-, rfl⟩ |
      ⟨current, runtime, hcur, hk, hrun, -, rfl⟩
    · exact h
    · exact h.blocked hd hcur (by rw [hk]; rfl) hrun
  | wakeSleepingUserTasks => exact h.wakeSleepingUserTasks _
  | wakeKeyboardReaders => exact h.wakeKeyboardReaders
  | finishCurrentTask hcall =>
    have hretd : ∀ {exitCode result s1}, s.retireCurrentTask exitCode = .ok (result, s1) →
      s1.Engaged := by
      intro exitCode _ _ hret
      rcases retireCurrentTask_ok hd hret with ⟨rfl, -⟩ |
        ⟨_, runtime, parent, hcur, hk, hrun, -, -, rfl⟩
      · exact h
      · exact h.retired hd hcur (by rw [hk]; rfl) hrun exitCode parent
    rcases finishCurrentTask_ok hcall with hret | ⟨_, _, _, hret, hwake⟩
    · exact hretd hret
    · exact (hretd hret).wakeWaitingParentForChildExit hwake
  | collectWaitableChildExit hcall => exact h.collectWaitableChildExit hcall
  | takeFinishedUserExit =>
    rw [Scheduler.takeFinishedUserExit]
    split
    · exact h
    · exact h.congr rfl rfl
  | prepareCurrentUserWaitpid hcall =>
    rcases prepareCurrentUserWaitpid_ok hcall with ⟨-, rfl⟩ |
      ⟨_, _, hcur, -, -, -, -, -, rfl⟩
    · exact h
    · exact hcur.engaged h rfl rfl
  | prepareCurrentUserSleep hcall =>
    rcases prepareCurrentUserSleep_ok hcall with ⟨-, rfl⟩ | ⟨_, _, hcur, -, -, rfl⟩
    · exact h
    · exact hcur.engaged h rfl rfl
  | prepareCurrentUserRead hcall =>
    rcases prepareCurrentUserRead_ok hcall with ⟨-, rfl⟩ |
      ⟨_, _, hcur, -, -, -, -, -, -, rfl⟩
    · exact h
    · exact hcur.engaged h rfl rfl
  | @recordCurrentUserTrapFrame _ _ frame source hcall =>
    rcases recordCurrentUserTrapFrame_ok hcall with ⟨rfl, -⟩ | ⟨_, _, hcur, rfl⟩
    · exact h
    · cases source <;> exact hcur.engaged h rfl rfl
  | takeCurrentUserReadRequest hcall =>
    rcases takeCurrentUserReadRequest_ok hcall with rfl | ⟨_, _, hcur, rfl⟩
    · exact h
    · exact hcur.engaged h rfl rfl
  | completeCurrentUserRead hcall =>
    rcases completeCurrentUserRead_ok hcall with rfl | ⟨_, _, hcur, rfl⟩
    · exact h
    · exact hcur.engaged h rfl rfl
  | completePendingUserWaitpidStatus hcall =>
    rcases completePendingUserWaitpidStatus_ok hcall with ⟨rfl, -, -⟩ |
      ⟨_, _, _, _, -, ht, hk, rfl, -⟩
    · exact h
    · exact h.setRuntime ht hk rfl rfl
  | @replaceCurrentUserImage _ _ space frame _ _ hcall =>
    rcases replaceCurrentUserImage_ok hcall with ⟨-, rfl⟩ | ⟨_, runtime, heap, _, hcur, hsp, -, rfl⟩
    · exact h
    · have himage : (s.setRuntime s.currentIndex (runtime.withImage space frame heap)).Engaged :=
        hcur.engaged h (by rw [hsp]; rfl) rfl
      exact himage.clearContext _
  | reclaimFinishedUserResources hcall =>
    rcases reclaimFinishedUserResources_ok hcall with rfl | ⟨_, _, _, _, _, hsp, hstack⟩
    · exact h
    · exact (h.reclaimFinishedUserAddressSpaceAtIndex
        hsp).reclaimFinishedUserKernelStackAtIndex hstack
  | processCurrentUserBreak hcall =>
    rcases processCurrentUserBreak_ok hcall with ⟨-, rfl⟩ | ⟨_, _, _, _, hcur, -, rfl⟩
    · exact h
    · exact hcur.engaged h rfl rfl
  | processCurrentUserMapping hcall =>
    rcases processCurrentUserMapping_ok hcall with ⟨-, rfl⟩ | ⟨_, _, _, _, _, hcur, -, -, -, rfl⟩
    · exact h
    · exact hcur.engaged h rfl rfl
  | processCurrentUserUnmapping hcall =>
    rcases processCurrentUserUnmapping_ok hcall with rfl | ⟨_, _, _, hcur, rfl⟩
    · exact h
    · exact hcur.engaged h rfl rfl
  | setCurrentWorkingDirectory _ => exact h.modifyTask_life fun _ _ => ⟨rfl, rfl⟩
  | replaceCurrentFileDescriptorTable _ => exact h.modifyTask_life fun _ _ => ⟨rfl, rfl⟩

lemma new_engaged : Scheduler.new.Engaged := by
  have hget : ∀ (i : ℕ) (t : Task), Scheduler.new.tasks[i]? = some t →
    i = 0 ∧ t.getId = 0 ∧ t.kind = .kernel := by
    intro i t ht
    cases i with
    | zero =>
      cases ht
      exact ⟨rfl, rfl, rfl⟩
    | succ i => cases ht
  refine ⟨fun i t ht => ?_, nodup_nil, fun i hi => ?_, fun i t ht => ?_⟩
  · obtain ⟨rfl, hid, -⟩ := hget i t ht
    exact hid
  · cases hi
  obtain ⟨-, -, hk⟩ := hget i t ht
  rw [Task.life, hk]
  refine ⟨fun hi => ?_, fun huser => ?_, fun huser => ?_, fun hr => ?_⟩
  · cases hi
  · cases huser
  · cases huser
  · cases hr

lemma Calls.engaged (hs : s.table.Sound) (h : s.Engaged) (hcalls : Calls mapper s s') :
  s'.Engaged := by
  induction hcalls with
  | refl => exact h
  | tail hcalls hcall ih => exact hcall.engaged (Calls.table hs hcalls).2 ih

/-- **The active set of a reachable scheduler is in order.** -/
theorem Reachable.engaged (h : Reachable mapper s) : s.Engaged :=
  Calls.engaged table_new_sound new_engaged h

end Scheduler
end ManaOS
