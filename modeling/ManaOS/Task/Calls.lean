/-
Runs of the scheduler.

`Scheduler.Call` is one call of a method that changes the scheduler; a call that panics has no next
state.

* `Call.table`, `Reachable.sound`: every call is a run of the process table, which stays sound;
* `runs_exactly_current` (**one task runs**): it is the current one.
-/
import ManaOS.Boot
import ManaOS.Task.ExitEffects
import ManaOS.Task.ProcessTable
import ManaOS.Task.RequestEffects

namespace ManaOS
open Checked Option List
namespace Scheduler
variable {mapper : PageMapper} {s s' : Scheduler}

/-- One call of a scheduler method, on any memory. -/
inductive Call (mapper : PageMapper) : Scheduler → Scheduler → Prop
  | spawn {s s' memory memory' taskId}
      (h : s.spawn mapper memory = .ok (taskId, s', memory')) : Call mapper s s'
  | spawnUserTask {s s' memory memory' selectors request taskId}
      (h : s.spawnUserTask mapper memory selectors request = .ok (taskId, s', memory')) :
      Call mapper s s'
  | activateUserTask {s s' taskId activated}
      (h : s.activateUserTask taskId = .ok (activated, s')) : Call mapper s s'
  | prepareOneShotUserTask {s s' taskId entry}
      (h : s.prepareOneShotUserTask taskId = .ok (entry, s')) : Call mapper s s'
  | prepareNextSwitch {s s' interruptedUserMode action}
      (h : s.prepareNextSwitch interruptedUserMode = .ok (action, s')) : Call mapper s s'
  | saveContext (s : Scheduler) (index : ℕ) (context : TaskContext) :
      Call mapper s (s.modifyTask index ({ · with context }))
  | blockCurrentUserAfterSyscall {s s' taskId}
      (h : s.blockCurrentUserAfterSyscall = .ok (taskId, s')) : Call mapper s s'
  | wakeSleepingUserTasks (s : Scheduler) (tick : ℕ) :
      Call mapper s (s.wakeSleepingUserTasks tick)
  | wakeKeyboardReaders (s : Scheduler) : Call mapper s s.wakeKeyboardReaders.2
  | finishCurrentTask {s s' exitCode exit}
      (h : s.finishCurrentTask exitCode = .ok (exit, s')) : Call mapper s s'
  | collectWaitableChildExit {s s' parentTaskId childTaskId exit}
      (h : s.collectWaitableChildExit parentTaskId childTaskId = .ok (exit, s')) :
      Call mapper s s'
  | takeFinishedUserExit (s : Scheduler) : Call mapper s s.takeFinishedUserExit.2
  | prepareCurrentUserWaitpid {s s' childTaskId statusBuffer taskId}
      (h : s.prepareCurrentUserWaitpid childTaskId statusBuffer = .ok (taskId, s')) :
      Call mapper s s'
  | prepareCurrentUserSleep {s s' wakeTick taskId}
      (h : s.prepareCurrentUserSleep wakeTick = .ok (taskId, s')) : Call mapper s s'
  | prepareCurrentUserRead {s s' request taskId}
      (h : s.prepareCurrentUserRead request = .ok (taskId, s')) : Call mapper s s'
  | recordCurrentUserTrapFrame {s s' frame source}
      (h : s.recordCurrentUserTrapFrame frame source = .ok s') : Call mapper s s'
  | takeCurrentUserReadRequest {s s' taskId request}
      (h : s.takeCurrentUserReadRequest taskId = .ok (request, s')) : Call mapper s s'
  | completeCurrentUserRead {s s' taskId result}
      (h : s.completeCurrentUserRead taskId result = .ok s') : Call mapper s s'
  | completePendingUserWaitpidStatus {s s' memory memory' taskId completion}
      (h : s.completePendingUserWaitpidStatus mapper memory taskId =
        .ok (completion, s', memory')) : Call mapper s s'
  | replaceCurrentUserImage {s s' addressSpace frame heapStart result}
      (h : s.replaceCurrentUserImage addressSpace frame heapStart = .ok (result, s')) :
      Call mapper s s'
  | reclaimFinishedUserResources {s s' memory memory' taskId result}
      (h : s.reclaimFinishedUserResources mapper memory taskId = .ok (result, s', memory')) :
      Call mapper s s'
  | processCurrentUserBreak {s s' memory memory' request result}
      (h : s.processCurrentUserBreak mapper memory request = .ok (result, s', memory')) :
      Call mapper s s'
  | processCurrentUserMapping {σ : Type} {s s' memory memory' request}
      {initializePage : PageInitializer σ} {captured captured' result}
      (h : s.processCurrentUserMapping mapper memory request initializePage captured =
        .ok (result, s', memory', captured')) : Call mapper s s'
  | processCurrentUserUnmapping {s s' memory memory' request result}
      (h : s.processCurrentUserUnmapping mapper memory request = .ok (result, s', memory')) :
      Call mapper s s'
  | setCurrentWorkingDirectory (s : Scheduler) (path : Path) :
      Call mapper s (s.setCurrentWorkingDirectory path)
  | replaceCurrentFileDescriptorTable (s : Scheduler) (table : FileDescriptorTable) :
      Call mapper s (s.replaceCurrentFileDescriptorTable table)

/-- A run of calls. -/
def Calls (mapper : PageMapper) : Scheduler → Scheduler → Prop :=
  Relation.ReflTransGen (Call mapper)

/-- A state reached from `Scheduler::new`. -/
def Reachable (mapper : PageMapper) (s : Scheduler) : Prop := Calls mapper .new s

/-! ### The process table of a scheduler -/

/-- A task record as a process. -/
def processOf (task : Task) : Process where
  identifier := task.metadata.identifier
  parent := task.metadata.parentIdentifier
  status := task.metadata.exitStatus
  isUser := task.kind.isUser
  state := task.state

/-- The process table that a scheduler implements. -/
def table (s : Scheduler) : ProcessTable where
  processes := s.tasks.map processOf
  current := s.currentIndex
  next := s.nextTaskIdentifier
  records := s.childExitRecords

lemma table_dispatch (s : Scheduler) : s.table.dispatch = s.dispatch := by
  refine Dispatch.ext ?_ rfl
  show (s.tasks.map processOf).map ProcessTable.slotOf = s.tasks.map slotOf
  rw [List.map_map]
  rfl

lemma dispatch_sound (h : s.table.Sound) : s.dispatch.Sound := by
  rw [← table_dispatch]
  exact h.dispatch

lemma exists_current (h : s.table.Sound) : ∃ current, s.tasks[s.currentIndex]? = some current := by
  have hlt : s.currentIndex < s.tasks.length := by
    simpa [dispatch] using (dispatch_sound h).current_lt
  exact ⟨_, getElem?_eq_getElem hlt⟩

lemma getElem?_table (s : Scheduler) (i : ℕ) :
  s.table.processes[i]? = (s.tasks[i]?).map processOf := getElem?_map

variable {t task : Task} {i : ℕ}

lemma getElem?_table_of (h : s.tasks[i]? = some t) :
    s.table.processes[i]? = some (processOf t) := by
  rw [getElem?_table, h]
  rfl

lemma processOf_eq_of_view {t' : Task} (h : t'.view = t.view) : processOf t' = processOf t := by
  have hid : t'.metadata.identifier = t.metadata.identifier := congrArg TaskView.identifier h
  have hpar : t'.metadata.parentIdentifier = t.metadata.parentIdentifier :=
    congrArg TaskView.parentIdentifier h
  have hstat : t'.metadata.exitStatus = t.metadata.exitStatus := congrArg TaskView.exitStatus h
  have hslot := slotOf_eq_of_view h
  have huser : t'.kind.isUser = t.kind.isUser := congrArg Slot.isUser hslot
  have hsta : t'.state = t.state := congrArg Slot.state hslot
  rw [processOf, processOf, hid, hpar, hstat, huser, hsta]

lemma SameView.table_eq (h : SameView s s') : s'.table = s.table := by
  refine ProcessTable.ext (ext_getElem? fun i => ?_) h.currentIndex h.nextTaskIdentifier
    h.records
  rw [getElem?_table, getElem?_table]
  cases ht' : s'.tasks[i]? with
  | none =>
    have hlen := h.length_eq
    rw [getElem?_eq_none_iff] at ht'
    rw [getElem?_eq_none (by omega)]
  | some _ =>
    obtain ⟨t, ht, hview⟩ := h.task ht'
    rw [ht, map_some, map_some, processOf_eq_of_view hview]

lemma table_modifyTask {f : Task → Task} {g : Process → Process}
  (h : ∀ t, s.tasks[i]? = some t → processOf (f t) = g (processOf t)) :
  (s.modifyTask i f).table = s.table.modify i g := by
  refine ProcessTable.ext (ext_getElem? fun j => ?_) rfl rfl rfl
  rw [ProcessTable.getElem?_modify, getElem?_table, getElem?_table, getElem?_modifyTask]
  cases ht : s.tasks[j]? with
  | none => rfl
  | some t =>
    simp only [map_some]
    split
    · next heq =>
      subst heq
      rw [h t ht]
    · rfl

lemma table_modifyTask_of_eq {f : Task → Task}
  (h : ∀ t, s.tasks[i]? = some t → processOf (f t) = processOf t) :
  (s.modifyTask i f).table = s.table := by
  rw [table_modifyTask (g := id) h]
  refine ProcessTable.ext (ext_getElem? fun j => ?_) rfl rfl rfl
  rw [ProcessTable.getElem?_modify]
  cases s.table.processes[j]? <;> simp

lemma table_setState (s : Scheduler) (i : ℕ) (state : TaskState) : (s.setState i state).table =
  s.table.setState i state := table_modifyTask fun _ _ => rfl

lemma table_clearContext (s : Scheduler) (i : ℕ) : (s.clearContext i).table = s.table :=
  table_modifyTask_of_eq fun _ _ => rfl

lemma table_setRuntime (ht : s.tasks[i]? = some t) (hk : t.kind = .user runtime) :
  (s.setRuntime i runtime').table = s.table := by
  refine table_modifyTask_of_eq fun u hu => ?_
  rw [ht] at hu
  cases hu
  simp only [processOf, hk, TaskKind.isUser]

lemma CurrentUser.table_setRuntime (h : CurrentUser s current runtime) : (s.setRuntime
  s.currentIndex runtime').table = s.table := Scheduler.table_setRuntime h.current_eq h.kind

lemma table_handOff (s : Scheduler) (left : TaskState) (next : ℕ) :
  (s.handOff left next).table = s.table.handOff left next := by
  have h : ((s.setState s.currentIndex left).setState next .running).table =
    (s.table.setState s.currentIndex left).setState next .running := by
    rw [table_setState, table_setState]
  exact congrArg (fun table : ProcessTable => { table with current := next }) h

lemma ActiveOnly.table_eq (h : ActiveOnly s s') : s'.table = s.table := by
  obtain ⟨_, rfl⟩ := h
  rfl

lemma table_blocked (s : Scheduler) : s.blocked.table = s.table.handOff .blocked 0 := by
  have h : (((s.setState s.currentIndex .blocked).clearContext s.currentIndex).setState 0
    .running).table = (s.table.setState s.currentIndex .blocked).setState 0 .running := by
    rw [table_setState, table_clearContext, table_setState]
  exact congrArg (fun table : ProcessTable => { table with current := 0 }) h

lemma processOf_reparentTask (exiting : ℕ) (task : Task) :
  processOf (reparentTask exiting task) = (processOf task).reparent exiting := by
  obtain ⟨⟨_, parent, _, _, _⟩, _, kind, _, _⟩ := task
  cases parent with
  | none => cases kind <;> simp [reparentTask, Process.reparent, processOf]
  | some _ =>
    cases kind with
    | kernel => simp [reparentTask, Process.reparent, processOf, TaskKind.isUser]
    | user _ =>
      simp only [reparentTask, Process.reparent, processOf, TaskKind.isUser,
        TaskMetadata.waitCollected, TaskMetadata.reparentToInitialProcess]
      split_ifs <;> simp_all

lemma table_reparent (s : Scheduler) (exiting : ℕ) :
  (s.reparentOrphanedChildrenToInitialProcess exiting).table = s.table.reparent exiting := by
  refine ProcessTable.ext ?_ rfl rfl rfl
  show (s.tasks.map _).map processOf = (s.tasks.map processOf).map _
  rw [List.map_map, List.map_map]
  exact List.map_congr_left fun task _ => processOf_reparentTask exiting task

lemma table_retired (s : Scheduler) (exitCode parent taskId : ℕ) (active : List ℕ) :
  (s.retired exitCode parent taskId active).table = s.table.exit taskId parent exitCode := by
  have h : (((s.modifyTask s.currentIndex (exited
    · exitCode)).reparentOrphanedChildrenToInitialProcess taskId).setState 0 .running).table =
    ((s.table.modify s.currentIndex (·.exited exitCode)).reparent taskId).setState 0
      .running := by
    rw [table_setState, table_reparent, table_modifyTask (g := (·.exited exitCode)) fun _ _ => rfl]
  exact congrArg (fun table : ProcessTable => { table with
    current := 0
    records := table.records ++ [(⟨parent, taskId, exitCode, false⟩ : ChildExitRecord)] }) h

lemma table_collected (s : Scheduler) (recordIndex index : ℕ) :
  (s.collected recordIndex index).table = s.table.collect recordIndex index := by
  have h : (s.modifyTask index reaped).table = s.table.modify index Process.reaped :=
    table_modifyTask fun t _ => rfl
  exact congrArg (fun table : ProcessTable => { table with
    records := s.childExitRecords.modify recordIndex ({ · with collected := true }) }) h

/-! ### Every call is a run of the process table -/

open ProcessTable (Steps Step)

lemma steps_of_table_eq (h : s'.table = s.table) : Steps s.table s'.table := by
  rw [h]
  exact .refl

lemma step_wakeAt (ht : s.tasks[index]? = some task)
  (huser : task.kind.isUser = true) (hblk : task.state = .blocked) :
  Step s.table (s.setState index .ready).table := by
  have heq : (s.setState index .ready).table = s.table.wake (· == index) := by
    rw [table_setState]
    refine ProcessTable.ext (ext_getElem? fun j => ?_) rfl rfl rfl
    rw [ProcessTable.getElem?_setState, ProcessTable.getElem?_wake]
    rcases eq_or_ne index j with rfl | hne
    · rw [getElem?_table_of ht, map_some, map_some, if_pos rfl,
        if_pos ⟨huser, hblk, beq_self_eq_true index⟩]
    · have hbeq : (j == index) = false := beq_eq_false_iff_ne.2 hne.symm
      simp [hne, hbeq]
  rw [heq]
  exact .wake _ _

lemma step_wakeSleepingUserTasks (s : Scheduler) (tick : ℕ) :
  Step s.table (s.wakeSleepingUserTasks tick).table := by
  let woken : ℕ → Bool := fun index =>
    (s.tasks[index]?).any fun task => (wakeSleepingTask tick task).state != task.state
  have heq : (s.wakeSleepingUserTasks tick).table = s.table.wake woken := by
    refine ProcessTable.ext (ext_getElem? fun j => ?_) rfl rfl rfl
    rw [getElem?_table, getElem?_wakeSleepingUserTasks, ProcessTable.getElem?_wake, getElem?_table]
    cases ht : s.tasks[j]? with
    | none => rfl
    | some task =>
      have hwoken : woken j = ((wakeSleepingTask tick task).state != task.state) := by
        simp only [woken, ht, any_some]
      simp only [map_some, hwoken, Option.some.injEq]
      rcases wakeSleepingTask_cases tick task with hsame | ⟨_, hk, -, hwake⟩
      · simp [hsame]
      · rw [hwake]
        cases hsta : task.state <;>
          simp [processOf, hk, hsta, TaskKind.isUser, TaskState.wakeBlocked, TaskState.transition]
  rw [heq]
  exact .wake _ _

lemma steps_wakeKeyboardReaders (s : Scheduler) : Steps s.table s.wakeKeyboardReaders.2.table := by
  rcases wakeKeyboardReaders_eq s with heq | ⟨_, _, _, ht, hk, -, hblk, heq⟩
  · exact steps_of_table_eq (by rw [heq])
  · rw [heq]
    exact .single (step_wakeAt ht (by rw [hk]; rfl) hblk)

lemma Collection.step {exit : UserTaskExit}
  {recordIndex : ℕ} {record : ChildExitRecord} {taskIndex : ℕ}
  (h : Collection s parentTaskId childTaskId exit s' recordIndex record taskIndex task) :
  Step s.table s'.table := by
  obtain ⟨t, ht, hid⟩ := getTaskIndex_eq_some h.getTaskIndex
  rw [h.task_eq] at ht
  cases ht
  have hfresh : record.collected = false := by
    have hwtbl := h.waitable
    rw [ChildExitRecord.waitableForParent] at hwtbl
    simp only [Bool.and_eq_true, Bool.not_eq_true'] at hwtbl
    exact hwtbl.1.2
  rw [h.result, table_collected]
  exact .collect _ recordIndex record taskIndex (processOf task) h.record_eq hfresh
    (getElem?_table_of h.task_eq) hid

lemma collectWaitableChildExit_steps
    (h : s.collectWaitableChildExit parentTaskId childTaskId = .ok (exit, s')) :
    Steps s.table s'.table := by
  rcases collectWaitableChildExit_ok h with ⟨-, rfl⟩ | ⟨_, _, _, _, _, -, hcoll⟩
  · exact .refl
  · exact .single hcoll.step

lemma collectWaitableChildExit_task
    (h : s.collectWaitableChildExit parentTaskId childTaskId = .ok (exit, s'))
    (ht : s.tasks[i]? = some t) : ∃ metadata, s'.tasks[i]? = some { t with metadata } := by
  rcases collectWaitableChildExit_ok h with ⟨-, rfl⟩ | ⟨_, _, _, _, _, -, hcoll⟩
  · exact ⟨t.metadata, ht⟩
  rw [hcoll.result, collected, getElem?_modifyTask, ht, map_some]
  split
  · exact ⟨_, rfl⟩
  · exact ⟨t.metadata, rfl⟩

lemma wakeWaitingParentForChildExit_steps {childTaskId : ℕ}
  (h : s.wakeWaitingParentForChildExit parentTaskId childTaskId = .ok s') :
  Steps s.table s'.table := by
  rcases wakeWaitingParentForChildExit_ok h with ⟨rfl, -⟩ |
    ⟨_, _, _, _, _, _, hwait, hcoll, hblk, rfl⟩
  · exact .refl
  obtain ⟨_, hpar⟩ := collectWaitableChildExit_task hcoll hwait.parent_eq
  refine (collectWaitableChildExit_steps hcoll).tail ?_
  rw [← table_setRuntime hpar hwait.kind]
  exact step_wakeAt (getElem?_modifyTask_self hpar) rfl hblk

lemma finishCurrentTask_ok (h : s.finishCurrentTask exitCode = .ok (exit, s')) :
    s.retireCurrentTask exitCode = .ok (none, s') ∨
    ∃ parent found s1,
      s.retireCurrentTask exitCode = .ok (some (parent, found), s1) ∧
      s1.wakeWaitingParentForChildExit parent found.taskId = .ok s' := by
  simp only [finishCurrentTask, bind_eq_ok, Prod.exists] at h
  obtain ⟨retired, s1, hret, h⟩ := h
  cases retired with
  | none =>
    cases h
    exact .inl hret
  | some pair =>
    obtain ⟨parent, found⟩ := pair
    simp only [bind_eq_ok] at h
    obtain ⟨_, hwake, -, -, h⟩ := h
    cases h
    exact .inr ⟨parent, found, s1, hret, hwake⟩

lemma retireCurrentTask_steps (hs : s.dispatch.Sound)
  (h : s.retireCurrentTask exitCode = .ok (result, s')) : Steps s.table s'.table := by
  rcases retireCurrentTask_ok hs h with ⟨rfl, -⟩ |
    ⟨current, _, parent, hcur, hk, hrun, hstat, hpar, rfl⟩
  · exact .refl
  · rw [table_retired]
    exact .single (.exit s.table (processOf current) parent exitCode (getElem?_table_of hcur)
      (by simp [processOf, hk, TaskKind.isUser]) hrun hstat hpar)

lemma finishCurrentTask_finished (hs : s.table.Sound)
  (h : s.finishCurrentTask exitCode = .ok (exit, s')) {current : Task}
  (hcur : s.tasks[s.currentIndex]? = some current) (huser : current.kind.isUser = true) :
  ∃ after, s'.tasks[s.currentIndex]? = some after ∧ after.state = .finished := by
  have hd := dispatch_sound hs
  have hrun : current.state = .running := hs.current_running (getElem?_table_of hcur)
  have hret : ∀ {s1 result}, s.retireCurrentTask exitCode = .ok (result, s1) →
    s1.table.Sound ∧ s1.dispatch.slot? s.currentIndex = some ⟨true, .finished⟩ := by
    intro _ _ hret
    refine ⟨hs.steps (retireCurrentTask_steps hd hret), ?_⟩
    rcases retireCurrentTask_ok hd hret with ⟨-, hstuck⟩ |
      ⟨found, _, parent, _, -, -, -, -, rfl⟩
    · exact absurd hrun (hstuck current hcur huser)
    obtain ⟨hpos, -⟩ := bootstrap_waits hd hcur huser
    rw [← table_dispatch, ProcessTable.dispatch_slot?, table_retired, ProcessTable.getElem?_exit]
    simp only [getElem?_table_of hcur, map_some, if_neg (Ne.symm hpos), Option.some.injEq]
    rw [ProcessTable.slotOf_reparent, table, if_pos rfl]
    exact congrArg (Slot.mk · _) huser
  have haft : s'.dispatch.slot? s.currentIndex = some ⟨true, .finished⟩ := by
    rcases finishCurrentTask_ok h with hnone | ⟨_, _, _, hsome, hwake⟩
    · exact (hret hnone).2
    obtain ⟨hs1, hslot⟩ := hret hsome
    rw [← table_dispatch] at hslot ⊢
    exact (ProcessTable.Steps.dispatch (wakeWaitingParentForChildExit_steps hwake)).finished
      hs1.dispatch hslot
  rw [dispatch_slot?] at haft
  obtain ⟨after, htask, hslot⟩ := map_eq_some_iff.1 haft
  exact ⟨after, htask, congrArg Slot.state hslot⟩

lemma Spawns.step (h : s.Spawns s' task) (hpar : s.tasks[s.currentIndex]? = some parent)
  (hproc : processOf task =
    ⟨s.nextTaskIdentifier, some parent.metadata.identifier, none, isUser, .ready⟩) :
  Step s.table s'.table := by
  obtain ⟨_, _, rfl⟩ := h
  have hstep := Step.spawn s.table (processOf parent) isUser (getElem?_table_of hpar)
    (by rwa [table, length_map])
  have hmap : (s.tasks ++ [task]).map processOf = s.tasks.map processOf ++ [processOf task] :=
    map_append
  rw [hproc] at hmap
  rw [table, table, hmap]
  exact hstep

/-- **Every call is a run of the process table.** -/
theorem Call.table (hs : s.dispatch.Sound) (h : Call mapper s s') : Steps s.table s'.table := by
  cases h with
  | spawn h =>
    obtain ⟨_, stack, ⟨parent, hpar, rfl⟩, hspn⟩ := spawn_ok h
    exact .single (hspn.step hpar rfl)
  | spawnUserTask h =>
    obtain ⟨_, _, _, runtime, ⟨_, hpar, rfl⟩, -, -, hspn⟩ := spawnUserTask_ok h
    exact .single (hspn.step hpar rfl)
  | activateUserTask h => exact steps_of_table_eq (ActiveOnly.of_activate h).table_eq
  | prepareOneShotUserTask h =>
    rcases prepareOneShotUserTask_ok h with ⟨-, rfl⟩ | ⟨_, index, task, runtime, current, -, ho⟩
    · exact .refl
    · rw [ho.result.table_eq, table_clearContext, table_handOff]
      exact .single (.handOff _ index _ _ (getElem?_table_of ho.task_eq) ho.ready (.inr rfl))
  | prepareNextSwitch h =>
    rcases prepareNextSwitch_ok h with ⟨-, _, rfl⟩ | ⟨_, next, _, current, -, ht⟩
    · exact .refl
    obtain ⟨_, rfl⟩ := ht.result
    rw [table_handOff]
    exact .single (.handOff _ next _ _ (getElem?_table_of ht.schedulable.task_eq)
      ht.schedulable.ready (.inl rfl))
  | saveContext _ _ => exact steps_of_table_eq (table_modifyTask_of_eq fun _ _ => rfl)
  | blockCurrentUserAfterSyscall h =>
    rcases blockCurrentUserAfterSyscall_ok hs h with ⟨-, rfl⟩ |
      ⟨_, _, hcur, hk, hrun, -, rfl⟩
    · exact .refl
    · rw [table_blocked]
      exact .single (.block _ _ (getElem?_table_of hcur)
        (by simp [processOf, hk, TaskKind.isUser]) hrun)
  | wakeSleepingUserTasks => exact .single (step_wakeSleepingUserTasks s _)
  | wakeKeyboardReaders => exact steps_wakeKeyboardReaders s
  | finishCurrentTask h =>
    rcases finishCurrentTask_ok h with hret | ⟨_, _, _, hret, hwake⟩
    · exact retireCurrentTask_steps hs hret
    · exact (retireCurrentTask_steps hs hret).trans (wakeWaitingParentForChildExit_steps hwake)
  | collectWaitableChildExit h => exact collectWaitableChildExit_steps h
  | takeFinishedUserExit =>
    refine steps_of_table_eq ?_
    rw [Scheduler.takeFinishedUserExit]
    split <;> rfl
  | prepareCurrentUserWaitpid h =>
    rcases prepareCurrentUserWaitpid_ok h with ⟨-, rfl⟩ |
      ⟨_, _, hcur, -, -, -, -, -, rfl⟩
    · exact .refl
    · exact steps_of_table_eq hcur.table_setRuntime
  | prepareCurrentUserSleep h =>
    rcases prepareCurrentUserSleep_ok h with ⟨-, rfl⟩ | ⟨_, _, hcur, -, -, rfl⟩
    · exact .refl
    · exact steps_of_table_eq hcur.table_setRuntime
  | prepareCurrentUserRead h =>
    rcases prepareCurrentUserRead_ok h with ⟨-, rfl⟩ |
      ⟨_, _, hcur, -, -, -, -, -, -, rfl⟩
    · exact .refl
    · exact steps_of_table_eq hcur.table_setRuntime
  | recordCurrentUserTrapFrame h =>
    rcases recordCurrentUserTrapFrame_ok h with ⟨rfl, -⟩ | ⟨_, _, hcur, rfl⟩
    · exact .refl
    · exact steps_of_table_eq hcur.table_setRuntime
  | takeCurrentUserReadRequest h =>
    rcases takeCurrentUserReadRequest_ok h with rfl | ⟨_, _, hcur, rfl⟩
    · exact .refl
    · exact steps_of_table_eq hcur.table_setRuntime
  | completeCurrentUserRead h =>
    rcases completeCurrentUserRead_ok h with rfl | ⟨_, _, hcur, rfl⟩
    · exact .refl
    · exact steps_of_table_eq hcur.table_setRuntime
  | completePendingUserWaitpidStatus h =>
    rcases completePendingUserWaitpidStatus_ok h with ⟨rfl, -, -⟩ | ⟨_, _, _, _, -, ht, hk, rfl, -⟩
    · exact .refl
    · exact steps_of_table_eq (table_setRuntime ht hk)
  | replaceCurrentUserImage h =>
    rcases replaceCurrentUserImage_ok h with ⟨-, rfl⟩ | ⟨_, _, _, _, hcur, -, -, rfl⟩
    · exact .refl
    · exact steps_of_table_eq ((table_clearContext _ _).trans hcur.table_setRuntime)
  | reclaimFinishedUserResources h =>
    rcases reclaimFinishedUserResources_ok h with rfl | ⟨_, _, s1, _, _, hsp, hstack⟩
    · exact .refl
    have h1 : s1.table = s.table := by
      rcases reclaimFinishedUserAddressSpaceAtIndex_ok hsp with rfl | ⟨_, _, ht, -, hk, rfl⟩
      · rfl
      · exact table_setRuntime ht hk
    have h2 : s'.table = s1.table := by
      rcases reclaimFinishedUserKernelStackAtIndex_ok hstack with rfl | ⟨_, rfl⟩
      · rfl
      · exact table_modifyTask_of_eq (s := s1) fun _ _ => rfl
    exact steps_of_table_eq (h2.trans h1)
  | processCurrentUserBreak h =>
    rcases processCurrentUserBreak_ok h with ⟨-, rfl⟩ | ⟨_, _, _, _, hcur, -, rfl⟩
    · exact .refl
    · exact steps_of_table_eq hcur.table_setRuntime
  | processCurrentUserMapping h =>
    rcases processCurrentUserMapping_ok h with ⟨-, rfl⟩ | ⟨_, _, _, _, _, hcur, -, -, -, rfl⟩
    · exact .refl
    · exact steps_of_table_eq hcur.table_setRuntime
  | processCurrentUserUnmapping h =>
    rcases processCurrentUserUnmapping_ok h with rfl | ⟨_, _, _, hcur, rfl⟩
    · exact .refl
    · exact steps_of_table_eq hcur.table_setRuntime
  | setCurrentWorkingDirectory _ => exact steps_of_table_eq (table_modifyTask_of_eq fun _ _ => rfl)
  | replaceCurrentFileDescriptorTable _ =>
    exact steps_of_table_eq (table_modifyTask_of_eq fun _ _ => rfl)

/-! ### Every run -/

lemma Calls.table (hs : s.table.Sound) (h : Calls mapper s s') :
  Steps s.table s'.table ∧ s'.table.Sound := by
  induction h with
  | refl => exact ⟨.refl, hs⟩
  | tail _ hcall ih =>
    have hstep := hcall.table (dispatch_sound ih.2)
    exact ⟨ih.1.trans hstep, ih.2.steps hstep⟩

lemma table_new_sound : Scheduler.new.table.Sound := by
  have hget : ∀ (i : ℕ) (process : Process), Scheduler.new.table.processes[i]? = some process →
    i = 0 ∧ process = ⟨0, none, none, false, .running⟩ := by
    intro i process h
    cases i with
    | zero => exact ⟨rfl, (Option.some.inj h).symm⟩
    | succ i => cases h
  refine ⟨⟨Nat.zero_lt_one, ⟨.running, rfl, by simp⟩, ?_⟩, rfl, by decide, ?_, ?_, ?_, ?_, ?_, ?_,
    ?_⟩
  · intro i _ hslot
    rw [ProcessTable.dispatch_slot?] at hslot
    obtain ⟨process, hproc, rfl⟩ := map_eq_some_iff.1 hslot
    obtain ⟨rfl, rfl⟩ := hget i process hproc
    exact ⟨fun _ => rfl, fun _ => rfl⟩
  · intro i process h
    obtain ⟨rfl, rfl⟩ := hget i process h
    rfl
  · intro i process _ h hpar
    obtain ⟨rfl, rfl⟩ := hget i process h
    cases hpar
  · intro i process h huser
    obtain ⟨rfl, rfl⟩ := hget i process h
    cases huser
  · intro i process h
    obtain ⟨rfl, rfl⟩ := hget i process h
    simp
  · intro _ hrec
    cases hrec
  · exact nodup_nil
  · intro i process h hstat
    obtain ⟨rfl, rfl⟩ := hget i process h
    cases hstat

/-- **The table of a reachable scheduler is sound.** -/
theorem Reachable.sound (h : Reachable mapper s) : s.table.Sound :=
  (Calls.table table_new_sound h).2

/-- **One task runs, the current one.**  In every state reached from `Scheduler::new`, the
bootstrap task, the one with identifier zero, has not finished; and a task that has finished
stays finished and is not current in any later state.  A one-shot entry may be made whatever
task is current. -/
theorem runs_exactly_current (h : Reachable mapper s) :
    (∃ current, s.tasks[s.currentIndex]? = some current ∧ current.state = .running) ∧
    (∀ (i : ℕ) (task : Task),
      s.tasks[i]? = some task → task.state = .running → i = s.currentIndex) ∧
    (∃ (i : ℕ) (task : Task), s.tasks[i]? = some task ∧ task.getId = bootstrapIdentifier) ∧
    (∀ (i : ℕ) (task : Task),
      s.tasks[i]? = some task → task.getId = bootstrapIdentifier → task.state ≠ .finished) ∧
    ∀ (i : ℕ) (task : Task),
      s.tasks[i]? = some task →
      task.state = .finished →
      ∀ s',
        Calls mapper s s' →
        s'.currentIndex ≠ i ∧ ∃ task', s'.tasks[i]? = some task' ∧ task'.state = .finished := by
  have hs := h.sound
  obtain ⟨_, hget⟩ := exists_current hs
  have hrunning : ∀ (i : ℕ) (task : Task), s.tasks[i]? = some task →
    (task.state = .running ↔ i = s.currentIndex) := fun i task ht =>
    (dispatch_sound hs).running_iff i (slotOf task) (by rw [dispatch_slot?, ht]; rfl)
  refine ⟨⟨_, hget, (hrunning _ _ hget).2 rfl⟩, fun i task ht => (hrunning i task ht).1, ?_, ?_, ?_⟩
  · obtain ⟨_, hslot, -⟩ := (dispatch_sound hs).first
    rw [dispatch_slot?] at hslot
    obtain ⟨first, hfirst, -⟩ := map_eq_some_iff.1 hslot
    exact ⟨0, first, hfirst, hs.identifier 0 _ (getElem?_table_of hfirst)⟩
  · intro i task ht hid
    have hzero : i = 0 := (hs.identifier i _ (getElem?_table_of ht)).symm.trans hid
    subst hzero
    exact (hs.first (getElem?_table_of ht)).2
  intro i task ht hfin _ hcalls
  obtain ⟨hsteps, hs'⟩ := Calls.table hs hcalls
  have hslot : s.table.dispatch.slot? i = some ⟨task.kind.isUser, .finished⟩ := by
    rw [table_dispatch, dispatch_slot?, ht, map_some, slotOf, hfin]
  have hslot' := (ProcessTable.Steps.dispatch hsteps).finished hs.dispatch hslot
  rw [table_dispatch, dispatch_slot?] at hslot'
  obtain ⟨task', ht', hslot'⟩ := map_eq_some_iff.1 hslot'
  have hfin' : task'.state = .finished := congrArg Slot.state hslot'
  refine ⟨?_, task', ht', hfin'⟩
  rintro rfl
  have hrun := hs'.current_running (getElem?_table_of ht')
  rw [processOf, hfin'] at hrun
  cases hrun

/-- A run on the machine after boot: a user task is spawned, entered and exits. -/
def exitRun : Panicking Scheduler := do
  let (taskId, s, _) ←
    Scheduler.new.spawnUserTask walkMapper bootMemory bootKernel.selectors bootRequest
  let (_, s) ← s.activateUserTask taskId
  let (_, s) ← s.prepareOneShotUserTask taskId
  let (_, s) ← s.finishCurrentTask 7
  return s

lemma exitRun_reachable (h : exitRun = .ok s) : Reachable walkMapper s := by
  simp only [exitRun, bind_eq_ok, Prod.exists, pure_eq_ok] at h
  obtain ⟨_, _, _, hspawn, _, _, hactv, _, _, henter, _, _, hfin, rfl⟩ := h
  exact (((Relation.ReflTransGen.single (.spawnUserTask hspawn)).tail
    (.activateUserTask hactv)).tail (.prepareOneShotUserTask henter)).tail
      (.finishCurrentTask hfin)

/-- After the run the bootstrap task is current again and the user task has finished. -/
theorem runs_exactly_current_exitRun : ∃ s, Reachable walkMapper s ∧
  s.tasks.map Task.state = [.running, .finished] ∧
  ∃ current, s.tasks[s.currentIndex]? = some current ∧ current.state = .running := by
  have hrun : exitRun.map (fun s => s.tasks.map Task.state) = .ok [.running, .finished] := by
    decide +kernel
  obtain ⟨s, hs, hstates⟩ := map_eq_ok.1 hrun
  have hreach := exitRun_reachable hs
  exact ⟨s, hreach, hstates, (runs_exactly_current hreach).1⟩

end Scheduler
end ManaOS
