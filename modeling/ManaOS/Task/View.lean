/-
What the scheduler's invariants look at.

Two schedulers with `SameView` satisfy the same invariants.

* `sameView_modifyTask`: an update that keeps the view of a task keeps them all.
-/
import ManaOS.Task.Dispatch
import ManaOS.Task.Switch

namespace ManaOS
open Checked List

/-! ### Views -/

/-- The runtime of a user task without its mapping records and logging flag. -/
structure RuntimeView where
  addressSpace : Option UserAddressSpace
  savedFrame : UserTrapFrame
  heap : UserHeap
  sleepWakeTick : Option ℕ
  waitpidRequest : Option UserWaitpidRequest
  waitpidCompletion : Option UserWaitpidCompletion
  readRequest : Option UserReadRequest
  interruptFrameRecorded : Bool
  addressSpaceReclaiming : Bool

/-- The view of a runtime. -/
def UserTaskRuntime.view (runtime : UserTaskRuntime) : RuntimeView where
  addressSpace := runtime.addressSpace
  savedFrame := runtime.savedFrame
  heap := runtime.heap
  sleepWakeTick := runtime.sleepWakeTick
  waitpidRequest := runtime.waitpidRequest
  waitpidCompletion := runtime.waitpidCompletion
  readRequest := runtime.readRequest
  interruptFrameRecorded := runtime.interruptFrameRecorded
  addressSpaceReclaiming := runtime.addressSpaceReclaiming

/-- A user task that waits for something. -/
def UserTaskRuntime.HasRequest (runtime : UserTaskRuntime) : Prop :=
  runtime.sleepWakeTick.isSome ∨ runtime.waitpidRequest.isSome ∨ runtime.readRequest.isSome

def UserTaskRuntime.requests (runtime : UserTaskRuntime) : Option ℕ × Option UserWaitpidRequest
  × Option UserReadRequest := (runtime.sleepWakeTick, runtime.waitpidRequest, runtime.readRequest)

/-- The view of a task kind: `none` for a kernel task. -/
def TaskKind.view : TaskKind → Option RuntimeView
  | .kernel => none
  | .user runtime => some runtime.view

/-- A task without its file descriptors, directory and stack. -/
structure TaskView where
  identifier : ℕ
  parentIdentifier : Option ℕ
  exitStatus : Option TaskExitStatus
  state : TaskState
  runtime : Option RuntimeView
  context : TaskContext

/-- The view of a task. -/
def Task.view (task : Task) : TaskView where
  identifier := task.metadata.identifier
  parentIdentifier := task.metadata.parentIdentifier
  exitStatus := task.metadata.exitStatus
  state := task.state
  runtime := task.kind.view
  context := task.context

lemma TaskKind.isUser_eq_view (kind : TaskKind) : kind.isUser = kind.view.isSome := by
  cases kind <;> rfl

lemma TaskKind.isUser_iff {kind : TaskKind} :
  kind.isUser = true ↔ ∃ runtime, kind = .user runtime := by
  cases kind <;> simp [TaskKind.isUser]

namespace Scheduler

/-- Two schedulers that differ only in what the views leave out. -/
structure SameView (s s' : Scheduler) : Prop where
  tasks : s'.tasks.map Task.view = s.tasks.map Task.view
  currentIndex : s'.currentIndex = s.currentIndex
  nextTaskIdentifier : s'.nextTaskIdentifier = s.nextTaskIdentifier
  records : s'.childExitRecords = s.childExitRecords

namespace SameView

lemma refl (s : Scheduler) : SameView s s := ⟨rfl, rfl, rfl, rfl⟩

lemma trans (h : SameView s s') (h' : SameView s' s'') : SameView s s'' where
  tasks := h'.tasks.trans h.tasks
  currentIndex := h'.currentIndex.trans h.currentIndex
  nextTaskIdentifier := h'.nextTaskIdentifier.trans h.nextTaskIdentifier
  records := h'.records.trans h.records

lemma length_eq (h : SameView s s') : s'.tasks.length = s.tasks.length := by
  simpa using congrArg List.length h.tasks

lemma task (h : SameView s s') {i : ℕ} {t' : Task} (ht : s'.tasks[i]? = some t') :
  ∃ t, s.tasks[i]? = some t ∧ t'.view = t.view := by
  have hi : (s'.tasks.map Task.view)[i]? = (s.tasks.map Task.view)[i]? := by rw [h.tasks]
  rw [getElem?_map, getElem?_map, ht, Option.map_some] at hi
  obtain ⟨t, ht, hview⟩ := Option.map_eq_some_iff.1 hi.symm
  exact ⟨t, ht, hview.symm⟩

end SameView

/-! ### Record updates -/

variable {s : Scheduler}
variable {t : Task}

lemma taskAt_eq_ok : s.taskAt i = .ok t ↔ s.tasks[i]? = some t := expect_eq_ok

lemma currentTask_eq_ok : s.currentTask = .ok t ↔ s.tasks[s.currentIndex]? = some t := expect_eq_ok

lemma getElem?_modifyTask (s : Scheduler) (i j : ℕ) (f : Task → Task) :
  (s.modifyTask i f).tasks[j]? = (s.tasks[j]?).map fun t => if i = j then f t else t :=
  getElem?_modify f i s.tasks j

@[simp] lemma length_modifyTask (s : Scheduler) (i : ℕ) (f : Task → Task) :
  (s.modifyTask i f).tasks.length = s.tasks.length := length_modify f s.tasks i

lemma getElem?_modifyTask_self {f : Task → Task} (h : s.tasks[i]? = some t) :
  (s.modifyTask i f).tasks[i]? = some (f t) := by
  simp [getElem?_modifyTask, h]

lemma getElem?_setRuntime_self (h : s.tasks[i]? = some t) (runtime : UserTaskRuntime) :
  (s.setRuntime i runtime).tasks[i]? = some { t with kind := .user runtime } :=
  getElem?_modifyTask_self h

lemma getElem?_modifyTask_of_ne {j : ℕ} {f : Task → Task} (h : i ≠ j) :
  (s.modifyTask i f).tasks[j]? = s.tasks[j]? := by
  simp [getElem?_modifyTask, h]

lemma modifyTask_congr {f g : Task → Task}
  (h : ∀ t, s.tasks[i]? = some t → f t = g t) : s.modifyTask i f = s.modifyTask i g := by
  have htasks : (s.modifyTask i f).tasks = (s.modifyTask i g).tasks := by
    refine ext_getElem? fun j => ?_
    rw [getElem?_modifyTask, getElem?_modifyTask]
    cases ht : s.tasks[j]? with
    | none => rfl
    | some t =>
      simp only [Option.map_some]
      split
      · next heq =>
        subst heq
        rw [h t ht]
      · rfl
  rw [modifyTask, modifyTask]
  exact congrArg (fun tasks => { s with tasks }) htasks

lemma modifyTask_modifyTask (s : Scheduler) (i : ℕ) (f g : Task → Task) :
  (s.modifyTask i f).modifyTask i g = s.modifyTask i (g ∘ f) := by
  simp only [modifyTask, modify_modify_eq]

@[simp] lemma setState_currentIndex (s : Scheduler) (i : ℕ) (st : TaskState) :
  (s.setState i st).currentIndex = s.currentIndex := rfl

@[simp] lemma setCurrentIndex_tasks (s : Scheduler) (i : ℕ) :
  (s.setCurrentIndex i).tasks = s.tasks := rfl

lemma getTaskIndex_eq_some {taskId index : ℕ} (h : s.getTaskIndex taskId = some index) :
  ∃ task, s.tasks[index]? = some task ∧ task.getId = taskId := by
  obtain ⟨hlt, hid, -⟩ := findIdx?_eq_some_iff_getElem.1 h
  exact ⟨_, getElem?_eq_getElem hlt, by simpa using hid⟩

lemma getTaskIndex_eq_findIdx? (s : Scheduler) (taskId : ℕ) :
  s.getTaskIndex taskId = (s.tasks.map Task.getId).findIdx? (· == taskId) := by
  rw [getTaskIndex, findIdx?_map]
  rfl

lemma getTaskIndex_modifyTask {taskId : ℕ} {f : Task → Task}
  (hf : ∀ t, s.tasks[i]? = some t → (f t).getId = t.getId) :
  (s.modifyTask i f).getTaskIndex taskId = s.getTaskIndex taskId := by
  have hids : (s.modifyTask i f).tasks.map Task.getId = s.tasks.map Task.getId := by
    refine ext_getElem? fun j => ?_
    rw [getElem?_map, getElem?_map, getElem?_modifyTask]
    cases ht : s.tasks[j]? with
    | none => rfl
    | some t =>
      simp only [Option.map_some]
      split
      · next heq =>
        subst heq
        rw [hf t ht]
      · rfl
  rw [getTaskIndex_eq_findIdx?, getTaskIndex_eq_findIdx?, hids]

@[simp] lemma getTaskIndex_setState (s : Scheduler) (i taskId : ℕ) (state : TaskState) :
  (s.setState i state).getTaskIndex taskId = s.getTaskIndex taskId :=
  getTaskIndex_modifyTask fun _ _ => rfl

@[simp] lemma getTaskIndex_clearContext (s : Scheduler) (i taskId : ℕ) :
  (s.clearContext i).getTaskIndex taskId = s.getTaskIndex taskId :=
  getTaskIndex_modifyTask fun _ _ => rfl

@[simp] lemma getTaskIndex_setRuntime (s : Scheduler) (i taskId : ℕ) (runtime : UserTaskRuntime) :
  (s.setRuntime i runtime).getTaskIndex taskId = s.getTaskIndex taskId :=
  getTaskIndex_modifyTask fun _ _ => rfl

lemma sameView_modifyTask {f : Task → Task}
  (hf : ∀ t, s.tasks[i]? = some t → (f t).view = t.view) : SameView s (s.modifyTask i f) := by
  refine ⟨?_, rfl, rfl, rfl⟩
  refine ext_getElem? fun j => ?_
  rw [getElem?_map, getElem?_map, getElem?_modifyTask]
  cases ht : s.tasks[j]? with
  | none => rfl
  | some t =>
    simp only [Option.map_some]
    split
    · next heq =>
      subst heq
      rw [hf t ht]
    · rfl

lemma sameView_replaceCurrentFileDescriptorTable (s : Scheduler) (table : FileDescriptorTable) :
  SameView s (s.replaceCurrentFileDescriptorTable table) := sameView_modifyTask fun _ _ => rfl

/-- A task as a slot of the dispatcher. -/
def slotOf (task : Task) : Slot := ⟨task.kind.isUser, task.state⟩

/-- The dispatcher a scheduler implements. -/
def dispatch (s : Scheduler) : Dispatch := ⟨s.tasks.map slotOf, s.currentIndex⟩

lemma dispatch_slot? (s : Scheduler) (i : ℕ) :
  s.dispatch.slot? i = (s.tasks[i]?).map slotOf := getElem?_map

lemma slotOf_eq_of_view {t' : Task} (h : t'.view = t.view) : slotOf t' = slotOf t := by
  have hsta : t'.state = t.state := congrArg TaskView.state h
  have hkind : t'.kind.view = t.kind.view := congrArg TaskView.runtime h
  rw [slotOf, slotOf, TaskKind.isUser_eq_view, TaskKind.isUser_eq_view, hsta, hkind]

end Scheduler
end ManaOS
