/-
What the exit methods of the scheduler do: one lemma per method says every way in which it can
return.

* `collectWaitableChildExit_ok`, `wakeWaitingParentForChildExit_ok`: collecting and waking.
-/
import ManaOS.Task.Effects

namespace ManaOS
open Checked
namespace Scheduler
variable {s s' : Scheduler}

/-! ### Retiring -/

/-- The exit status that a task records when it finishes. -/
def exited (task : Task) (exitCode : ℕ) : Task :=
  { task with
    state := .finished
    metadata := { task.metadata with exitStatus := some ⟨exitCode, false⟩ } }

/-- The scheduler after an exit: the children go to the initial process, the bootstrap task runs, a
record is kept. -/
def retired (s : Scheduler) (exitCode parentTaskId taskId : ℕ) (active : List ℕ) : Scheduler :=
  let s₁ := (s.modifyTask s.currentIndex (exited · exitCode))
  let s₂ := s₁.reparentOrphanedChildrenToInitialProcess taskId
  { (s₂.setState 0 .running).setCurrentIndex 0 with
    activeUserTaskIdentifiers := active }.retainExit parentTaskId ⟨taskId, exitCode⟩

lemma reparentTask_state (parent : ℕ) (task : Task) :
  (reparentTask parent task).state = task.state := by
  rw [reparentTask]
  split <;> rfl

lemma reparentTask_kind (parent : ℕ) (task : Task) :
  (reparentTask parent task).kind = task.kind := by
  rw [reparentTask]
  split <;> rfl

lemma finish_eq_exited (hcur : s.tasks[i]? = some current) :
  (s.setState i .finished).modifyTask i (fun task => { task with
    metadata := { current.metadata with exitStatus := some ⟨exitCode, false⟩ } }) =
  s.modifyTask i (exited · exitCode) := by
  rw [setState, modifyTask_modifyTask]
  refine modifyTask_congr fun u hu => ?_
  rw [hcur] at hu
  cases hu
  rfl

lemma resumeBootstrapTask_exited (hs : s.dispatch.Sound)
    (hcur : s.tasks[s.currentIndex]? = some current) (huser : current.kind.isUser = true)
    (exitCode : ℕ) :
    ((s.modifyTask s.currentIndex (exited · exitCode)).reparentOrphanedChildrenToInitialProcess
      current.getId).resumeBootstrapTask =
      .ok
        ((((s.modifyTask s.currentIndex (exited ·
           exitCode)).reparentOrphanedChildrenToInitialProcess current.getId).setState 0
           .running).setCurrentIndex
         0) := by
  obtain ⟨hpos, first, hfirst, -, hsta⟩ := bootstrap_waits hs hcur huser
  have hget : ((s.modifyTask s.currentIndex
    (exited · exitCode)).reparentOrphanedChildrenToInitialProcess
    current.getId).tasks[0]? = some (reparentTask current.getId first) := by
    rw [reparentOrphanedChildrenToInitialProcess, List.getElem?_map,
      getElem?_modifyTask_of_ne hpos, hfirst]
    rfl
  rw [← reparentTask_state current.getId] at hsta
  exact resumeBootstrapTask_eq hget hsta

lemma retireCurrentTask_ok (hs : s.dispatch.Sound)
    (h : s.retireCurrentTask exitCode = .ok (result, s')) :
    (s' = s ∧
     ∀ current,
       s.tasks[s.currentIndex]? = some current →
       current.kind.isUser = true →
       current.state ≠ .running) ∨
    ∃ current runtime parent,
      s.tasks[s.currentIndex]? = some current ∧
      current.kind = .user runtime ∧
      current.state = .running ∧
      current.metadata.exitStatus = none ∧
      current.metadata.parentIdentifier = some parent ∧
      s' =
        s.retired exitCode parent current.getId
          (s.activeUserTaskIdentifiers.filter (· != current.getId)) := by
  simp only [retireCurrentTask, bind_eq_ok, currentTask_eq_ok] at h
  obtain ⟨t, ht, h⟩ := h
  split at h
  · next hker =>
    cases h
    refine .inl ⟨rfl, fun current hcur huser => ?_⟩
    rw [ht] at hcur
    cases hcur
    rw [huser] at hker
    cases hker
  next huser =>
  have huser : t.kind.isUser = true := by simpa using huser
  obtain ⟨runtime, hk⟩ := TaskKind.isUser_iff.1 huser
  obtain ⟨⟨finished, _⟩, hfin, h⟩ := bind_eq_ok.1 h
  cases finished with
  | false =>
    cases h
    obtain ⟨⟨_, hstuck, hsta⟩, hsame⟩ := transitionAt_false hfin
    refine .inl ⟨hsame, fun current hcur _ => ?_⟩
    rw [hstuck] at hcur
    cases hcur
    exact hsta
  | true =>
    obtain ⟨_, hcur, hrun, rfl⟩ := transitionAt_true hfin
    rw [ht] at hcur
    cases hcur
    simp only [Bool.not_true, Bool.false_eq_true, if_false, bind_eq_ok, expect_eq_ok] at h
    obtain ⟨_, hmeta, parent, hpar, _, hresume, _, hdeac, h⟩ := h
    rw [TaskMetadata.recordExitStatus] at hmeta
    split at hmeta
    · cases hmeta
    next hstat =>
    cases hmeta
    rw [setState_currentIndex, finish_eq_exited ht] at hresume
    obtain rfl := Except.ok.inj
      (hresume.symm.trans (resumeBootstrapTask_exited hs ht huser exitCode))
    simp only [deactivateUserTask, bind_eq_ok] at hdeac
    obtain ⟨-, -, hdeac⟩ := hdeac
    cases hdeac
    cases h
    refine .inr ⟨t, runtime, parent, ht, hk, hrun, ?_, hpar, rfl⟩
    simpa using hstat

/-! ### Collecting -/

/-- A task whose exit status has been collected. -/
def reaped (task : Task) : Task :=
  { task with
    metadata :=
      { task.metadata with
        exitStatus := task.metadata.exitStatus.map ({ · with waitCollected := true }) } }

/-- The scheduler after a record and its task have been marked. -/
def collected (s : Scheduler) (recordIndex taskIndex : ℕ) : Scheduler :=
  { s.modifyTask taskIndex reaped with
    childExitRecords := s.childExitRecords.modify recordIndex ({ · with collected := true }) }

/-- A collection of the first waitable record. -/
structure Collection (s : Scheduler) (parentTaskId : ℕ) (childTaskId : Option ℕ)
    (exit : UserTaskExit) (s' : Scheduler) (recordIndex : ℕ) (record : ChildExitRecord)
    (taskIndex : ℕ) (task : Task) : Prop where
  record_eq : s.childExitRecords[recordIndex]? = some record
  waitable : record.waitableForParent parentTaskId childTaskId = true
  getTaskIndex : s.getTaskIndex record.childTaskId = some taskIndex
  task_eq : s.tasks[taskIndex]? = some task
  status : task.metadata.exitStatus = some ⟨record.exitCode, false⟩
  exit_eq : exit = ⟨record.childTaskId, record.exitCode⟩
  result : s' = s.collected recordIndex taskIndex

lemma collectWaitableExit_eq_some {metadata : TaskMetadata}
  (h : metadata.collectWaitableExit = some (exitCode, metadata')) :
  metadata.exitStatus = some ⟨exitCode, false⟩ ∧
    metadata' = { metadata with exitStatus := some ⟨exitCode, true⟩ } := by
  rw [TaskMetadata.collectWaitableExit] at h
  cases hstat : metadata.exitStatus with
  | none =>
    rw [hstat] at h
    cases h
  | some status =>
    obtain ⟨_, flag⟩ := status
    simp only [hstat] at h
    cases flag with
    | false =>
      cases h
      exact ⟨rfl, rfl⟩
    | true => cases h

lemma collectWaitableChildExit_ok
    (h : s.collectWaitableChildExit parentTaskId childTaskId = .ok (exit, s')) :
    (exit = none ∧ s' = s) ∨
    ∃ found recordIndex record taskIndex task,
      exit = some found ∧
      Collection s parentTaskId childTaskId found s' recordIndex record taskIndex task := by
  rw [collectWaitableChildExit] at h
  split at h
  · cases h
    exact .inl ⟨rfl, rfl⟩
  next recordIndex hfind =>
  simp only [bind_eq_ok, expect_eq_ok, taskAt_eq_ok, require_eq_ok, Prod.exists] at h
  obtain ⟨record, hrec, taskIndex, hidx, task, htask, code, metadata, hcoll, -, hcode, h⟩ := h
  have hcode : code = record.exitCode := by simpa using hcode
  subst hcode
  obtain ⟨hstat, rfl⟩ := collectWaitableExit_eq_some hcoll
  have hwtbl : record.waitableForParent parentTaskId childTaskId = true := by
    obtain ⟨hlt, hpass, -⟩ := List.findIdx?_eq_some_iff_getElem.1 hfind
    rw [List.getElem?_eq_getElem hlt] at hrec
    cases hrec
    exact hpass
  cases h
  refine .inr ⟨_, recordIndex, record, taskIndex, task, rfl, hrec, hwtbl, hidx, htask,
    hstat, rfl, ?_⟩
  -- the stored metadata is the one of the record that was read
  have hmodify : s.modifyTask taskIndex (fun task' => { task' with
    metadata := { task.metadata with exitStatus := some ⟨record.exitCode, true⟩ } }) =
    s.modifyTask taskIndex reaped := by
    refine modifyTask_congr fun u hu => ?_
    rw [htask] at hu
    cases hu
    rw [reaped, hstat]
    rfl
  rw [hmodify]
  rfl

/-- A blocked parent gets the exit as its completion and becomes ready. -/
def completeWait (s : Scheduler) (parentIndex : ℕ) (runtime : UserTaskRuntime)
  (request : UserWaitpidRequest) (exit : UserTaskExit) : Scheduler :=
  (s.setRuntime parentIndex
    { runtime with
      waitpidRequest := none
      waitpidCompletion := some ⟨exit.taskId, request.statusBuffer, exit.waitStatus⟩
      savedFrame := { runtime.savedFrame with rax := exit.taskId } }).setState parentIndex .ready

/-- A parent that waits for an exiting child. -/
structure WaitingParent (s : Scheduler) (parentTaskId childTaskId parentIndex : ℕ)
    (parent : Task) (runtime : UserTaskRuntime) (request : UserWaitpidRequest) : Prop where
  getTaskIndex : s.getTaskIndex parentTaskId = some parentIndex
  parent_eq : s.tasks[parentIndex]? = some parent
  kind : parent.kind = .user runtime
  request_eq : runtime.waitpidRequest = some request
  matchesChild : request.matchesChild childTaskId = true

lemma wakeWaitingParentForChildExit_ok
    (h : s.wakeWaitingParentForChildExit parentTaskId childTaskId = .ok s') :
    (s' = s ∧
     ∀ parentIndex parent runtime request,
       ¬ WaitingParent s parentTaskId childTaskId parentIndex parent runtime request) ∨
    ∃ parentIndex parent runtime request exit s₁,
      WaitingParent s parentTaskId childTaskId parentIndex parent runtime request ∧
      s.collectWaitableChildExit parentTaskId request.childTaskId = .ok (some exit, s₁) ∧
      parent.state = .blocked ∧
      s' = s₁.completeWait parentIndex runtime request exit := by
  rw [wakeWaitingParentForChildExit] at h
  split at h
  · next hi =>
    cases h
    refine .inl ⟨rfl, fun index parent runtime request hw => ?_⟩
    have hidx := hw.getTaskIndex
    rw [hi] at hidx
    cases hidx
  next index hi =>
  simp only [bind_eq_ok, taskAt_eq_ok] at h
  obtain ⟨parent, hpar, h⟩ := h
  -- a waiting parent is the record found here
  have hfound : ∀ index' parent' runtime' request', WaitingParent s
    parentTaskId childTaskId index' parent' runtime' request' → parent'.kind = parent.kind := by
    intro index' parent' runtime' request' hw
    have hidx := hw.getTaskIndex
    rw [hi] at hidx
    cases hidx
    have hsame := hw.parent_eq
    rw [hpar] at hsame
    cases hsame
    rfl
  split at h
  · next hk =>
    cases h
    refine .inl ⟨rfl, fun index' parent' runtime' request' hw => ?_⟩
    have hkind := hw.kind
    rw [hfound _ _ _ _ hw, hk] at hkind
    cases hkind
  next runtime hk =>
  split at h
  · next hreq =>
    cases h
    refine .inl ⟨rfl, fun index' parent' runtime' request' hw => ?_⟩
    have hkind := hw.kind
    rw [hfound _ _ _ _ hw, hk] at hkind
    cases hkind
    have hrequest := hw.request_eq
    rw [hreq] at hrequest
    cases hrequest
  next request hreq =>
  split at h
  · next hmatch =>
    cases h
    refine .inl ⟨rfl, fun index' parent' runtime' request' hw => ?_⟩
    have hkind := hw.kind
    rw [hfound _ _ _ _ hw, hk] at hkind
    cases hkind
    have hrequest := hw.request_eq
    rw [hreq] at hrequest
    cases hrequest
    rw [hw.matchesChild] at hmatch
    cases hmatch
  next hmatch =>
  have hmatch : request.matchesChild childTaskId = true := by simpa using hmatch
  simp only [bind_eq_ok, Prod.exists, expect_eq_ok, taskAt_eq_ok] at h
  obtain ⟨_, s₁, hcoll, exit, rfl, parent', hpar', h⟩ := h
  -- the collection changes the metadata of a task only
  have hsame : parent'.kind = parent.kind ∧ parent'.state = parent.state := by
    rcases collectWaitableChildExit_ok hcoll with ⟨hnone, -⟩ |
      ⟨_, _, _, _, _, -, hcollection⟩
    · cases hnone
    · rw [hcollection.result, collected, getElem?_modifyTask, hpar] at hpar'
      cases hpar'
      split <;> exact ⟨rfl, rfl⟩
  rw [hsame.1, hk] at h
  simp only [bind_eq_ok, Prod.exists, require_eq_ok] at h
  obtain ⟨_, _, hwake, -, rfl, h⟩ := h
  obtain ⟨parent'', hparent'', hblk, rfl⟩ := transitionAt_true hwake
  cases h
  have hsta : parent''.state = parent'.state := by
    rw [setRuntime, getElem?_modifyTask_self hpar'] at hparent''
    cases hparent''
    rfl
  exact .inr ⟨index, parent, runtime, request, exit, s₁, ⟨hi, hpar, hk, hreq,
    hmatch⟩, hcoll, by rw [← hsame.2, ← hsta, hblk], rfl⟩

end Scheduler
end ManaOS
