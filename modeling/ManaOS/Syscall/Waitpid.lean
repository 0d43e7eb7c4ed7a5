/-
`waitpid` and the children of the caller.

A child matches a wait when its recorded parent is the caller and its identifier passes the
selector.  It is pending while it runs or its exit status has not been collected.

* `waitpid_no_child_iff` (**no child**): when a caller without a pending child gets `ECHILD`.
-/
import ManaOS.Boot
import ManaOS.Syscall.Process
import ManaOS.Task.Calls

namespace ManaOS
open Checked

/-! ### Children of the current task -/

namespace Scheduler

/-- A user task whose parent is the caller and that passes the selector. -/
def IsMatchingChild (callerId : ℕ) (childTaskId : Option ℕ) (task : Task) : Prop :=
  task.kind.isUser = true ∧ task.metadata.parentIdentifier = some callerId ∧
    ∀ wanted ∈ childTaskId, task.getId = wanted

instance (callerId : ℕ) (childTaskId : Option ℕ) (task : Task) : Decidable
  (IsMatchingChild callerId childTaskId task) := inferInstanceAs (Decidable (_ ∧ _ ∧ _))

/-- A task that still runs, or has exited and was not collected. -/
def IsPending (task : Task) : Prop :=
  task.state ≠ .finished ∨ task.metadata.exitStatus.any (!·.waitCollected) = true

instance (task : Task) : Decidable (IsPending task) := inferInstanceAs (Decidable (_ ∨ _))

/-- The caller has a matching child record, collected or not. -/
def HasChildRecord (s : Scheduler) (callerId : ℕ) (childTaskId : Option ℕ) : Prop :=
  ∃ task ∈ s.tasks, IsMatchingChild callerId childTaskId task

instance (s : Scheduler) (callerId : ℕ) (childTaskId : Option ℕ) : Decidable
  (s.HasChildRecord callerId childTaskId) := inferInstanceAs (Decidable (∃ task ∈ s.tasks, _))

/-- The caller has a matching child that still runs or was not collected. -/
def HasPendingChild (s : Scheduler) (callerId : ℕ) (childTaskId : Option ℕ) : Prop :=
  ∃ task ∈ s.tasks, IsMatchingChild callerId childTaskId task ∧ IsPending task

instance (s : Scheduler) (callerId : ℕ) (childTaskId : Option ℕ) : Decidable
  (s.HasPendingChild callerId childTaskId) := inferInstanceAs (Decidable (∃ task ∈ s.tasks, _))

variable {s : Scheduler}
variable {childTaskId : Option ℕ}

lemma option_all_beq :
  childTaskId.all (taskId == ·) = true ↔ ∀ wanted ∈ childTaskId, taskId = wanted := by
  cases childTaskId <;> simp

lemma currentUserTaskHasChild_eq (hcur : s.tasks[s.currentIndex]? = some current)
    (huser : current.kind.isUser = true) :
    s.currentUserTaskHasChild childTaskId =
      .ok (some (decide (s.HasChildRecord current.getId childTaskId))) := by
  rw [currentUserTaskHasChild, currentTask_eq_ok.2 hcur, ok_bind, huser]
  simp only [Bool.not_true, Bool.false_eq_true, if_false, pure_eq]
  refine congrArg (fun b => Except.ok (some b)) (Bool.eq_iff_iff.2 ?_)
  rw [List.any_eq_true, decide_eq_true_eq, HasChildRecord]
  refine exists_congr fun task => and_congr_right fun _ => ?_
  simp only [Bool.and_eq_true, beq_iff_eq, option_all_beq, IsMatchingChild]
  tauto

lemma pending_of_waitable (h : s.table.Sound) (hrec : record ∈ s.childExitRecords)
  (hwtbl : record.waitableForParent callerId childTaskId = true) :
  s.HasPendingChild callerId childTaskId := by
  simp only [ChildExitRecord.waitableForParent, Bool.and_eq_true, beq_iff_eq, Bool.not_eq_true',
    option_all_beq] at hwtbl
  obtain ⟨⟨hpar, hfresh⟩, hmatch⟩ := hwtbl
  obtain ⟨_, hproc, huser, hstat, hprocessParent⟩ := h.record record hrec
  rw [getElem?_table] at hproc
  obtain ⟨task, htask, rfl⟩ := Option.map_eq_some_iff.1 hproc
  have hid : task.getId = record.childTaskId := h.identifier _ _ (getElem?_table_of htask)
  refine ⟨task, List.mem_of_getElem? htask, ⟨huser, ?_, ?_⟩, .inr ?_⟩
  · rw [← hpar]
    exact hprocessParent hfresh
  · intro wanted hwanted
    rw [hid]
    exact hmatch wanted hwanted
  · have hstat : task.metadata.exitStatus = some ⟨record.exitCode, record.collected⟩ := hstat
    rw [hstat, hfresh]
    rfl

lemma collectWaitableChildExit_eq_none (h : s.table.Sound)
  (hnone : ¬ s.HasPendingChild callerId childTaskId) :
  s.collectWaitableChildExit callerId childTaskId = .ok (none, s) := by
  have hfind : s.childExitRecords.findIdx? (·.waitableForParent callerId childTaskId) = none := by
    rw [List.findIdx?_eq_none_iff]
    intro record hrec
    cases hwtbl : record.waitableForParent callerId childTaskId with
    | false => rfl
    | true => exact absurd (pending_of_waitable h hrec hwtbl) hnone
  rw [collectWaitableChildExit, hfind]
  rfl

end Scheduler

/-! ### The call -/

namespace Kernel
variable {mapper : PageMapper} {kernel : Kernel} {processIdentifier statusPointer options : ℕ}
  {selector : WaitProcessSelector} {current : Task}

/-- A `waitpid` call with valid options and selector, made by a user task. -/
structure ValidWait (kernel : Kernel) (processIdentifier options : ℕ)
    (selector : WaitProcessSelector) (current : Task) : Prop where
  valid_options : options = 0 ∨ options = wnohang
  valid_selector : WaitProcessSelector.fromSyscallArgument processIdentifier = some selector
  current_eq : kernel.scheduler.tasks[kernel.scheduler.currentIndex]? = some current
  isUser : current.kind.isUser = true

lemma ValidWait.sysWaitpid_eq (h : ValidWait kernel processIdentifier options selector current) :
  kernel.sysWaitpid mapper processIdentifier statusPointer options =
    if kernel.scheduler.HasChildRecord current.getId selector.childTaskId then
      if statusPointer = 0 then
        kernel.waitForChild mapper current.getId selector none (options == wnohang)
      else
        match outputBufferRange statusPointer userWaitStatusBytes with
          | none => .ok (errorBadAddress, kernel)
          | some statusBuffer =>
            kernel.waitForChild mapper current.getId selector (some statusBuffer)
              (options == wnohang)
      else .ok (errorNoChild, kernel) := by
  have hoptions : ¬ (options ≠ 0 ∧ options ≠ wnohang) := by
    rcases h.valid_options with rfl | rfl <;> simp
  have hid : kernel.scheduler.getCurrentTaskId = .ok current.getId := by
    rw [Scheduler.getCurrentTaskId, Scheduler.currentTask_eq_ok.2 h.current_eq]
    rfl
  rw [sysWaitpid, if_neg hoptions, h.valid_selector]
  simp only [hid, ok_bind]
  rw [Scheduler.currentUserTaskHasChild_eq h.current_eq h.isUser, ok_bind]
  by_cases hch : kernel.scheduler.HasChildRecord current.getId selector.childTaskId
  · simp only [hch, decide_true, if_true]
    rfl
  · simp only [hch, decide_false, if_false]
    rfl

lemma waitForChild_ne_noChild
    (hcoll : kernel.scheduler.collectWaitableChildExit parentTaskId selector.childTaskId =
        .ok (none, kernel.scheduler)) :
    kernel.waitForChild mapper parentTaskId selector buffer noHang ≠
      .ok (errorNoChild, kernel') := by
  intro h
  rw [waitForChild, hcoll, ok_bind] at h
  cases noHang with
  | true => cases h
  | false =>
    simp only [Bool.false_eq_true, if_false, bind_eq_ok, Prod.exists] at h
    obtain ⟨prepared, _, -, h⟩ := h
    cases prepared <;> cases h

/-- **When a caller without a pending child gets `ECHILD`.**  In every reachable state, a
valid `waitpid` returns `ECHILD` whenever the caller has no matching child that runs or was
not collected, exactly if there is such a child or no matching child record at all: a record
that was collected before defeats the check. -/
theorem waitpid_no_child_iff (hreach : kernel.scheduler.Reachable mapper)
    (h : ValidWait kernel processIdentifier options selector current) :
    (¬ kernel.scheduler.HasPendingChild current.getId selector.childTaskId →
     kernel.sysWaitpid mapper processIdentifier statusPointer options =
       .ok (errorNoChild, kernel)) ↔
      (kernel.scheduler.HasPendingChild current.getId selector.childTaskId ∨
       ¬ kernel.scheduler.HasChildRecord current.getId selector.childTaskId) := by
  constructor
  · intro hechild
    by_contra hnot
    rw [not_or, not_not] at hnot
    obtain ⟨hnone, hrecord⟩ := hnot
    have hcollect := Scheduler.collectWaitableChildExit_eq_none hreach.sound hnone
    have heq := hechild hnone
    rw [h.sysWaitpid_eq, if_pos hrecord] at heq
    split at heq
    · exact waitForChild_ne_noChild hcollect heq
    · split at heq
      · cases heq
      · exact waitForChild_ne_noChild hcollect heq
  · rintro (hpending | hrecord) hnone
    · exact absurd hpending hnone
    · rw [h.sysWaitpid_eq, if_neg hrecord]

/-- A parent spawns a child and stops with a request; then the child is entered. -/
def childRun (request : Scheduler → Panicking (Option ℕ × Scheduler)) :
  Panicking (Scheduler × Memory) := do
  let spawnTask (s : Scheduler) (memory : Memory) :=
    s.spawnUserTask walkMapper memory bootKernel.selectors bootRequest
  let (parent, s, memory) ← spawnTask .new bootMemory
  let (_, s) ← s.activateUserTask parent
  let (_, s) ← s.prepareOneShotUserTask parent
  let (child, s, memory) ← spawnTask s memory
  let (_, s) ← s.activateUserTask child
  let (_, s) ← request s
  let (_, s) ← s.blockCurrentUserAfterSyscall
  let (_, s) ← s.prepareOneShotUserTask child
  return (s, memory)

lemma childRun_reachable {request : Scheduler → Panicking (Option ℕ × Scheduler)}
  (hreq : ∀ s taskId s', request s = .ok (taskId, s') → Scheduler.Call walkMapper s s')
  {s : Scheduler} {memory : Memory} (h : childRun request = .ok (s, memory)) :
  s.Reachable walkMapper := by
  simp only [childRun, bind_eq_ok, Prod.exists, pure_eq_ok, Prod.mk.injEq] at h
  obtain ⟨_, _, _, h1, _, _, h2, _, s3, h3, _, _, _, h4, _, _, h5, _, _, h6, _, _, h7, _, _,
    h8, rfl, -⟩ := h
  have hpar : Scheduler.Calls walkMapper .new s3 :=
    ((Relation.ReflTransGen.single (.spawnUserTask h1)).tail (.activateUserTask h2)).tail
      (.prepareOneShotUserTask h3)
  exact ((((hpar.tail (.spawnUserTask h4)).tail (.activateUserTask h5)).tail
    (hreq _ _ _ h6)).tail (.blockCurrentUserAfterSyscall h7)).tail (.prepareOneShotUserTask h8)

/-- The parent waits and the child exits; the parent gets the status when entered again. -/
def reapedRun : Panicking Kernel := do
  let (s, memory) ← childRun (·.prepareCurrentUserWaitpid none none)
  let (_, s) ← s.finishCurrentTask 0
  let (_, s) ← s.prepareOneShotUserTask 1
  let (_, s, memory) ← s.completePendingUserWaitpidStatus walkMapper memory 1
  return { bootKernel with scheduler := s, memory }

lemma reapedRun_reachable {kernel : Kernel} (h : reapedRun = .ok kernel) :
  kernel.scheduler.Reachable walkMapper := by
  simp only [reapedRun, bind_eq_ok, Prod.exists, pure_eq_ok] at h
  obtain ⟨_, _, h1, _, _, h2, _, _, h3, _, _, _, h4, rfl⟩ := h
  have hch := childRun_reachable (fun _ _ _ h => .prepareCurrentUserWaitpid h) h1
  exact ((hch.tail (.finishCurrentTask h2)).tail (.prepareOneShotUserTask h3)).tail
    (.completePendingUserWaitpidStatus h4)

lemma reapedRun_ok : ∃ kernel current,
  reapedRun = .ok kernel ∧ kernel.scheduler.tasks[kernel.scheduler.currentIndex]? = some current ∧
  current.kind.isUser = true ∧ current.getId = 1 ∧ ¬ kernel.scheduler.HasPendingChild 1 none ∧
  ¬ kernel.scheduler.HasChildRecord 1 (some 5) := by
  have hrun : reapedRun.map
    (fun kernel => ((kernel.scheduler.tasks[kernel.scheduler.currentIndex]?).any fun current
    => current.kind.isUser && current.getId == 1) && decide (¬ kernel.scheduler.HasPendingChild
    1 none ∧ ¬ kernel.scheduler.HasChildRecord 1 (some 5))) = .ok true := by
    decide +kernel
  obtain ⟨kernel, hker, hfacts⟩ := map_eq_ok.1 hrun
  rw [Bool.and_eq_true, decide_eq_true_eq, Option.any_eq_true] at hfacts
  obtain ⟨⟨current, hcur, hfact⟩, hch⟩ := hfacts
  rw [Bool.and_eq_true, beq_iff_eq] at hfact
  exact ⟨kernel, current, hker, hcur, hfact.1, hfact.2, hch⟩

/-- After the child was collected, `waitpid(-1, NULL, WNOHANG)` returns zero and
`waitpid(-1, NULL, 0)` blocks. -/
theorem waitpid_after_collection : ∃ (kernel : Kernel) (current : Task),
  kernel.scheduler.Reachable walkMapper ∧ ValidWait kernel wordMax wnohang .anyChild current ∧
  ¬ kernel.scheduler.HasPendingChild current.getId none ∧
  (kernel.sysWaitpid walkMapper wordMax 0 wnohang).map Prod.fst = .ok 0 ∧
  (kernel.sysWaitpid walkMapper wordMax 0 0).map Prod.fst = .ok userBlockSentinel := by
  have hcalls : (reapedRun >>= fun kernel => kernel.sysWaitpid walkMapper wordMax 0 wnohang >>=
    fun immediate => (kernel.sysWaitpid walkMapper wordMax 0 0).map fun blocking =>
      (immediate.1, blocking.1)) = .ok (0, userBlockSentinel) := by
    decide +kernel
  obtain ⟨kernel, current, hrun, hcurrent, huser, hid, hpending, -⟩ := reapedRun_ok
  refine ⟨kernel, current, reapedRun_reachable hrun, ⟨.inr rfl, by decide, hcurrent, huser⟩, ?_, ?_⟩
  · rw [hid]
    exact hpending
  rw [hrun, ok_bind] at hcalls
  obtain ⟨⟨_, _⟩, h1, hcalls⟩ := bind_eq_ok.1 hcalls
  obtain ⟨⟨_, _⟩, h2, hcalls⟩ := map_eq_ok.1 hcalls
  cases hcalls
  rw [h1, h2]
  exact ⟨rfl, rfl⟩

/-- In the same state a wait for a task that is no child returns `ECHILD`. -/
theorem waitpid_no_child_iff_stranger : ∃ (kernel : Kernel) (current : Task),
  kernel.scheduler.Reachable walkMapper ∧ ValidWait kernel 5 0 (.childIdentifier 5) current ∧
  kernel.sysWaitpid walkMapper 5 0 0 = .ok (errorNoChild, kernel) := by
  obtain ⟨kernel, current, hrun, hcurrent, huser, hid, -, hstranger⟩ := reapedRun_ok
  have hreach := reapedRun_reachable hrun
  have hvalid : ValidWait kernel 5 0 (.childIdentifier 5) current :=
    ⟨.inl rfl, by decide, hcurrent, huser⟩
  have hrecord : ¬ kernel.scheduler.HasChildRecord current.getId
    (WaitProcessSelector.childIdentifier 5).childTaskId := by
    rw [hid]
    exact hstranger
  refine ⟨kernel, current, hreach, hvalid, (waitpid_no_child_iff hreach hvalid).2 (.inr hrecord) ?_⟩
  rintro ⟨task, htask, hmatch, -⟩
  exact hrecord ⟨task, htask, hmatch⟩

end Kernel
end ManaOS
