/-
The status word of `waitpid`.

Whether the word is mapped is found out when the status is stored, after the exit record has been
collected.

* `sysWaitpid_blocks`, `wake_holdsStatus`: the word of a blocking call is kept in its request, and
  by the wake in the completion;
* `waitpid_bad_status_iff` (**bad status words**): when a word that is not writable gives `EFAULT`.
-/
import ManaOS.Syscall.Waitpid

namespace ManaOS
open Checked
variable {mapper : PageMapper}

namespace Scheduler
variable {s : Scheduler}

lemma getTaskIndex_collect
    (h : s.collectWaitableChildExit parentTaskId childTaskId = .ok (exit, s')) (taskId : ℕ) :
    s'.getTaskIndex taskId = s.getTaskIndex taskId := by
  rcases collectWaitableChildExit_ok h with ⟨-, rfl⟩ | ⟨_, _, _, _, _, -, hcoll⟩
  · rfl
  · rw [hcoll.result]
    exact getTaskIndex_modifyTask fun _ _ => rfl

lemma completeWait_pending
    (hwait : WaitingParent s parentTaskId childTaskId index parent runtime request)
    (hcoll : s.collectWaitableChildExit parentTaskId request.childTaskId = .ok (some exit, s1)) :
    (s1.completeWait index runtime request exit).getTaskIndex parentTaskId = some index ∧
    ∃ task runtime',
      (s1.completeWait index runtime request exit).tasks[index]? = some task ∧
      task.kind = .user runtime' ∧
      runtime'.waitpidCompletion = some ⟨exit.taskId, request.statusBuffer, exit.waitStatus⟩ := by
  obtain ⟨_, hpar⟩ := collectWaitableChildExit_task hcoll hwait.parent_eq
  constructor
  · rw [completeWait, getTaskIndex_setState, getTaskIndex_setRuntime, getTaskIndex_collect hcoll]
    exact hwait.getTaskIndex
  · exact ⟨_, _, getElem?_modifyTask_self (getElem?_modifyTask_self hpar), rfl, rfl⟩

/-- The task has been woken with a status for the word, and has not been entered since. -/
def HoldsStatus (s : Scheduler) (taskId index : ℕ) (buffer : UserWritableRange) : Prop :=
  ∃ task runtime completion,
    s.getTaskIndex taskId = some index ∧
    s.tasks[index]? = some task ∧
    task.kind = .user runtime ∧
    runtime.waitpidCompletion = some completion ∧
    completion.statusBuffer = some buffer

/-- The entry goes on with `EFAULT` in `rax`, and takes no exit record. -/
def EntersWithFault (mapper : PageMapper) (s : Scheduler) (memory : Memory) (taskId index : ℕ) :
    Prop :=
  ∃ completion s' memory' task runtime,
    s.completePendingUserWaitpidStatus mapper memory taskId = .ok (completion, s', memory') ∧
    s'.tasks[index]? = some task ∧
    task.kind = .user runtime ∧
    runtime.savedFrame.rax = errorBadAddress ∧
    s'.childExitRecords = s.childExitRecords

lemma HoldsStatus.unwritable (h : s.HoldsStatus taskId index buffer)
    (hbad : isUserRangeMappedWritable mapper memory buffer = false) :
    s.completePendingUserWaitpidStatus mapper memory taskId =
      .error "validated blocked waitpid status pointer must remain writable" := by
  obtain ⟨_, _, _, hidx, htask, hkind, hcomp, hbuf⟩ := h
  have hcopy : copyToUser mapper memory buffer = none := by
    rw [copyToUser, hbad]
    rfl
  rw [completePendingUserWaitpidStatus, hidx]
  simp only [taskAt_eq_ok.2 htask, ok_bind, hkind, hcomp, hbuf, writeUserWaitStatus, hcopy]
  rfl

/-- The wake keeps the word of the request. -/
lemma wake_holdsStatus
    (hwait : s.WaitingParent parentTaskId childTaskId index parent runtime request)
    (hbuf : request.statusBuffer = some buffer)
    (hwake : s.wakeWaitingParentForChildExit parentTaskId childTaskId = .ok s') :
    s'.HoldsStatus parentTaskId index buffer := by
  rcases wakeWaitingParentForChildExit_ok hwake with ⟨-, hnone⟩ |
    ⟨_, _, _, request', _, _, hwait', hcoll, -, rfl⟩
  · exact absurd hwait (hnone index parent runtime request)
  cases hwait'.getTaskIndex.symm.trans hwait.getTaskIndex
  cases hwait'.parent_eq.symm.trans hwait.parent_eq
  cases hwait'.kind.symm.trans hwait.kind
  cases hwait'.request_eq.symm.trans hwait.request_eq
  obtain ⟨hidx, _, _, htask, hkind, hcomp⟩ := completeWait_pending hwait' hcoll
  exact ⟨_, _, _, hidx, htask, hkind, hcomp, hbuf⟩

end Scheduler

/-! ### The immediate store -/

namespace Kernel
variable {kernel : Kernel} {processIdentifier statusPointer options : ℕ}
  {selector : WaitProcessSelector} {current : Task}

/-- The four bytes at the pointer are a user range that is mapped writable. -/
def StatusWritable (mapper : PageMapper) (memory : Memory) (statusPointer : ℕ) : Prop :=
  ∃ range, outputBufferRange statusPointer userWaitStatusBytes = some range ∧
    isUserRangeMappedWritable mapper memory range = true

instance (mapper : PageMapper) (memory : Memory)
  (statusPointer : ℕ) : Decidable (StatusWritable mapper memory statusPointer) := decidable_of_iff
    ((outputBufferRange statusPointer userWaitStatusBytes).any
      (isUserRangeMappedWritable mapper memory) = true)
    (by rw [StatusWritable, Option.any_eq_true])

lemma sysWaitpid_unwritable (h : ValidWait kernel processIdentifier options selector current)
  (hch : kernel.scheduler.HasChildRecord current.getId selector.childTaskId)
  {exit : UserTaskExit} {scheduler : Scheduler}
  (hcoll : kernel.scheduler.collectWaitableChildExit current.getId selector.childTaskId =
    .ok (some exit, scheduler))
  (hptr : statusPointer ≠ 0) {range : UserWritableRange}
  (hrg : outputBufferRange statusPointer userWaitStatusBytes = some range)
  (hbad : isUserRangeMappedWritable mapper kernel.memory range = false) :
  kernel.sysWaitpid mapper processIdentifier statusPointer options =
    .error "validated waitpid status pointer must remain writable" := by
  have hcopy : copyToUser mapper kernel.memory range = none := by
    rw [copyToUser, hbad]
    rfl
  rw [h.sysWaitpid_eq, if_pos hch, if_neg hptr, hrg]
  simp only [waitForChild, hcoll, ok_bind, storeWaitStatus, userBuffer, hcopy]
  rfl

lemma sysWaitpid_bad_range (h : ValidWait kernel processIdentifier options selector current)
  (hch : kernel.scheduler.HasChildRecord current.getId selector.childTaskId)
  (hptr : statusPointer ≠ 0)
  (hrg : outputBufferRange statusPointer userWaitStatusBytes = none) :
  kernel.sysWaitpid mapper processIdentifier statusPointer options =
    .ok (errorBadAddress, kernel) := by
  rw [h.sysWaitpid_eq, if_pos hch, if_neg hptr, hrg]

/-- A call that blocks keeps the word in the request of the caller. -/
lemma sysWaitpid_blocks (h : ValidWait kernel processIdentifier options selector current)
    (hch : kernel.scheduler.HasChildRecord current.getId selector.childTaskId)
    {scheduler : Scheduler}
    (hcoll : kernel.scheduler.collectWaitableChildExit current.getId selector.childTaskId =
      .ok (none, scheduler))
    (hptr : statusPointer ≠ 0)
    (hrg : outputBufferRange statusPointer userWaitStatusBytes = some range)
    (hok : kernel.sysWaitpid mapper processIdentifier statusPointer options =
      .ok (userBlockSentinel, kernel')) :
    ∃ task runtime,
      kernel'.scheduler.tasks[kernel.scheduler.currentIndex]? = some task ∧
      task.kind = .user runtime ∧
      runtime.waitpidRequest = some ⟨selector.childTaskId, some range⟩ := by
  have hsame : scheduler = kernel.scheduler := by
    rcases Scheduler.collectWaitableChildExit_ok hcoll with ⟨-, hsame⟩ | ⟨_, _, _, _, _, hsome, -⟩
    · exact hsame
    · cases hsome
  subst hsame
  rw [h.sysWaitpid_eq, if_pos hch, if_neg hptr, hrg] at hok
  simp only [waitForChild, hcoll, ok_bind] at hok
  split at hok
  · cases hok
  simp only [bind_eq_ok, Prod.exists] at hok
  obtain ⟨_, _, hprep, hok⟩ := hok
  rcases Scheduler.prepareCurrentUserWaitpid_ok hprep with ⟨rfl, -⟩ |
    ⟨_, _, hcur, -, -, -, -, rfl, rfl⟩
  · cases hok
  · cases hok
    exact ⟨_, _, Scheduler.getElem?_modifyTask_self hcur.current_eq, rfl, rfl⟩

/-- What cannot be had for an unwritable word follows from its unwritability only where the word is
writable. -/
lemma unwritable_imp_iff {writable : Bool} {p : Prop} (hbad : writable = false → ¬ p) :
    (writable = false → p) ↔ writable = true := by
  cases writable with
  | false => exact iff_of_false (fun h => hbad rfl (h rfl)) Bool.noConfusion
  | true => exact iff_of_true (fun h => Bool.noConfusion h) rfl

/-- **When a status word that is not writable gives `EFAULT`.**

For a child that has exited: the call returns `EFAULT` with nothing collected whenever the
word is not writable, exactly if the pointer is no user range or the word is writable.

For a blocking wait: a pointer that is no user range is refused by the call.  Otherwise the call
keeps the word in its request, and the exit of the matching child in the completion.  When the
parent is entered, in that or any later state and with any memory, the entry goes on with `EFAULT`
in `rax` and the exit records as they were whenever the word is not writable, exactly if the word
is writable. -/
theorem waitpid_bad_status_iff (mapper : PageMapper) :
    (∀ (kernel : Kernel) (processIdentifier statusPointer options : ℕ)
       (selector : WaitProcessSelector) (current : Task) (exit : UserTaskExit)
       (scheduler : Scheduler),
      ValidWait kernel processIdentifier options selector current →
      kernel.scheduler.HasChildRecord current.getId selector.childTaskId →
      statusPointer ≠ 0 →
      kernel.scheduler.collectWaitableChildExit current.getId selector.childTaskId =
        .ok (some exit, scheduler) →
      ((¬ StatusWritable mapper kernel.memory statusPointer →
        kernel.sysWaitpid mapper processIdentifier statusPointer options =
          .ok (errorBadAddress, kernel)) ↔
         (outputBufferRange statusPointer userWaitStatusBytes = none ∨
          StatusWritable mapper kernel.memory statusPointer))) ∧
    (∀ (kernel : Kernel) (processIdentifier statusPointer : ℕ) (selector : WaitProcessSelector)
       (current : Task),
      ValidWait kernel processIdentifier 0 selector current →
      kernel.scheduler.HasChildRecord current.getId selector.childTaskId →
      statusPointer ≠ 0 →
      outputBufferRange statusPointer userWaitStatusBytes = none →
      kernel.sysWaitpid mapper processIdentifier statusPointer 0 = .ok (errorBadAddress, kernel)) ∧
    (∀ (kernel kernel' : Kernel) (processIdentifier statusPointer : ℕ)
       (selector : WaitProcessSelector) (current : Task) (scheduler : Scheduler)
       (buffer : UserWritableRange),
      ValidWait kernel processIdentifier 0 selector current →
      kernel.scheduler.HasChildRecord current.getId selector.childTaskId →
      statusPointer ≠ 0 →
      outputBufferRange statusPointer userWaitStatusBytes = some buffer →
      kernel.scheduler.collectWaitableChildExit current.getId selector.childTaskId =
        .ok (none, scheduler) →
      kernel.sysWaitpid mapper processIdentifier statusPointer 0 =
        .ok (userBlockSentinel, kernel') →
      ∃ task runtime,
        kernel'.scheduler.tasks[kernel.scheduler.currentIndex]? = some task ∧
        task.kind = .user runtime ∧
        runtime.waitpidRequest = some ⟨selector.childTaskId, some buffer⟩) ∧
    (∀ (s : Scheduler) (memory : Memory) (taskId index : ℕ) (buffer : UserWritableRange),
      s.HoldsStatus taskId index buffer →
      ((isUserRangeMappedWritable mapper memory buffer = false →
        s.EntersWithFault mapper memory taskId index) ↔
         isUserRangeMappedWritable mapper memory buffer = true)) ∧
    ∀ (s s₁ : Scheduler) (memory : Memory) (parentTaskId childTaskId index : ℕ) (parent : Task)
      (runtime : UserTaskRuntime) (request : UserWaitpidRequest) (buffer : UserWritableRange),
      s.WaitingParent parentTaskId childTaskId index parent runtime request →
      request.statusBuffer = some buffer →
      s.wakeWaitingParentForChildExit parentTaskId childTaskId = .ok s₁ →
      s₁.HoldsStatus parentTaskId index buffer ∧
      ((isUserRangeMappedWritable mapper memory buffer = false →
        ∃ completion s₂ memory₂ task runtime₂,
          s₁.completePendingUserWaitpidStatus mapper memory parentTaskId =
            .ok (completion, s₂, memory₂) ∧
          s₂.tasks[index]? = some task ∧
          task.kind = .user runtime₂ ∧
          runtime₂.savedFrame.rax = errorBadAddress ∧
          s₂.childExitRecords = s.childExitRecords) ↔
         isUserRangeMappedWritable mapper memory buffer = true) := by
  refine ⟨?_, ?_, ?_, ?_, ?_⟩
  · intro kernel pid ptr _ selector current _ _ hvalid hchild hptr hcollect
    constructor
    · intro hfault
      by_contra hnot
      rw [not_or] at hnot
      obtain ⟨hrange, hbad⟩ := hnot
      obtain ⟨range, hsome⟩ := Option.ne_none_iff_exists'.1 hrange
      have hunmapped : isUserRangeMappedWritable mapper kernel.memory range = false := by
        rw [Bool.eq_false_iff]
        exact fun hmapped => hbad ⟨range, hsome, hmapped⟩
      have heq := hfault hbad
      rw [sysWaitpid_unwritable hvalid hchild hcollect hptr hsome hunmapped] at heq
      cases heq
    · rintro (hrange | hwritable) hbad
      · exact sysWaitpid_bad_range hvalid hchild hptr hrange
      · exact absurd hwritable hbad
  · intro _ _ _ _ _ hvalid hchild hptr hrange
    exact sysWaitpid_bad_range hvalid hchild hptr hrange
  · intro _ _ _ _ _ _ _ _ hvalid hchild hptr hrange hcollect
    exact sysWaitpid_blocks hvalid hchild hcollect hptr hrange
  · intro _ _ _ _ _ hheld
    refine unwritable_imp_iff fun hbad => ?_
    rintro ⟨_, _, _, _, _, hstore, -⟩
    cases (hheld.unwritable hbad).symm.trans hstore
  intro _ _ _ _ _ _ _ _ _ _ hwaiting hbuffer hwake
  have hheld := Scheduler.wake_holdsStatus hwaiting hbuffer hwake
  refine ⟨hheld, unwritable_imp_iff fun hbad => ?_⟩
  rintro ⟨_, _, _, _, _, hstore, -⟩
  cases (hheld.unwritable hbad).symm.trans hstore

/-! ### Runs on the machine after boot -/

/-- The status word at the program base, where nothing is mapped. -/
def unmappedStatus : UserWritableRange :=
  ⟨⟨⟨userProgramBase, userProgramBase_ne_zero, userProgramBase_lt_end⟩, 4, Nat.zero_lt_succ _,
    by decide⟩⟩

/-- The parent sleeps, the child exits, and the parent is entered again. -/
def exitedRun : Panicking Kernel := do
  let (s, memory) ← childRun (·.prepareCurrentUserSleep 0)
  let (_, s) ← s.finishCurrentTask 0
  let (_, s) ← (s.wakeSleepingUserTasks 0).prepareOneShotUserTask 1
  return { bootKernel with scheduler := s, memory }

lemma exitedRun_reachable (h : exitedRun = .ok kernel) : kernel.scheduler.Reachable walkMapper := by
  simp only [exitedRun, bind_eq_ok, Prod.exists, pure_eq_ok] at h
  obtain ⟨_, _, h1, _, s2, h2, _, _, h3, rfl⟩ := h
  have hch := childRun_reachable (fun _ _ _ h => .prepareCurrentUserSleep h) h1
  exact ((hch.tail (.finishCurrentTask h2)).tail (.wakeSleepingUserTasks s2 0)).tail
    (.prepareOneShotUserTask h3)

/-- The parent waits with a status word that is not mapped, and the child retires. -/
def waitingRun : Panicking (Scheduler × Memory) := do
  let (s, memory) ← childRun (·.prepareCurrentUserWaitpid none (some unmappedStatus))
  let (_, s) ← s.retireCurrentTask 0
  return (s, memory)

lemma outputBufferRange_unmappedStatus :
  outputBufferRange userProgramBase userWaitStatusBytes = some unmappedStatus := by decide

lemma exitedRun_ok : ∃ kernel current exit scheduler, exitedRun = .ok kernel ∧
  kernel.scheduler.tasks[kernel.scheduler.currentIndex]? = some current ∧
  current.kind.isUser = true ∧ kernel.scheduler.HasChildRecord current.getId none ∧
  kernel.scheduler.collectWaitableChildExit current.getId none = .ok (some exit, scheduler) ∧
  isUserRangeMappedWritable walkMapper kernel.memory unmappedStatus = false := by
  have hrun : exitedRun.map
    (fun kernel => ((kernel.scheduler.tasks[kernel.scheduler.currentIndex]?).any fun current =>
    current.kind.isUser && current.getId == 1) && decide (kernel.scheduler.HasChildRecord 1 none)
    && ((kernel.scheduler.collectWaitableChildExit 1 none).map (·.1.isSome) == .ok true)
    && !isUserRangeMappedWritable walkMapper kernel.memory unmappedStatus) = .ok true := by
    decide +kernel
  obtain ⟨kernel, hker, hfacts⟩ := map_eq_ok.1 hrun
  simp only [Bool.and_eq_true, decide_eq_true_eq, Option.any_eq_true, beq_iff_eq,
    Bool.not_eq_true'] at hfacts
  obtain ⟨⟨⟨⟨current, hcur, huser, hid⟩, hch⟩, hcoll⟩, hbad⟩ := hfacts
  obtain ⟨⟨exit, scheduler⟩, hcoll, hsome⟩ := map_eq_ok.1 hcoll
  obtain ⟨exit, rfl⟩ := Option.isSome_iff_exists.1 hsome
  refine ⟨kernel, current, exit, scheduler, hker, hcur, huser, ?_, ?_, hbad⟩ <;> rw [hid]
  · exact hch
  · exact hcoll

/-- The parent waits with the unmapped word, and can be woken. -/
def waitingFacts (run : Scheduler × Memory) : Bool := (run.1.getTaskIndex 1 == some 1) &&
  ((run.1.tasks[1]?).any fun parent =>
    match parent.kind with
    | .kernel => false
    | .user runtime => runtime.waitpidRequest == some ⟨none, some unmappedStatus⟩) &&
  ((run.1.wakeWaitingParentForChildExit 1 2).map (fun _ => ()) == .ok ()) &&
  !isUserRangeMappedWritable walkMapper run.2 unmappedStatus

lemma waitingRun_ok :
    ∃ s memory s1 parent runtime,
      waitingRun = .ok (s, memory) ∧
      s.WaitingParent 1 2 1 parent runtime ⟨none, some unmappedStatus⟩ ∧
      s.wakeWaitingParentForChildExit 1 2 = .ok s1 ∧
      isUserRangeMappedWritable walkMapper memory unmappedStatus = false := by
  have hrun : waitingRun.map waitingFacts = .ok true := by
    decide +kernel
  obtain ⟨⟨s, memory⟩, hker, hfacts⟩ := map_eq_ok.1 hrun
  simp only [waitingFacts, Bool.and_eq_true, Option.any_eq_true, beq_iff_eq,
    Bool.not_eq_true'] at hfacts
  obtain ⟨⟨⟨hidx, parent, hpar, hreq⟩, hwake⟩, hbad⟩ := hfacts
  obtain ⟨s1, hwake, -⟩ := map_eq_ok.1 hwake
  split at hreq
  · cases hreq
  · next runtime hk =>
    exact ⟨s, memory, s1, parent, runtime, hker,
      ⟨hidx, hpar, hk, by simpa using hreq, rfl⟩, hwake, hbad⟩

/-- Both stores panic on the unmapped word: the immediate one in the call of a parent whose
child has exited, the deferred one on the entry of a parent that waited. -/
theorem waitpid_unmapped_status_panics :
    (∃ (kernel : Kernel) (current : Task),
      kernel.scheduler.Reachable walkMapper ∧
      ValidWait kernel wordMax 0 .anyChild current ∧
      kernel.scheduler.HasChildRecord current.getId none ∧
      ¬ StatusWritable walkMapper kernel.memory userProgramBase ∧
      kernel.sysWaitpid walkMapper wordMax userProgramBase 0 =
        .error "validated waitpid status pointer must remain writable") ∧
    ∃ (s s₁ : Scheduler) (memory : Memory) (parent : Task) (runtime : UserTaskRuntime),
      waitingRun = .ok (s, memory) ∧
      s.WaitingParent 1 2 1 parent runtime ⟨none, some unmappedStatus⟩ ∧
      s.wakeWaitingParentForChildExit 1 2 = .ok s₁ ∧
      isUserRangeMappedWritable walkMapper memory unmappedStatus = false ∧
      s₁.completePendingUserWaitpidStatus walkMapper memory 1 =
        .error "validated blocked waitpid status pointer must remain writable" := by
  constructor
  · obtain ⟨kernel, current, _, _, hrun, hcurrent, huser, hchild, hcollect, hbad⟩ := exitedRun_ok
    have hvalid : ValidWait kernel wordMax 0 .anyChild current :=
      ⟨.inl rfl, by decide, hcurrent, huser⟩
    refine ⟨kernel, current, exitedRun_reachable hrun, hvalid, hchild, ?_,
      sysWaitpid_unwritable hvalid hchild hcollect (by decide) outputBufferRange_unmappedStatus
        hbad⟩
    rintro ⟨_, hrange, hwritable⟩
    rw [outputBufferRange_unmappedStatus] at hrange
    cases hrange
    rw [hbad] at hwritable
    cases hwritable
  · obtain ⟨s, memory, s₁, parent, runtime, hrun, hwaiting, hwake, hbad⟩ := waitingRun_ok
    exact ⟨s, s₁, memory, parent, runtime, hrun, hwaiting, hwake, hbad,
      (Scheduler.wake_holdsStatus hwaiting rfl hwake).unwritable hbad⟩

/-- A pointer outside the user half gives `EFAULT` although the child has exited, and the
parent that waited with the unmapped word is not entered with `EFAULT`. -/
theorem waitpid_bad_status_iff_runs :
    (∃ kernel : Kernel,
      exitedRun = .ok kernel ∧
      kernel.sysWaitpid walkMapper wordMax userSpaceEnd 0 = .ok (errorBadAddress, kernel)) ∧
    ∃ (s s₁ : Scheduler) (memory : Memory),
      waitingRun = .ok (s, memory) ∧
      s.wakeWaitingParentForChildExit 1 2 = .ok s₁ ∧
      ¬ ∃ completion s₂ memory₂ task runtime₂,
          s₁.completePendingUserWaitpidStatus walkMapper memory 1 = .ok (completion, s₂, memory₂) ∧
          s₂.tasks[1]? = some task ∧
          task.kind = .user runtime₂ ∧
          runtime₂.savedFrame.rax = errorBadAddress ∧
          s₂.childExitRecords = s.childExitRecords := by
  constructor
  · obtain ⟨kernel, current, exit, scheduler, hrun, hcurrent, huser, hchild, hcollect, -⟩ :=
      exitedRun_ok
    have hrange : outputBufferRange userSpaceEnd userWaitStatusBytes = none := by decide
    have hnot : ¬ StatusWritable walkMapper kernel.memory userSpaceEnd := by
      rintro ⟨_, hsome, -⟩
      rw [hrange] at hsome
      cases hsome
    exact ⟨kernel, hrun, ((waitpid_bad_status_iff walkMapper).1 kernel wordMax userSpaceEnd 0
      .anyChild current exit scheduler ⟨.inl rfl, by decide, hcurrent, huser⟩ hchild (by decide)
      hcollect).2 (.inl hrange) hnot⟩
  obtain ⟨s, memory, s₁, parent, runtime, hrun, hwaiting, hwake, hbad⟩ := waitingRun_ok
  refine ⟨s, s₁, memory, hrun, hwake, fun hfault => ?_⟩
  obtain ⟨-, -, -, -, hdeferred⟩ := waitpid_bad_status_iff walkMapper
  have hwritable := (hdeferred s s₁ memory 1 2 1 parent runtime _ unmappedStatus hwaiting rfl
    hwake).2.1 fun _ => hfault
  rw [hbad] at hwritable
  cases hwritable

end Kernel
end ManaOS
