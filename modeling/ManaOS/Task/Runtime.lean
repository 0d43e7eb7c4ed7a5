/-
Scheduler lifecycle methods (`task/scheduler/runtime.rs`): activation, one-shot entry, exit
and child records, blocking and waking.

* `finishCurrentTask`, `collectWaitableChildExit`: exit and collection;
* `prepareCurrentUserWaitpid`, `blockCurrentUserAfterSyscall`: the two steps of blocking.
-/
import ManaOS.Memory.UserPointer
import ManaOS.Task.Scheduler

namespace ManaOS
open Checked
namespace Scheduler

/-- The loop of `assert_active_user_task_invariants`; `before` are the identifiers seen. -/
def assertActiveFrom (scheduler : Scheduler) (before : List ℕ) : List ℕ → Panicking Unit
  | [] => .ok ()
  | activeTaskIdentifier :: rest => do
      require (!before.contains activeTaskIdentifier)
        "active user task set must not contain duplicate task identifiers"
      let taskIndex ← expect (scheduler.getTaskIndex activeTaskIdentifier)
        "active user task must reference a retained task"
      let task ← scheduler.taskAt taskIndex
      match task.kind with
      | .kernel => .error "active user task must reference a user task"
      | .user runtime =>
        require (task.state != .finished) "active user task must not be finished"
        require (!runtime.addressSpaceReclaiming)
          "active user task must not be reclaiming an address space"
        require runtime.addressSpace.isSome "active user task must own an address space"
        require runtime.hasSchedulableAddressSpace
          "active user task must have a schedulable address space"
        scheduler.assertActiveFrom (before ++ [activeTaskIdentifier]) rest

variable (scheduler : Scheduler)

def assertActiveUserTaskInvariants : Panicking Unit :=
  scheduler.assertActiveFrom [] scheduler.activeUserTaskIdentifiers

/-- The body of the loop of `assert_user_task_lifecycle_invariants`. -/
def assertTaskLifecycle (task : Task) : Panicking Unit :=
  match task.kind with
  | .kernel => .ok ()
  | .user runtime => do
      let active := scheduler.isUserTaskActive task.getId
      if task.state = .running then
        require active "running user task must remain in the active set"
        require runtime.hasSchedulableAddressSpace
          "running user task must have a schedulable address space"
      if task.state = .finished then
        require (!active) "finished user task must not remain in the active set"
      if runtime.addressSpaceReclaiming then
        require (task.state == .finished)
          "reclaiming address space must belong to a finished user task"
        require (!active) "reclaiming user task must not remain in the active set"
        require runtime.addressSpace.isSome
          "reclaiming user task must still own its address space"
        require (!runtime.hasSchedulableAddressSpace)
          "reclaiming user task must not have a schedulable address space"
      if runtime.addressSpace.isNone then
        require (!active)
          "user task without an address space must not remain in the active set"

def assertTransitionInvariants : Panicking Unit := do
  scheduler.assertActiveUserTaskInvariants
  scheduler.tasks.forM scheduler.assertTaskLifecycle

/-! ### The active set -/

def activateUserTask (taskId : ℕ) : Panicking (Bool × Scheduler) :=
  match scheduler.getTaskIndex taskId with
  | none => return (false, scheduler)
  | some taskIndex => do
      let task ← scheduler.taskAt taskIndex
      match task.kind with
      | .kernel => return (false, scheduler)
      | .user runtime =>
        if !runtime.hasSchedulableAddressSpace || task.state == .finished then
          return (false, scheduler)
        else do
          let scheduler :=
            if scheduler.isUserTaskActive taskId then scheduler
            else
              { scheduler with
                activeUserTaskIdentifiers := scheduler.activeUserTaskIdentifiers ++ [taskId] }
          scheduler.assertTransitionInvariants
          return (true, scheduler)

def deactivateUserTask (taskId : ℕ) : Panicking Scheduler := do
  let scheduler :=
    { scheduler with
      activeUserTaskIdentifiers := scheduler.activeUserTaskIdentifiers.filter (· != taskId) }
  scheduler.assertTransitionInvariants
  return scheduler

structure OneShotUserTask where
  trapFrame : UserTrapFrame
  kernelStackTop : ℕ
  addressSpace : UserAddressSpace

def prepareOneShotUserTask (taskId : ℕ) :
  Panicking (Option OneShotUserTask × Scheduler) :=
  match scheduler.getTaskIndex taskId with
  | none => return (none, scheduler)
  | some taskIndex => do
      let task ← scheduler.taskAt taskIndex
      match task.kind with
      | .kernel => return (none, scheduler)
      | .user runtime =>
        if !runtime.hasSchedulableAddressSpace then return (none, scheduler)
        else do
          let addressSpace ← expect runtime.addressSpace
            "schedulable user tasks must own an address space"
          let kernelStackTop ← expect task.kernelStackTop
            "user tasks must own a kernel stack before entry"
          if !task.state.isReady then return (none, scheduler)
          else do
            let (blocked, scheduler) ←
              scheduler.transitionAt scheduler.currentIndex TaskState.prepareToBlock
            if !blocked then return (none, scheduler)
            else do
              let (running, scheduler) ← scheduler.transitionAt taskIndex TaskState.prepareToRun
              if !running then do
                let (_, scheduler) ←
                  scheduler.transitionAt scheduler.currentIndex TaskState.resumeBlocked
                return (none, scheduler)
              else do
                let scheduler := (scheduler.clearContext taskIndex).setCurrentIndex taskIndex
                let (_, scheduler) ← scheduler.activateUserTask taskId
                scheduler.assertTransitionInvariants
                return (some ⟨runtime.savedFrame, kernelStackTop, addressSpace⟩, scheduler)

/-! ### Exit and child records -/

/-- Hand the CPU back to the bootstrap task, the first record. -/
def resumeBootstrapTask : Panicking Scheduler :=
  if scheduler.tasks.isEmpty then return scheduler
  else do
    let (resumed, scheduler) ← scheduler.transitionAt 0 TaskState.resumeBlocked
    let (_, scheduler) ←
      if resumed then pure (true, scheduler) else scheduler.transitionAt 0 TaskState.prepareToRun
    return scheduler.setCurrentIndex 0

/-- The task loop of `reparent_orphaned_children_to_initial_process`. -/
def reparentTask (exitingParentTaskId : ℕ) (task : Task) : Task :=
  if !task.kind.isUser || task.metadata.parentIdentifier != some exitingParentTaskId ||
      task.metadata.waitCollected then task
  else { task with metadata := task.metadata.reparentToInitialProcess }

def reparentOrphanedChildrenToInitialProcess (exitingParentTaskId : ℕ) :
  Scheduler :=
  { scheduler with
    tasks := scheduler.tasks.map (reparentTask exitingParentTaskId)
    childExitRecords :=
      scheduler.childExitRecords.map (·.reparentToInitialProcess exitingParentTaskId) }

def collectWaitableChildExit (parentTaskId : ℕ)
  (childTaskId : Option ℕ) : Panicking (Option UserTaskExit × Scheduler) :=
  match scheduler.childExitRecords.findIdx? (·.waitableForParent parentTaskId childTaskId) with
  | none => return (none, scheduler)
  | some recordIndex => do
      let record ← expect scheduler.childExitRecords[recordIndex]? "index out of bounds"
      let taskIndex ← expect (scheduler.getTaskIndex record.childTaskId)
        "child exit record must reference a retained task"
      let task ← scheduler.taskAt taskIndex
      let (collectedExitCode, metadata) ← expect task.metadata.collectWaitableExit
        "child exit record must reference a waitable task status"
      require (collectedExitCode == record.exitCode)
        "child exit record must match retained task exit status"
      let scheduler := scheduler.modifyTask taskIndex fun task => { task with metadata }
      return (some ⟨record.childTaskId, record.exitCode⟩, { scheduler with
          childExitRecords :=
            scheduler.childExitRecords.modify recordIndex ({ · with collected := true }) })

def wakeWaitingParentForChildExit (parentTaskId childTaskId : ℕ) :
  Panicking Scheduler :=
  match scheduler.getTaskIndex parentTaskId with
  | none => return scheduler
  | some parentIndex => do
      let parent ← scheduler.taskAt parentIndex
      match parent.kind with
      | .kernel => return scheduler
      | .user parentRuntime =>
        match parentRuntime.waitpidRequest with
        | none => return scheduler
        | some request =>
          if !request.matchesChild childTaskId then return scheduler
          else do
            let (exit, scheduler) ←
              scheduler.collectWaitableChildExit parentTaskId request.childTaskId
            let exit ← expect exit
              "waitpid wake must collect the matching child exit record"
            let parent ← scheduler.taskAt parentIndex
            match parent.kind with
            | .kernel => return scheduler
            | .user parentRuntime =>
              let scheduler := scheduler.setRuntime parentIndex
                { parentRuntime with
                  waitpidRequest := none
                  waitpidCompletion := some ⟨exit.taskId, request.statusBuffer, exit.waitStatus⟩
                  savedFrame := { parentRuntime.savedFrame with rax := exit.taskId } }
              let (woken, scheduler) ←
                scheduler.transitionAt parentIndex TaskState.wakeBlocked
              require woken "waitpid parent must be blocked before child exit wake"
              return scheduler

/-- Queue an exit for the lifecycle and retain its child record for the parent. -/
def retainExit (parentTaskId : ℕ) (exit : UserTaskExit) : Scheduler :=
  { scheduler with
    finishedUserExits := scheduler.finishedUserExits ++ [exit]
    childExitRecords :=
      scheduler.childExitRecords ++ [⟨parentTaskId, exit.taskId, exit.exitCode, false⟩] }

/-- `finish_current_task` up to the child record: the parent and the retained exit. -/
def retireCurrentTask (exitCode : ℕ) :
  Panicking (Option (ℕ × UserTaskExit) × Scheduler) := do
  let task ← scheduler.currentTask
  let taskId := task.getId
  if !task.kind.isUser then return (none, scheduler)
  else do
    let (finished, scheduler) ←
      scheduler.transitionAt scheduler.currentIndex TaskState.finishRunning
    if !finished then return (none, scheduler)
    else do
      let metadata ← expect (task.metadata.recordExitStatus exitCode)
        "user task exit status must be recorded exactly once"
      let scheduler :=
        scheduler.modifyTask scheduler.currentIndex fun task => { task with metadata }
      let parentTaskId ← expect metadata.parentIdentifier
        "user tasks must have a parent task identifier"
      let scheduler := scheduler.reparentOrphanedChildrenToInitialProcess taskId
      let scheduler ← scheduler.resumeBootstrapTask
      let scheduler ← scheduler.deactivateUserTask taskId
      let exit : UserTaskExit := ⟨taskId, exitCode⟩
      return (some (parentTaskId, exit), scheduler.retainExit parentTaskId exit)

/-- `finish_current_task` of the scheduler. -/
def finishCurrentTask (exitCode : ℕ) :
  Panicking (Option UserTaskExit × Scheduler) := do
  let (retired, scheduler) ← scheduler.retireCurrentTask exitCode
  match retired with
  | none => return (none, scheduler)
  | some (parentTaskId, exit) => do
      let scheduler ← scheduler.wakeWaitingParentForChildExit parentTaskId exit.taskId
      scheduler.assertTransitionInvariants
      return (some exit, scheduler)

def takeFinishedUserExit : Option UserTaskExit × Scheduler :=
  match scheduler.finishedUserExits with
  | [] => (none, scheduler)
  | exit :: rest => (some exit, { scheduler with finishedUserExits := rest })

def currentUserTaskHasChild (childTaskId : Option ℕ) :
  Panicking (Option Bool) := do
  let current ← scheduler.currentTask
  if !current.kind.isUser then return none
  else
    return some (scheduler.tasks.any fun task => task.metadata.parentIdentifier
      == some current.getId && task.kind.isUser && childTaskId.all (task.getId == ·))

def prepareCurrentUserWaitpid (childTaskId : Option ℕ)
  (statusBuffer : Option UserWritableRange) : Panicking (Option ℕ × Scheduler) := do
  let task ← scheduler.currentTask
  match task.kind with
  | .kernel => return (none, scheduler)
  | .user runtime =>
    if runtime.addressSpace.isNone || task.state != .running || runtime.sleepWakeTick.isSome ||
        runtime.waitpidRequest.isSome || runtime.waitpidCompletion.isSome then
      return (none, scheduler)
    else
      return (some task.getId, scheduler.setRuntime scheduler.currentIndex
          { runtime with waitpidRequest := some ⟨childTaskId, statusBuffer⟩ })

def prepareCurrentUserSleep (wakeTick : ℕ) :
  Panicking (Option ℕ × Scheduler) := do
  let task ← scheduler.currentTask
  match task.kind with
  | .kernel => return (none, scheduler)
  | .user runtime =>
    if runtime.addressSpace.isNone || task.state != .running then return (none, scheduler)
    else
      return (some task.getId, scheduler.setRuntime scheduler.currentIndex
          { runtime with sleepWakeTick := some wakeTick })

def prepareCurrentUserRead (request : UserReadRequest) :
  Panicking (Option ℕ × Scheduler) := do
  let task ← scheduler.currentTask
  match task.kind with
  | .kernel => return (none, scheduler)
  | .user runtime =>
    if runtime.addressSpace.isNone || task.state != .running || runtime.sleepWakeTick.isSome ||
        runtime.waitpidRequest.isSome || runtime.waitpidCompletion.isSome ||
        runtime.readRequest.isSome then
      return (none, scheduler)
    else
      return (some task.getId, scheduler.setRuntime scheduler.currentIndex
          { runtime with readRequest := some request })

def blockCurrentUserAfterSyscall :
  Panicking (Option ℕ × Scheduler) := do
  let task ← scheduler.currentTask
  match task.kind with
  | .kernel => return (none, scheduler)
  | .user runtime =>
    if runtime.sleepWakeTick.isNone && runtime.waitpidRequest.isNone &&
        runtime.readRequest.isNone then
      return (none, scheduler)
    else do
      let (blocked, scheduler) ←
        scheduler.transitionAt scheduler.currentIndex TaskState.prepareToBlock
      if !blocked then return (none, scheduler)
      else do
        let scheduler := scheduler.clearContext scheduler.currentIndex
        let scheduler ← scheduler.resumeBootstrapTask
        return (some task.getId, scheduler)

/-! ### Waking and completing -/

/-- A blocked task with a pending read request. -/
def isBlockedReader (task : Task) : Bool :=
  match task.kind with
  | .kernel => false
  | .user runtime => runtime.readRequest.isSome && task.state == .blocked

/-- `wake_keyboard_readers`: only the first blocked reader wakes. -/
def wakeKeyboardReaders : Option ℕ × Scheduler :=
  match scheduler.tasks.findIdx? isBlockedReader with
  | none => (none, scheduler)
  | some index =>
    ((scheduler.tasks[index]?).map Task.getId,
      scheduler.modifyTask index fun task => { task with state := .ready })

def takeCurrentUserReadRequest (taskId : ℕ) :
  Panicking (Option UserReadRequest × Scheduler) := do
  let task ← scheduler.currentTask
  if task.getId ≠ taskId then return (none, scheduler)
  else
    match task.kind with
    | .kernel => return (none, scheduler)
    | .user runtime =>
      return (runtime.readRequest,
        scheduler.setRuntime scheduler.currentIndex { runtime with readRequest := none })

def completeCurrentUserRead (taskId result : ℕ) :
  Panicking Scheduler := do
  let task ← scheduler.currentTask
  if task.getId ≠ taskId then return scheduler
  else
    match task.kind with
    | .kernel => return scheduler
    | .user runtime =>
      return scheduler.setRuntime scheduler.currentIndex
        { runtime with savedFrame := { runtime.savedFrame with rax := result } }

/-- The loop body of `wake_sleeping_user_tasks`. -/
def wakeSleepingTask (currentTick : ℕ) (task : Task) : Task :=
  match task.kind with
  | .kernel => task
  | .user runtime =>
    match runtime.sleepWakeTick with
    | none => task
    | some wakeTick =>
      if currentTick < wakeTick then task
      else
        { task with
          kind := .user { runtime with sleepWakeTick := none }
          state := (task.state.wakeBlocked).getD task.state }

def wakeSleepingUserTasks (currentTick : ℕ) : Scheduler :=
  { scheduler with tasks := scheduler.tasks.map (wakeSleepingTask currentTick) }

section
variable (mapper : PageMapper)

/-- `write_user_wait_status`: the four bytes of the status word. -/
def writeUserWaitStatus (memory : Memory) (statusBuffer : UserWritableRange) (waitStatus : ℕ) :
  Panicking Memory := do
  let buffer ← expect (copyToUser mapper memory statusBuffer)
    "validated blocked waitpid status pointer must remain writable"
  require (4 ≤ buffer.byteLen) "range end index 4 out of range for slice"
  return memory.storeUserBytes mapper buffer.start.asU64 (toBytes 4 waitStatus)

def completePendingUserWaitpidStatus (scheduler : Scheduler) (memory : Memory) (taskId : ℕ) :
  Panicking (Option UserWaitpidCompletion × Scheduler × Memory) :=
  match scheduler.getTaskIndex taskId with
  | none => return (none, scheduler, memory)
  | some taskIndex => do
      let task ← scheduler.taskAt taskIndex
      match task.kind with
      | .kernel => return (none, scheduler, memory)
      | .user runtime =>
        match runtime.waitpidCompletion with
        | none => return (none, scheduler, memory)
        | some completion => do
            let scheduler :=
              scheduler.setRuntime taskIndex { runtime with waitpidCompletion := none }
            let memory ←
              match completion.statusBuffer with
              | none => pure memory
              | some statusBuffer =>
                writeUserWaitStatus mapper memory statusBuffer completion.waitStatus
            return (some completion, scheduler, memory)

end
end Scheduler
end ManaOS
