/-
Scheduler data and task creation (`task/metadata.rs`, `task/scheduler.rs`).

Counters that are only reported by diagnostics are left out.

* `Task`, `Scheduler`: the records;
* `spawnUserTask`: a new user task.
-/
import ManaOS.Filesystem.Descriptor
import ManaOS.Memory.UserHeap
import ManaOS.Memory.UserMapping
import ManaOS.Task.Context
import ManaOS.Task.KernelStack

namespace ManaOS
open Checked

structure TaskExitStatus where
  exitCode : ℕ
  waitCollected : Bool
  deriving DecidableEq

/-- `TaskMetadata`; identifiers are naturals, `BOOTSTRAP` is zero. -/
structure TaskMetadata where
  identifier : ℕ
  parentIdentifier : Option ℕ
  exitStatus : Option TaskExitStatus
  currentWorkingDirectory : Path
  fileDescriptors : FileDescriptorTable

/-- `TaskIdentifier::BOOTSTRAP`. -/
def bootstrapIdentifier : ℕ := 0

namespace TaskMetadata

def bootstrap : TaskMetadata := ⟨bootstrapIdentifier, none, none, ['/'], .new⟩

def child (identifier parentIdentifier : ℕ) (parentCurrentWorkingDirectory : Path)
  (fileDescriptors : FileDescriptorTable) : TaskMetadata :=
  ⟨identifier, some parentIdentifier, none, parentCurrentWorkingDirectory, fileDescriptors⟩

def reparentToInitialProcess (metadata : TaskMetadata) : TaskMetadata :=
  match metadata.parentIdentifier with
  | none => metadata
  | some parent =>
    if parent = bootstrapIdentifier then metadata
    else { metadata with parentIdentifier := some bootstrapIdentifier }

/-- `record_exit_status`, `none` when a status was recorded before. -/
def recordExitStatus (metadata : TaskMetadata) (exitCode : ℕ) : Option TaskMetadata :=
  if metadata.exitStatus.isSome then none
  else some { metadata with exitStatus := some ⟨exitCode, false⟩ }

def waitCollected (metadata : TaskMetadata) : Bool :=
  metadata.exitStatus.any TaskExitStatus.waitCollected

/-- `collect_waitable_exit`: the exit code and the metadata marked collected. -/
def collectWaitableExit (metadata : TaskMetadata) : Option (ℕ × TaskMetadata) :=
  match metadata.exitStatus with
  | none => none
  | some status =>
    if status.waitCollected then none
    else
      some (status.exitCode,
        { metadata with exitStatus := some { status with waitCollected := true } })

end TaskMetadata

structure UserWaitpidRequest where
  childTaskId : Option ℕ
  statusBuffer : Option UserWritableRange
  deriving DecidableEq

def UserWaitpidRequest.matchesChild (request : UserWaitpidRequest) (childTaskId : ℕ) : Bool :=
  request.childTaskId.all (· == childTaskId)

structure UserWaitpidCompletion where
  childTaskId : ℕ
  statusBuffer : Option UserWritableRange
  waitStatus : ℕ
  deriving DecidableEq

structure UserReadRequest where
  fileDescriptor : ℕ
  userBuffer : UserWritableRange
  deriving DecidableEq

structure UserTaskRuntime where
  addressSpace : Option UserAddressSpace
  savedFrame : UserTrapFrame
  heap : UserHeap
  mappings : UserMappings
  sleepWakeTick : Option ℕ := none
  waitpidRequest : Option UserWaitpidRequest := none
  waitpidCompletion : Option UserWaitpidCompletion := none
  readRequest : Option UserReadRequest := none
  syscallFrameRecorded : Bool := false
  interruptFrameRecorded : Bool := false
  addressSpaceReclaiming : Bool := false

namespace UserTaskRuntime

def new (addressSpace : UserAddressSpace) (entryFrame : UserTrapFrame)
  (heapStart : UserVirtualAddress) : Panicking UserTaskRuntime := do
  let heap ← UserHeap.new heapStart
  return { addressSpace := some addressSpace, savedFrame := entryFrame, heap, mappings := .new }

def hasSchedulableAddressSpace (runtime : UserTaskRuntime) : Bool :=
  runtime.addressSpace.isSome && !runtime.addressSpaceReclaiming

end UserTaskRuntime

inductive TaskKind
  | kernel
  | user (runtime : UserTaskRuntime)

/-- `matches!(kind, TaskKind::User(_))`. -/
def TaskKind.isUser : TaskKind → Bool
  | .kernel => false
  | .user _ => true

structure Task where
  metadata : TaskMetadata
  state : TaskState
  kind : TaskKind
  context : TaskContext
  kernelStack : Option KernelStack

namespace Task

def bootstrap : Task := ⟨.bootstrap, .running, .kernel, .new, none⟩

def getId (task : Task) : ℕ := task.metadata.identifier

def kernelStackTop (task : Task) : Option ℕ := task.kernelStack.map KernelStack.virtualTop

end Task

structure ChildExitRecord where
  parentTaskId : ℕ
  childTaskId : ℕ
  exitCode : ℕ
  collected : Bool
  deriving DecidableEq

namespace ChildExitRecord

def waitableForParent (record : ChildExitRecord) (parentTaskId : ℕ)
  (childTaskId : Option ℕ) : Bool := record.parentTaskId == parentTaskId && !record.collected &&
    childTaskId.all (record.childTaskId == ·)

def reparentToInitialProcess (record : ChildExitRecord) (oldParentTaskId : ℕ) : ChildExitRecord :=
  if record.parentTaskId ≠ oldParentTaskId ∨ record.collected then record
  else { record with parentTaskId := bootstrapIdentifier }

end ChildExitRecord

structure UserTaskExit where
  taskId : ℕ
  exitCode : ℕ
  deriving DecidableEq

/-- `UserTaskExit::wait_status`: `(exit_code & 0xff) << 8`, which fits a `u32`. -/
def UserTaskExit.waitStatus (exit : UserTaskExit) : ℕ := exit.exitCode % 256 * 256

structure Scheduler where
  tasks : List Task
  currentIndex : ℕ
  nextTaskIdentifier : ℕ
  kernelStackRangeAllocator : KernelVirtualRangeAllocator
  activeUserTaskIdentifiers : List ℕ
  finishedUserExits : List UserTaskExit
  childExitRecords : List ChildExitRecord
  currentTimerQuantumTicks : ℕ

namespace Scheduler

def new : Scheduler where
  tasks := [.bootstrap]
  currentIndex := 0
  nextTaskIdentifier := 1
  kernelStackRangeAllocator := newDynamicMappingAllocator
  activeUserTaskIdentifiers := []
  finishedUserExits := []
  childExitRecords := []
  currentTimerQuantumTicks := 0

/-! ### Task records -/

variable (scheduler : Scheduler)

/-- `self.tasks[index]`. -/
def taskAt (index : ℕ) : Panicking Task :=
  expect scheduler.tasks[index]? "index out of bounds"

/-- `self.tasks[self.current_index]`. -/
def currentTask : Panicking Task := scheduler.taskAt scheduler.currentIndex

def modifyTask (index : ℕ) (update : Task → Task) : Scheduler :=
  { scheduler with tasks := scheduler.tasks.modify index update }

/-- Replace the runtime of a user task record. -/
def setRuntime (index : ℕ) (runtime : UserTaskRuntime) : Scheduler :=
  scheduler.modifyTask index fun task => { task with kind := .user runtime }

/-- Overwrite the state of a task record. -/
def setState (index : ℕ) (state : TaskState) : Scheduler :=
  scheduler.modifyTask index fun task => { task with state }

/-- Run one transition method of `TaskState` on a task record. -/
def transitionAt (index : ℕ)
  (transition : TaskState → Option TaskState) : Panicking (Bool × Scheduler) := do
  let task ← scheduler.taskAt index
  match transition task.state with
  | none => return (false, scheduler)
  | some state => return (true, scheduler.setState index state)

/-- `context.clear()` on a task record. -/
def clearContext (index : ℕ) : Scheduler :=
  scheduler.modifyTask index fun task => { task with context := .new }

def getTaskIndex (taskId : ℕ) : Option ℕ :=
  scheduler.tasks.findIdx? fun task => task.getId == taskId

def isUserTaskActive (taskId : ℕ) : Bool := scheduler.activeUserTaskIdentifiers.contains taskId

def setCurrentIndex (nextIndex : ℕ) : Scheduler :=
  { scheduler with
    currentTimerQuantumTicks :=
      if scheduler.currentIndex ≠ nextIndex then 0 else scheduler.currentTimerQuantumTicks
    currentIndex := nextIndex }

def getCurrentTaskId : Panicking ℕ := return (← scheduler.currentTask).getId

def getCurrentParentTaskId : Panicking (Option ℕ) :=
  return (← scheduler.currentTask).metadata.parentIdentifier

def getCurrentWorkingDirectory : Panicking Path :=
  return (← scheduler.currentTask).metadata.currentWorkingDirectory

def setCurrentWorkingDirectory (path : Path) : Scheduler :=
  scheduler.modifyTask scheduler.currentIndex fun task =>
    { task with metadata := { task.metadata with currentWorkingDirectory := path } }

/-- `replace_current_file_descriptor_table`, and the end of `with_current_file_descriptor_table`. -/
def replaceCurrentFileDescriptorTable
  (fileDescriptors : FileDescriptorTable) : Scheduler :=
  scheduler.modifyTask scheduler.currentIndex fun task =>
    { task with metadata := { task.metadata with fileDescriptors } }

/-- `clone_current_file_descriptor_table`. -/
def currentFileDescriptorTable : Panicking FileDescriptorTable :=
  return (← scheduler.currentTask).metadata.fileDescriptors

/-- `Vec::push` on the task vector; more than `isize::MAX` records cannot exist. -/
def pushTask (task : Task) : Panicking Scheduler := do
  require (scheduler.tasks.length < vecCapacity) "capacity overflow"
  return { scheduler with tasks := scheduler.tasks ++ [task] }

/-- The metadata of a task spawned by the current one; the identifier is allocated first. -/
def childMetadata : Panicking (TaskMetadata × Scheduler) := do
  let taskIdentifier := scheduler.nextTaskIdentifier
  let scheduler := { scheduler with nextTaskIdentifier := taskIdentifier + 1 }
  let parent ← scheduler.currentTask
  return (.child taskIdentifier parent.metadata.identifier parent.metadata.currentWorkingDirectory
    parent.metadata.fileDescriptors.inheritForSpawn, scheduler)

variable (mapper : PageMapper)

/-- `Scheduler::spawn`: a kernel task with its own stack. -/
def spawn (memory : Memory) : Panicking (ℕ × Scheduler × Memory) := do
  let (metadata, scheduler) ← scheduler.childMetadata
  let (kernelStack, memory, kernelStackRangeAllocator) ←
    KernelStack.newDefault mapper memory scheduler.kernelStackRangeAllocator
  let scheduler := { scheduler with kernelStackRangeAllocator }
  let scheduler ← scheduler.pushTask
    ⟨metadata, .ready, .kernel, .fromStack kernelStack.virtualTop, some kernelStack⟩
  return (metadata.identifier, scheduler, memory)

structure UserTaskSpawnRequest where
  addressSpace : UserAddressSpace
  entryPoint : UserVirtualAddress
  userStackTop : UserVirtualAddress
  heapStart : UserVirtualAddress
  entryArguments : UserEntryArguments

def spawnUserTask (memory : Memory) (selectors : UserModeSelectors)
  (request : UserTaskSpawnRequest) : Panicking (ℕ × Scheduler × Memory) := do
  let (metadata, scheduler) ← scheduler.childMetadata
  let entryFrame ←
    userEntryFrame selectors request.entryPoint request.userStackTop request.entryArguments
  let (kernelStack, memory, kernelStackRangeAllocator) ←
    KernelStack.newDefault mapper memory scheduler.kernelStackRangeAllocator
  let scheduler := { scheduler with kernelStackRangeAllocator }
  let runtime ← UserTaskRuntime.new request.addressSpace entryFrame request.heapStart
  let scheduler ← scheduler.pushTask ⟨metadata, .ready, .user runtime, .new, some kernelStack⟩
  return (metadata.identifier, scheduler, memory)

end Scheduler
end ManaOS
