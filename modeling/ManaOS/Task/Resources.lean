/-
Scheduler methods over task resources (`task/scheduler/runtime.rs`,
`task/scheduler/user_memory.rs`).

* `processCurrentUserBreak`, `processCurrentUserMapping`: the memory of the current task.
-/
import ManaOS.Task.Runtime

namespace ManaOS
open Checked

/-- The runtime after an image replacement: nothing of the old image or of a pending request
stays. -/
def UserTaskRuntime.withImage (runtime : UserTaskRuntime) (addressSpace : UserAddressSpace)
  (trapFrame : UserTrapFrame) (heap : UserHeap) : UserTaskRuntime :=
  { runtime with
    addressSpace := some addressSpace
    savedFrame := trapFrame
    heap
    mappings := .new
    sleepWakeTick := none
    waitpidRequest := none
    waitpidCompletion := none
    readRequest := none
    syscallFrameRecorded := false
    interruptFrameRecorded := false }

namespace Scheduler

/-- `can_schedule_task`; the current index is not used by the source either. -/
def canScheduleTask (scheduler : Scheduler) (candidateIndex : ℕ) : Panicking Bool := do
  let task ← scheduler.taskAt candidateIndex
  if !task.state.isReady then return false
  else
    match task.kind with
    | .kernel => return !task.context.isEmpty
    | .user runtime =>
      return scheduler.isUserTaskActive task.getId && runtime.hasSchedulableAddressSpace

section
variable (mapper : PageMapper)

/-- `reclaim_finished_user_address_space_at_index`, with its begin and finish steps. -/
def reclaimFinishedUserAddressSpaceAtIndex (scheduler : Scheduler) (memory : Memory)
  (taskIndex : ℕ) : Panicking (Option UserAddressSpaceReclaim × Scheduler × Memory) := do
  let task ← scheduler.taskAt taskIndex
  if task.state ≠ .finished then return (none, scheduler, memory)
  else
    match task.kind with
    | .kernel => return (none, scheduler, memory)
    | .user runtime =>
      if runtime.addressSpace.isNone || runtime.addressSpaceReclaiming then
        return (none, scheduler, memory)
      else do
        let runtime := { runtime with addressSpaceReclaiming := true }
        let scheduler := scheduler.setRuntime taskIndex runtime
        require (!runtime.hasSchedulableAddressSpace)
          "reclaiming user task address space must not be schedulable"
        let candidate ← scheduler.canScheduleTask taskIndex
        require (!candidate) "reclaiming user task must not be a scheduler candidate"
        scheduler.assertTransitionInvariants
        let addressSpace ← expect runtime.addressSpace
          "reclaiming user tasks must still own an address space"
        let (reclaim, memory) ← destroyUserAddressSpace memory addressSpace
        let scheduler := scheduler.setRuntime taskIndex
          { runtime with addressSpace := none, addressSpaceReclaiming := false }
        scheduler.assertTransitionInvariants
        return (some reclaim, scheduler, memory)

/-- `reclaim_finished_user_kernel_stack_at_index`: whether a stack was freed. -/
def reclaimFinishedUserKernelStackAtIndex (scheduler : Scheduler) (memory : Memory)
  (taskIndex : ℕ) : Panicking (Bool × Scheduler × Memory) := do
  let task ← scheduler.taskAt taskIndex
  match task.kernelStack with
  | none => return (false, scheduler, memory)
  | some kernelStack => do
      let scheduler := scheduler.modifyTask taskIndex fun task => { task with kernelStack := none }
      let (memory, kernelStackRangeAllocator) ←
        kernelStack.destroy mapper memory scheduler.kernelStackRangeAllocator
      return (true, { scheduler with kernelStackRangeAllocator }, memory)

structure FinishedUserTaskReclaim where
  addressSpace : Option UserAddressSpaceReclaim
  kernelStack : Bool
  deriving DecidableEq

def reclaimFinishedUserResources (scheduler : Scheduler) (memory : Memory) (taskId : ℕ) :
  Panicking (Option FinishedUserTaskReclaim × Scheduler × Memory) :=
  match scheduler.getTaskIndex taskId with
  | none => return (none, scheduler, memory)
  | some taskIndex => do
      let task ← scheduler.taskAt taskIndex
      if task.state ≠ .finished || !task.kind.isUser then return (none, scheduler, memory)
      else do
        let (addressSpace, scheduler, memory) ←
          scheduler.reclaimFinishedUserAddressSpaceAtIndex memory taskIndex
        let (kernelStack, scheduler, memory) ←
          scheduler.reclaimFinishedUserKernelStackAtIndex mapper memory taskIndex
        scheduler.assertTransitionInvariants
        return (some ⟨addressSpace, kernelStack⟩, scheduler, memory)

end

/-- `replace_current_user_image`: the task identifier and the old address space. -/
def replaceCurrentUserImage (scheduler : Scheduler) (addressSpace : UserAddressSpace)
  (trapFrame : UserTrapFrame) (heapStart : UserVirtualAddress) :
  Panicking (Option (ℕ × UserAddressSpace) × Scheduler) := do
  let task ← scheduler.currentTask
  if task.state ≠ .running then return (none, scheduler)
  else
    match task.kind with
    | .kernel => return (none, scheduler)
    | .user runtime =>
      match runtime.addressSpace with
      | none => return (none, scheduler)
      | some oldAddressSpace => do
          let heap ← UserHeap.new heapStart
          let scheduler := scheduler.setRuntime scheduler.currentIndex
            (runtime.withImage addressSpace trapFrame heap)
          let scheduler := scheduler.clearContext scheduler.currentIndex
          let _ ← expect trapFrame.instructionPointerAddress
            "execve trap frame instruction pointer must be a user virtual address"
          let _ ← expect trapFrame.stackPointerAddress
            "execve trap frame stack pointer must be a user virtual address"
          scheduler.assertTransitionInvariants
          return (some (task.getId, oldAddressSpace), scheduler)

def currentUserAddressSpace (scheduler : Scheduler) : Panicking (Option UserAddressSpace) := do
  let task ← scheduler.currentTask
  match task.kind with
  | .kernel => return none
  | .user runtime => return if runtime.addressSpaceReclaiming then none else runtime.addressSpace

/-- `UserMappingRequest`; the raw protection and flags are only reported. -/
structure UserMappingRequest where
  placement : UserMappingPlacement
  source : UserMappingSource
  length : UserMappingLength
  writable : Bool
  deriving DecidableEq

section
variable (mapper : PageMapper)

def processCurrentUserBreak (scheduler : Scheduler) (memory : Memory)
  (request : UserHeapBreakRequest) : Panicking (Option ℕ × Scheduler × Memory) := do
  let task ← scheduler.currentTask
  match task.kind with
  | .kernel => return (none, scheduler, memory)
  | .user runtime =>
    match runtime.addressSpace with
    | none => return (none, scheduler, memory)
    | some addressSpace => do
        let (nextBreak, heap, memory) ←
          runtime.heap.processBreak mapper addressSpace memory request
        return (some nextBreak.asU64,
          scheduler.setRuntime scheduler.currentIndex { runtime with heap }, memory)

def processCurrentUserMapping {σ : Type} (scheduler : Scheduler) (memory : Memory)
  (request : UserMappingRequest) (initializePage : PageInitializer σ) (captured : σ) :
  Panicking (Except UserMappingError ℕ × Scheduler × Memory × σ) := do
  let task ← scheduler.currentTask
  match task.kind with
  | .kernel => return (.error .invalidRequest, scheduler, memory, captured)
  | .user runtime =>
    match runtime.addressSpace with
    | none => return (.error .invalidRequest, scheduler, memory, captured)
    | some addressSpace => do
        let (allocation, mappings, memory, captured) ←
          runtime.mappings.mapPrivate mapper addressSpace memory
            ⟨request.placement, request.length, request.writable, request.source⟩
            initializePage captured
        return (allocation.map (·.start.asU64),
          scheduler.setRuntime scheduler.currentIndex { runtime with mappings }, memory,
          captured)

def processCurrentUserUnmapping (scheduler : Scheduler) (memory : Memory)
  (request : UserMappingUnmapRequest) : Panicking (Option ℕ × Scheduler × Memory) := do
  let task ← scheduler.currentTask
  match task.kind with
  | .kernel => return (none, scheduler, memory)
  | .user runtime =>
    match runtime.addressSpace with
    | none => return (none, scheduler, memory)
    | some addressSpace => do
        let (unmappedPages, mappings, memory) ←
          runtime.mappings.unmapRange mapper addressSpace memory request
        return (unmappedPages.map PageCount.asU64,
          scheduler.setRuntime scheduler.currentIndex { runtime with mappings }, memory)

end
end Scheduler
end ManaOS
