/-
Trap frames and task switching (`task/scheduler/runtime.rs`).

A context pointer of the source is the index of the task record that holds the context.

* `recordCurrentUserTrapFrame`, `prepareNextSwitch`: saving a frame, and choosing a task.
-/
import ManaOS.Task.Resources

namespace ManaOS
open Checked

def schedulerTimerQuantumTicks : ℕ := 1

inductive UserTrapFrameSource
  | syscall
  | timerInterrupt
  deriving DecidableEq

namespace UserTrapFrameSource

/-- `should_log`: the first frame of each source is reported. -/
def shouldLog (source : UserTrapFrameSource) (runtime : UserTaskRuntime) : Bool :=
  match source with
  | .syscall => !runtime.syscallFrameRecorded
  | .timerInterrupt => !runtime.interruptFrameRecorded

def markRecorded (source : UserTrapFrameSource) (runtime : UserTaskRuntime) : UserTaskRuntime :=
  match source with
  | .syscall => { runtime with syscallFrameRecorded := true }
  | .timerInterrupt => { runtime with interruptFrameRecorded := true }

end UserTrapFrameSource

inductive SwitchAction
  | switchKernel (currentContext nextContext : ℕ) (nextUserKernelStackTop : Option ℕ)
      (nextUserAddressSpace : Option UserAddressSpace)
  | enterUser (currentContext taskId : ℕ) (trapFrame : UserTrapFrame) (kernelStackTop : ℕ)
      (addressSpace : UserAddressSpace)

namespace Scheduler
variable (scheduler : Scheduler)

def recordCurrentUserTrapFrame (trapFrame : UserTrapFrame)
  (source : UserTrapFrameSource) : Panicking Scheduler := do
  let task ← scheduler.currentTask
  match task.kind with
  | .kernel => return scheduler
  | .user runtime => do
      let scheduler := scheduler.setRuntime scheduler.currentIndex
        (source.markRecorded { runtime with savedFrame := trapFrame })
      if source.shouldLog runtime then do
        let _ ← expect trapFrame.instructionPointerAddress
          "saved user trap frame instruction pointer must be a user virtual address"
        let _ ← expect trapFrame.stackPointerAddress
          "saved user trap frame stack pointer must be a user virtual address"
      return scheduler

def canSwitchCurrentTaskAway (interruptedUserMode : Bool) :
  Panicking Bool := do
  let task ← scheduler.currentTask
  match task.kind with
  | .kernel => return true
  | .user runtime => return interruptedUserMode && runtime.interruptFrameRecorded

def isFirstEntryUserCandidate (index : ℕ) : Panicking Bool := do
  let task ← scheduler.taskAt index
  match task.kind with
  | .kernel => return false
  | .user runtime =>
    return task.context.isEmpty && scheduler.isUserTaskActive task.getId &&
      runtime.hasSchedulableAddressSpace

/-- The first index of the list that passes a test of the source's search loops. -/
def firstIndex (test : ℕ → Panicking Bool) : List ℕ → Panicking (Option ℕ)
  | [] => .ok none
  | index :: rest => do
      if ← test index then return some index else firstIndex test rest

/-- The indices `(current + offset) % len` for the offsets `1..=len`. -/
def roundRobinOrder (length currentIndex : ℕ) : List ℕ :=
  (List.range length).map fun offset => (currentIndex + (offset + 1)) % length

def getNextReadyIndex (currentIndex : ℕ) : Panicking (Option ℕ) :=
  if scheduler.tasks.length < 2 then return none
  else do
    let order := roundRobinOrder scheduler.tasks.length currentIndex
    let current ← scheduler.taskAt currentIndex
    let firstEntry ←
      if current.kind.isUser then pure none
      else
        firstIndex (fun index => do
          if ← scheduler.canScheduleTask index then scheduler.isFirstEntryUserCandidate index
          else return false) order
    match firstEntry with
    | some index => return some index
    | none => firstIndex scheduler.canScheduleTask order

/-- `prepare_next_user_switch`: enter from the saved frame if the context is empty, else resume. -/
def prepareNextUserSwitch (currentContext nextIndex : ℕ) :
  Panicking SwitchAction := do
  let task ← scheduler.taskAt nextIndex
  match task.kind with
  | .kernel => .error "user tasks must own a kernel stack before entry or resume"
  | .user runtime => do
      let kernelStackTop ← expect task.kernelStackTop
        "user tasks must own a kernel stack before entry or resume"
      let addressSpace ←
        expect (if runtime.addressSpaceReclaiming then none else runtime.addressSpace)
          "user tasks must own an address space before entry or resume"
      if task.context.isEmpty then
        return .enterUser currentContext task.getId runtime.savedFrame kernelStackTop addressSpace
      else
        return .switchKernel currentContext nextIndex (some kernelStackTop) (some addressSpace)

def prepareNextSwitch (interruptedUserMode : Bool) :
  Panicking (Option SwitchAction × Scheduler) := do
  let canSwitch ← scheduler.canSwitchCurrentTaskAway interruptedUserMode
  if !canSwitch then return (none, scheduler)
  else do
    let scheduler :=
      { scheduler with
        currentTimerQuantumTicks := saturatingAdd scheduler.currentTimerQuantumTicks 1 }
    if scheduler.currentTimerQuantumTicks < schedulerTimerQuantumTicks then
      return (none, scheduler)
    else do
      let nextIndex ← scheduler.getNextReadyIndex scheduler.currentIndex
      match nextIndex with
      | none => return (none, scheduler)
      | some nextIndex =>
        if nextIndex = scheduler.currentIndex then return (none, scheduler)
        else do
          let currentIndex := scheduler.currentIndex
          let (waiting, scheduler) ← scheduler.transitionAt currentIndex TaskState.prepareToWait
          if !waiting then return (none, scheduler)
          else do
            let (running, scheduler) ← scheduler.transitionAt nextIndex TaskState.prepareToRun
            if !running then return (none, scheduler)
            else do
              let scheduler := scheduler.setCurrentIndex nextIndex
              let next ← scheduler.taskAt nextIndex
              if next.kind.isUser then do
                let action ← scheduler.prepareNextUserSwitch currentIndex nextIndex
                return (some action, scheduler)
              else
                return (some (.switchKernel currentIndex nextIndex none none), scheduler)

end Scheduler
end ManaOS
