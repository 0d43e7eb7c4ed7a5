/-
User task entry and return (`task/process_lifecycle.rs`).

`run_user_task_until_kernel_return` is cut where the CPU runs in Ring 3: `enterUserTask` is the part
before it, `returnToLifecycle` the part after it.

* `enterUserTask`, `returnToLifecycle`: the two halves of a user task's run;
* `completeUserEntry`: what is completed before Ring 3.
-/
import ManaOS.Syscall.Dispatch

namespace ManaOS
open Checked
namespace Kernel

/-! ### The user return window -/

variable (kernel : Kernel)

def beginUserReturnWindow (taskId : ℕ) : Panicking Kernel := do
  require (taskId != 0) "user return window task id must be non-zero"
  require (kernel.userReturnStack == 0)
    "user return stack must be clear before entering user mode"
  require (kernel.userReturnWindowTaskId == 0) "user return window must not already be active"
  return { kernel with userReturnWindowTaskId := taskId }

/-- `set_user_return_stack`, called by the entry stub. -/
def setUserReturnStack (stackPointer : ℕ) : Panicking Kernel := do
  require (stackPointer != 0) "user return stack pointer must be non-zero"
  require (kernel.userReturnWindowTaskId != 0)
    "user return window must be active before storing its stack"
  require (kernel.userReturnStack == 0) "user return stack must be stored exactly once per entry"
  return { kernel with userReturnStack := stackPointer }

/-- `get_user_return_stack`, called by the syscall stub after an exit or block sentinel. -/
def getUserReturnStack : Panicking Kernel := do
  require (kernel.userReturnStack != 0)
    "user return stack must be available before returning to lifecycle code"
  require (kernel.userReturnWindowTaskId != 0)
    "user return window must be active before returning to lifecycle code"
  return { kernel with userReturnStack := 0, userReturnWindowTaskId := 0 }

def assertUserReturnWindowConsumed : Panicking Unit := do
  require (kernel.userReturnStack == 0)
    "user return stack must be consumed before returning to lifecycle code"
  require (kernel.userReturnWindowTaskId == 0)
    "user return window task id must be consumed before lifecycle cleanup"

def registerUserRuntimeFrameAllocator : Panicking Kernel := do
  require (!kernel.userRuntimeFrameAllocator)
    "user runtime frame allocator must not already be registered"
  return { kernel with userRuntimeFrameAllocator := true }

def clearUserRuntimeFrameAllocator : Panicking Kernel := do
  require kernel.userRuntimeFrameAllocator
    "user runtime frame allocator must be registered before clearing"
  return { kernel with userRuntimeFrameAllocator := false }

/-- What a user task entry completed on its way. -/
structure EntryCompletion where
  waitpid : Option UserWaitpidCompletion
  read : Option ℕ

variable (mapper : PageMapper)

/-- The completions of an entry, in the entered address space: store a pending wait status, finish a
pending read. -/
def completeUserEntry (taskId : ℕ) (addressSpace : UserAddressSpace)
  (trapFrame : UserTrapFrame) (kernelStackTop : ℕ) :
  Panicking (UserTrapFrame × EntryCompletion × Kernel) := do
  let memory := switchToUserAddressSpace kernel.memory addressSpace
  let (waitpid, scheduler, memory) ←
    kernel.scheduler.completePendingUserWaitpidStatus mapper memory taskId
  let (read, kernel) ←
    { kernel with scheduler, memory }.completePendingUserRead mapper taskId
  let trapFrame :=
    match read with
    | none => trapFrame
    | some result => { trapFrame with rax := result }
  require (kernelStackTop != 0) "syscall kernel stack top must be non-zero"
  return (trapFrame, ⟨waitpid, read⟩, kernel)

/-- `run_user_task_until_kernel_return` up to Ring 3; `none` when the task cannot be entered. -/
def enterUserTask (taskId returnStack : ℕ) :
  Panicking (Option (UserTrapFrame × EntryCompletion) × Kernel) := do
  let (userTask, scheduler) ← kernel.scheduler.prepareOneShotUserTask taskId
  let kernel := { kernel with scheduler }
  match userTask with
  | none => return (none, kernel)
  | some userTask => do
      let (trapFrame, completion, kernel) ←
        kernel.completeUserEntry mapper taskId userTask.addressSpace userTask.trapFrame
          userTask.kernelStackTop
      let _ ← expect trapFrame.instructionPointerAddress
        "user trap frame instruction pointer must be a user virtual address"
      let _ ← expect trapFrame.stackPointerAddress
        "user trap frame stack pointer must be a user virtual address"
      let kernel ← kernel.beginUserReturnWindow taskId
      let kernel ← kernel.registerUserRuntimeFrameAllocator
      let kernel := { kernel with preemptionState := .enabled }
      let kernel ← kernel.setUserReturnStack returnStack
      return (some (trapFrame, completion), kernel)

/-- The return from Ring 3 and the rest of `run_user_task_until_kernel_return`. -/
def returnToLifecycle : Panicking Kernel := do
  let kernel ← kernel.getUserReturnStack
  let kernel := { kernel with preemptionState := .disabled }
  let kernel ← kernel.clearUserRuntimeFrameAllocator
  let memory ← switchToKernelAddressSpace kernel.memory
  let kernel := { kernel with memory }
  kernel.assertUserReturnWindowConsumed
  return kernel

def reclaimOneFinishedUserTask : Panicking (Option UserTaskExit × Kernel) :=
  match kernel.scheduler.takeFinishedUserExit with
  | (none, _) => return (none, kernel)
  | (some exit, scheduler) => do
      let (reclaim, scheduler, memory) ←
        scheduler.reclaimFinishedUserResources mapper kernel.memory exit.taskId
      let _ ← expect reclaim "finished user exit must reference a reclaimable user task"
      return (some exit, { kernel with scheduler, memory })

end Kernel
end ManaOS
