/-
Syscall dispatch (`syscall.rs`).

The dispatcher runs the handler, and then records the frame, blocks the task or passes a sentinel
on.

* `runSyscall`, `syscallDispatchFromTrapFrame`: the handlers, and the dispatch.
-/
import ManaOS.Syscall.File
import ManaOS.Syscall.Memory
import ManaOS.Syscall.Process

namespace ManaOS
open Checked
namespace Kernel
variable (mapper : PageMapper)

/-- `dispatch_syscall` for every number except `execve`, which the trap-frame dispatcher handles. -/
def dispatchSyscall (kernel : Kernel) (frame : UserTrapFrame) : Panicking (ℕ × Kernel) :=
  let number := frame.rax
  if number = ManaOS.sysWrite then kernel.sysWrite mapper frame.rdi frame.rsi frame.rdx
  else if number = ManaOS.sysExit ∨ number = sysExitGroup then kernel.sysExit frame.rdi
  else if number = ManaOS.sysOpen then kernel.sysOpen mapper frame.rdi frame.rsi
  else if number = ManaOS.sysOpenat then kernel.sysOpenat mapper frame.rdi frame.rsi frame.rdx
  else if number = ManaOS.sysClose then kernel.sysClose frame.rdi
  else if number = ManaOS.sysFstat then kernel.sysFstat mapper frame.rdi frame.rsi
  else if number = ManaOS.sysLseek then kernel.sysLseek frame.rdi frame.rsi frame.rdx
  else if number = ManaOS.sysMmap then
    kernel.sysMmap mapper frame.rdi frame.rsi frame.rdx frame.r10 frame.r8 frame.r9
  else if number = ManaOS.sysMunmap then kernel.sysMunmap mapper frame.rdi frame.rsi
  else if number = ManaOS.sysBrk then kernel.sysBrk mapper frame.rdi
  else if number = ManaOS.sysNanosleep then kernel.sysNanosleep mapper frame.rdi frame.rsi
  else if number = ManaOS.sysWaitpid then
    kernel.sysWaitpid mapper frame.rdi frame.rsi frame.rdx
  else if number = ManaOS.sysRead then kernel.sysRead mapper frame.rdi frame.rsi frame.rdx
  else if number = ManaOS.sysGetdents64 then
    kernel.sysGetdents64 mapper frame.rdi frame.rsi frame.rdx
  else if number = ManaOS.sysGetcwd then kernel.sysGetcwd mapper frame.rdi frame.rsi
  else if number = ManaOS.sysGetpid then kernel.sysGetpid
  else if number = ManaOS.sysGetppid then kernel.sysGetppid
  else if number = ManaOS.sysChdir then kernel.sysChdir mapper frame.rdi
  else if number = ManaOS.sysSpawn then kernel.sysSpawn mapper frame.rdi frame.rsi frame.rdx
  else return (errorNotImplemented, kernel)

/-- The handler stage of `syscall_dispatch_from_trap_frame`. -/
def runSyscall (kernel : Kernel) (frame : UserTrapFrame) :
  Panicking (ℕ × UserTrapFrame × Kernel) :=
  if frame.rax = ManaOS.sysExecve then
    kernel.sysExecve mapper frame.rdi frame.rsi frame.rdx frame
  else do
    let (result, kernel) ← kernel.dispatchSyscall mapper frame
    return (result, frame, kernel)

/-- The selectors that the dispatcher puts into the captured frame. -/
def withSelectors (kernel : Kernel) (frame : UserTrapFrame) : UserTrapFrame :=
  { frame with codeSegment := kernel.selectors.code, stackSegment := kernel.selectors.data }

/-- `syscall_dispatch_from_trap_frame`: the result, the frame on the kernel stack and the
kernel. -/
def syscallDispatchFromTrapFrame (kernel : Kernel) (frame : UserTrapFrame) :
  Panicking (ℕ × UserTrapFrame × Kernel) := do
  let (result, frame, kernel) ← kernel.runSyscall mapper (kernel.withSelectors frame)
  if result = userExecveSentinel then return (userExecveSentinel, frame, kernel)
  else if result = userBlockSentinel then do
    let frame := { frame with rax := 0 }
    let scheduler ← kernel.scheduler.recordCurrentUserTrapFrame frame .syscall
    let (taskId, scheduler) ← scheduler.blockCurrentUserAfterSyscall
    let _ ← expect taskId
      "prepared blocking syscall must block after saving the syscall frame"
    return (userBlockSentinel, frame, { kernel with scheduler, preemptionState := .userReturn })
  else do
    let frame := { frame with rax := result }
    if result = userExitSentinel then return (result, frame, kernel)
    else do
      let scheduler ← kernel.scheduler.recordCurrentUserTrapFrame frame .syscall
      return (result, frame, { kernel with scheduler })

end Kernel
end ManaOS
