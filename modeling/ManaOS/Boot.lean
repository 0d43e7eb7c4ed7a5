/-
A kernel after boot, and short runs on it.

* `bootKernel`, `bootRequest`: the kernel after boot and a first program.
-/
import ManaOS.Memory.WalkMapper
import ManaOS.Process

namespace ManaOS
open Checked

def bootKernel : Kernel where
  memory := bootMemory
  scheduler := .new
  fileSystem := ⟨[], ⟨fun _ => [], [], fun _ => heapSize⟩, .new⟩
  timerTicks := 0
  selectors := ⟨0x33, 0x2b⟩
  preemptionState := .disabled
  userRuntimeFrameAllocator := false
  userReturnStack := 0
  userReturnWindowTaskId := 0
  reservableBytes := 2 ^ 20

/-- A descriptor table with the keyboard as descriptor zero. -/
def keyboardTable : FileDescriptorTable :=
  ⟨[some ⟨.keyboardInputDevice, 0, false⟩], by decide⟩

/-- A spawn request whose image, stack and heap all start at the program base. -/
def bootRequest : Scheduler.UserTaskSpawnRequest := let base : UserVirtualAddress :=
  ⟨userProgramBase, userProgramBase_ne_zero, userProgramBase_lt_end⟩
  ⟨⟨⟨pageSize, Nat.mod_self pageSize⟩⟩, base, base, base, ⟨0, base, base⟩⟩

end ManaOS
