/-
Task states, saved contexts and user register frames (`task/state.rs`, `task/context/*.rs`,
`task/user_mode.rs`).

* `TaskState`, `UserTrapFrame`: what is saved of a task.
-/
import ManaOS.Memory.Address

namespace ManaOS
open Checked

inductive TaskState
  | ready
  | running
  | blocked
  | finished
  deriving DecidableEq

namespace TaskState

def isReady (state : TaskState) : Bool := state == .ready

/-- What the transition methods share: move from one state to another, or refuse. -/
def transition (source target state : TaskState) : Option TaskState :=
  if state = source then some target else none

def prepareToRun : TaskState → Option TaskState := transition .ready .running

def prepareToWait : TaskState → Option TaskState := transition .running .ready

def prepareToBlock : TaskState → Option TaskState := transition .running .blocked

def resumeBlocked : TaskState → Option TaskState := transition .blocked .running

def wakeBlocked : TaskState → Option TaskState := transition .blocked .ready

def finishRunning : TaskState → Option TaskState := transition .running .finished

lemma transition_eq_some {source target state next : TaskState} :
  transition source target state = some next ↔ state = source ∧ next = target := by
  rw [transition]
  split <;> simp_all [eq_comm]

lemma transition_eq_none {source target state : TaskState} :
  transition source target state = none ↔ state ≠ source := by
  rw [transition]
  split <;> simp_all

end TaskState

/-- `TaskContext`: the saved callee-saved registers of a kernel context. -/
structure TaskContext where
  stackPointer : ℕ := 0
  register15 : ℕ := 0
  register14 : ℕ := 0
  register13 : ℕ := 0
  register12 : ℕ := 0
  registerBx : ℕ := 0
  basePointer : ℕ := 0
  flags : ℕ := 0x202
  deriving DecidableEq

namespace TaskContext

/-- `TaskContext::new`; `clear` stores the same value. -/
def new : TaskContext := {}

def isEmpty (context : TaskContext) : Bool := context.stackPointer == 0

/-- `TaskContext::from_stack`: the context that returns into the task's entry. -/
def fromStack (stackTop : ℕ) : TaskContext := { stackPointer := stackTop / 16 * 16 - 16 }

end TaskContext

structure UserTrapFrame where
  instructionPointer : ℕ := 0
  codeSegment : ℕ := 0
  cpuFlags : ℕ := 0
  stackPointer : ℕ := 0
  stackSegment : ℕ := 0
  rax : ℕ := 0
  rbx : ℕ := 0
  rcx : ℕ := 0
  rdx : ℕ := 0
  rsi : ℕ := 0
  rdi : ℕ := 0
  rbp : ℕ := 0
  r8 : ℕ := 0
  r9 : ℕ := 0
  r10 : ℕ := 0
  r11 : ℕ := 0
  r12 : ℕ := 0
  r13 : ℕ := 0
  r14 : ℕ := 0
  r15 : ℕ := 0
  deriving DecidableEq

namespace UserTrapFrame

def instructionPointerAddress (frame : UserTrapFrame) : Option UserVirtualAddress :=
  UserVirtualAddress.new frame.instructionPointer

def stackPointerAddress (frame : UserTrapFrame) : Option UserVirtualAddress :=
  UserVirtualAddress.new frame.stackPointer

end UserTrapFrame

structure UserModeSelectors where
  data : ℕ
  code : ℕ
  deriving DecidableEq

structure UserEntryArguments where
  argumentCount : ℕ
  argumentValuesPointer : UserVirtualAddress
  environmentValuesPointer : UserVirtualAddress
  deriving DecidableEq

/-- `UserTaskContext::new` followed by `to_trap_frame`, which is all its callers do with it. -/
def userEntryFrame (selectors : UserModeSelectors) (entryPoint stackTop : UserVirtualAddress)
  (arguments : UserEntryArguments) : Panicking UserTrapFrame := do
  require (selectors.code ≠ 0 && selectors.data ≠ 0)
    "user-mode selectors must be registered before spawning user tasks"
  return {
    instructionPointer := entryPoint.asU64
    codeSegment := selectors.code
    cpuFlags := 0x202
    stackPointer := stackTop.asU64
    stackSegment := selectors.data
    rdi := arguments.argumentCount
    rsi := arguments.argumentValuesPointer.asU64
    rdx := arguments.environmentValuesPointer.asU64 }

end ManaOS
