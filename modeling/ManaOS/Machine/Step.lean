/-
The machine: the kernel state, the CPU mode and the trap frames on the kernel stacks.

One step is one input from outside.  Interrupts are off inside a syscall and a tick cannot switch a
user task away in kernel mode, so each step runs to its end and reports its `Event`s.

* `Machine.step`: the kernel's answer to one input.
-/
import ManaOS.Machine.Lifecycle

namespace ManaOS
open Checked

/-- A kernel context as `switch_context` stores it: its stack pointer is not zero. -/
structure SavedContext where
  context : TaskContext
  saved : context.isEmpty = false

/-- How Ring 3 is entered. -/
inductive EntryRoute
  | sysret
  | interruptReturn
  | lifecycleEntry
  | timerEntry
  | contextResume
  deriving DecidableEq

/-- What a step shows at the boundary between the kernel and its tasks. -/
inductive Event
  /-- A user task was created with this entry frame. -/
  | spawned (task : ℕ) (frame : UserTrapFrame)
  /-- A user task left Ring 3 with these registers. -/
  | trapped (task : ℕ) (frame : UserTrapFrame)
  /-- The syscall of a user task has this result. -/
  | completed (task result : ℕ)
  /-- `execve` gave a user task this entry frame. -/
  | replaced (task : ℕ) (frame : UserTrapFrame)
  /-- A wait of the parent returned the child with this status word. -/
  | delivered (parent child status : ℕ)
  /-- A user task was entered in Ring 3 with this frame. -/
  | entered (task : ℕ) (frame : UserTrapFrame) (route : EntryRoute)
  /-- The kernel context of a task was saved. -/
  | switchedAway (task : ℕ) (context : TaskContext)
  /-- The kernel context of a task was restored. -/
  | resumed (task : ℕ) (context : TaskContext)
  deriving DecidableEq

/-- What can reach the kernel from outside. -/
inductive Input
  | spawnKernelTask
  | spawnUserProgram (request : UserProgramSpawnRequest)
  | activateUserTask (taskId : ℕ)
  | enterUserTask (taskId returnStack : ℕ)
  | reclaimFinishedUserTask
  | collectBootstrapChild (childTaskId : Option ℕ)
  | replaceFileDescriptorTable (table : FileDescriptorTable)
  | setPreemptionEnabled (enabled : Bool)
  | kernelTimerTick (ticks : ℕ) (context : SavedContext)
  | pushStdinBytes (bytes : List UInt8)
  | wakeKeyboardReaders
  | setReservableBytes (byteLen : ℕ)
  | userStore (address : ℕ) (byte : UInt8)
  | syscall (frame : UserTrapFrame)
  | userTimerTick (frame : UserTrapFrame) (ticks : ℕ) (context : SavedContext)

/-- The CPU mode in which an input can arrive: `none` for both. -/
def Input.mode : Input → Option Bool
  | .pushStdinBytes _ | .wakeKeyboardReaders | .setReservableBytes _ => none
  | .userStore _ _ | .syscall _ | .userTimerTick _ _ _ => some true
  | _ => some false

structure Machine where
  kernel : Kernel
  userMode : Bool
  trapFrames : ℕ → UserTrapFrame

namespace Machine
variable (mapper : PageMapper)

/-- The pending runtime of a user task record. -/
def runtimeAt (kernel : Kernel) (task : ℕ) : Option UserTaskRuntime :=
  match kernel.scheduler.tasks[task]? with
  | some ⟨_, _, .user runtime, _, _⟩ => some runtime
  | _ => none

/-- The waits and sleeps of other tasks that a step completed, read off the kernel before and after.
-/
def wakeEvents (before after : Kernel) : List Event :=
  (List.range before.scheduler.tasks.length).flatMap fun task =>
    match runtimeAt before task, runtimeAt after task with
    | some old, some new =>
      (match old.waitpidCompletion, new.waitpidCompletion with
        | none, some completion => [Event.completed task completion.childTaskId]
        | _, _ => []) ++
      (if old.sleepWakeTick.isSome && new.sleepWakeTick.isNone then [Event.completed task 0]
        else [])
    | _, _ => []

/-- The events of the completions made on entry. -/
def entryEvents (task : ℕ) (completion : Kernel.EntryCompletion) : List Event :=
  (match completion.waitpid with
    | none => []
    | some wait => [.delivered task wait.childTaskId wait.waitStatus]) ++
  (match completion.read with
    | none => []
    | some result => [.completed task result])

/-- The entry frame of the user task record that a spawn pushed. -/
def spawnEvents (kernel : Kernel) : Except UserProgramSpawnError ℕ → List Event
  | .error _ => []
  | .ok task =>
    match runtimeAt kernel task with
    | none => []
    | some runtime => [.spawned task runtime.savedFrame]

/-- Save the running kernel context in a task record, as `switch_context` does. -/
def saveContext (kernel : Kernel) (task : ℕ) (context : SavedContext) : Kernel :=
  { kernel with
    scheduler := kernel.scheduler.modifyTask task fun task =>
      { task with context := context.context } }

/-- The address space and stack part of a kernel context switch. -/
def installNextTask (kernel : Kernel) (nextUserKernelStackTop : Option ℕ)
  (nextUserAddressSpace : Option UserAddressSpace) : Panicking Kernel := do
  let memory ←
    match nextUserAddressSpace with
    | some addressSpace => pure (switchToUserAddressSpace kernel.memory addressSpace)
    | none => switchToKernelAddressSpace kernel.memory
  match nextUserKernelStackTop with
  | none => pure ()
  | some kernelStackTop => require (kernelStackTop != 0) "syscall kernel stack top must be non-zero"
  return { kernel with memory }

/-- `process_timer_tick`; without a switch the interrupted code continues. -/
def processTimerTick (machine : Machine) (ticks : ℕ) (context : SavedContext) :
  Panicking (Machine × List Event) := do
  let kernel := { machine.kernel with timerTicks := ticks }
  let current ← kernel.scheduler.getCurrentTaskId
  let stay : List Event :=
    if machine.userMode then
      [.entered current (machine.trapFrames kernel.scheduler.currentIndex) .interruptReturn]
    else []
  let woken := { kernel with scheduler := kernel.scheduler.wakeSleepingUserTasks ticks }
  let wakes := wakeEvents kernel woken
  if woken.preemptionState ≠ .enabled then
    return ({ machine with kernel := woken }, wakes ++ stay)
  else do
    let (action, scheduler) ← woken.scheduler.prepareNextSwitch machine.userMode
    let kernel := { woken with scheduler }
    match action with
    | none => return ({ machine with kernel }, wakes ++ stay)
    | some (.switchKernel currentContext nextContext kernelStackTop addressSpace) => do
        let kernel ← installNextTask kernel kernelStackTop addressSpace
        let kernel := saveContext kernel currentContext context
        let next ← kernel.scheduler.taskAt nextContext
        let entered : List Event :=
          if addressSpace.isSome then
            [.entered next.getId (machine.trapFrames nextContext) .contextResume]
          else []
        return ({ machine with kernel, userMode := addressSpace.isSome },
          wakes ++ [.switchedAway currentContext context.context,
            .resumed nextContext next.context] ++ entered)
    | some (.enterUser currentContext taskId trapFrame kernelStackTop addressSpace) => do
        let (trapFrame, completion, kernel) ←
          kernel.completeUserEntry mapper taskId addressSpace trapFrame kernelStackTop
        let kernel := saveContext kernel currentContext context
        return ({ machine with kernel, userMode := true }, wakes ++ entryEvents taskId completion ++
            [.switchedAway currentContext context.context, .entered taskId trapFrame .timerEntry])

/-- A timer interrupt from Ring 3 (`kernel/interrupt.rs`): record the frame, process the tick. -/
def userTimerTick (machine : Machine) (frame : UserTrapFrame) (ticks : ℕ)
  (context : SavedContext) : Panicking (Machine × List Event) := do
  let _ ← expect frame.instructionPointerAddress
    "user timer interrupt instruction pointer must be a user virtual address"
  let _ ← expect frame.stackPointerAddress
    "user timer interrupt stack pointer must be a user virtual address"
  let task ← machine.kernel.scheduler.getCurrentTaskId
  let scheduler ← machine.kernel.scheduler.recordCurrentUserTrapFrame frame .timerInterrupt
  let machine :=
    { machine with
      kernel := { machine.kernel with scheduler }
      trapFrames := Function.update machine.trapFrames scheduler.currentIndex frame }
  let (machine, events) ← machine.processTimerTick mapper ticks context
  return (machine, .trapped task frame :: events)

/-- The registers after `sysretq`: `rcx` and `r11` hold the instruction pointer and the
flags. -/
def sysretFrame (frame : UserTrapFrame) : UserTrapFrame :=
  { frame with rcx := frame.instructionPointer, r11 := frame.cpuFlags }

/-- The wait delivery of a `waitpid` that returned a child: the record whose mark changed. -/
def waitDelivery (task : ℕ) (frame : UserTrapFrame) (before after : Kernel) : List Event :=
  if frame.rax = sysWaitpid then
    ((before.scheduler.childExitRecords.zip after.scheduler.childExitRecords).filter
      fun records => !records.1.collected && records.2.collected).map fun records =>
        .delivered task records.1.childTaskId
          (UserTaskExit.waitStatus ⟨records.1.childTaskId, records.1.exitCode⟩)
  else []

/-- `syscall_entry`: dispatch, then return to Ring 3 or to the lifecycle code. -/
def syscall (machine : Machine) (frame : UserTrapFrame) : Panicking (Machine × List Event) := do
  let before := machine.kernel
  let task ← before.scheduler.getCurrentTaskId
  let (result, returned, kernel) ← before.syscallDispatchFromTrapFrame mapper frame
  let trapFrames := Function.update machine.trapFrames before.scheduler.currentIndex returned
  let trapped : List Event := [.trapped task (before.withSelectors frame)]
  if result = userExitSentinel ∨ result = userBlockSentinel then do
    let returned ← kernel.returnToLifecycle
    return (⟨returned, false, trapFrames⟩, trapped ++ wakeEvents before kernel)
  else
    let outcome : List Event :=
      if result = userExecveSentinel then [.replaced task returned]
      else waitDelivery task frame before kernel ++ [.completed task result]
    let spawned : List Event :=
      if frame.rax = sysSpawn then spawnEvents kernel (.ok result) else []
    return (⟨kernel, true, trapFrames⟩,
      trapped ++ spawned ++ outcome ++ [.entered task (sysretFrame returned) .sysret])

/-- The whole of the kernel's answer to one input. -/
def step (machine : Machine) (input : Input) : Panicking (Machine × List Event) :=
  let kernel := machine.kernel
  match input with
  | .spawnKernelTask => do
      let (_, scheduler, memory) ← kernel.scheduler.spawn mapper kernel.memory
      return ({ machine with kernel := { kernel with scheduler, memory } }, [])
  | .spawnUserProgram request => do
      let (result, kernel) ← kernel.spawnUserProgram mapper request
      return ({ machine with kernel }, spawnEvents kernel result)
  | .activateUserTask taskId => do
      let (_, scheduler) ← kernel.scheduler.activateUserTask taskId
      return ({ machine with kernel := { kernel with scheduler } }, [])
  | .enterUserTask taskId returnStack => do
      let (entry, kernel) ← kernel.enterUserTask mapper taskId returnStack
      match entry with
      | none => return ({ machine with kernel }, [])
      | some (trapFrame, completion) =>
        return ({ machine with kernel, userMode := true },
          entryEvents taskId completion ++ [.entered taskId trapFrame .lifecycleEntry])
  | .reclaimFinishedUserTask => do
      let (_, kernel) ← kernel.reclaimOneFinishedUserTask mapper
      return ({ machine with kernel }, [])
  | .collectBootstrapChild childTaskId => do
      let (exit, scheduler) ←
        kernel.scheduler.collectWaitableChildExit bootstrapIdentifier childTaskId
      let delivered : List Event :=
        match exit with
        | none => []
        | some exit => [.delivered bootstrapIdentifier exit.taskId exit.waitStatus]
      return ({ machine with kernel := { kernel with scheduler } }, delivered)
  | .replaceFileDescriptorTable table =>
    return ({ machine with
      kernel :=
        { kernel with
          scheduler := kernel.scheduler.replaceCurrentFileDescriptorTable table } }, [])
  | .setPreemptionEnabled enabled =>
    return ({ machine with
      kernel :=
        { kernel with preemptionState := if enabled then .enabled else .disabled } }, [])
  | .kernelTimerTick ticks context => machine.processTimerTick mapper ticks context
  | .pushStdinBytes bytes =>
    let files := kernel.fileSystem.files
    return ({ machine with
      kernel :=
        { kernel with
          fileSystem :=
            { kernel.fileSystem with
              files := { files with stdinBytes := files.stdinBytes ++ bytes } } } }, [])
  | .wakeKeyboardReaders =>
    return ({ machine with
      kernel := { kernel with scheduler := kernel.scheduler.wakeKeyboardReaders.2 } }, [])
  | .setReservableBytes byteLen =>
    return ({ machine with kernel := { kernel with reservableBytes := byteLen } }, [])
  | .userStore address byte =>
    match (UserVirtualRange.fromSyscallArguments address 1).map UserWritableRange.mk with
    | none => return (machine, [])
    | some range =>
      if isUserRangeMappedWritable mapper kernel.memory range then
        return ({ machine with
          kernel :=
            { kernel with memory := kernel.memory.storeUserBytes mapper address [byte] } },
          [])
      else return (machine, [])
  | .syscall frame => machine.syscall mapper frame
  | .userTimerTick frame ticks context => machine.userTimerTick mapper frame ticks context

end Machine
end ManaOS
