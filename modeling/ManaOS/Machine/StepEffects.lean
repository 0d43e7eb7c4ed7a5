/-
What the entries, ticks and syscalls of the machine do.

* `Machine.processTimerTick_ok`: a tick stays, resumes a context or enters a task;
* `Machine.syscall_ok`: a syscall returns to its caller or to the lifecycle code.
-/
import ManaOS.Machine.Step
import ManaOS.Syscall.Sentinels
import ManaOS.Task.RequestProtocol

namespace ManaOS
open Checked
namespace Kernel
variable {kernel : Kernel}

/-! ### Entry and return -/

lemma completeUserEntry_ok (h : kernel.completeUserEntry mapper taskId space frame top =
    .ok (frame', completion, kernel')) :
  ∃ scheduler memory, kernel.scheduler.completePendingUserWaitpidStatus mapper
      (switchToUserAddressSpace kernel.memory space) taskId =
        .ok (completion.waitpid, scheduler, memory) ∧
    { kernel with scheduler, memory }.completePendingUserRead mapper taskId =
      .ok (completion.read, kernel') ∧
    frame' = match completion.read with
        | none => frame
        | some result => { frame with rax := result } := by
  simp only [completeUserEntry, bind_eq_ok, Prod.exists] at h
  obtain ⟨_, scheduler, memory, hwait, _, _, hread, -, -, h⟩ := h
  cases h
  exact ⟨scheduler, memory, hwait, hread, rfl⟩

lemma completePendingUserRead_ok
  (h : kernel.completePendingUserRead mapper taskId = .ok (result, kernel')) :
  ∃ request scheduler,
    kernel.scheduler.takeCurrentUserReadRequest taskId = .ok (request, scheduler) ∧
    ((request = none ∧ result = none ∧ kernel' = { kernel with scheduler }) ∨
      ∃ found value kernel1 scheduler1, request = some found ∧ result = some value ∧
        { kernel with scheduler }.completeUserReadRequest mapper found = .ok (value, kernel1) ∧
        kernel1.scheduler.completeCurrentUserRead taskId value = .ok scheduler1 ∧
        kernel' = { kernel1 with scheduler := scheduler1 }) := by
  simp only [completePendingUserRead, bind_eq_ok, Prod.exists] at h
  obtain ⟨request, scheduler, htake, h⟩ := h
  refine ⟨request, scheduler, htake, ?_⟩
  cases request with
  | none =>
    cases h
    exact .inl ⟨rfl, rfl, rfl⟩
  | some found =>
    simp only [bind_eq_ok, Prod.exists] at h
    obtain ⟨value, kernel1, hcmpl, scheduler1, hstore, h⟩ := h
    cases h
    exact .inr ⟨found, value, kernel1, scheduler1, rfl, rfl, hcmpl, hstore, rfl⟩

lemma completeUserReadRequest_quiet
    (h : kernel.completeUserReadRequest mapper request = .ok (value, kernel')) :
    Quiet mapper kernel kernel' := by
  rw [completeUserReadRequest] at h
  split at h
  · cases h
    exact .refl _
  · obtain ⟨⟨_, _⟩, hread, h⟩ := bind_eq_ok.1 h
    cases h
    exact (readIntoBuffer_ok hread).1

/-- The kernel in Ring 3 after a lifecycle entry. -/
def entered (kernel : Kernel) (taskId returnStack : ℕ) : Kernel :=
  { kernel with
    userReturnWindowTaskId := taskId
    userRuntimeFrameAllocator := true
    preemptionState := .enabled
    userReturnStack := returnStack }

lemma enterUserTask_ok (h : kernel.enterUserTask mapper taskId returnStack = .ok (entry, kernel')) :
    (entry = none ∧ kernel' = kernel) ∨
    ∃ oneShot scheduler index task runtime current frame completion kernel1,
      kernel.scheduler.prepareOneShotUserTask taskId = .ok (some oneShot, scheduler) ∧
      Scheduler.OneShot kernel.scheduler taskId oneShot scheduler index task runtime current ∧
      { kernel with scheduler }.completeUserEntry mapper taskId oneShot.addressSpace
        oneShot.trapFrame oneShot.kernelStackTop =
        .ok (frame, completion, kernel1) ∧
      entry = some (frame, completion) ∧
      kernel' = kernel1.entered taskId returnStack := by
  simp only [enterUserTask, bind_eq_ok, Prod.exists] at h
  obtain ⟨_, scheduler, hprep, h⟩ := h
  rcases Scheduler.prepareOneShotUserTask_ok hprep with ⟨rfl, rfl⟩ |
    ⟨oneShot, index, task, runtime, current, rfl, hshot⟩
  · cases h
    exact .inl ⟨rfl, rfl⟩
  simp only [bind_eq_ok, Prod.exists, expect_eq_ok, beginUserReturnWindow,
    registerUserRuntimeFrameAllocator, setUserReturnStack, require_eq_ok, pure_eq_ok] at h
  obtain ⟨frame, completion, kernel1, hcmpl, _, -, _, -, _, ⟨-, -, -, -, -, -, rfl⟩, _,
    ⟨-, -, rfl⟩, _, ⟨-, -, -, -, -, -, rfl⟩, h⟩ := h
  cases h
  exact .inr ⟨oneShot, scheduler, index, task, runtime, current, frame, completion, kernel1,
    hprep, hshot, hcmpl, rfl, rfl⟩

lemma returnToLifecycle_ok (h : kernel.returnToLifecycle = .ok kernel') :
  ∃ memory, kernel' = { kernel with
        userReturnStack := 0
        userReturnWindowTaskId := 0
        preemptionState := .disabled
        userRuntimeFrameAllocator := false
        memory } := by
  simp only [returnToLifecycle, getUserReturnStack, clearUserRuntimeFrameAllocator,
    assertUserReturnWindowConsumed, bind_eq_ok, require_eq_ok, pure_eq_ok] at h
  obtain ⟨_, ⟨-, -, -, -, rfl⟩, _, ⟨-, -, rfl⟩, memory, -, -, -, rfl⟩ := h
  exact ⟨memory, rfl⟩

end Kernel

namespace Machine
variable {mapper : PageMapper} {machine : Machine}

lemma installNextTask_ok {kernel kernel' : Kernel} {top : Option ℕ}
  {space : Option UserAddressSpace} (h : installNextTask kernel top space = .ok kernel') :
  ∃ memory, kernel' = { kernel with memory } := by
  cases space <;> cases top <;>
    simp only [installNextTask, bind_eq_ok, require_eq_ok, pure_eq_ok] at h <;>
    grind

/-- The kernel after the sleepers of a tick have been woken. -/
def ticked (machine : Machine) (ticks : ℕ) : Kernel :=
  { machine.kernel with
    timerTicks := ticks
    scheduler := machine.kernel.scheduler.wakeSleepingUserTasks ticks }

/-- **What a tick does** once sleepers are woken: the code goes on, a context is resumed, or a user
task is entered. -/
inductive Ticks (mapper : PageMapper) (machine : Machine) (ticks : ℕ) (context : SavedContext) :
    Machine → Prop
  | stays (quantum : ℕ)
      (hcalls : (machine.ticked ticks).scheduler.Calls mapper
        { (machine.ticked ticks).scheduler with currentTimerQuantumTicks := quantum }) :
      Ticks mapper machine ticks context
      { machine with
        kernel :=
          { machine.ticked ticks with
            scheduler :=
              { (machine.ticked ticks).scheduler with currentTimerQuantumTicks := quantum } } }
  | resumes {scheduler next task current top space memory}
      (hprepare : (machine.ticked ticks).scheduler.prepareNextSwitch machine.userMode =
        .ok (some (.switchKernel machine.kernel.scheduler.currentIndex next top space), scheduler))
      (hswitch : Scheduler.TimerSwitch (machine.ticked ticks).scheduler machine.userMode
        (.switchKernel machine.kernel.scheduler.currentIndex next top space) scheduler next task
        current) :
      Ticks mapper machine ticks context
        { machine with
          kernel :=
            saveContext { machine.ticked ticks with scheduler, memory }
              machine.kernel.scheduler.currentIndex context
          userMode := space.isSome }
  | enters {scheduler next task current frame top space frame' completion kernel}
      (hprepare : (machine.ticked ticks).scheduler.prepareNextSwitch machine.userMode = .ok (some
        (.enterUser machine.kernel.scheduler.currentIndex task.getId frame top space), scheduler))
      (hswitch : Scheduler.TimerSwitch (machine.ticked ticks).scheduler machine.userMode
        (.enterUser machine.kernel.scheduler.currentIndex task.getId frame top space) scheduler
        next task current)
      (hentry : { machine.ticked ticks with scheduler }.completeUserEntry mapper task.getId space
        frame top = .ok (frame', completion, kernel)) :
      Ticks mapper machine ticks context
        { machine with
          kernel := saveContext kernel machine.kernel.scheduler.currentIndex context
          userMode := true }

lemma processTimerTick_ok {ticks : ℕ}
  (h : machine.processTimerTick mapper ticks context = .ok (machine', events)) :
  Ticks mapper machine ticks context machine' := by
  simp only [processTimerTick, bind_eq_ok] at h
  obtain ⟨_, -, h⟩ := h
  split at h
  · cases h
    exact .stays _ .refl
  obtain ⟨⟨_, _⟩, hprep, h⟩ := bind_eq_ok.1 h
  rcases Scheduler.prepareNextSwitch_ok hprep with ⟨rfl, quantum, rfl⟩ |
    ⟨switch, _, _, _, rfl, hsw⟩
  · cases h
    exact .stays quantum (.single (.prepareNextSwitch hprep))
  cases switch with
  | switchKernel currentContext _ top space =>
    obtain ⟨rfl, rfl⟩ := hsw.switchKernel_eq
    simp only [bind_eq_ok] at h
    obtain ⟨kernel, hinstall, _, -, h⟩ := h
    obtain ⟨_, rfl⟩ := installNextTask_ok hinstall
    cases h
    exact .resumes hprep hsw
  | enterUser _ _ _ _ _ =>
    obtain ⟨rfl, rfl⟩ := hsw.enterUser_eq
    obtain ⟨⟨_, _, _⟩, hent, h⟩ := bind_eq_ok.1 h
    cases h
    exact .enters hprep hsw hent

lemma syscall_ok (h : machine.syscall mapper frame = .ok (machine', events)) :
    ∃ result frame' kernel,
      machine.kernel.syscallDispatchFromTrapFrame mapper frame = .ok (result, frame', kernel) ∧
      (((result = userExitSentinel ∨ result = userBlockSentinel) ∧
        kernel.returnToLifecycle = .ok machine'.kernel ∧
        machine'.userMode = false) ∨
       (¬(result = userExitSentinel ∨ result = userBlockSentinel) ∧
        machine'.kernel = kernel ∧
        machine'.userMode = true)) := by
  simp only [syscall, bind_eq_ok, Prod.exists] at h
  obtain ⟨_, -, result, frame', kernel, hdisp, h⟩ := h
  refine ⟨result, frame', kernel, hdisp, ?_⟩
  split at h
  · next hsent =>
    obtain ⟨_, hreturn, h⟩ := bind_eq_ok.1 h
    cases h
    exact .inl ⟨hsent, hreturn, rfl⟩
  · next hsent =>
    cases h
    exact .inr ⟨hsent, rfl, rfl⟩

lemma userTimerTick_ok
  (h : machine.userTimerTick mapper frame ticks context = .ok (machine', events)) :
  ∃ scheduler events', machine.kernel.scheduler.recordCurrentUserTrapFrame frame .timerInterrupt =
    .ok scheduler ∧ processTimerTick mapper
      { machine with
        kernel := { machine.kernel with scheduler }
        trapFrames := Function.update machine.trapFrames scheduler.currentIndex frame }
      ticks context = .ok (machine', events') := by
  simp only [userTimerTick, bind_eq_ok, Prod.exists, expect_eq_ok] at h
  obtain ⟨_, -, _, -, _, -, scheduler, hrec, _, events', hproc, h⟩ := h
  cases h
  exact ⟨scheduler, events', hrec, hproc⟩

end Machine
end ManaOS
