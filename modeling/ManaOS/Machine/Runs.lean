/-
Runs of the machine, from the boot code on, with one step per input.

* `Settled.step` (**one step**): every step keeps the invariant of all runs;
* `Reachable.settled` (**all runs**): every reached machine is settled.
-/
import ManaOS.Machine.Completion
import ManaOS.Syscall.Advances

namespace ManaOS
open Checked Scheduler Kernel

/-- The calls that set the scheduler up before the lifecycle code runs. -/
inductive Scheduler.BootCall (mapper : PageMapper) : Scheduler → Scheduler → Prop
  | spawn {s s' memory memory' taskId}
      (h : s.spawn mapper memory = .ok (taskId, s', memory')) : BootCall mapper s s'
  | spawnUserTask {s s' memory memory' selectors request taskId}
      (h : s.spawnUserTask mapper memory selectors request = .ok (taskId, s', memory')) :
      BootCall mapper s s'
  | activateUserTask {s s' taskId activated}
      (h : s.activateUserTask taskId = .ok (activated, s')) : BootCall mapper s s'
  | replaceCurrentFileDescriptorTable (s : Scheduler) (table : FileDescriptorTable) :
      BootCall mapper s (s.replaceCurrentFileDescriptorTable table)

lemma Scheduler.BootCall.advances (h : Scheduler.BootCall mapper s s') :
  Scheduler.Advances mapper s s' := by
  cases h with
  | spawn h => exact .spawn h
  | spawnUserTask h => exact .spawnUserTask h
  | activateUserTask h => exact .activateUserTask h
  | replaceCurrentFileDescriptorTable table => exact .replaceCurrentFileDescriptorTable s table

/-- The time that a timer tick brings. -/
def Input.tick : Input → Option ℕ
  | .kernelTimerTick ticks _ | .userTimerTick _ ticks _ => some ticks
  | _ => none

namespace Kernel
variable {kernel : Kernel}

lemma spawnUserProgram_advances
    (h : kernel.spawnUserProgram mapper request = .ok (result, kernel')) :
    Scheduler.Advances mapper kernel.scheduler kernel'.scheduler := by
  rw [spawnUserProgram] at h
  split at h
  · next hload =>
    cases h
    exact (loadProgramImage_quiet hload).advances
  next hload =>
  obtain ⟨⟨_, _⟩, hspawn, h⟩ := bind_eq_ok.1 h
  cases h
  exact (loadProgramImage_quiet hload).advances.trans (spawnFromImage_advances hspawn)

lemma reclaimOneFinishedUserTask_advances
    (h : kernel.reclaimOneFinishedUserTask mapper = .ok (exit, kernel')) :
    Scheduler.Advances mapper kernel.scheduler kernel'.scheduler := by
  rw [reclaimOneFinishedUserTask] at h
  split at h
  · cases h
    exact .refl _
  next _ scheduler htake =>
  have htaken : kernel.scheduler.takeFinishedUserExit.2 = scheduler := by rw [htake]
  simp only [bind_eq_ok, Prod.exists] at h
  obtain ⟨_, _, _, hrecl, _, -, h⟩ := h
  cases h
  have hpopped : Scheduler.Advances mapper kernel.scheduler scheduler := by
    rw [← htaken]
    exact .takeFinishedUserExit _
  exact hpopped.trans (.reclaimFinishedUserResources hrecl)

end Kernel

namespace Machine
variable {mapper : PageMapper} {machine machine' : Machine} {events : List Event}

/-- A machine that the boot code has set up: kernel mode, no return window. -/
structure Booted (mapper : PageMapper) (machine : Machine) : Prop where
  scheduler : Relation.ReflTransGen (Scheduler.BootCall mapper) .new machine.kernel.scheduler
  userMode : machine.userMode = false
  userReturnStack : machine.kernel.userReturnStack = 0
  userReturnWindowTaskId : machine.kernel.userReturnWindowTaskId = 0
  userRuntimeFrameAllocator : machine.kernel.userRuntimeFrameAllocator = false

/-- An input that arrives in the mode of the CPU. -/
def Arrives (machine : Machine) (input : Input) : Prop :=
  ∀ mode, input.mode = some mode → mode = machine.userMode

/-- One step on an input that can arrive. -/
def Next (mapper : PageMapper) (machine machine' : Machine) : Prop :=
  ∃ input events, machine.Arrives input ∧ machine.step mapper input = .ok (machine', events)

/-- A machine reached from the boot code. -/
def Reachable (mapper : PageMapper) (machine : Machine) : Prop :=
  ∃ booted, Booted mapper booted ∧ Relation.ReflTransGen (Next mapper) booted machine

/-- **The invariant of all runs.** -/
structure Settled (mapper : PageMapper) (machine : Machine) : Prop where
  reachable : machine.kernel.scheduler.Reachable mapper
  order : machine.kernel.scheduler.InOrder
  user : machine.userMode = true → machine.kernel.scheduler.runsUser = true

/-- Blocked user tasks have a request, and the kernel returns from Ring 3 to a kernel task. -/
structure Exact (machine : Machine) : Prop where
  asks : machine.kernel.scheduler.Asks
  kernel : machine.userMode = false → machine.kernel.scheduler.runsUser = false

/-- **What a step keeps**: the protocol, the sleepers and, if genuine, the requests of blocked
tasks. -/
structure Keeps (mapper : PageMapper) (machine machine' : Machine) (genuine : Prop) : Prop where
  calls : machine.kernel.scheduler.Calls mapper machine'.kernel.scheduler
  order : machine'.kernel.scheduler.InOrder
  user : machine'.userMode = true → machine'.kernel.scheduler.runsUser = true
  rests : ∀ (i : ℕ) (standing : Standing), machine.kernel.scheduler.standing? i = some standing →
    standing.Sleeps → machine'.kernel.scheduler.standing? i = some standing
  exact : genuine → machine.Exact → machine'.Exact

variable {genuine : Prop} {input : Input}

lemma Settled.keeps (h : Settled mapper machine)
  (hadv : Scheduler.Advances mapper machine.kernel.scheduler machine'.kernel.scheduler)
  (hmode : machine'.userMode = machine.userMode) : Keeps mapper machine machine' genuine where
  calls := hadv.calls
  order := hadv.order h.order
  user := fun huser => by
    rw [hadv.runsUser]
    exact h.user (hmode ▸ huser)
  rests := hadv.calm.rests
  exact := fun _ hex =>
    ⟨hex.asks.calm hadv.calm, fun hker => by
      rw [hadv.runsUser]
      exact hex.kernel (hmode ▸ hker)⟩

lemma Settled.enterUserTask (h : Settled mapper machine) (hmode : machine.userMode = false)
  {taskId returnStack : ℕ} {entry : Option (UserTrapFrame × Kernel.EntryCompletion)}
  {kernel : Kernel}
  (henter : machine.kernel.enterUserTask mapper taskId returnStack = .ok (entry, kernel))
  : Keeps mapper machine { machine with kernel, userMode := entry.isSome } genuine := by
  have hs := h.reachable.sound
  rcases enterUserTask_ok henter with ⟨rfl, rfl⟩ |
    ⟨_, scheduler, index, _, _, current, _, _, kernel1, hprep, hshot, hcmpl, rfl, rfl⟩
  · exact h.keeps (.refl _) hmode.symm
  have hreach : scheduler.Reachable mapper := h.reachable.tail (.prepareOneShotUserTask hprep)
  have htask : taskId = scheduler.currentIndex := by
    obtain ⟨found, hfound, hid⟩ := getTaskIndex_eq_some hshot.getTaskIndex
    rw [hshot.currentIndex_eq, ← hid, h.reachable.engaged.identified index found hfound]
  have hent := h.order.oneShot hs hshot
  have hfin : Scheduler.Finishes scheduler kernel1.scheduler :=
    completeUserEntry_finishes hreach hent htask hcmpl
  have hcalm : Scheduler.Calm scheduler kernel1.scheduler := hfin.calm hreach.sound
  have huser : kernel1.scheduler.runsUser = true := by
    obtain ⟨_, hruns, -⟩ := hfin.runs
    exact hruns.runsUser
  have hcalls : machine.kernel.scheduler.Calls mapper scheduler :=
    .single (.prepareOneShotUserTask hprep)
  refine ⟨hcalls.trans (completeUserEntry_calls hcmpl), hfin.inOrder hent.others,
    fun _ => huser, fun i standing hi hslp => ?_, fun _ hex => ⟨?_, fun hker => ?_⟩⟩
  · exact hcalm.rests i standing (hshot.rests hs hi hslp) hslp
  · refine (hex.asks.oneShot hshot ?_).calm hcalm
    cases hk : current.kind with
    | kernel => rfl
    | user found =>
      have hcur : machine.kernel.scheduler.CurrentUser current found := ⟨hshot.current_eq, hk⟩
      have hno := hex.kernel hmode
      rw [hcur.runsUser] at hno
      cases hno
  · cases hker

/-! ### Ticks -/

section
variable {s : Scheduler}

lemma ready_of_timerSwitch
    (hsw : Scheduler.TimerSwitch s interruptedUserMode action s' next task current)
    (hi : s'.standing? s.currentIndex = some standing) : standing.state = .ready := by
  obtain ⟨_, rfl⟩ := hsw.result
  rw [standing?_handOff] at hi
  obtain ⟨_, -, rfl⟩ := Option.map_eq_some_iff.1 hi
  have hne : next ≠ s.currentIndex := hsw.ne.symm
  simp only [if_neg hne, if_true]

lemma calm_of_timerSwitch (hs : s.table.Sound)
  (hsw : Scheduler.TimerSwitch s interruptedUserMode action s' next task current) :
  Scheduler.Calm s s' := by
  have hcalm : Scheduler.Calm s (s.handOff .ready next) := by
    refine .handOff hs fun old hold => ?_
    rw [standing?_of hsw.schedulable.task_eq] at hold
    cases hold
    rw [Task.standing, hsw.schedulable.ready]
    exact TaskState.noConfusion
  refine hcalm.trans (.congr ?_)
  obtain ⟨_, rfl⟩ := hsw.result
  exact standing?_of_tasks rfl

lemma runsUser_of_timerSwitch
    (hsw : Scheduler.TimerSwitch s interruptedUserMode action s' next task current) :
    s'.runsUser = task.kind.isUser := by
  obtain ⟨quantum, rfl⟩ := hsw.result
  rw [runsUser]
  show (((handOff _ _ next).standing? next).bind Standing.runtime).isSome = _
  rw [standing?_handOff]
  have hnext : standing? { s with currentTimerQuantumTicks := quantum } next =
    some task.standing := standing?_of hsw.schedulable.task_eq
  rw [hnext, TaskKind.isUser_eq_view]
  rfl

lemma isUser_of_switchKernel
    (hsw : Scheduler.TimerSwitch s interruptedUserMode
        (.switchKernel currentContext nextContext top space) s' next task current) :
    task.kind.isUser = space.isSome ∧ (task.kind = .kernel ∨ task.context.isEmpty = false) := by
  cases hk : task.kind with
  | kernel =>
    have hact := hsw.action_kernel hk
    cases hact
    exact ⟨rfl, .inl rfl⟩
  | user runtime =>
    obtain ⟨_, _, -, hact⟩ := hsw.action_user runtime hk
    split at hact
    · cases hact
    · next hempty =>
      cases hact
      exact ⟨rfl, .inr (by simpa using hempty)⟩

lemma isUser_of_enterUser
    (hsw :
      Scheduler.TimerSwitch s interruptedUserMode (.enterUser currentContext taskId frame top space)
        s' next task current) :
    ∃ runtime, task.kind = .user runtime := by
  cases hk : task.kind with
  | kernel => cases hsw.action_kernel hk
  | user runtime => exact ⟨runtime, rfl⟩

end

lemma runsUser_saveContext (s : Scheduler) (i : ℕ) (context : TaskContext) :
  (s.modifyTask i ({ · with context })).runsUser = s.runsUser := by
  rw [runsUser, runsUser]
  show (((s.modifyTask i ({ · with context })).standing? s.currentIndex).bind
    Standing.runtime).isSome = _
  rw [standing?_saveContext]
  cases s.standing? s.currentIndex with
  | none => rfl
  | some _ =>
    simp only [Option.map_some, Option.bind_some]
    split <;> rfl

/-- **A tick keeps the protocol**, once its sleepers have been woken. -/
lemma Settled.ticks {ticks : ℕ} (h : Settled mapper { machine with kernel := machine.ticked ticks })
  (hticks : Ticks mapper machine ticks context machine') :
  Keeps mapper { machine with kernel := machine.ticked ticks } machine' genuine := by
  have hs : (machine.ticked ticks).scheduler.table.Sound := h.reachable.sound
  cases hticks with
  | stays _ hcalls => exact h.keeps (.of_standing hcalls rfl (standing?_of_tasks rfl)) rfl
  | @resumes scheduler next task current top space _ hprep hsw =>
    obtain ⟨hidx, hstand, horder, -⟩ := h.order.timerSwitch hs hsw
    obtain ⟨huser, hsaved⟩ := isUser_of_switchKernel hsw
    have hruns : (modifyTask scheduler machine.kernel.scheduler.currentIndex
      ({ · with context := context.context })).runsUser = space.isSome := by
      rw [runsUser_saveContext, runsUser_of_timerSwitch hsw, huser]
    have hcalm : Scheduler.Calm (machine.ticked ticks).scheduler
      (modifyTask scheduler machine.kernel.scheduler.currentIndex
        ({ · with context := context.context })) := by
      refine (calm_of_timerSwitch hs hsw).trans (.saveContext fun old hold => ?_)
      rw [ready_of_timerSwitch hsw hold]
      exact TaskState.noConfusion
    have hcalls : (machine.ticked ticks).scheduler.Calls mapper scheduler :=
      .single (.prepareNextSwitch hprep)
    refine ⟨hcalls.tail (.saveContext _ _ _), ?_, fun _ => ?_, hcalm.rests,
      fun _ hex => ⟨hex.asks.calm hcalm, fun hker => hruns.trans hker⟩⟩
    · refine (horder hsaved).saveContext fun standing runtime hi hrt => ?_
      rw [hstand] at hi
      exact h.order.clear_of_handOff hs hi hrt
    · next hmode => exact hruns.trans hmode
  | @enters scheduler next task current frame top space frame' completion kernel hprep hsw
      hent =>
      obtain ⟨hidx, hstand, -, hentering⟩ := h.order.timerSwitch hs hsw
      have hcalls : (machine.ticked ticks).scheduler.Calls mapper scheduler :=
        .single (.prepareNextSwitch hprep)
      have hreach : scheduler.Reachable mapper := h.reachable.trans hcalls
      obtain ⟨runtime, hk⟩ := isUser_of_enterUser hsw
      have hrun := hentering runtime hk
      have htask : task.getId = scheduler.currentIndex := by
        rw [hidx]
        exact h.reachable.engaged.identified next task hsw.schedulable.task_eq
      have hfin : Scheduler.Finishes scheduler kernel.scheduler :=
        completeUserEntry_finishes hreach hrun htask hent
      -- the completions leave the task that was switched away alone
      have hleft : kernel.scheduler.standing? machine.kernel.scheduler.currentIndex =
        scheduler.standing? machine.kernel.scheduler.currentIndex := by
        refine hfin.others _ ?_
        rw [hidx]
        exact hsw.ne
      have hcalm : Scheduler.Calm (machine.ticked ticks).scheduler
        (modifyTask kernel.scheduler machine.kernel.scheduler.currentIndex
          ({ · with context := context.context })) := by
        refine ((calm_of_timerSwitch hs hsw).trans (hfin.calm hreach.sound)).trans
          (.saveContext fun old hold => ?_)
        rw [hleft] at hold
        rw [ready_of_timerSwitch hsw hold]
        exact TaskState.noConfusion
      have hruns : (modifyTask kernel.scheduler machine.kernel.scheduler.currentIndex
        ({ · with context := context.context })).runsUser = true := by
        obtain ⟨_, hruns, -⟩ := hfin.runs
        rw [runsUser_saveContext, hruns.runsUser]
      refine ⟨(hcalls.trans (completeUserEntry_calls hent)).tail (.saveContext _ _ _), ?_,
        fun _ => hruns, hcalm.rests, fun _ hex => ⟨hex.asks.calm hcalm, fun hker => ?_⟩⟩
      · refine (hfin.inOrder hrun.others).saveContext
          fun standing runtime hi hrt => ?_
        rw [hleft, hstand] at hi
        exact h.order.clear_of_handOff hs hi hrt
      · cases hker

lemma Settled.ticked (h : Settled mapper machine) (ticks : ℕ) :
  Settled mapper { machine with kernel := machine.ticked ticks } ∧
  (machine.Exact → Exact { machine with kernel := machine.ticked ticks }) := by
  have hruns : (machine.ticked ticks).scheduler.runsUser = machine.kernel.scheduler.runsUser :=
    runsUser_wakeSleepingUserTasks _ _
  refine ⟨⟨h.reachable.tail (.wakeSleepingUserTasks _ ticks), h.order.wakeSleepingUserTasks ticks,
    fun huser => hruns.trans (h.user huser)⟩, fun hex => ⟨?_, fun hker => ?_⟩⟩
  · exact hex.asks.of_waits fun i standing => waits_wakeSleepingUserTasks
  · exact hruns.trans (hex.kernel hker)

lemma Settled.syscall (h : Settled mapper machine) (hmode : machine.userMode = true)
  (hsyscall : machine.syscall mapper frame = .ok (machine', events)) :
  Keeps mapper machine machine' (¬ Kernel.SeeksToExit machine.kernel frame) := by
  have huser := h.user hmode
  obtain ⟨result, _, kernel, hdisp, hreturn⟩ := syscall_ok hsyscall
  have hcalls := syscallDispatchFromTrapFrame_calls h.reachable.sound hdisp
  have hsched : machine'.kernel.scheduler = kernel.scheduler := by
    rcases hreturn with ⟨-, hlifecycle, -⟩ | ⟨-, rfl, -⟩
    · obtain ⟨_, heq⟩ := returnToLifecycle_ok hlifecycle
      rw [heq]
    · rfl
  have hkernelMode : result = userExitSentinel ∨ result = userBlockSentinel →
    machine'.userMode = false := fun hsent => by
    rcases hreturn with ⟨-, -, hmode⟩ | ⟨hno, -, -⟩
    · exact hmode
    · exact absurd hsent hno
  rw [← hsched] at hcalls
  rcases syscallDispatchFromTrapFrame_protocol h.reachable h.order hdisp with
    ⟨hreturns, hblock, hadv⟩ | ⟨rfl, hexits⟩ |
    ⟨asked, view, recorded, rfl, hcalm, hs, hasking, hpend, heq⟩
  · rw [← hsched] at hadv
    refine ⟨hcalls, hadv.order h.order, fun _ => hadv.runsUser.trans huser,
      hadv.calm.rests, fun hseek hex => ⟨hex.asks.calm hadv.calm, fun hker => ?_⟩⟩
    rcases hreturns with hforged | hexit
    · exact absurd hforged hseek
    rcases hreturn with ⟨hsent, -, -⟩ | ⟨-, -, huserMode⟩
    · exact absurd hsent (by simp [hexit, hblock])
    · rw [huserMode] at hker
      cases hker
  · rw [← hsched] at hexits
    have hker := hkernelMode (.inl rfl)
    refine ⟨hcalls, hexits.order h.order, fun hno => ?_, hexits.calm.rests, fun _ hex =>
      ⟨hex.asks.calm hexits.calm, fun _ => hexits.runsUser huser⟩⟩
    rw [hker] at hno
    cases hno
  rw [← hsched] at heq
  have hker := hkernelMode (.inr rfl)
  have hreach' : machine'.kernel.scheduler.Reachable mapper := h.reachable.trans hcalls
  have hsound : (asked.setRuntime asked.currentIndex recorded).table.Sound := by
    obtain ⟨_, _, hcur, -⟩ := hasking.runs.currentUser
    rw [hcur.table_setRuntime]
    exact hs
  have hsto : Scheduler.Calm asked (asked.setRuntime asked.currentIndex recorded) :=
    .setRuntime_current hs recorded
  refine ⟨hcalls, ?_, fun hno => ?_, fun i standing hi hslp => ?_, fun _ hex => ⟨?_, fun _ => ?_⟩⟩
  · rw [heq]
    exact hasking.blocked hs hpend
  · rw [hker] at hno
    cases hno
  · rw [heq]
    exact standing?_blocked_of_sleeps hsound
      ((hcalm.trans hsto).rests i standing hi hslp) hslp
  · rw [heq]
    exact (hex.asks.calm hcalm).blocked (by rw [hpend]; exact hasking.count)
  · refine runsUser_of_first hreach'.sound ?_
    rw [heq]
    rfl

/-! ### Steps -/

/-- No seek of this step forges an exit. -/
def Spares (machine : Machine) (input : Input) : Prop :=
  ∀ frame, input = .syscall frame → ¬ Kernel.SeeksToExit machine.kernel frame

/-- What a step keeps, ticks included: a sleeper stands as before unless its tick has come. -/
structure StepKeeps (mapper : PageMapper) (machine : Machine) (input : Input)
    (machine' : Machine) : Prop where
  settled : Settled mapper machine'
  exact : machine.Spares input → machine.Exact → machine'.Exact
  rests : ∀ (i : ℕ) (standing : Standing) (runtime : RuntimeView) (wakeTick : ℕ),
    machine.kernel.scheduler.standing? i = some standing → standing.Sleeps → standing.runtime =
    some runtime → runtime.sleepWakeTick = some wakeTick → machine'.kernel.scheduler.standing? i =
    some standing ∨ ∃ tick, input.tick = some tick ∧ wakeTick ≤ tick

lemma Keeps.stepKeeps (h : Settled mapper machine) (hkeeps : Keeps mapper machine machine' genuine)
  (hgenuine : machine.Spares input → genuine) : StepKeeps mapper machine input machine' where
  settled := ⟨h.reachable.trans hkeeps.calls, hkeeps.order, hkeeps.user⟩
  exact := fun hspares => hkeeps.exact (hgenuine hspares)
  rests := fun i standing _ _ hi hslp _ _ => .inl (hkeeps.rests i standing hi hslp)

lemma StepKeeps.of_advances {before : Machine} (htick : input.tick = some ticks)
  (hadv : Scheduler.Advances mapper before.kernel.scheduler machine.kernel.scheduler)
  (hmode : machine.userMode = before.userMode) (h : Settled mapper machine)
  (hticks : Ticks mapper machine ticks context machine') :
  StepKeeps mapper before input machine' := by
  obtain ⟨hticked, hex⟩ := h.ticked ticks
  have hkeeps : Keeps mapper _ machine' True := hticked.ticks hticks
  refine ⟨⟨hticked.reachable.trans hkeeps.calls, hkeeps.order, hkeeps.user⟩, fun _ hbef => ?_,
    fun i standing runtime wakeTick hi hslp hrt hwake => ?_⟩
  · refine hkeeps.exact trivial (hex ⟨hbef.asks.calm hadv.calm, fun hker => ?_⟩)
    rw [hadv.runsUser]
    exact hbef.kernel (hmode ▸ hker)
  rcases Nat.lt_or_ge ticks wakeTick with hlt | hge
  · have hrests := hadv.calm.rests i standing hi hslp
    exact .inl (hkeeps.rests i standing (standing?_wakeSleeping_of_lt hrests hrt hwake hlt) hslp)
  · exact .inr ⟨ticks, htick, hge⟩

/-- **Every step keeps the invariant of all runs.** -/
theorem Settled.step (h : Settled mapper machine) (harr : machine.Arrives input)
  (hstep : machine.step mapper input = .ok (machine', events)) :
  StepKeeps mapper machine input machine' := by
  have hs := h.reachable.sound
  have hadvance : ∀ {kernel : Kernel},
    Scheduler.Advances mapper machine.kernel.scheduler kernel.scheduler →
    StepKeeps mapper machine input { machine with kernel } := by
    intro kernel hadv
    have hkeeps : Keeps mapper machine { machine with kernel } True := h.keeps hadv rfl
    exact hkeeps.stepKeeps h fun _ => trivial
  cases input with
  | spawnKernelTask =>
    simp only [Machine.step, bind_eq_ok, Prod.exists] at hstep
    obtain ⟨_, scheduler, _, hspawn, hstep⟩ := hstep
    cases hstep
    exact hadvance (.spawn hspawn)
  | spawnUserProgram _ =>
    simp only [Machine.step, bind_eq_ok, Prod.exists] at hstep
    obtain ⟨_, kernel, hspawn, hstep⟩ := hstep
    cases hstep
    exact hadvance (spawnUserProgram_advances hspawn)
  | activateUserTask taskId =>
    simp only [Machine.step, bind_eq_ok, Prod.exists] at hstep
    obtain ⟨_, scheduler, hactv, hstep⟩ := hstep
    cases hstep
    exact hadvance (.activateUserTask hactv)
  | enterUserTask _ _ =>
    have hmode : machine.userMode = false := (harr false rfl).symm
    simp only [Machine.step, bind_eq_ok, Prod.exists] at hstep
    obtain ⟨entry, kernel, henter, hstep⟩ := hstep
    have hkeeps : Keeps mapper machine _ True := h.enterUserTask hmode henter
    have hmach : machine' = { machine with kernel, userMode := entry.isSome } := by
      cases entry with
      | none =>
        cases hstep
        rw [Option.isSome_none, ← hmode]
      | some _ =>
        cases hstep
        rfl
    rw [hmach]
    exact hkeeps.stepKeeps h fun _ => trivial
  | reclaimFinishedUserTask =>
    simp only [Machine.step, bind_eq_ok, Prod.exists] at hstep
    obtain ⟨_, kernel, hrecl, hstep⟩ := hstep
    cases hstep
    exact hadvance (reclaimOneFinishedUserTask_advances hrecl)
  | collectBootstrapChild _ =>
    simp only [Machine.step, bind_eq_ok, Prod.exists] at hstep
    obtain ⟨_, scheduler, hcoll, hstep⟩ := hstep
    cases hstep
    exact hadvance (.collectWaitableChildExit hcoll)
  | replaceFileDescriptorTable table =>
    cases hstep
    exact hadvance (.replaceCurrentFileDescriptorTable _ table)
  | setPreemptionEnabled _ =>
    cases hstep
    exact hadvance (.refl _)
  | kernelTimerTick ticks context =>
    exact .of_advances rfl (.refl _) rfl h (processTimerTick_ok hstep)
  | pushStdinBytes _ =>
    cases hstep
    exact hadvance (.refl _)
  | wakeKeyboardReaders =>
    cases hstep
    exact hadvance (.wakeKeyboardReaders _)
  | setReservableBytes _ =>
    cases hstep
    exact hadvance (.refl _)
  | userStore _ _ =>
    rw [Machine.step] at hstep
    split at hstep
    · cases hstep
      exact hadvance (.refl _)
    · split at hstep <;>
      · cases hstep
        exact hadvance (.refl _)
  | syscall frame =>
    have hmode : machine.userMode = true := (harr true rfl).symm
    exact (h.syscall hmode hstep).stepKeeps h fun hspares => hspares frame rfl
  | userTimerTick frame _ _ =>
    obtain ⟨scheduler, _, hrec, hproc⟩ := userTimerTick_ok hstep
    have hadv : Scheduler.Advances mapper machine.kernel.scheduler scheduler := .record hs hrec
    have hrecorded : Settled mapper
      { machine with
        kernel := { machine.kernel with scheduler }
        trapFrames := Function.update machine.trapFrames scheduler.currentIndex frame } :=
      ⟨h.reachable.trans hadv.calls, hadv.order h.order, fun huser =>
        hadv.runsUser.trans (h.user huser)⟩
    refine StepKeeps.of_advances ?_ ?_ ?_ hrecorded (processTimerTick_ok hproc)
    exacts [rfl, hadv, rfl]

lemma advances_of_bootCalls (h : Relation.ReflTransGen (Scheduler.BootCall mapper) s s') :
  Scheduler.Advances mapper s s' := by
  induction h with
  | refl => exact .refl s
  | tail _ hcall ih => exact ih.trans hcall.advances

lemma Booted.settled (h : Booted mapper machine) : Settled mapper machine := by
  have hadv := advances_of_bootCalls h.scheduler
  refine ⟨hadv.calls, hadv.order ?_, fun huser => ?_⟩
  · intro i standing hi
    obtain ⟨_, ht, rfl⟩ := standing?_eq_some hi
    exact inOrder_of_kernel (runtime_new ht)
  · rw [h.userMode] at huser
    cases huser

lemma Booted.exact (h : Booted mapper machine) : machine.Exact := by
  have hadv := advances_of_bootCalls h.scheduler
  refine ⟨Scheduler.Asks.calm ?_ hadv.calm, fun _ => hadv.runsUser⟩
  intro i standing _ hi _ hrt
  obtain ⟨_, ht, rfl⟩ := standing?_eq_some hi
  rw [runtime_new ht] at hrt
  cases hrt

/-- **Every reached machine is settled.** -/
theorem Reachable.settled (h : Reachable mapper machine) : Settled mapper machine := by
  obtain ⟨_, hboot, hrun⟩ := h
  induction hrun with
  | refl => exact hboot.settled
  | tail _ hnext ih =>
    obtain ⟨_, _, harr, hstep⟩ := hnext
    exact (ih.step harr hstep).settled

variable (mapper)

/-- Run the machine on a list of inputs, each in the mode of the CPU. -/
def run : Machine → List Input → Panicking Machine
  | machine, [] => pure machine
  | machine, input :: inputs => do
      require (input.mode.all (· == machine.userMode)) "input must arrive in the mode of the CPU"
      let (machine, _) ← machine.step mapper input
      machine.run inputs

variable {mapper}

/-- A run takes one step for each of its inputs, which arrives. -/
lemma steps_of_run {step : Machine → Machine → Prop}
    (h : machine.run mapper inputs = .ok machine')
    (hstep : ∀ input ∈ inputs, ∀ machine machine' events, machine.Arrives input →
      machine.step mapper input = .ok (machine', events) → step machine machine') :
    Relation.ReflTransGen step machine machine' := by
  induction inputs generalizing machine with
  | nil =>
    cases h
    exact .refl
  | cons input inputs ih =>
    obtain ⟨hfirst, hrest⟩ := List.forall_mem_cons.1 hstep
    simp only [run, bind_eq_ok, Prod.exists, require_eq_ok] at h
    obtain ⟨_, hmode, next, events, hok, h⟩ := h
    refine .head (hfirst machine next events (fun mode hsome => ?_) hok) (ih h hrest)
    rw [hsome] at hmode
    simpa using hmode

lemma next_of_run (h : machine.run mapper inputs = .ok machine') :
    Relation.ReflTransGen (Next mapper) machine machine' :=
  steps_of_run h fun input _ _ _ events harrives hok => ⟨input, events, harrives, hok⟩

/-- The frame of a syscall from the start of the program region. -/
def syscallFrame (number rdi rsi rdx r10 : ℕ) : UserTrapFrame :=
  { rax := number, rdi, rsi, rdx, r10
    instructionPointer := userProgramBase, stackPointer := userProgramBase }

/-- A private anonymous mapping of one writable page. -/
def mmapPageFrame : UserTrapFrame := syscallFrame sysMmap 0 pageSize 3 0x22

end Machine
end ManaOS
