/-
How long `nanosleep` sleeps.

The duration is rounded up to whole ticks and counted from the last tick, so a sleeper may wake
early by the part of the current period that had passed.

* `sleeps_until_wake_tick`: a sleeper is blocked until its wake tick;
* `nanosleep_sleeps_out_iff` (**sleep**): when a sleep lasts its whole duration.
-/
import ManaOS.Machine.Runs

namespace ManaOS
open Checked Scheduler

/-- The duration of a request in nanoseconds. -/
def requestedNanoseconds (buffer : List UInt8) : ℕ :=
  fromBytes (buffer.take 8) * nanosecondsPerSecond + fromBytes ((buffer.drop 8).take 8)

lemma nanosleepDurationTicks_eq_some (h : nanosleepDurationTicks seconds nanoseconds = some ticks) :
    ticks =
      (seconds * nanosecondsPerSecond + nanoseconds + nanosecondsPerTimerTick - 1) /
        nanosecondsPerTimerTick := by
  rw [nanosleepDurationTicks] at h
  split at h
  · cases h
  obtain ⟨_, hseconds, h⟩ := Option.bind_eq_some_iff.1 h
  obtain ⟨-, rfl⟩ := checkedMul_eq_some.1 hseconds
  obtain ⟨-, rfl⟩ := checkedAdd_eq_some.1 h
  have hperiod : nanosecondsPerTimerTick = 1000000 := rfl
  have hsecond : nanosecondsPerSecond = 1000000000 := rfl
  have hrate : timerTicksPerSecond = 1000 := rfl
  rw [hperiod, hsecond, hrate]
  omega

namespace Kernel
variable {kernel : Kernel} {frame : UserTrapFrame}

lemma preparedSleep_ok {kernel1 : Kernel} (hacc : result = 0 ∨ result = userBlockSentinel)
  (hsched : kernel1.scheduler = kernel.scheduler)
  (hclock : kernel1.timerTicks = kernel.timerTicks)
  (h : (if durationTicks = 0 then return (0, kernel1)
    else
      match checkedAdd kernel1.timerTicks durationTicks with
        | none => return (errorInvalidArgument, kernel1)
        | some wakeTick => do
            let (prepared, scheduler) ← kernel1.scheduler.prepareCurrentUserSleep wakeTick
            let kernel := { kernel1 with scheduler }
            if prepared.isNone then return (errorNotImplemented, kernel)
            else return (userBlockSentinel, kernel)) = Except.ok (result, kernel')) :
    (result = 0 ∧ durationTicks = 0) ∨
      (result = userBlockSentinel ∧ durationTicks ≠ 0 ∧ kernel'.timerTicks = kernel.timerTicks ∧
        ∃ current runtime, kernel.scheduler.CurrentUser current runtime ∧
        kernel'.scheduler = kernel.scheduler.setRuntime kernel.scheduler.currentIndex
          { runtime with sleepWakeTick := some (kernel.timerTicks + durationTicks) }) := by
  split at h
  · next hzero =>
    cases h
    exact .inl ⟨rfl, hzero⟩
  next hpos =>
  split at h
  · cases h
    exact absurd hacc (by decide)
  next _ hwake =>
  obtain ⟨-, rfl⟩ := checkedAdd_eq_some.1 hwake
  obtain ⟨⟨_, _⟩, hprep, h⟩ := bind_eq_ok.1 h
  rcases prepareCurrentUserSleep_ok hprep with ⟨rfl, rfl⟩ |
    ⟨current, runtime, hcur, -, rfl, rfl⟩
  · cases h
    exact absurd hacc (by decide)
  cases h
  rw [hsched] at hcur
  refine .inr ⟨rfl, hpos, hclock, current, runtime, hcur, ?_⟩
  show setRuntime _ _ _ = _
  rw [hsched, hclock]

lemma sysNanosleep_ok
  (hbuf : kernel.copyInputBuffer mapper requestPointer userTimespecBytes = some buffer)
  (h : kernel.sysNanosleep mapper requestPointer remainingPointer = .ok (result, kernel'))
  (hacc : result = 0 ∨ result = userBlockSentinel) :
  ∃ durationTicks, durationTicks = (requestedNanoseconds buffer + nanosecondsPerTimerTick - 1) /
      nanosecondsPerTimerTick ∧
    ((result = 0 ∧ durationTicks = 0) ∨ (result = userBlockSentinel ∧ durationTicks ≠ 0 ∧
        kernel'.timerTicks = kernel.timerTicks ∧ ∃ current runtime,
        kernel.scheduler.CurrentUser current runtime ∧
        kernel'.scheduler = kernel.scheduler.setRuntime kernel.scheduler.currentIndex
          { runtime with sleepWakeTick := some (kernel.timerTicks + durationTicks) })) := by
  rw [sysNanosleep, hbuf] at h
  simp only at h
  split at h
  · cases h
    exact absurd hacc (by decide)
  next remaining _ =>
  split at h
  · cases h
    exact absurd hacc (by decide)
  next durationTicks hticks =>
  refine ⟨durationTicks, nanosleepDurationTicks_eq_some hticks, ?_⟩
  cases remaining with
  | none => exact preparedSleep_ok hacc rfl rfl h
  | some range =>
    exact preparedSleep_ok hacc
      (show (kernel.storeBuffer mapper range _).scheduler = _ from rfl) rfl h

lemma runSyscall_nanosleep (hnum : frame.rax = ManaOS.sysNanosleep)
  (h : kernel.runSyscall mapper frame = .ok (result, frame', kernel')) :
  frame' = frame ∧ kernel.sysNanosleep mapper frame.rdi frame.rsi = .ok (result, kernel') := by
  have hne : ∀ number : ℕ, number ≠ ManaOS.sysNanosleep → ¬frame.rax = number := by
    intro _ hne heq
    exact hne (heq.symm.trans hnum)
  have hexit : ¬(frame.rax = ManaOS.sysExit ∨ frame.rax = sysExitGroup) :=
    not_or.2 ⟨hne _ (by decide), hne _ (by decide)⟩
  rw [runSyscall, if_neg (hne _ (by decide))] at h
  obtain ⟨⟨_, _⟩, hdisp, h⟩ := bind_eq_ok.1 h
  cases h
  rw [dispatchSyscall] at hdisp
  simp only [if_neg (hne ManaOS.sysWrite (by decide)), if_neg hexit,
    if_neg (hne ManaOS.sysOpen (by decide)), if_neg (hne ManaOS.sysOpenat (by decide)),
    if_neg (hne ManaOS.sysClose (by decide)), if_neg (hne ManaOS.sysFstat (by decide)),
    if_neg (hne ManaOS.sysLseek (by decide)), if_neg (hne ManaOS.sysMmap (by decide)),
    if_neg (hne ManaOS.sysMunmap (by decide)), if_neg (hne ManaOS.sysBrk (by decide)),
    if_pos hnum] at hdisp
  exact ⟨rfl, hdisp⟩

/-- **An accepted sleep**: nothing to sleep, or the caller is blocked until its wake tick. -/
lemma dispatch_nanosleep_ok (hreach : kernel.scheduler.Reachable mapper)
    (horder : kernel.scheduler.InOrder) (hnum : frame.rax = ManaOS.sysNanosleep)
    (hbuf : kernel.copyInputBuffer mapper frame.rdi userTimespecBytes = some buffer)
    (h : kernel.syscallDispatchFromTrapFrame mapper frame = .ok (result, frame', kernel'))
    (hacc : result = 0 ∨ result = userBlockSentinel) :
    ∃ durationTicks,
      durationTicks =
        (requestedNanoseconds buffer + nanosecondsPerTimerTick - 1) / nanosecondsPerTimerTick ∧
      ((result = 0 ∧ durationTicks = 0) ∨
       (result = userBlockSentinel ∧
        durationTicks ≠ 0 ∧
        kernel'.timerTicks = kernel.timerTicks ∧
        ∃ standing runtime,
          kernel'.scheduler.standing? kernel.scheduler.currentIndex = some standing ∧
          standing.Sleeps ∧
          standing.runtime = some runtime ∧
          runtime.sleepWakeTick = some (kernel.timerTicks + durationTicks))) := by
  obtain ⟨_, kernel1, hrun, hconc⟩ := syscallDispatchFromTrapFrame_ok h
  have hreach1 : kernel1.scheduler.Reachable mapper :=
    hreach.trans (runSyscall_effect hreach.sound hrun).calls
  have hnum1 : (kernel.withSelectors frame).rax = ManaOS.sysNanosleep := hnum
  obtain ⟨rfl, hsleep⟩ := runSyscall_nanosleep hnum1 hrun
  obtain ⟨durationTicks, hticks, hcases⟩ := sysNanosleep_ok hbuf hsleep hacc
  refine ⟨durationTicks, hticks, ?_⟩
  rcases hcases with hzero | ⟨rfl, hpos, hclock, current, runtime, hcur, hsto⟩
  · exact .inl hzero
  refine .inr ⟨rfl, hpos, ?_⟩
  have hclear := horder.clear hreach.sound hcur
  obtain ⟨asleep, hasleep⟩ : ∃ asleep : UserTaskRuntime, asleep =
    { runtime with sleepWakeTick := some (kernel.timerTicks + durationTicks) } := ⟨_, rfl⟩
  have hpend : asleep.view.pending = ⟨true, false, false, false⟩ := by
    have hopen : asleep.view.pending = { runtime.view.pending with sleep := true } := by
      rw [hasleep]
      rfl
    rw [hopen, hclear]
    rfl
  have hwake : asleep.sleepWakeTick = some (kernel.timerTicks + durationTicks) := by rw [hasleep]
  rw [← hasleep] at hsto
  have haft : kernel1.scheduler.CurrentUser { current with kind := .user asleep } asleep := by
    rw [hsto]
    exact ⟨getElem?_setRuntime_self hcur.current_eq asleep, rfl⟩
  have hidx : kernel1.scheduler.currentIndex = kernel.scheduler.currentIndex := by
    rw [hsto]
    rfl
  cases hconc with
  | blocked hrec hblock =>
    obtain ⟨-, hget⟩ := recordAndBlock_ok hreach1.sound haft hrec hblock
    rw [hidx] at hget
    exact ⟨hclock, _, _, standing?_of hget, ⟨rfl, _, rfl, hpend⟩, rfl, hwake⟩
  | returned _ hblock _ _ => exact absurd rfl hblock

end Kernel

namespace Machine
variable {mapper : PageMapper} {machine machine' : Machine} {events : List Event}

/-! ### Clocked runs -/

/-- One step of a clocked run, with the time in nanoseconds: ticks come one by one, tick `k` after
`k` periods, and are counted. -/
def ClockedNext (mapper : PageMapper) (before after : ℕ × Machine) : Prop := before.1 ≤
  after.1 ∧ after.2.kernel.timerTicks = after.1 / nanosecondsPerTimerTick ∧ ∃ input events,
  before.2.Arrives input ∧ before.2.step mapper input = .ok (after.2, events) ∧ ∀ tick, input.tick =
  some tick → tick = before.2.kernel.timerTicks + 1 ∧ after.1 = tick * nanosecondsPerTimerTick

lemma time_le_of_clocked (hrun : Relation.ReflTransGen (ClockedNext mapper) start finish) :
  start.1 ≤ finish.1 := by
  induction hrun with
  | refl => exact Nat.le_refl _
  | tail _ hnext ih => exact Nat.le_trans ih hnext.1

variable {now : ℕ}

/-- **A sleeper is blocked until its wake tick.** -/
theorem sleeps_until_wake_tick {start : ℕ × Machine} (hset : Settled mapper start.2)
  (hi : start.2.kernel.scheduler.standing? i = some standing) (hslp : standing.Sleeps)
  (hrt : standing.runtime = some runtime) (hwake : runtime.sleepWakeTick = some wakeTick)
  (hrun : Relation.ReflTransGen (ClockedNext mapper) start finish) :
  Settled mapper finish.2 ∧ (finish.2.kernel.scheduler.standing? i = some standing ∨
      wakeTick * nanosecondsPerTimerTick ≤ finish.1) := by
  induction hrun with
  | refl => exact ⟨hset, .inl hi⟩
  | @tail _ _ _ hnext ih =>
    obtain ⟨hle, -, _, _, harr, hstep, hticks⟩ := hnext
    obtain ⟨hbef, hcases⟩ := ih
    have hkeeps := hbef.step harr hstep
    refine ⟨hkeeps.settled, ?_⟩
    rcases hcases with hrests | hpassed
    · rcases hkeeps.rests i standing runtime wakeTick hrests hslp hrt hwake with
        hrests | ⟨tick, htick, hdue⟩
      · exact .inl hrests
      · right
        rw [(hticks tick htick).2]
        exact Nat.mul_le_mul_right _ hdue
    · exact .inr (Nat.le_trans hpassed hle)

lemma step_kernelTimerTick (mapper : PageMapper) (hs : machine.kernel.scheduler.table.Sound)
  (hpreem : machine.kernel.preemptionState ≠ .enabled) (ticks : ℕ)
  (context : SavedContext) : ∃ events, machine.step mapper (.kernelTimerTick ticks context) =
      .ok ({ machine with kernel := machine.ticked ticks }, events) := by
  obtain ⟨current, hcur⟩ := exists_current hs
  have hid : machine.kernel.scheduler.getCurrentTaskId = .ok current.getId := by
    rw [getCurrentTaskId, currentTask_eq_ok.2 hcur]
    rfl
  simp only [step, processTimerTick, hid, ok_bind, if_pos hpreem]
  exact ⟨_, rfl⟩

lemma clockedNext_tick (hclock : machine.kernel.timerTicks = now / nanosecondsPerTimerTick)
  (harr : machine.Arrives (.kernelTimerTick (machine.kernel.timerTicks + 1) context))
  (hstep : machine.step mapper (.kernelTimerTick (machine.kernel.timerTicks + 1) context) =
    .ok ({ machine with kernel := machine.ticked (machine.kernel.timerTicks + 1) }, events)) :
  ClockedNext mapper (now, machine)
    ((machine.kernel.timerTicks + 1) * nanosecondsPerTimerTick,
      { machine with kernel := machine.ticked (machine.kernel.timerTicks + 1) }) := by
  refine ⟨?_, (Nat.mul_div_cancel _ (by decide)).symm, _, events, harr, hstep, fun tick htick => ?_⟩
  · show now ≤ (machine.kernel.timerTicks + 1) * nanosecondsPerTimerTick
    have hperiod : nanosecondsPerTimerTick = 1000000 := rfl
    rw [hclock, hperiod]
    omega
  · cases htick
    exact ⟨rfl, rfl⟩

/-- The context that `switch_context` would save. -/
def someContext : SavedContext := ⟨.fromStack 32, rfl⟩

lemma ticks_before_wake (hset : Settled mapper machine) (hmode : machine.userMode = false)
  (hpreem : machine.kernel.preemptionState = .disabled)
  (hclock : machine.kernel.timerTicks = now / nanosecondsPerTimerTick)
  (hi : machine.kernel.scheduler.standing? i = some standing)
  (hrt : standing.runtime = some runtime) (hwake : runtime.sleepWakeTick = some wakeTick) (n : ℕ)
  (hbef : machine.kernel.timerTicks + n < wakeTick) :
  ∃ time later, Relation.ReflTransGen (ClockedNext mapper) (now, machine) (time, later) ∧
    Settled mapper later ∧ later.userMode = false ∧ later.kernel.preemptionState = .disabled ∧
    later.kernel.timerTicks = machine.kernel.timerTicks + n ∧ later.kernel.timerTicks =
    time / nanosecondsPerTimerTick ∧ later.kernel.scheduler.standing? i = some standing := by
  induction n with
  | zero => exact ⟨now, machine, .refl, hset, hmode, hpreem, rfl, hclock, hi⟩
  | succ n ih =>
    obtain ⟨_, later, hrun, hset', hmode', hpreem', hticks, hclock', hrests⟩ :=
      ih (by omega)
    obtain ⟨_, hstep⟩ := step_kernelTimerTick mapper hset'.reachable.sound
      (by rw [hpreem']; exact PreemptionState.noConfusion) (later.kernel.timerTicks + 1)
      someContext
    have harr : later.Arrives (.kernelTimerTick (later.kernel.timerTicks + 1) someContext) :=
      fun mode hmode => by
        cases hmode
        exact hmode'.symm
    refine ⟨(later.kernel.timerTicks + 1) * nanosecondsPerTimerTick, _, hrun.tail (clockedNext_tick
      hclock' harr hstep), (hset'.step harr hstep).settled, hmode', hpreem', ?_, ?_, ?_⟩
    · show later.kernel.timerTicks + 1 = _
      rw [hticks, Nat.add_assoc]
    · exact (Nat.mul_div_cancel _ (by decide)).symm
    · exact standing?_wakeSleeping_of_lt hrests hrt hwake (by omega)

lemma ready_at_wake_tick (hset : Settled mapper machine) (hmode : machine.userMode = false)
  (hpreem : machine.kernel.preemptionState = .disabled)
  (hclock : machine.kernel.timerTicks = now / nanosecondsPerTimerTick)
  (hi : machine.kernel.scheduler.standing? i = some standing)
  (hblk : standing.state = .blocked) (hrt : standing.runtime = some runtime)
  (hwake : runtime.sleepWakeTick = some wakeTick)
  (hahead : machine.kernel.timerTicks < wakeTick) :
  ∃ later, Relation.ReflTransGen (ClockedNext mapper) (now, machine)
      (wakeTick * nanosecondsPerTimerTick, later) ∧
    (later.kernel.scheduler.tasks[i]?).map Task.state = some .ready := by
  obtain ⟨_, later, hrun, hset', hmode', hpreem', _, hclock', hrests⟩ :=
    ticks_before_wake hset hmode hpreem hclock hi hrt hwake
      (wakeTick - machine.kernel.timerTicks - 1) (by omega)
  obtain ⟨_, hstep⟩ := step_kernelTimerTick mapper hset'.reachable.sound
    (by rw [hpreem']; exact PreemptionState.noConfusion) (later.kernel.timerTicks + 1)
    someContext
  have harr : later.Arrives (.kernelTimerTick (later.kernel.timerTicks + 1) someContext) :=
    fun mode hmode => by
      cases hmode
      exact hmode'.symm
  have hdue : later.kernel.timerTicks + 1 = wakeTick := by omega
  have hnext := hrun.tail (clockedNext_tick hclock' harr hstep)
  rw [hdue] at hnext
  refine ⟨_, hnext, ?_⟩
  have hready := standing?_wakeSleeping_of_le hrests hrt hwake hblk
    (Nat.le_refl wakeTick)
  rw [standing?, Option.map_map] at hready
  exact hready

/-- **A sleep lasts its whole duration exactly when the rounding makes up for the part of the
current period that has passed**: in every clocked run after an accepted `nanosleep` at this
time the caller is not ready before the duration has elapsed. -/
theorem nanosleep_sleeps_out_iff (hreach : machine.Reachable mapper)
    (hmode : machine.userMode = true) {frame frame' : UserTrapFrame}
    (hnumber : frame.rax = sysNanosleep) {buffer : List UInt8}
    (hbuffer : machine.kernel.copyInputBuffer mapper frame.rdi userTimespecBytes = some buffer)
    {time : ℕ} (hclock : machine.kernel.timerTicks = time / nanosecondsPerTimerTick) {result : ℕ}
    {kernel' : Kernel}
    (hdispatch : machine.kernel.syscallDispatchFromTrapFrame mapper frame =
        .ok (result, frame', kernel')) (haccepted : result = 0 ∨ result = userBlockSentinel)
    (hstep : machine.step mapper (.syscall frame) = .ok (machine', events)) :
    (∀ now later,
      Relation.ReflTransGen (ClockedNext mapper) (time, machine') (now, later) →
      (later.kernel.scheduler.tasks[machine.kernel.scheduler.currentIndex]?).map Task.state =
        some .ready →
      time + requestedNanoseconds buffer ≤ now) ↔
      requestedNanoseconds buffer = 0 ∨
      time % nanosecondsPerTimerTick + requestedNanoseconds buffer ≤
        (requestedNanoseconds buffer + nanosecondsPerTimerTick - 1) / nanosecondsPerTimerTick *
          nanosecondsPerTimerTick := by
  have hsettled := hreach.settled
  have harrives : machine.Arrives (.syscall frame) := fun mode hsome => by
    cases hsome
    exact hmode.symm
  have hsettled' := (hsettled.step harrives hstep).settled
  have hperiod : nanosecondsPerTimerTick = 1000000 := rfl
  obtain ⟨_, hticks, hcases⟩ :=
    Kernel.dispatch_nanosleep_ok hsettled.reachable hsettled.order hnumber hbuffer hdispatch
      haccepted
  rw [← hticks]
  rcases hcases with ⟨-, hzero⟩ | ⟨rfl, _, hcount, standing, _, hi, hsleeps, hruntime, hwake⟩
  · -- nothing to sleep
    have hnone : requestedNanoseconds buffer = 0 := by
      rw [hzero, hperiod] at hticks
      omega
    refine ⟨fun _ => .inl hnone, fun _ now later hrun _ => ?_⟩
    rw [hnone, Nat.add_zero]
    exact time_le_of_clocked hrun
  obtain ⟨_, _, _, hdispatch1, hreturn⟩ := syscall_ok hstep
  rw [hdispatch] at hdispatch1
  cases hdispatch1
  rcases hreturn with ⟨-, hlifecycle, hkernel⟩ | ⟨hno, -, -⟩
  swap
  · exact absurd (.inr rfl) hno
  obtain ⟨_, heq⟩ := Kernel.returnToLifecycle_ok hlifecycle
  have hscheduler : machine'.kernel.scheduler = kernel'.scheduler := by rw [heq]
  have hcount' : machine'.kernel.timerTicks = machine.kernel.timerTicks := by
    rw [heq]
    exact hcount
  have hpreemption : machine'.kernel.preemptionState = .disabled := by rw [heq]
  rw [← hscheduler] at hi
  constructor
  · intro hsleeps'
    obtain ⟨later, hrun, hready⟩ := ready_at_wake_tick hsettled' hkernel hpreemption
      (hcount'.trans hclock) hi hsleeps.1 hruntime hwake (by omega)
    have hpast := hsleeps' _ later hrun hready
    right
    rw [hclock, hperiod] at hpast
    rw [hperiod]
    omega
  intro hcondition _ _ hrun hready
  have hstart : Settled mapper (time, machine').2 := hsettled'
  obtain ⟨-, hcases⟩ := sleeps_until_wake_tick hstart hi hsleeps hruntime hwake hrun
  rcases hcases with hrests | hpassed
  · obtain ⟨task, ht, rfl⟩ := standing?_eq_some hrests
    rw [ht, Option.map_some] at hready
    have hblocked : task.state = .blocked := hsleeps.1
    rw [hblocked] at hready
    cases hready
  rw [hclock, hperiod] at hpassed
  rw [hperiod] at hcondition
  rw [hperiod] at hticks
  omega

/-! ### A sleep of one millisecond -/

/-- The boot code has spawned and activated one task. -/
def oneTaskBoot : Panicking Machine := do
  let (taskId, s, memory) ←
    Scheduler.new.spawnUserTask walkMapper bootMemory bootKernel.selectors bootRequest
  let (_, s) ← s.activateUserTask taskId
  return ⟨{ bootKernel with scheduler := s, memory }, false, fun _ => {}⟩

lemma oneTaskBoot_booted (h : oneTaskBoot = .ok machine) : Booted walkMapper machine := by
  simp only [oneTaskBoot, bind_eq_ok, Prod.exists, pure_eq_ok] at h
  obtain ⟨_, _, _, h1, _, _, h2, rfl⟩ := h
  exact ⟨(Relation.ReflTransGen.single (.spawnUserTask h1)).tail (.activateUserTask h2),
    rfl, rfl, rfl, rfl⟩

/-- A sleep for the request at the start of the mapping region. -/
def sleepFrame : UserTrapFrame := syscallFrame sysNanosleep userMappingBase 0 0 0

/-- A task maps a page and stores a request of one million nanoseconds there. -/
def requestRun : Panicking Machine := do
  let machine ← oneTaskBoot
  machine.run walkMapper
    [.enterUserTask 1 1, .syscall mmapPageFrame, .userStore (userMappingBase + 8) 0x40,
      .userStore (userMappingBase + 9) 0x42, .userStore (userMappingBase + 10) 0x0f]

lemma requestRun_reachable (h : requestRun = .ok machine) : machine.Reachable walkMapper := by
  obtain ⟨booted, hboot, hinputs⟩ := bind_eq_ok.1 h
  exact ⟨booted, oneTaskBoot_booted hboot, next_of_run hinputs⟩

def millisecondRequest : List UInt8 := [0, 0, 0, 0, 0, 0, 0, 0, 0x40, 0x42, 0x0f, 0, 0, 0, 0, 0]

/-- Half a period after a tick, a sleep of one million nanoseconds ends after half of them. -/
theorem nanosleep_wakes_early :
    ∃ (machine machine' later : Machine) (events : List Event),
      machine.Reachable walkMapper ∧
      machine.userMode = true ∧
      machine.kernel.copyInputBuffer walkMapper sleepFrame.rdi userTimespecBytes =
        some millisecondRequest ∧
      requestedNanoseconds millisecondRequest = 1000000 ∧
      machine.kernel.timerTicks = 500000 / nanosecondsPerTimerTick ∧
      machine.step walkMapper (.syscall sleepFrame) = .ok (machine', events) ∧
      ClockedNext walkMapper (500000, machine') (1000000, later) ∧
      (later.kernel.scheduler.tasks[machine.kernel.scheduler.currentIndex]?).map Task.state =
        some .ready := by
  have hrun : (requestRun >>= fun machine => machine.step walkMapper (.syscall sleepFrame)
    >>= fun slept => (slept.1.step walkMapper (.kernelTimerTick 1 someContext)).map fun woken
    => ([machine.userMode, slept.1.userMode], [machine.kernel.timerTicks, slept.1.kernel.timerTicks,
    woken.1.kernel.timerTicks], machine.kernel.copyInputBuffer walkMapper sleepFrame.rdi
    userTimespecBytes, (woken.1.kernel.scheduler.tasks[machine.kernel.scheduler.currentIndex]?).map
    Task.state)) = .ok ([true, false], [0, 0, 1], some millisecondRequest, some .ready) := by
    decide +kernel
  obtain ⟨machine, hmachine, hrun⟩ := bind_eq_ok.1 hrun
  obtain ⟨⟨machine', events⟩, hslept, hrun⟩ := bind_eq_ok.1 hrun
  obtain ⟨⟨later, events'⟩, hwoken, hdata⟩ := map_eq_ok.1 hrun
  simp only [Prod.mk.injEq, List.cons.injEq, and_true] at hdata
  obtain ⟨⟨hmode, hmode'⟩, ⟨hclock, hclock', hclock''⟩, hbuffer, hready⟩ := hdata
  refine ⟨machine, machine', later, events, requestRun_reachable hmachine, hmode, hbuffer,
    by decide, hclock, hslept, ⟨?_, ?_, _, events', ?_, hwoken, ?_⟩, hready⟩
  · show 500000 ≤ 1000000
    decide
  · show later.kernel.timerTicks = 1000000 / nanosecondsPerTimerTick
    rw [hclock'']
    decide
  · intro _ hsome
    cases hsome
    exact hmode'.symm
  · intro _ htick
    cases htick
    exact ⟨by show 1 = machine'.kernel.timerTicks + 1; rw [hclock'], rfl⟩

/-- Right after a tick the same sleep lasts its whole duration. -/
theorem nanosleep_sleeps_out_at_tick :
    ∃ (machine machine' : Machine) (events : List Event),
      machine.Reachable walkMapper ∧
      machine.step walkMapper (.syscall sleepFrame) = .ok (machine', events) ∧
      ∀ now later,
        Relation.ReflTransGen (ClockedNext walkMapper) (0, machine') (now, later) →
        (later.kernel.scheduler.tasks[machine.kernel.scheduler.currentIndex]?).map Task.state =
          some .ready →
        0 + requestedNanoseconds millisecondRequest ≤ now := by
  have hrun : (requestRun >>= fun machine => machine.kernel.syscallDispatchFromTrapFrame walkMapper
    sleepFrame >>= fun dispatched => (machine.step walkMapper (.syscall sleepFrame)).map
    fun _ => (machine.userMode, machine.kernel.timerTicks,
    machine.kernel.copyInputBuffer walkMapper sleepFrame.rdi userTimespecBytes, dispatched.1)) =
    .ok (true, 0, some millisecondRequest, userBlockSentinel) := by
    decide +kernel
  obtain ⟨machine, hmachine, hrun⟩ := bind_eq_ok.1 hrun
  obtain ⟨⟨_, _, _⟩, hdispatch, hrun⟩ := bind_eq_ok.1 hrun
  obtain ⟨⟨machine', events⟩, hstep, hdata⟩ := map_eq_ok.1 hrun
  simp only [Prod.mk.injEq] at hdata
  obtain ⟨hmode, hclock, hbuffer, hresult⟩ := hdata
  have hreach := requestRun_reachable hmachine
  exact ⟨machine, machine', events, hreach, hstep,
    (nanosleep_sleeps_out_iff hreach hmode rfl hbuffer hclock hdispatch (.inr hresult) hstep).2
      (.inr (by decide))⟩

end Machine
end ManaOS
