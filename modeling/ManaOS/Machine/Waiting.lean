/-
The waiting tasks of a run.

A user task blocks with one request, finished before it runs in Ring 3 again.  A seek that returns
the exit sentinel breaks this: the caller is taken for one that stopped, and blocks without one.

* `Booted.settled_exact`: what every run without forged exits keeps;
* `waits_properly_of_spared_seeks` (**waiting tasks**): in such a run the waiting tasks wait
  properly;
* `blocked_without_request`: after a forged exit a task is blocked and waits for nothing.
-/
import ManaOS.Machine.Runs

namespace ManaOS
open Checked Option
namespace Machine
variable {mapper : PageMapper} {machine machine' : Machine}

/-- What a run says about the tasks that wait. -/
structure WaitsProperly (machine : Machine) : Prop where
  /-- A blocked user task is active, owns an address space, has no exit status and has exactly
  one request. -/
  blocked : ∀ (i : ℕ) (task : Task) (runtime : UserTaskRuntime),
    machine.kernel.scheduler.tasks[i]? = some task →
    task.kind = .user runtime →
    task.state = .blocked →
    task.getId ∈ machine.kernel.scheduler.activeUserTaskIdentifiers ∧
    runtime.addressSpace.isSome = true ∧
    task.metadata.exitStatus = none ∧
    runtime.sleepWakeTick.isSome.toNat + runtime.waitpidRequest.isSome.toNat +
      runtime.readRequest.isSome.toNat = 1
  /-- A ready user task with something to complete has an empty kernel context. -/
  ready : ∀ (i : ℕ) (task : Task) (runtime : UserTaskRuntime),
    machine.kernel.scheduler.tasks[i]? = some task →
    task.kind = .user runtime →
    task.state = .ready →
    runtime.waitpidCompletion.isSome = true ∨ runtime.readRequest.isSome = true →
    task.context.isEmpty = true
  /-- Nothing is left to complete when a user task runs in Ring 3. -/
  completed : machine.userMode = true →
    ∃ current runtime,
      machine.kernel.scheduler.CurrentUser current runtime ∧
      runtime.waitpidCompletion = none ∧
      runtime.readRequest = none
  /-- An exit never finds a waiting parent that is not blocked. -/
  exits : ∀ exitCode message,
    machine.kernel.scheduler.finishCurrentTask exitCode = .error message →
    message ≠ "waitpid parent must be blocked before child exit wake"

/-- A step of a run in which no seek returns the exit sentinel. -/
def SparedNext (mapper : PageMapper) (machine machine' : Machine) : Prop :=
  ∃ input events,
    machine.Arrives input ∧
    machine.Spares input ∧
    machine.step mapper input = .ok (machine', events)

lemma sparedNext_of_run (h : machine.run mapper inputs = .ok machine')
    (hinputs : ∀ frame, .syscall frame ∈ inputs → frame.rax ≠ sysLseek) :
    Relation.ReflTransGen (SparedNext mapper) machine machine' := by
  refine steps_of_run h fun input hmem _ _ events harrives hok =>
    ⟨input, events, harrives, fun frame hframe hseek => ?_, hok⟩
  exact hinputs frame (hframe ▸ hmem) hseek.1

lemma Booted.settled_exact {booted : Machine} (hboot : Booted mapper booted)
    (hrun : Relation.ReflTransGen (SparedNext mapper) booted machine) :
    Settled mapper machine ∧ machine.Exact := by
  induction hrun with
  | refl => exact ⟨hboot.settled, hboot.exact⟩
  | tail _ hnext ih =>
    obtain ⟨_, _, harr, hspares, hstep⟩ := hnext
    have hkeeps := ih.1.step harr hstep
    exact ⟨hkeeps.settled, hkeeps.exact hspares ih.2⟩

/-- **In every run without a seek to the exit sentinel the waiting tasks wait properly.** -/
theorem waits_properly_of_spared_seeks {booted : Machine} (hbooted : Booted mapper booted)
    (hrun : Relation.ReflTransGen (SparedNext mapper) booted machine) :
    machine.WaitsProperly := by
  obtain ⟨hsettled, hexact⟩ := hbooted.settled_exact hrun
  have hs := hsettled.reachable.sound
  have hengaged := hsettled.reachable.engaged
  refine ⟨fun i task runtime ht hk hblocked => ?_, fun i task runtime ht hk hready hopen => ?_,
    fun huser => ?_, fun exitCode => hsettled.order.failsOnly_finish hs hengaged exitCode⟩
  · have hfits := hengaged.fits i task ht
    rw [Task.life_user hk] at hfits
    have hactive := hfits.engaged rfl (.inr hblocked)
    have hspaced := hfits.spaced rfl (by
      show task.state ≠ _
      rw [hblocked]
      exact TaskState.noConfusion)
    refine ⟨by rw [hengaged.identified i task ht]; exact hactive, hspaced, ?_, ?_⟩
    · refine hs.status_none (Scheduler.getElem?_table_of ht) ?_
      show task.state ≠ _
      rw [hblocked]
      exact TaskState.noConfusion
    · exact hexact.asks i _ runtime.view (Scheduler.standing?_of ht) hblocked
        (by rw [Task.standing, hk]; rfl)
  · have hfits := hsettled.order i _ (Scheduler.standing?_of ht) runtime.view
      (by rw [Task.standing, hk]; rfl)
    rw [Task.standing, hready] at hfits
    cases hcontext : task.context.isEmpty with
    | true => rfl
    | false =>
      rw [hcontext] at hfits
      obtain ⟨-, -, hread, hcompletion⟩ := Pending.eq_clear_iff.1 (Pending.eq_clear_of_ready hfits)
      rcases hopen with hopen | hopen
      · exact absurd (hcompletion.symm.trans hopen) Bool.noConfusion
      · exact absurd (hread.symm.trans hopen) Bool.noConfusion
  · obtain ⟨current, runtime, hcurrent⟩ := Scheduler.exists_currentUser (hsettled.user huser)
    obtain ⟨-, -, hread, hcompletion⟩ := Pending.eq_clear_iff.1 (hsettled.order.clear hs hcurrent)
    exact ⟨current, runtime, hcurrent, isNone_iff_eq_none.1 (isSome_eq_false_iff.1 hcompletion),
      isNone_iff_eq_none.1 (isSome_eq_false_iff.1 hread)⟩

/-! ### Two runs -/

lemma thirdFrame_aligned : 2 * pageSize % pageSize = 0 := rfl

/-- The boot code has spawned and activated two tasks with the keyboard as descriptor zero. -/
def twoTaskBoot : Panicking Machine := do
  let s := Scheduler.new.replaceCurrentFileDescriptorTable keyboardTable
  let (first, s, memory) ←
    s.spawnUserTask walkMapper bootMemory bootKernel.selectors bootRequest
  let (second, s, memory) ←
    s.spawnUserTask walkMapper memory bootKernel.selectors
      { bootRequest with addressSpace := ⟨⟨2 * pageSize, thirdFrame_aligned⟩⟩ }
  let (_, s) ← s.activateUserTask first
  let (_, s) ← s.activateUserTask second
  return ⟨{ bootKernel with scheduler := s, memory }, false, fun _ => {}⟩

lemma twoTaskBoot_booted {machine : Machine} (h : twoTaskBoot = .ok machine) :
  Booted walkMapper machine := by
  simp only [twoTaskBoot, bind_eq_ok, Prod.exists, pure_eq_ok] at h
  obtain ⟨_, _, _, h1, _, _, _, h2, _, _, h3, _, _, h4, rfl⟩ := h
  exact ⟨((((Relation.ReflTransGen.single (.replaceCurrentFileDescriptorTable _ _)).tail
    (.spawnUserTask h1)).tail (.spawnUserTask h2)).tail (.activateUserTask h3)).tail
      (.activateUserTask h4), rfl, rfl, rfl, rfl⟩

/-- The first task maps a page and reads a byte from the keyboard to it, and the second one runs. -/
def readerInputs : List Input :=
  [.enterUserTask 1 1, .syscall mmapPageFrame,
    .syscall (syscallFrame sysRead 0 userMappingBase 1 0), .enterUserTask 2 1]

def readerRun : Panicking Machine := do
  let machine ← twoTaskBoot
  machine.run walkMapper readerInputs

/-- What the run does with the reader: its state and its open requests. -/
def readerFacts (machine : Machine) : Bool × Option (TaskState × Option Pending) :=
  (machine.userMode, (machine.kernel.scheduler.standing? 1).map fun standing =>
    (standing.state, standing.runtime.map RuntimeView.pending))

/-- While the second task runs, the first one is blocked with its read request, and waits
properly. -/
theorem waits_properly_of_spared_seeks_reader :
    ∃ booted machine : Machine, ∃ standing view,
      Booted walkMapper booted ∧
      Relation.ReflTransGen (SparedNext walkMapper) booted machine ∧
      machine.userMode = true ∧
      machine.kernel.scheduler.standing? 1 = some standing ∧
      standing.state = .blocked ∧
      standing.runtime = some view ∧
      view.pending.read = true ∧
      machine.WaitsProperly := by
  have hrun : readerRun.map readerFacts =
      .ok (true, some (.blocked, some { Pending.clear with read := true })) := by
    decide +kernel
  obtain ⟨machine, hmachine, hfacts⟩ := map_eq_ok.1 hrun
  simp only [readerFacts, Prod.mk.injEq, map_eq_some_iff] at hfacts
  obtain ⟨huser, standing, hstanding, hblocked, view, hview, hpending⟩ := hfacts
  obtain ⟨booted, hboot, hinputs⟩ := bind_eq_ok.1 hmachine
  have hspared := sparedNext_of_run hinputs (by
    intro frame hmem
    simp only [readerInputs, List.mem_cons, List.not_mem_nil, reduceCtorEq, Input.syscall.injEq,
      or_false, false_or] at hmem
    rcases hmem with rfl | rfl <;> decide)
  exact ⟨booted, machine, standing, view, twoTaskBoot_booted hboot, hspared, huser, hstanding,
    hblocked, hview, by rw [hpending],
    waits_properly_of_spared_seeks (twoTaskBoot_booted hboot) hspared⟩

/-- The first task seeks to the exit sentinel, and the lifecycle code enters the second. -/
def forgedExitRun : Panicking Machine := do
  let machine ← twoTaskBoot
  machine.run walkMapper
    [.enterUserTask 1 1, .syscall (Kernel.seekFrame (2 ^ 63 - 1) 0),
      .syscall (Kernel.seekFrame (2 ^ 63 - 4095) 1), .enterUserTask 2 1]

/-- After a forged exit the caller is blocked and waits for nothing. -/
theorem blocked_without_request :
    ∃ machine : Machine,
      machine.Reachable walkMapper ∧
      ∃ task runtime,
        machine.kernel.scheduler.tasks[1]? = some task ∧
        task.kind = .user runtime ∧
        task.state = .blocked ∧
        runtime.sleepWakeTick = none ∧
        runtime.waitpidRequest = none ∧
        runtime.readRequest = none := by
  have hrun : forgedExitRun.map (fun machine => (machine.kernel.scheduler.standing? 1).map
    fun standing => (standing.state, standing.runtime.map RuntimeView.pending)) =
    .ok (some (.blocked, some .clear)) := by
    decide +kernel
  obtain ⟨machine, hmachine, hstandings⟩ := map_eq_ok.1 hrun
  simp only [map_eq_some_iff, Prod.mk.injEq] at hstandings
  obtain ⟨_, hstanding, hblocked, _, hview, hclear⟩ := hstandings
  obtain ⟨booted, hboot, hinputs⟩ := bind_eq_ok.1 hmachine
  refine ⟨machine, ⟨booted, twoTaskBoot_booted hboot, next_of_run hinputs⟩, ?_⟩
  obtain ⟨task, ht, rfl⟩ := Scheduler.standing?_eq_some hstanding
  cases hk : task.kind with
  | kernel =>
    rw [Task.standing, hk] at hview
    cases hview
  | user runtime =>
    rw [Task.standing, hk] at hview
    cases hview
    obtain ⟨hsleep, hwait, hread, -⟩ := Pending.eq_clear_iff.1 hclear
    exact ⟨task, runtime, ht, hk, hblocked, isSome_eq_false_iff.1 hsleep |> isNone_iff_eq_none.1,
      isSome_eq_false_iff.1 hwait |> isNone_iff_eq_none.1,
      isSome_eq_false_iff.1 hread |> isNone_iff_eq_none.1⟩

end Machine
end ManaOS
