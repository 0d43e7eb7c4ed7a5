/-
What the request, frame, image and resource methods of the scheduler do.

Most of them change the runtime of one user task, the current one: `CurrentUser` names it.

* `prepareCurrentUserWaitpid_ok`, `prepareCurrentUserRead_ok`: what a blocking call stores.
-/
import ManaOS.Task.Effects

namespace ManaOS
open Checked
namespace Scheduler
variable {s s' : Scheduler}

/-- The current task is a user task with this runtime. -/
structure CurrentUser (s : Scheduler) (current : Task) (runtime : UserTaskRuntime) : Prop where
  current_eq : s.tasks[s.currentIndex]? = some current
  kind : current.kind = .user runtime

lemma SameView.currentUser (h : SameView s s') (hcur : s'.CurrentUser current runtime) :
  ∃ before runtime0, s.CurrentUser before runtime0 ∧ current.view = before.view ∧
    runtime0.view = runtime.view := by
  obtain ⟨before, hbef, hview⟩ := h.task hcur.current_eq
  rw [h.currentIndex] at hbef
  have hkinds : before.kind.view = some runtime.view := by
    rw [← show current.kind.view = before.kind.view from congrArg TaskView.runtime hview, hcur.kind]
    rfl
  cases hk : before.kind with
  | kernel =>
    rw [hk] at hkinds
    cases hkinds
  | user runtime0 =>
    rw [hk] at hkinds
    exact ⟨before, runtime0, ⟨hbef, hk⟩, hview, Option.some.inj hkinds⟩

lemma prepareCurrentUserWaitpid_ok
  (h : s.prepareCurrentUserWaitpid childTaskId statusBuffer = .ok (result, s')) :
  (result = none ∧ s' = s) ∨ ∃ current runtime, CurrentUser s current runtime ∧
    current.state = .running ∧ runtime.sleepWakeTick = none ∧ runtime.waitpidRequest = none ∧
    runtime.waitpidCompletion = none ∧ result = some current.getId ∧
    s' = s.setRuntime s.currentIndex
      { runtime with waitpidRequest := some ⟨childTaskId, statusBuffer⟩ } := by
  simp only [prepareCurrentUserWaitpid, bind_eq_ok, currentTask_eq_ok] at h
  obtain ⟨t, ht, h⟩ := h
  split at h
  · cases h
    exact .inl ⟨rfl, rfl⟩
  next runtime hk =>
  split at h
  · cases h
    exact .inl ⟨rfl, rfl⟩
  next hguard =>
  cases h
  simp only [Bool.or_eq_true, not_or, bne_iff_ne, ne_eq, not_not,
    Option.not_isSome_iff_eq_none] at hguard
  obtain ⟨⟨⟨⟨-, hsta⟩, hsleep⟩, hwait⟩, hcomp⟩ := hguard
  exact .inr ⟨t, runtime, ⟨ht, hk⟩, hsta, hsleep, hwait, hcomp, rfl, rfl⟩

lemma prepareCurrentUserSleep_ok (h : s.prepareCurrentUserSleep wakeTick = .ok (result, s')) :
  (result = none ∧ s' = s) ∨ ∃ current runtime, CurrentUser s current runtime ∧
    current.state = .running ∧ result = some current.getId ∧
    s' = s.setRuntime s.currentIndex { runtime with sleepWakeTick := some wakeTick } := by
  simp only [prepareCurrentUserSleep, bind_eq_ok, currentTask_eq_ok] at h
  obtain ⟨t, ht, h⟩ := h
  split at h
  · cases h
    exact .inl ⟨rfl, rfl⟩
  next runtime hk =>
  split at h
  · cases h
    exact .inl ⟨rfl, rfl⟩
  next hguard =>
  cases h
  simp only [Bool.or_eq_true, not_or, bne_iff_ne, ne_eq, not_not] at hguard
  exact .inr ⟨t, runtime, ⟨ht, hk⟩, hguard.2, rfl, rfl⟩

lemma prepareCurrentUserRead_ok (h : s.prepareCurrentUserRead request = .ok (result, s')) :
  (result = none ∧ s' = s) ∨ ∃ current runtime, CurrentUser s current runtime ∧
    current.state = .running ∧ runtime.sleepWakeTick = none ∧ runtime.waitpidRequest = none ∧
    runtime.waitpidCompletion = none ∧ runtime.readRequest = none ∧
    result = some current.getId ∧
    s' = s.setRuntime s.currentIndex { runtime with readRequest := some request } := by
  simp only [prepareCurrentUserRead, bind_eq_ok, currentTask_eq_ok] at h
  obtain ⟨t, ht, h⟩ := h
  split at h
  · cases h
    exact .inl ⟨rfl, rfl⟩
  next runtime hk =>
  split at h
  · cases h
    exact .inl ⟨rfl, rfl⟩
  next hguard =>
  cases h
  simp only [Bool.or_eq_true, not_or, bne_iff_ne, ne_eq, not_not,
    Option.not_isSome_iff_eq_none] at hguard
  obtain ⟨⟨⟨⟨⟨-, hsta⟩, hsleep⟩, hwait⟩, hcomp⟩, hread⟩ := hguard
  exact .inr ⟨t, runtime, ⟨ht, hk⟩, hsta, hsleep, hwait, hcomp, hread, rfl, rfl⟩

/-! ### Frames and completions -/

lemma markRecorded_view (source : UserTrapFrameSource) (runtime : UserTaskRuntime) :
  (source.markRecorded runtime).view = { runtime.view with
      interruptFrameRecorded :=
        runtime.interruptFrameRecorded || (source == .timerInterrupt) } := by
  cases source <;> simp [UserTrapFrameSource.markRecorded, UserTaskRuntime.view]

lemma recordCurrentUserTrapFrame_ok (h : s.recordCurrentUserTrapFrame frame source = .ok s') :
  (s' = s ∧ ∃ current, s.tasks[s.currentIndex]? = some current ∧ current.kind = .kernel) ∨
    ∃ current runtime, CurrentUser s current runtime ∧ s' = s.setRuntime s.currentIndex
        (source.markRecorded { runtime with savedFrame := frame }) := by
  simp only [recordCurrentUserTrapFrame, bind_eq_ok, currentTask_eq_ok] at h
  obtain ⟨t, ht, h⟩ := h
  split at h
  · next hk =>
    cases h
    exact .inl ⟨rfl, t, ht, hk⟩
  next runtime hk =>
  split at h
  · simp only [bind_eq_ok] at h
    obtain ⟨_, -, _, -, h⟩ := h
    cases h
    exact .inr ⟨t, runtime, ⟨ht, hk⟩, rfl⟩
  · cases h
    exact .inr ⟨t, runtime, ⟨ht, hk⟩, rfl⟩

lemma takeCurrentUserReadRequest_ok (h : s.takeCurrentUserReadRequest taskId = .ok (request, s')) :
  s' = s ∨ ∃ current runtime, CurrentUser s current runtime ∧
    s' = s.setRuntime s.currentIndex { runtime with readRequest := none } := by
  simp only [takeCurrentUserReadRequest, bind_eq_ok, currentTask_eq_ok] at h
  obtain ⟨t, ht, h⟩ := h
  split at h
  · cases h
    exact .inl rfl
  split at h
  · cases h
    exact .inl rfl
  · next runtime hk =>
    cases h
    exact .inr ⟨t, runtime, ⟨ht, hk⟩, rfl⟩

lemma completeCurrentUserRead_ok (h : s.completeCurrentUserRead taskId result = .ok s') :
  s' = s ∨ ∃ current runtime, CurrentUser s current runtime ∧ s' = s.setRuntime s.currentIndex
      { runtime with savedFrame := { runtime.savedFrame with rax := result } } := by
  simp only [completeCurrentUserRead, bind_eq_ok, currentTask_eq_ok] at h
  obtain ⟨t, ht, h⟩ := h
  split at h
  · cases h
    exact .inl rfl
  split at h
  · cases h
    exact .inl rfl
  · next runtime hk =>
    cases h
    exact .inr ⟨t, runtime, ⟨ht, hk⟩, rfl⟩

lemma completePendingUserWaitpidStatus_ok
  (h : s.completePendingUserWaitpidStatus mapper memory taskId = .ok (result, s', memory')) :
  (s' = s ∧ memory' = memory ∧ ∀ index task runtime, s.getTaskIndex taskId = some index →
    s.tasks[index]? = some task → task.kind = .user runtime → runtime.waitpidCompletion = none) ∨
  ∃ index task runtime, ∃ completion : UserWaitpidCompletion, s.getTaskIndex taskId = some index ∧
    s.tasks[index]? = some task ∧ task.kind = .user runtime ∧
    s' = s.setRuntime index { runtime with waitpidCompletion := none } ∧
    ((completion.statusBuffer = none ∧ memory' = memory) ∨
      ∃ buffer, completion.statusBuffer = some buffer ∧
        writeUserWaitStatus mapper memory buffer completion.waitStatus = .ok memory') := by
  rw [completePendingUserWaitpidStatus] at h
  cases hi : s.getTaskIndex taskId with
  | none =>
    rw [hi] at h
    cases h
    refine .inl ⟨rfl, rfl, ?_⟩
    intro index task runtime hidx
    cases hidx
  | some index =>
    simp only [hi, bind_eq_ok, taskAt_eq_ok] at h
    obtain ⟨t, ht, h⟩ := h
    cases hk : t.kind with
    | kernel =>
      rw [hk] at h
      cases h
      refine .inl ⟨rfl, rfl, ?_⟩
      intro index' task runtime hidx htask hkind
      cases hidx
      rw [ht] at htask
      cases htask
      rw [hk] at hkind
      cases hkind
    | user runtime =>
      simp only [hk] at h
      cases hc : runtime.waitpidCompletion with
      | none =>
        rw [hc] at h
        cases h
        refine .inl ⟨rfl, rfl, ?_⟩
        intro _ _ _ hidx htask hkind
        cases hidx
        rw [ht] at htask
        cases htask
        rw [hk] at hkind
        cases hkind
        exact hc
      | some completion =>
        simp only [hc] at h
        cases hb : completion.statusBuffer with
        | none =>
          simp only [hb, pure_eq, ok_bind] at h
          cases h
          exact .inr ⟨index, t, runtime, completion, rfl, ht, hk, rfl, .inl ⟨hb, rfl⟩⟩
        | some buffer =>
          simp only [hb, bind_eq_ok] at h
          obtain ⟨_, hwrite, h⟩ := h
          cases h
          exact .inr ⟨index, t, runtime, completion, rfl, ht, hk, rfl, .inr ⟨buffer, hb, hwrite⟩⟩

lemma wakeKeyboardReaders_eq (s : Scheduler) : s.wakeKeyboardReaders.2 = s ∨ ∃ index task runtime,
  s.tasks[index]? = some task ∧ task.kind = .user runtime ∧ runtime.readRequest.isSome ∧
  task.state = .blocked ∧ s.wakeKeyboardReaders.2 = s.setState index .ready := by
  rw [wakeKeyboardReaders]
  cases hfind : s.tasks.findIdx? isBlockedReader with
  | none => exact .inl rfl
  | some index =>
    obtain ⟨hlt, hreader, -⟩ := List.findIdx?_eq_some_iff_getElem.1 hfind
    have hget := List.getElem?_eq_getElem hlt
    generalize s.tasks[index] = task at hreader hget
    rw [isBlockedReader] at hreader
    split at hreader
    · cases hreader
    · next runtime hk =>
      simp only [Bool.and_eq_true, beq_iff_eq] at hreader
      exact .inr ⟨index, task, runtime, hget, hk, hreader.1, hreader.2, rfl⟩

lemma wakeSleepingTask_cases (tick : ℕ) (task : Task) :
  wakeSleepingTask tick task = task ∨ ∃ runtime, task.kind = .user runtime ∧
    runtime.sleepWakeTick.isSome ∧
    wakeSleepingTask tick task = { task with
        kind := .user { runtime with sleepWakeTick := none }
        state := (task.state.wakeBlocked).getD task.state } := by
  rw [wakeSleepingTask]
  cases hk : task.kind with
  | kernel => exact .inl rfl
  | user runtime =>
    cases hw : runtime.sleepWakeTick with
    | none =>
      left
      simp only [hw]
    | some _ =>
      simp only [hw]
      split
      · exact .inl rfl
      · exact .inr ⟨runtime, rfl, by rw [hw]; rfl, rfl⟩

lemma getElem?_wakeSleepingUserTasks (s : Scheduler) (tick i : ℕ) : (s.wakeSleepingUserTasks
  tick).tasks[i]? = (s.tasks[i]?).map (wakeSleepingTask tick) := List.getElem?_map

lemma reclaimFinishedUserAddressSpaceAtIndex_ok
  (h : s.reclaimFinishedUserAddressSpaceAtIndex memory index = .ok (result, s', memory')) :
  s' = s ∨ ∃ task runtime, s.tasks[index]? = some task ∧ task.state = .finished ∧
    task.kind = .user runtime ∧ s' = s.setRuntime index
      { runtime with addressSpace := none, addressSpaceReclaiming := false } := by
  simp only [reclaimFinishedUserAddressSpaceAtIndex, bind_eq_ok, taskAt_eq_ok] at h
  obtain ⟨t, ht, h⟩ := h
  split at h
  · cases h
    exact .inl rfl
  next hfin =>
  split at h
  · cases h
    exact .inl rfl
  next runtime hk =>
  split at h
  · cases h
    exact .inl rfl
  simp only [bind_eq_ok, expect_eq_ok, Prod.exists] at h
  obtain ⟨-, -, _, -, -, -, -, -, _, -, _, _, -, -, -, h⟩ := h
  cases h
  refine .inr ⟨t, runtime, ht, not_not.1 hfin, hk, ?_⟩
  rw [setRuntime, setRuntime, setRuntime, modifyTask_modifyTask]
  rfl

lemma reclaimFinishedUserKernelStackAtIndex_ok
  (h : s.reclaimFinishedUserKernelStackAtIndex mapper memory index = .ok (freed, s', memory')) :
  s' = s ∨ ∃ ranges, s' = { s.modifyTask index ({ · with kernelStack := none }) with
      kernelStackRangeAllocator := ranges } := by
  simp only [reclaimFinishedUserKernelStackAtIndex, bind_eq_ok, taskAt_eq_ok] at h
  obtain ⟨t, _, h⟩ := h
  split at h
  · cases h
    exact .inl rfl
  next _ hs =>
  simp only [bind_eq_ok, Prod.exists] at h
  obtain ⟨_, ranges, -, h⟩ := h
  cases h
  exact .inr ⟨ranges, rfl⟩

lemma reclaimFinishedUserResources_ok
    (h : s.reclaimFinishedUserResources mapper memory taskId = .ok (result, s', memory')) :
    s' = s ∨
    ∃ index space s1 memory1 freed,
      s.reclaimFinishedUserAddressSpaceAtIndex memory index = .ok (space, s1, memory1) ∧
      s1.reclaimFinishedUserKernelStackAtIndex mapper memory1 index = .ok (freed, s', memory') := by
  rw [reclaimFinishedUserResources] at h
  split at h
  · cases h
    exact .inl rfl
  next index hi =>
  simp only [bind_eq_ok] at h
  obtain ⟨t, -, h⟩ := h
  split at h
  · cases h
    exact .inl rfl
  simp only [bind_eq_ok, Prod.exists] at h
  obtain ⟨space, s1, memory1, hsp, freed, _, _, hstack, -, -, h⟩ := h
  cases h
  exact .inr ⟨index, space, s1, memory1, freed, hsp, hstack⟩

lemma replaceCurrentUserImage_ok
    (h : s.replaceCurrentUserImage addressSpace frame heapStart = .ok (result, s')) :
    (result = none ∧ s' = s) ∨
    ∃ current runtime heap old,
      CurrentUser s current runtime ∧
      runtime.addressSpace = some old ∧
      result = some (current.getId, old) ∧
      s' =
        (s.setRuntime s.currentIndex (runtime.withImage addressSpace frame heap)).clearContext
          s.currentIndex := by
  simp only [replaceCurrentUserImage, bind_eq_ok, currentTask_eq_ok] at h
  obtain ⟨t, ht, h⟩ := h
  split at h
  · cases h
    exact .inl ⟨rfl, rfl⟩
  split at h
  · cases h
    exact .inl ⟨rfl, rfl⟩
  next runtime hk =>
  split at h
  · cases h
    exact .inl ⟨rfl, rfl⟩
  next old ha =>
  simp only [bind_eq_ok] at h
  obtain ⟨heap, -, _, -, _, -, -, -, h⟩ := h
  cases h
  exact .inr ⟨t, runtime, heap, old, ⟨ht, hk⟩, ha, rfl, rfl⟩

lemma processCurrentUserBreak_ok
    (h : s.processCurrentUserBreak mapper memory request = .ok (result, s', memory')) :
    (result = none ∧ s' = s) ∨
    ∃ current runtime heap,
      ∃ nextBreak : UserVirtualAddress,
        CurrentUser s current runtime ∧
        result = some nextBreak.asU64 ∧
        s' = s.setRuntime s.currentIndex { runtime with heap } := by
  simp only [processCurrentUserBreak, bind_eq_ok, currentTask_eq_ok] at h
  obtain ⟨t, ht, h⟩ := h
  split at h
  · cases h
    exact .inl ⟨rfl, rfl⟩
  next runtime hk =>
  split at h
  · cases h
    exact .inl ⟨rfl, rfl⟩
  next _ ha =>
  simp only [bind_eq_ok, Prod.exists] at h
  obtain ⟨nextBreak, heap, _, -, h⟩ := h
  cases h
  exact .inr ⟨t, runtime, heap, nextBreak, ⟨ht, hk⟩, rfl, by rw [ha]⟩

lemma processCurrentUserMapping_ok
    (h : s.processCurrentUserMapping mapper memory request initializePage captured =
        .ok (result, s', memory', captured')) :
    (result = .error .invalidRequest ∧ s' = s) ∨
    ∃ current runtime space allocation mappings,
      CurrentUser s current runtime ∧
      runtime.addressSpace = some space ∧
      runtime.mappings.mapPrivate mapper space memory
        ⟨request.placement, request.length, request.writable, request.source⟩ initializePage
        captured =
        .ok (allocation, mappings, memory', captured') ∧
      result = allocation.map (·.start.asU64) ∧
      s' = s.setRuntime s.currentIndex { runtime with mappings } := by
  simp only [processCurrentUserMapping, bind_eq_ok, currentTask_eq_ok] at h
  obtain ⟨t, ht, h⟩ := h
  split at h
  · cases h
    exact .inl ⟨rfl, rfl⟩
  next runtime hk =>
  split at h
  · cases h
    exact .inl ⟨rfl, rfl⟩
  next space ha =>
  simp only [bind_eq_ok, Prod.exists] at h
  obtain ⟨allocation, mappings, _, _, hmap, h⟩ := h
  cases h
  exact .inr ⟨t, runtime, space, allocation, mappings, ⟨ht, hk⟩, ha, hmap, rfl, by rw [ha]⟩

lemma processCurrentUserUnmapping_ok
    (h : s.processCurrentUserUnmapping mapper memory request = .ok (result, s', memory')) :
    s' = s ∨
    ∃ current runtime mappings,
      CurrentUser s current runtime ∧
      s' = s.setRuntime s.currentIndex { runtime with mappings } := by
  simp only [processCurrentUserUnmapping, bind_eq_ok, currentTask_eq_ok] at h
  obtain ⟨t, ht, h⟩ := h
  split at h
  · cases h
    exact .inl rfl
  next runtime hk =>
  split at h
  · cases h
    exact .inl rfl
  next _ ha =>
  simp only [bind_eq_ok, Prod.exists] at h
  obtain ⟨_, mappings, _, -, h⟩ := h
  cases h
  exact .inr ⟨t, runtime, mappings, ⟨ht, hk⟩, by rw [ha]⟩

/-- A spawn pushes one record, with the next identifier and the current task as parent. -/
def Spawns (s s' : Scheduler) (task : Task) : Prop :=
  ∃ ranges, s.tasks.length < vecCapacity ∧ s' = { s with
      tasks := s.tasks ++ [task]
      nextTaskIdentifier := s.nextTaskIdentifier + 1
      kernelStackRangeAllocator := ranges }

/-- The metadata of a child of the current task. -/
def IsChildMetadata (s : Scheduler) (metadata : TaskMetadata) : Prop :=
  ∃ parent, s.tasks[s.currentIndex]? = some parent ∧
    metadata = .child s.nextTaskIdentifier parent.metadata.identifier
      parent.metadata.currentWorkingDirectory parent.metadata.fileDescriptors.inheritForSpawn

lemma spawn_ok (h : s.spawn mapper memory = .ok (taskId, s', memory')) : ∃ metadata stack,
  s.IsChildMetadata metadata ∧
  s.Spawns s' ⟨metadata, .ready, .kernel, .fromStack stack.virtualTop, some stack⟩ := by
  simp only [spawn, childMetadata, pushTask, bind_eq_ok, currentTask_eq_ok, Prod.exists, pure_eq_ok,
    require_eq_ok, decide_eq_true_eq, Prod.mk.injEq] at h
  obtain ⟨_, _, ⟨parent, hpar, rfl, rfl⟩, stack, _, ranges, _, _, ⟨-, hcap,
    rfl⟩, rfl, rfl, rfl⟩ := h
  exact ⟨_, stack, ⟨parent, hpar, rfl⟩, ranges, hcap, rfl⟩

lemma spawnUserTask_ok
    (h : s.spawnUserTask mapper memory selectors request = .ok (taskId, s', memory')) :
    ∃ metadata stack frame runtime,
      s.IsChildMetadata metadata ∧
      taskId = s.nextTaskIdentifier ∧
      UserTaskRuntime.new request.addressSpace frame request.heapStart = .ok runtime ∧
      s.Spawns s' ⟨metadata, .ready, .user runtime, .new, some stack⟩ := by
  simp only [spawnUserTask, childMetadata, pushTask, bind_eq_ok, currentTask_eq_ok, Prod.exists,
    pure_eq_ok, require_eq_ok, decide_eq_true_eq, Prod.mk.injEq] at h
  obtain ⟨_, _, ⟨parent, hpar, rfl, rfl⟩, frame, _, stack, _, ranges, _,
    runtime, hrt, _, ⟨-, hcap, rfl⟩, rfl, rfl, rfl⟩ := h
  exact ⟨_, stack, frame, runtime, ⟨parent, hpar, rfl⟩, rfl, hrt, ranges, hcap, rfl⟩

end Scheduler
end ManaOS
