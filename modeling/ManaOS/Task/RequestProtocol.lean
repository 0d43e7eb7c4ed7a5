/-
The request protocol under the updates of the scheduler.

A request is prepared while its task runs, turned into a blocked task in a second step and completed
on the next entry.  `Entering` and `Asking` say how the current task may differ in between.

* `InOrder.failsOnly_finish`: a parent that waits for an exiting child is blocked.
-/
import ManaOS.Task.Standing
import ManaOS.Task.TransitionChecks

namespace ManaOS
open Checked Pending Option
namespace Scheduler
variable {s s' : Scheduler}

/-! ### The phases of the current task -/

/-- The tasks other than the current one stand in order. -/
def OthersInOrder (s : Scheduler) : Prop := ∀ (i : ℕ) (standing : Standing),
  i ≠ s.currentIndex → s.standing? i = some standing → standing.InOrder

/-- The current task is a running user task with this runtime. -/
def Runs (s : Scheduler) (runtime : RuntimeView) : Prop :=
  ∃ context, s.standing? s.currentIndex = some ⟨some runtime, .running, context⟩

/-- A user task was entered: a completion or a read may still be open. -/
structure Entering (s : Scheduler) (runtime : RuntimeView) : Prop where
  others : s.OthersInOrder
  runs : s.Runs runtime
  sleep : runtime.pending.sleep = false
  wait : runtime.pending.wait = false

/-- The current user task has prepared its one request. -/
structure Asking (s : Scheduler) (runtime : RuntimeView) : Prop where
  others : s.OthersInOrder
  runs : s.Runs runtime
  completion : runtime.pending.completion = false
  count : runtime.pending.count = 1

lemma OthersInOrder.inOrder (h : s.OthersInOrder)
  (hruns : s.Runs runtime) (hclear : runtime.pending = .clear) : s.InOrder := by
  intro i standing hi
  rcases eq_or_ne i s.currentIndex with rfl | hne
  · obtain ⟨_, hcur⟩ := hruns
    rw [hcur] at hi
    cases hi
    intro r hr
    cases hr
    show runtime.pending.fits .running _ = true
    rw [hclear]
    exact fits_clear _ _
  · exact h i standing hne hi

variable {runtime : UserTaskRuntime} {standing : Standing}

lemma InOrder.clear (h : s.InOrder) (hs : s.table.Sound)
  (hcur : s.CurrentUser current runtime) : runtime.view.pending = .clear := by
  have hrun : current.state = .running := hs.current_running (getElem?_table_of hcur.current_eq)
  have hfits := h _ _ (standing?_of hcur.current_eq) runtime.view
    (by rw [Task.standing, hcur.kind]; rfl)
  rw [Task.standing, hrun] at hfits
  exact eq_clear_of_running hfits

lemma CurrentUser.runs (hs : s.table.Sound)
  (hcur : s.CurrentUser current runtime) : s.Runs runtime.view := by
  have hrun : current.state = .running := hs.current_running (getElem?_table_of hcur.current_eq)
  refine ⟨current.context, ?_⟩
  rw [standing?_of hcur.current_eq, Task.standing, hcur.kind, hrun]
  rfl

/-! ### Order-preserving updates -/

lemma InOrder.of_cases (h : s.InOrder)
  (hcases : ∀ (i : ℕ) (standing : Standing), s'.standing? i = some standing →
    s.standing? i = some standing ∨ standing.InOrder) : s'.InOrder := by
  intro i standing hi
  rcases hcases i standing hi with hold | hnew
  · exact h i standing hold
  · exact hnew

lemma InOrder.congr (h : s.InOrder) (heq : ∀ i, s'.standing? i = s.standing? i) : s'.InOrder :=
  h.of_cases fun i standing hi => .inl (by rw [← heq, hi])

lemma inOrder_of_clear (h : ∀ runtime, standing.runtime = some runtime → runtime.pending = .clear) :
  standing.InOrder := by
  intro runtime hrt
  rw [h runtime hrt]
  exact fits_clear _ _

lemma InOrder.leaves (h : s.InOrder) (hs : s.table.Sound)
  (hcur : s.standing? s.currentIndex = some standing) (state : TaskState)
  (context : TaskContext) : ({ standing with state, context } : Standing).InOrder := by
  obtain ⟨task, ht, rfl⟩ := standing?_eq_some hcur
  have hrun : task.state = .running := hs.current_running (getElem?_table_of ht)
  refine inOrder_of_clear fun runtime hrt => ?_
  have hfits := h _ _ hcur runtime hrt
  rw [Task.standing, hrun] at hfits
  exact eq_clear_of_running hfits

lemma InOrder.wakeSleepingUserTasks (h : s.InOrder) (tick : ℕ) :
  (s.wakeSleepingUserTasks tick).InOrder := by
  refine h.of_cases fun i standing hi => ?_
  obtain ⟨_, ht', rfl⟩ := standing?_eq_some hi
  rw [getElem?_wakeSleepingUserTasks] at ht'
  obtain ⟨t, ht, rfl⟩ := map_eq_some_iff.1 ht'
  rcases wakeSleepingTask_cases tick t with heq | ⟨runtime, hk, hsleep, heq⟩
  · rw [heq]
    exact .inl (standing?_of ht)
  right
  have hfits := h i _ (standing?_of ht) runtime.view (by rw [Task.standing, hk]; rfl)
  have hblk := state_of_sleep hfits hsleep
  rw [hblk] at hfits
  rw [heq]
  refine inOrder_of_clear fun r hr => ?_
  cases hr
  exact eq_clear_of_sleeper hfits hsleep

lemma InOrder.wakeKeyboardReaders (h : s.InOrder) : s.wakeKeyboardReaders.2.InOrder := by
  rcases wakeKeyboardReaders_eq s with heq | ⟨index, _, _, ht, hk, hread, hblk, heq⟩
  · rw [heq]
    exact h
  rw [heq]
  refine h.of_cases fun i standing hi => ?_
  rw [standing?_setState] at hi
  obtain ⟨_, hold, rfl⟩ := map_eq_some_iff.1 hi
  split
  · next hidx =>
    subst hidx
    rw [standing?_of ht] at hold
    cases hold
    right
    intro r hr
    have hfits := h index _ (standing?_of ht) r hr
    rw [Task.standing, hblk] at hfits
    rw [Task.standing, hk] at hr
    cases hr
    exact fits_ready_of_reader hfits hread
  · exact .inl hold

lemma InOrder.spawns (h : s.InOrder) (hspn : s.Spawns s' task)
  (hclear : ∀ runtime, task.kind = .user runtime → runtime.view.pending = .clear) :
  s'.InOrder := by
  refine h.of_cases fun i standing hi => ?_
  rw [standing?_spawns hspn] at hi
  split at hi
  · cases hi
    refine .inr (inOrder_of_clear fun r hr => ?_)
    cases hk : task.kind with
    | kernel =>
      rw [Task.standing, hk] at hr
      cases hr
    | user runtime =>
      rw [Task.standing, hk] at hr
      cases hr
      exact hclear runtime hk
  · exact .inl hi

lemma InOrder.setRuntime_current (h : s.InOrder) (hclear : runtime.view.pending = .clear) :
  (s.setRuntime s.currentIndex runtime).InOrder := by
  refine h.of_cases fun i standing hi => ?_
  rw [standing?_setRuntime] at hi
  obtain ⟨_, hold, rfl⟩ := map_eq_some_iff.1 hi
  split
  · refine .inr (inOrder_of_clear fun r hr => ?_)
    cases hr
    exact hclear
  · exact .inl hold

lemma InOrder.saveContext (h : s.InOrder)
  (hclear : ∀ standing runtime, s.standing? i = some standing →
    standing.runtime = some runtime → runtime.pending = .clear) :
  (s.modifyTask i ({ · with context })).InOrder := by
  refine h.of_cases fun j standing hj => ?_
  rw [standing?_saveContext] at hj
  obtain ⟨old, hold, rfl⟩ := map_eq_some_iff.1 hj
  split
  · next heq =>
    subst heq
    exact .inr (inOrder_of_clear fun r hr => hclear old r hold hr)
  · exact .inl hold

/-! ### Hand-offs -/

lemma InOrder.handOff (h : s.InOrder) (hs : s.table.Sound) (left : TaskState) (next : ℕ) :
  (s.handOff left next).OthersInOrder := by
  intro i standing hne hi
  have hne : next ≠ i := fun heq => hne heq.symm
  rw [standing?_handOff] at hi
  obtain ⟨old, hold, rfl⟩ := map_eq_some_iff.1 hi
  rw [if_neg hne]
  split
  · next heq =>
    subst heq
    exact h.leaves hs hold left old.context
  · exact h i old hold

lemma InOrder.clear_of_handOff (h : s.InOrder) (hs : s.table.Sound) {left : TaskState}
  {next : ℕ} {runtime : RuntimeView}
  (hi : (s.handOff left next).standing? s.currentIndex = some standing)
  (hrt : standing.runtime = some runtime) : runtime.pending = .clear := by
  rw [standing?_handOff] at hi
  obtain ⟨old, hold, rfl⟩ := map_eq_some_iff.1 hi
  have hleaves := h.leaves hs hold .running old.context runtime hrt
  exact eq_clear_of_running hleaves

lemma OneShot.currentIndex_eq (ho : OneShot s
  taskId entry s' index task runtime current) : s'.currentIndex = index := ho.result.currentIndex

lemma InOrder.oneShot (h : s.InOrder) (hs : s.table.Sound)
  (ho : OneShot s taskId entry s' index task runtime current) : s'.Entering runtime.view := by
  have hstand : ∀ i, s'.standing? i = ((s.handOff .blocked index).clearContext index).standing?
    i := ho.result.standing?_eq
  have hfits := h index _ (standing?_of ho.task_eq) runtime.view
    (by rw [Task.standing, ho.kind]; rfl)
  rw [Task.standing, ho.ready] at hfits
  obtain ⟨hsleep, hwait⟩ := of_ready hfits
  refine ⟨fun i standing hne hi => ?_, ⟨.new, ?_⟩, hsleep, hwait⟩
  · rw [ho.currentIndex_eq] at hne
    rw [hstand, standing?_clearContext] at hi
    obtain ⟨old, hold, rfl⟩ := map_eq_some_iff.1 hi
    rw [if_neg (Ne.symm hne)]
    exact h.handOff hs .blocked index i old hne hold
  rw [ho.currentIndex_eq, hstand, standing?_clearContext, standing?_handOff,
    standing?_of ho.task_eq, map_some, map_some, if_pos rfl]
  simp only [Task.standing, ho.kind, if_true]
  rfl

lemma InOrder.timerSwitch (h : s.InOrder) (hs : s.table.Sound)
  (hsw : TimerSwitch s interruptedUserMode action s' next task current) :
  s'.currentIndex = next ∧ (∀ i, s'.standing? i = (s.handOff .ready next).standing? i) ∧
  (task.kind = .kernel ∨ task.context.isEmpty = false → s'.InOrder) ∧
  ∀ runtime, task.kind = .user runtime → s'.Entering runtime.view := by
  obtain ⟨ticks, rfl⟩ := hsw.result
  have hget := standing?_of hsw.schedulable.task_eq
  have hstand : ∀ i, ({ s with currentTimerQuantumTicks := ticks }.handOff .ready
    next).standing? i = (s.handOff .ready next).standing? i := standing?_of_tasks rfl
  have hoth : ({ s with currentTimerQuantumTicks := ticks }.handOff .ready
    next).OthersInOrder := fun i standing hne hi =>
    h.handOff hs .ready next i standing hne (by rw [← hstand]; exact hi)
  have hnext : (s.handOff .ready next).standing? next =
    some ⟨task.kind.view, .running, task.context⟩ := by
    rw [standing?_handOff, hget, map_some, if_pos rfl]
    rfl
  refine ⟨rfl, hstand, fun hclear i standing hi => ?_, fun runtime hk => ?_⟩
  · rcases eq_or_ne i next with rfl | hne
    · rw [hstand, hnext] at hi
      cases hi
      refine inOrder_of_clear fun r hr => ?_
      rcases hclear with hker | hctx
      · rw [hker] at hr
        cases hr
      · have hfits := h i _ hget r hr
        rw [Task.standing, hsw.schedulable.ready, hctx] at hfits
        exact eq_clear_of_ready hfits
    · exact hoth i standing hne hi
  have hfits := h next _ hget runtime.view (by rw [Task.standing, hk]; rfl)
  rw [Task.standing, hsw.schedulable.ready] at hfits
  obtain ⟨hsleep, hwait⟩ := of_ready hfits
  refine ⟨hoth, ⟨task.context, ?_⟩, hsleep, hwait⟩
  show Scheduler.standing? _ next = _
  rw [hstand, hnext, hk]
  rfl

lemma runtime_first (hs : s.table.Sound)
  (h : s.standing? 0 = some standing) : standing.runtime = none := by
  obtain ⟨_, ht, rfl⟩ := standing?_eq_some h
  have hker := (hs.first (getElem?_table_of ht)).1
  rw [processOf, TaskKind.isUser_eq_view, isSome_eq_false_iff, isNone_iff_eq_none]
    at hker
  exact hker

lemma inOrder_of_kernel (h : standing.runtime = none) : standing.InOrder := by
  intro _ hrt
  rw [h] at hrt
  cases hrt

lemma Asking.blocked {runtime : RuntimeView} (h : s.Asking runtime) (hs : s.table.Sound)
  {recorded : UserTaskRuntime} (hpend : recorded.view.pending = runtime.pending) :
  (s.setRuntime s.currentIndex recorded).blocked.InOrder := by
  intro i standing hi
  rw [standing?_blocked, standing?_setRuntime] at hi
  obtain ⟨_, hsto, rfl⟩ := map_eq_some_iff.1 hi
  obtain ⟨old, hold, rfl⟩ := map_eq_some_iff.1 hsto
  obtain ⟨_, hcur⟩ := h.runs
  by_cases heq : s.currentIndex = i
  · have hidx : (s.setRuntime s.currentIndex recorded).currentIndex = i := heq
    have hpos : 0 ≠ i := by
      rintro rfl
      rw [heq] at hcur
      cases runtime_first hs hcur
    rw [if_pos heq, if_neg hpos, if_pos hidx, if_pos hidx]
    intro r hr
    cases hr
    show recorded.view.pending.fits .blocked true = true
    rw [hpend, fits, h.completion, h.count]
    rfl
  have hidx : (s.setRuntime s.currentIndex recorded).currentIndex ≠ i := heq
  rw [if_neg heq, if_neg hidx, if_neg hidx]
  split
  · next hzero =>
    subst hzero
    have hker := runtime_first hs hold
    exact inOrder_of_kernel hker
  · exact h.others i old (Ne.symm heq) hold

/-! ### Exits -/

lemma standing?_collect
    (hcall : s.collectWaitableChildExit parentTaskId childTaskId = .ok (exit, s')) (j : ℕ) :
    s'.standing? j = s.standing? j := by
  rcases collectWaitableChildExit_ok hcall with ⟨-, rfl⟩ | ⟨_, _, _, _, _, -, hcoll⟩
  · rfl
  · rw [hcoll.result]
    exact standing?_collected _ _ j

lemma InOrder.retired (h : s.InOrder) (hs : s.table.Sound) (exitCode parent taskId : ℕ)
  (active : List ℕ) : (s.retired exitCode parent taskId active).InOrder := by
  intro i standing hi
  rw [standing?_retired] at hi
  obtain ⟨old, hold, rfl⟩ := map_eq_some_iff.1 hi
  split
  · next hzero =>
    subst hzero
    have hker := runtime_first hs hold
    exact inOrder_of_kernel hker
  split
  · next hcur =>
    subst hcur
    exact h.leaves hs hold .finished old.context
  · exact h i old hold

lemma InOrder.wakeWaitingParentForChildExit (h : s.InOrder)
  (hcall : s.wakeWaitingParentForChildExit parentTaskId childTaskId = .ok s') : s'.InOrder := by
  rcases wakeWaitingParentForChildExit_ok hcall with ⟨rfl, -⟩ |
    ⟨index, _, runtime, _, _, _, hwaiting, hcoll, hblk, rfl⟩
  · exact h
  refine h.of_cases fun i standing hi => ?_
  rw [completeWait, standing?_setState, standing?_setRuntime, standing?_collect hcoll,
    map_map] at hi
  obtain ⟨_, hold, rfl⟩ := map_eq_some_iff.1 hi
  simp only [Function.comp]
  rcases eq_or_ne index i with rfl | hne
  · rw [standing?_of hwaiting.parent_eq] at hold
    cases hold
    rw [if_pos rfl, if_pos rfl]
    right
    intro r hr
    cases hr
    have hfits := h index _ (standing?_of hwaiting.parent_eq) runtime.view
      (by rw [Task.standing, hwaiting.kind]; rfl)
    rw [Task.standing, hblk] at hfits
    have hwait : runtime.view.pending.wait = true := by
      show runtime.waitpidRequest.isSome = true
      rw [hwaiting.request_eq]
      rfl
    exact fits_ready_of_waiter hfits hwait
  · rw [if_neg hne, if_neg hne]
    exact .inl hold

lemma InOrder.finishCurrentTask (h : s.InOrder) (hs : s.table.Sound)
  (hcall : s.finishCurrentTask exitCode = .ok (exit, s')) : s'.InOrder := by
  have hretd : ∀ {result s1}, s.retireCurrentTask exitCode = .ok (result, s1) → s1.InOrder := by
    intro _ _ hret
    rcases retireCurrentTask_ok (dispatch_sound hs) hret with ⟨rfl, -⟩ |
      ⟨_, _, _, -, -, -, -, -, rfl⟩
    · exact h
    · exact h.retired hs _ _ _ _
  rcases finishCurrentTask_ok hcall with hret | ⟨_, _, _, hret, hwake⟩
  · exact hretd hret
  · exact (hretd hret).wakeWaitingParentForChildExit hwake

/-- The message of the assertion about a waiting parent. -/
def waitingParentMessage : String := "waitpid parent must be blocked before child exit wake"

lemma failsOnly_collect (s : Scheduler) (parentTaskId : ℕ) (childTaskId : Option ℕ) :
  FailsOnly (· ≠ waitingParentMessage)
    (s.collectWaitableChildExit parentTaskId childTaskId) := by
  rw [collectWaitableChildExit]
  split
  · exact .pure _
  refine .bind (.expect fun _ => by decide) fun record _ => ?_
  refine .bind (.expect fun _ => by decide) fun index _ => ?_
  refine .bind (.expect fun _ => by decide) fun task _ => ?_
  refine .bind (.expect fun _ => by decide) fun collected _ => ?_
  exact .bind (.require fun _ => by decide) fun _ _ => .pure _

lemma InOrder.failsOnly_wakeParent (h : s.InOrder) (parentTaskId childTaskId : ℕ) :
  FailsOnly (· ≠ waitingParentMessage)
    (s.wakeWaitingParentForChildExit parentTaskId childTaskId) := by
  rw [Scheduler.wakeWaitingParentForChildExit]
  split
  · exact .pure _
  next index _ =>
  refine .bind (.expect fun _ => by decide) fun parent hpar => ?_
  rw [taskAt_eq_ok] at hpar
  split
  · exact .pure _
  next runtime hk =>
  split
  · exact .pure _
  next request hreq =>
  split
  · exact .pure _
  refine .bind (failsOnly_collect s _ _) fun collected hcoll => ?_
  obtain ⟨exit, s1⟩ := collected
  refine .bind (.expect fun _ => by decide) fun exit _ => ?_
  refine .bind (.expect fun _ => by decide) fun parent' hpar' => ?_
  rw [taskAt_eq_ok] at hpar'
  split
  · exact .pure _
  -- the collection keeps the standing of the parent, and its request says that it is blocked
  have hwait : runtime.view.pending.wait = true := by
    show runtime.waitpidRequest.isSome = true
    rw [hreq]
    rfl
  have hblk : parent.state = .blocked := state_of_wait
    (h index _ (standing?_of hpar) runtime.view (by rw [Task.standing, hk]; rfl)) hwait
  have hsame : parent'.standing = parent.standing := by
    have heq := standing?_collect hcoll index
    rw [standing?_of hpar', standing?_of hpar] at heq
    exact Option.some.inj heq
  have hsta : parent'.state = .blocked := (congrArg Standing.state hsame).trans hblk
  next _ _ =>
  have hwake : ∀ completed : UserTaskRuntime, (s1.setRuntime index completed).transitionAt index
    TaskState.wakeBlocked = .ok (true, (s1.setRuntime index completed).setState index .ready) :=
      fun completed => transitionAt_eq_of_state (getElem?_setRuntime_self hpar' completed) hsta
  refine .bind (.of_eq_ok (hwake _)) fun woken hwoken => ?_
  cases Except.ok.inj ((hwake _).symm.trans hwoken)
  exact .bind (.of_eq_ok rfl) fun _ _ => .pure _

/-- **A parent that waits for an exiting child is blocked.** -/
lemma InOrder.failsOnly_finish (h : s.InOrder) (hs : s.table.Sound) (he : s.Engaged)
  (exitCode : ℕ) : FailsOnly (· ≠ waitingParentMessage) (s.finishCurrentTask exitCode) := by
  obtain ⟨current, hcur⟩ := exists_current hs
  cases huser : current.kind.isUser with
  | false =>
    simp only [Scheduler.finishCurrentTask, retireCurrentTask, currentTask_eq_ok.2 hcur,
      huser, ok_bind, Bool.not_false, if_true]
    exact .pure _
  | true =>
    obtain ⟨_, hret⟩ := he.retireCurrentTask_eq hs hcur huser exitCode
    rw [Scheduler.finishCurrentTask, hret, ok_bind]
    refine .bind ((h.retired hs _ _ _ _).failsOnly_wakeParent _ _) fun s1 hwake => ?_
    refine .bind (fun message hmsg => ?_) fun _ _ => .pure _
    have hmem := assertTransitionInvariants_failsOnly s1 message hmsg
    rintro rfl
    exact absurd hmem (by decide)

lemma standing?_reclaimFinishedUserResources
    (h : s.reclaimFinishedUserResources mapper memory taskId = .ok (result, s', memory')) :
    s'.currentIndex = s.currentIndex ∧
    ((∀ i, s'.standing? i = s.standing? i) ∨
     ∃ index task runtime reclaimed,
       s.tasks[index]? = some task ∧
       task.state = .finished ∧
       task.kind = .user runtime ∧
       reclaimed.view.pending = runtime.view.pending ∧
       ∀ i, s'.standing? i = (s.setRuntime index reclaimed).standing? i) := by
  rcases reclaimFinishedUserResources_ok h with rfl | ⟨index, _, s1, _, _, hsp, hstack⟩
  · exact ⟨rfl, .inl fun _ => rfl⟩
  have hsame : s'.currentIndex = s1.currentIndex ∧ ∀ i, s'.standing? i = s1.standing? i := by
    rcases reclaimFinishedUserKernelStackAtIndex_ok hstack with rfl | ⟨_, rfl⟩
    · exact ⟨rfl, fun _ => rfl⟩
    · exact ⟨rfl, standing?_modifyTask_of_eq (f := ({ · with kernelStack := none }))
        fun _ _ => rfl⟩
  rcases reclaimFinishedUserAddressSpaceAtIndex_ok hsp with rfl |
    ⟨task, runtime, ht, hfin, hk, rfl⟩
  · exact ⟨hsame.1, .inl hsame.2⟩
  · refine ⟨hsame.1, .inr ⟨index, task, runtime, _, ht, hfin, hk, ?_, hsame.2⟩⟩
    rfl

lemma InOrder.reclaimFinishedUserResources (h : s.InOrder)
  (hcall : s.reclaimFinishedUserResources mapper memory taskId = .ok (result, s', memory')) :
  s'.InOrder := by
  rcases (standing?_reclaimFinishedUserResources hcall).2 with hsame |
    ⟨index, _, runtime, _, ht, -, hk, hpend, hsame⟩
  · exact h.congr hsame
  refine h.of_cases fun i standing hi => ?_
  rw [hsame, standing?_setRuntime] at hi
  obtain ⟨_, hold, rfl⟩ := map_eq_some_iff.1 hi
  split
  · next heq =>
    subst heq
    rw [standing?_of ht] at hold
    cases hold
    right
    intro r hr
    cases hr
    rw [hpend]
    exact h index _ (standing?_of ht) runtime.view (by rw [Task.standing, hk]; rfl)
  · exact .inl hold

lemma InOrder.replaceCurrentUserImage (h : s.InOrder) {space : UserAddressSpace}
  {frame : UserTrapFrame} {heapStart : UserVirtualAddress}
  {result : Option (ℕ × UserAddressSpace)}
  (hcall : s.replaceCurrentUserImage space frame heapStart = .ok (result, s')) : s'.InOrder := by
  rcases replaceCurrentUserImage_ok hcall with ⟨-, rfl⟩ | ⟨_, runtime, heap, _, -, -, -, rfl⟩
  · exact h
  have himage : (s.setRuntime s.currentIndex (runtime.withImage space frame heap)).InOrder :=
    h.setRuntime_current rfl
  refine himage.of_cases fun i standing hi => ?_
  rw [standing?_clearContext, standing?_setRuntime, map_map] at hi
  obtain ⟨_, hold, rfl⟩ := map_eq_some_iff.1 hi
  simp only [Function.comp]
  rw [standing?_setRuntime, hold, map_some]
  split
  · refine .inr (inOrder_of_clear fun r hr => ?_)
    cases hr
    rfl
  · exact .inl rfl

end Scheduler
end ManaOS
