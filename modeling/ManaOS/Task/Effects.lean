/-
What each scheduler method does to the task records.

One lemma per method says every way in which it can return; later modules never unfold a method.

* `prepareNextSwitch_ok`, `prepareOneShotUserTask_ok`: the two ways to another task.
-/
import ManaOS.Task.View

namespace ManaOS
open Checked TaskState
namespace Scheduler
variable {s s' : Scheduler}

variable {taskId index : ℕ} {runtime : UserTaskRuntime}

lemma transitionAt_true (h : s.transitionAt i (transition source target) = .ok (true, s')) :
  ∃ t, s.tasks[i]? = some t ∧ t.state = source ∧ s' = s.setState i target := by
  rw [transitionAt, bind_eq_ok] at h
  obtain ⟨t, ht, h⟩ := h
  rw [taskAt_eq_ok] at ht
  split at h
  · cases h
  next _ htr =>
  obtain ⟨hsrc, rfl⟩ := transition_eq_some.1 htr
  cases h
  exact ⟨t, ht, hsrc, rfl⟩

lemma transitionAt_false (h : s.transitionAt i (transition source target) = .ok (false, s')) :
  (∃ t, s.tasks[i]? = some t ∧ t.state ≠ source) ∧ s' = s := by
  rw [transitionAt, bind_eq_ok] at h
  obtain ⟨t, ht, h⟩ := h
  rw [taskAt_eq_ok] at ht
  split at h
  · next htr =>
    cases h
    exact ⟨⟨t, ht, transition_eq_none.1 htr⟩, rfl⟩
  · next _ htr => cases h

lemma transitionAt_eq_of_state (ht : s.tasks[i]? = some t) (hsrc : t.state = source) :
  s.transitionAt i (transition source target) = .ok (true, s.setState i target) := by
  rw [transitionAt, taskAt_eq_ok.2 ht, ok_bind, transition_eq_some.2 ⟨hsrc, rfl⟩]
  rfl

lemma transitionAt_eq_of_ne (ht : s.tasks[i]? = some t) (hsrc : t.state ≠ source) :
  s.transitionAt i (transition source target) = .ok (false, s) := by
  rw [transitionAt, taskAt_eq_ok.2 ht, ok_bind, transition_eq_none.2 hsrc]
  rfl

/-! ### Activation -/

/-- A scheduler that differs at most in the set of active tasks. -/
def ActiveOnly (s s' : Scheduler) : Prop :=
  ∃ active, s' = { s with activeUserTaskIdentifiers := active }

lemma ActiveOnly.refl (s : Scheduler) : ActiveOnly s s := ⟨s.activeUserTaskIdentifiers, rfl⟩

lemma ActiveOnly.tasks (h : ActiveOnly s s') : s'.tasks = s.tasks := by
  obtain ⟨_, rfl⟩ := h
  rfl

lemma ActiveOnly.currentIndex (h : ActiveOnly s s') : s'.currentIndex = s.currentIndex := by
  obtain ⟨_, rfl⟩ := h
  rfl

/-- A task is added to the active set at most once. -/
def activated (s : Scheduler) (taskId : ℕ) : Scheduler :=
  if s.isUserTaskActive taskId then s
  else { s with activeUserTaskIdentifiers := s.activeUserTaskIdentifiers ++ [taskId] }

lemma activeOnly_activated (s : Scheduler) (taskId : ℕ) : ActiveOnly s (s.activated taskId) := by
  rw [activated]
  split
  · exact .refl _
  · exact ⟨_, rfl⟩

/-- A user task that `activate_user_task` accepts. -/
structure Activatable (s : Scheduler) (taskId index : ℕ) (task : Task)
    (runtime : UserTaskRuntime) : Prop where
  getTaskIndex : s.getTaskIndex taskId = some index
  task_eq : s.tasks[index]? = some task
  kind : task.kind = .user runtime
  schedulable : runtime.hasSchedulableAddressSpace = true
  unfinished : task.state ≠ .finished

lemma Activatable.activateUserTask_eq (h : Activatable s taskId index task runtime) :
    s.activateUserTask taskId =
      (do (s.activated taskId).assertTransitionInvariants return (true, s.activated taskId)) := by
  have hguard : (!runtime.hasSchedulableAddressSpace || task.state == .finished) = false := by
    simp [h.schedulable, h.unfinished]
  simp only [activateUserTask, h.getTaskIndex, taskAt_eq_ok.2 h.task_eq, ok_bind, h.kind, hguard]
  rfl

lemma activateUserTask_of_not
    (h : ∀ index task runtime, ¬ Activatable s taskId index task runtime) :
    s.activateUserTask taskId = .ok (false, s) := by
  rw [activateUserTask]
  cases hi : s.getTaskIndex taskId with
  | none => rfl
  | some index =>
    obtain ⟨task, ht, -⟩ := getTaskIndex_eq_some hi
    simp only [taskAt_eq_ok.2 ht, ok_bind]
    cases hk : task.kind with
    | kernel => rfl
    | user runtime =>
      have hguard : (!runtime.hasSchedulableAddressSpace || task.state == .finished) = true := by
        by_contra hno
        simp only [Bool.or_eq_true, Bool.not_eq_true', beq_iff_eq, not_or, Bool.not_eq_false] at hno
        exact h index task runtime ⟨hi, ht, hk, hno.1, hno.2⟩
      simp only [hguard, if_true]
      rfl

lemma activateUserTask_ok (h : s.activateUserTask taskId = .ok (b, s')) :
  (s' = s ∧ ∀ index task runtime, ¬ Activatable s taskId index task runtime) ∨
    ∃ index task runtime, Activatable s taskId index task runtime ∧ s' = s.activated taskId := by
  by_cases hex : ∃ index task runtime, Activatable s taskId index task runtime
  · obtain ⟨index, task, runtime, hact⟩ := hex
    rw [hact.activateUserTask_eq, bind_eq_ok] at h
    obtain ⟨-, -, h⟩ := h
    cases h
    exact .inr ⟨index, task, runtime, hact, rfl⟩
  have hnot : ∀ index task runtime, ¬ Activatable s taskId index task runtime :=
    fun index task runtime hact => hex ⟨index, task, runtime, hact⟩
  rw [activateUserTask_of_not hnot] at h
  cases h
  exact .inl ⟨rfl, hnot⟩

lemma ActiveOnly.of_activate (h : s.activateUserTask taskId = .ok (b, s')) : ActiveOnly s s' := by
  rcases activateUserTask_ok h with ⟨rfl, -⟩ | ⟨_, _, _, -, rfl⟩
  · exact .refl _
  · exact activeOnly_activated s taskId

/-! ### Hand-off -/

/-- The CPU goes from the current task, left in a state, to another one. -/
def handOff (s : Scheduler) (left : TaskState) (next : ℕ) : Scheduler :=
  ((s.setState s.currentIndex left).setState next .running).setCurrentIndex next

/-- `prepare_one_shot_user_task` entered a task: the running task blocks, a ready user task runs
with an empty context. -/
structure OneShot (s : Scheduler) (taskId : ℕ) (entry : OneShotUserTask) (s' : Scheduler)
    (index : ℕ) (task : Task) (runtime : UserTaskRuntime) (current : Task) : Prop where
  getTaskIndex : s.getTaskIndex taskId = some index
  task_eq : s.tasks[index]? = some task
  kind : task.kind = .user runtime
  ready : task.state = .ready
  current_eq : s.tasks[s.currentIndex]? = some current
  running : current.state = .running
  schedulable : runtime.hasSchedulableAddressSpace = true
  addressSpace : runtime.addressSpace = some entry.addressSpace
  trapFrame : entry.trapFrame = runtime.savedFrame
  result : ActiveOnly ((s.handOff .blocked index).clearContext index) s'
  active : s' = ((s.handOff .blocked index).clearContext index).activated taskId

lemma getElem?_setState_of_ne (h : i ≠ j) (st : TaskState) :
  (s.setState i st).tasks[j]? = s.tasks[j]? := getElem?_modifyTask_of_ne h

lemma activatable_of_handOff
  (hi : s.getTaskIndex taskId = some index) (ht : s.tasks[index]? = some task)
  (hk : task.kind = .user runtime) (hsched : runtime.hasSchedulableAddressSpace = true)
  (hne : s.currentIndex ≠ index) :
  Activatable ((s.handOff .blocked index).clearContext index) taskId index
    { task with state := .running, context := .new } runtime where
  getTaskIndex := by
    rw [getTaskIndex_clearContext]
    show ((s.setState s.currentIndex .blocked).setState index .running).getTaskIndex taskId = _
    rw [getTaskIndex_setState, getTaskIndex_setState, hi]
  task_eq := by
    have hrun : (s.handOff .blocked index).tasks[index]? = some { task with state := .running } :=
      getElem?_modifyTask_self ((getElem?_setState_of_ne hne _).trans ht)
    exact getElem?_modifyTask_self hrun
  kind := hk
  schedulable := hsched
  unfinished := TaskState.noConfusion

lemma prepareOneShotUserTask_ok (h : s.prepareOneShotUserTask taskId = .ok (entry, s')) :
  (entry = none ∧ s' = s) ∨ ∃ oneShot index task runtime current,
    entry = some oneShot ∧ OneShot s taskId oneShot s' index task runtime current := by
  rw [prepareOneShotUserTask] at h
  split at h
  · cases h
    exact .inl ⟨rfl, rfl⟩
  next index hi =>
  simp only [bind_eq_ok, taskAt_eq_ok] at h
  obtain ⟨t, ht, h⟩ := h
  split at h
  · cases h
    exact .inl ⟨rfl, rfl⟩
  next runtime hk =>
  split at h
  · cases h
    exact .inl ⟨rfl, rfl⟩
  next hsched =>
  simp only [bind_eq_ok, expect_eq_ok] at h
  obtain ⟨_, hsp, _, -, h⟩ := h
  split at h
  · cases h
    exact .inl ⟨rfl, rfl⟩
  next hready =>
  obtain ⟨⟨blocked, _⟩, hblock, h⟩ := bind_eq_ok.1 h
  cases blocked with
  | false =>
    cases h
    exact .inl ⟨rfl, (transitionAt_false hblock).2⟩
  | true =>
    obtain ⟨current, hcur, hrunning, rfl⟩ := transitionAt_true hblock
    have hready' : t.state = .ready := by
      simpa [isReady] using hready
    -- the entered task is ready, so it is not the running one
    have hne : s.currentIndex ≠ index := by
      rintro rfl
      rw [ht] at hcur
      cases hcur
      rw [hready'] at hrunning
      cases hrunning
    have hrun : (s.setState s.currentIndex .blocked).transitionAt index
      prepareToRun = _ :=
      transitionAt_eq_of_state ((getElem?_setState_of_ne hne _).trans ht) hready'
    simp only [Bool.not_true, Bool.false_eq_true, if_false, hrun, bind_eq_ok,
      Prod.exists, Except.ok.injEq, Prod.mk.injEq] at h
    obtain ⟨-, -, ⟨rfl, rfl⟩, h⟩ := h
    simp only [Bool.not_true, Bool.false_eq_true, if_false, bind_eq_ok, Prod.exists] at h
    obtain ⟨_, _, hact, -, -, h⟩ := h
    cases h
    refine .inr ⟨_, index, t, runtime, current, rfl, hi, ht, hk, hready', hcur,
      hrunning, by simpa using hsched, hsp, rfl, .of_activate hact, ?_⟩
    rcases activateUserTask_ok hact with ⟨-, hnot⟩ | ⟨_, _, _, -, heq⟩
    · exact absurd (activatable_of_handOff hi ht hk (by simpa using hsched) hne)
        (hnot index _ runtime)
    · exact heq

/-! ### Search of the next task -/

lemma firstIndex_ok {test : ℕ → Panicking Bool} (h : firstIndex test indices = .ok (some index)) :
  test index = .ok true := by
  induction indices with
  | nil => cases h
  | cons _ _ ih =>
    simp only [firstIndex, bind_eq_ok] at h
    obtain ⟨passed, htest, h⟩ := h
    cases passed with
    | false => exact ih h
    | true =>
      cases h
      exact htest

/-- A ready task that the timer may switch to. -/
structure Schedulable (s : Scheduler) (index : ℕ) (task : Task) : Prop where
  task_eq : s.tasks[index]? = some task
  ready : task.state = .ready
  kernel : task.kind = .kernel → task.context.isEmpty = false
  active : task.kind.isUser = true → s.isUserTaskActive task.getId = true

lemma canScheduleTask_ok (h : s.canScheduleTask index = .ok true) :
  ∃ task, Schedulable s index task := by
  simp only [canScheduleTask, bind_eq_ok, taskAt_eq_ok] at h
  obtain ⟨t, ht, h⟩ := h
  split at h
  · cases h
  next hready =>
  have hready' : t.state = .ready := by simpa [isReady] using hready
  refine ⟨t, ht, hready', fun hk => ?_, fun huser => ?_⟩
  · rw [hk] at h
    simpa using h
  · obtain ⟨_, hk⟩ := TaskKind.isUser_iff.1 huser
    simp only [hk, pure_eq, Except.ok.injEq, Bool.and_eq_true] at h
    exact h.1

lemma getNextReadyIndex_ok (h : s.getNextReadyIndex current = .ok (some next)) :
  ∃ task, Schedulable s next task := by
  rw [getNextReadyIndex] at h
  split at h
  · cases h
  obtain ⟨t, -, h⟩ := bind_eq_ok.1 h
  split at h
  · exact canScheduleTask_ok (firstIndex_ok h)
  obtain ⟨first, hfirst, h⟩ := bind_eq_ok.1 h
  cases first with
  | none => exact canScheduleTask_ok (firstIndex_ok h)
  | some _ =>
    cases h
    have htest := firstIndex_ok hfirst
    obtain ⟨passed, hpassed, htest⟩ := bind_eq_ok.1 htest
    cases passed with
    | false => cases htest
    | true => exact canScheduleTask_ok hpassed

/-- What the timer switch does: the running task becomes ready and a schedulable one runs. -/
structure TimerSwitch (s : Scheduler) (interruptedUserMode : Bool) (action : SwitchAction)
    (s' : Scheduler) (next : ℕ) (task current : Task) : Prop where
  schedulable : Schedulable s next task
  current_eq : s.tasks[s.currentIndex]? = some current
  running : current.state = .running
  ne : s.currentIndex ≠ next
  interrupted : ∀ runtime, current.kind = .user runtime →
    interruptedUserMode = true ∧ runtime.interruptFrameRecorded = true
  action_kernel : task.kind = .kernel → action = .switchKernel s.currentIndex next none none
  action_user : ∀ runtime, task.kind = .user runtime → ∃ top space,
    runtime.addressSpace = some space ∧
    action = if task.context.isEmpty then
        .enterUser s.currentIndex task.getId runtime.savedFrame top space
      else .switchKernel s.currentIndex next (some top) (some space)
  result : ∃ ticks, s' = { s with currentTimerQuantumTicks := ticks }.handOff .ready next

lemma TimerSwitch.switchKernel_eq
    (h :
      TimerSwitch s interruptedUserMode (.switchKernel currentContext nextContext top space) s' next
        task current) :
    currentContext = s.currentIndex ∧ nextContext = next := by
  rcases hk : task.kind with _ | runtime
  · have hact := h.action_kernel hk
    cases hact
    exact ⟨rfl, rfl⟩
  · obtain ⟨_, _, -, hact⟩ := h.action_user runtime hk
    split at hact <;> cases hact
    exact ⟨rfl, rfl⟩

lemma TimerSwitch.enterUser_eq
    (h :
      TimerSwitch s interruptedUserMode (.enterUser currentContext taskId frame top space) s' next
        task current) :
    currentContext = s.currentIndex ∧ taskId = task.getId := by
  rcases hk : task.kind with _ | runtime
  · cases h.action_kernel hk
  · obtain ⟨_, _, -, hact⟩ := h.action_user runtime hk
    split at hact <;> cases hact
    exact ⟨rfl, rfl⟩

lemma canSwitchCurrentTaskAway_ok (hcur : s.tasks[s.currentIndex]? = some current)
  (h : s.canSwitchCurrentTaskAway interruptedUserMode = .ok true) (runtime : UserTaskRuntime)
  (hk : current.kind = .user runtime) :
  interruptedUserMode = true ∧ runtime.interruptFrameRecorded = true := by
  rw [canSwitchCurrentTaskAway, currentTask_eq_ok.2 hcur, ok_bind, hk] at h
  simpa using h

lemma prepareNextUserSwitch_ok (ht : s.tasks[next]? = some task) (hk : task.kind = .user runtime)
    (h : s.prepareNextUserSwitch current next = .ok action) :
    ∃ top space,
      runtime.addressSpace = some space ∧
      action =
        if task.context.isEmpty then .enterUser current task.getId runtime.savedFrame top space else
          .switchKernel current next (some top) (some space) := by
  rw [prepareNextUserSwitch, taskAt_eq_ok.2 ht, ok_bind, hk] at h
  simp only [bind_eq_ok, expect_eq_ok] at h
  obtain ⟨top, -, space, hsp, h⟩ := h
  split at hsp
  · cases hsp
  refine ⟨top, space, hsp, ?_⟩
  split at h
  · next hempty =>
    cases h
    rw [if_pos hempty]
  · next hempty =>
    cases h
    rw [if_neg hempty]

lemma prepareNextSwitch_ok (h : s.prepareNextSwitch interruptedUserMode = .ok (action, s')) :
  (action = none ∧ ∃ ticks, s' = { s with currentTimerQuantumTicks := ticks }) ∨
    ∃ switch next task current, action = some switch ∧
      TimerSwitch s interruptedUserMode switch s' next task current := by
  simp only [prepareNextSwitch, bind_eq_ok] at h
  obtain ⟨canSwitch, haway, h⟩ := h
  cases canSwitch with
  | false =>
    cases h
    exact .inl ⟨rfl, s.currentTimerQuantumTicks, rfl⟩
  | true =>
    simp only [Bool.not_true, Bool.false_eq_true, if_false] at h
    -- the quantum counter is the only field that changes before the search
    generalize hq : saturatingAdd s.currentTimerQuantumTicks 1 = ticks at h
    split at h
    · cases h
      exact .inl ⟨rfl, ticks, rfl⟩
    obtain ⟨next, hnext, h⟩ := bind_eq_ok.1 h
    cases next with
    | none =>
      cases h
      exact .inl ⟨rfl, ticks, rfl⟩
    | some next =>
      obtain ⟨t, hsched⟩ := getNextReadyIndex_ok hnext
      simp only at h
      split at h
      · cases h
        exact .inl ⟨rfl, ticks, rfl⟩
      next hne =>
      obtain ⟨⟨waiting, _⟩, hwait, h⟩ := bind_eq_ok.1 h
      cases waiting with
      | false =>
        cases h
        exact .inl ⟨rfl, ticks, (transitionAt_false hwait).2⟩
      | true =>
        obtain ⟨current, hcur, hrunning, rfl⟩ := transitionAt_true hwait
        have hne' : s.currentIndex ≠ next := fun heq => hne heq.symm
        have hget := (getElem?_setState_of_ne hne' .ready).trans hsched.task_eq
        have hrun : ({ s with currentTimerQuantumTicks := ticks }.setState
          s.currentIndex .ready).transitionAt next prepareToRun = _ :=
          transitionAt_eq_of_state hget hsched.ready
        simp only [Bool.not_true, Bool.false_eq_true, if_false, hrun, ok_bind] at h
        simp only [bind_eq_ok, taskAt_eq_ok] at h
        obtain ⟨t', ht', h⟩ := h
        have ht : ({ s with currentTimerQuantumTicks := ticks }.handOff .ready
          next).tasks[next]? = some { t with state := .running } :=
          getElem?_modifyTask_self hget
        have heq : t' = { t with state := .running } :=
          Option.some.inj (ht'.symm.trans ht)
        subst heq
        have hbase : ∀ switch, action = some switch →
          s' = { s with currentTimerQuantumTicks := ticks }.handOff .ready next →
          (t.kind = .kernel → switch = .switchKernel s.currentIndex next none none) →
          (∀ runtime, t.kind = .user runtime → ∃ top space, runtime.addressSpace = some space ∧
            switch = if t.context.isEmpty then
              .enterUser s.currentIndex t.getId runtime.savedFrame top space
              else .switchKernel s.currentIndex next (some top) (some space)) →
          ∃ switch next task current, action = some switch ∧
            TimerSwitch s interruptedUserMode switch s' next task current :=
          fun switch hact hs' hker huser =>
            ⟨switch, next, t, current, hact, ⟨hsched.task_eq,
              hsched.ready, hsched.kernel, hsched.active⟩, hcur, hrunning, hne', fun runtime
              hk => canSwitchCurrentTaskAway_ok hcur haway runtime hk, hker, huser, ticks, hs'⟩
        cases hk : t.kind with
        | kernel =>
          simp only [hk, TaskKind.isUser] at h
          cases h
          exact .inr (hbase _ rfl rfl (fun _ => rfl) fun runtime hk' => by
            rw [hk] at hk'
            cases hk')
        | user _ =>
          simp only [hk, TaskKind.isUser, if_true, bind_eq_ok] at h
          obtain ⟨switch, hsw, h⟩ := h
          cases h
          refine .inr (hbase switch rfl rfl (fun hk' => ?_) fun runtime' hk' => ?_)
          · rw [hk] at hk'
            cases hk'
          · have hnextSwitch := prepareNextUserSwitch_ok ht'
              (show Task.kind { t with state := .running } = _ from hk') hsw
            exact hnextSwitch

/-! ### Stopping the current user task -/

lemma bootstrap_waits (hs : s.dispatch.Sound)
  (hcur : s.tasks[s.currentIndex]? = some current) (huser : current.kind.isUser = true) :
  s.currentIndex ≠ 0 ∧ ∃ first, s.tasks[0]? = some first ∧ first.kind = .kernel ∧
    (first.state = .blocked ∨ first.state = .ready) := by
  obtain ⟨state, hfirst, hne⟩ := hs.first
  rw [dispatch_slot?] at hfirst
  obtain ⟨first, hget, hslot⟩ := Option.map_eq_some_iff.1 hfirst
  have hkind : first.kind.isUser = false := congrArg Slot.isUser hslot
  have hsta : first.state = state := congrArg Slot.state hslot
  have hpos : s.currentIndex ≠ 0 := by
    intro h
    rw [h, hget] at hcur
    cases hcur
    rw [huser] at hkind
    cases hkind
  have hrunning : first.state ≠ .running := fun hrun =>
    hpos ((hs.running_iff 0 (slotOf first) (by rw [dispatch_slot?, hget]; rfl)).1 hrun).symm
  refine ⟨hpos, first, hget, ?_, ?_⟩
  · cases hk : first.kind with
    | kernel => rfl
    | user _ =>
      rw [hk] at hkind
      cases hkind
  · rw [← hsta] at hne
    cases hst : first.state <;> simp_all

lemma resumeBootstrapTask_eq (hfirst : s.tasks[0]? = some first)
  (hsta : first.state = .blocked ∨ first.state = .ready) :
  s.resumeBootstrapTask = .ok ((s.setState 0 .running).setCurrentIndex 0) := by
  have hne : s.tasks.isEmpty = false := by
    cases htasks : s.tasks with
    | nil =>
      rw [htasks] at hfirst
      cases hfirst
    | cons _ _ => rfl
  simp only [resumeBootstrapTask, hne, Bool.false_eq_true, if_false]
  rcases hsta with hblk | hready
  · have hresume : s.transitionAt 0 resumeBlocked = _ := transitionAt_eq_of_state hfirst hblk
    rw [hresume]
    rfl
  have hstay : s.transitionAt 0 resumeBlocked = _ :=
    transitionAt_eq_of_ne hfirst (by rw [hready]; exact TaskState.noConfusion)
  have hrun : s.transitionAt 0 prepareToRun = _ := transitionAt_eq_of_state hfirst hready
  rw [hstay]
  simp only [ok_bind, Bool.false_eq_true, if_false, hrun]
  rfl

/-- The current task blocks with an empty context and the bootstrap task runs. -/
def blocked (s : Scheduler) : Scheduler := (((s.setState s.currentIndex .blocked).clearContext
  s.currentIndex).setState 0 .running).setCurrentIndex 0

lemma getElem?_blocked_current (hcur : s.tasks[s.currentIndex]? = some current)
  (hpos : s.currentIndex ≠ 0) :
  s.blocked.tasks[s.currentIndex]? = some { current with state := .blocked, context := .new } := by
  rw [blocked, setCurrentIndex_tasks, getElem?_setState_of_ne (Ne.symm hpos), clearContext,
    setState, modifyTask_modifyTask, getElem?_modifyTask_self hcur]
  rfl

lemma blockCurrentUserAfterSyscall_ok (hs : s.dispatch.Sound)
  (h : s.blockCurrentUserAfterSyscall = .ok (result, s')) :
  (result = none ∧ s' = s) ∨ ∃ current runtime, s.tasks[s.currentIndex]? = some current ∧
    current.kind = .user runtime ∧ current.state = .running ∧
    runtime.HasRequest ∧ s' = s.blocked := by
  simp only [blockCurrentUserAfterSyscall, bind_eq_ok, currentTask_eq_ok] at h
  obtain ⟨t, ht, h⟩ := h
  split at h
  · cases h
    exact .inl ⟨rfl, rfl⟩
  next runtime hk =>
  split at h
  · cases h
    exact .inl ⟨rfl, rfl⟩
  next _ =>
  obtain ⟨⟨applied, _⟩, hblock, h⟩ := bind_eq_ok.1 h
  cases applied with
  | false =>
    cases h
    exact .inl ⟨rfl, (transitionAt_false hblock).2⟩
  | true =>
    obtain ⟨_, hcur, hrun, rfl⟩ := transitionAt_true hblock
    rw [ht] at hcur
    cases hcur
    obtain ⟨hpos, first, hfirst, -, hsta⟩ := bootstrap_waits hs ht (by rw [hk]; rfl)
    have hfirst' : ((s.setState s.currentIndex .blocked).clearContext
      s.currentIndex).tasks[0]? = some first := by
      rw [clearContext, getElem?_modifyTask_of_ne hpos, getElem?_setState_of_ne hpos]
      exact hfirst
    simp only [Bool.not_true, Bool.false_eq_true, if_false, bind_eq_ok] at h
    obtain ⟨_, hresume, h⟩ := h
    cases h
    refine .inr ⟨t, runtime, ht, hk, hrun, ?_,
      Except.ok.inj (hresume.symm.trans (resumeBootstrapTask_eq hfirst' hsta))⟩
    rw [UserTaskRuntime.HasRequest]
    cases hsleep : runtime.sleepWakeTick <;> cases hwait : runtime.waitpidRequest <;>
      cases hread : runtime.readRequest <;> simp_all

end Scheduler
end ManaOS
