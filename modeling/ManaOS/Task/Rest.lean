/-
Which updates leave the waiting tasks alone.

A sleeping task is left by its sleep alone, and a user task blocks in its own syscall alone.
`Scheduler.Calm` says both of an update.

* `Calm`, `Asks`: the two properties, with one lemma for each update.
-/
import ManaOS.Task.RequestProtocol

namespace ManaOS
open Checked Option

/-- A blocked user task whose one request is a sleep. -/
def Standing.Sleeps (standing : Standing) : Prop := standing.state = .blocked ∧
  ∃ runtime, standing.runtime = some runtime ∧ runtime.pending = ⟨true, false, false, false⟩

/-- A user task is blocked. -/
def Standing.Waits (standing : Standing) : Prop :=
  standing.state = .blocked ∧ standing.runtime.isSome = true

namespace Scheduler
variable {s s' : Scheduler}

/-- **Sleepers stand as before and no user task starts to wait.** -/
structure Calm (s s' : Scheduler) : Prop where
  rests : ∀ (i : ℕ) (standing : Standing), s.standing? i = some standing → standing.Sleeps →
    s'.standing? i = some standing
  waits : ∀ (i : ℕ) (standing : Standing), s'.standing? i = some standing → standing.Waits →
    s.standing? i = some standing

namespace Calm

lemma refl (s : Scheduler) : Calm s s := ⟨fun _ _ h _ => h, fun _ _ h _ => h⟩

lemma trans (h : Calm s s') (h' : Calm s' s'') : Calm s s'' :=
  ⟨fun i standing hi hslp => h'.rests i standing (h.rests i standing hi hslp) hslp,
    fun i standing hi hwaits => h.waits i standing (h'.waits i standing hi hwaits) hwaits⟩

lemma of_cases
    (h : ∀ i,
        s'.standing? i = s.standing? i ∨
        (∀ old, s.standing? i = some old → ¬old.Sleeps) ∧
        ∀ new, s'.standing? i = some new → ¬new.Waits) :
    Calm s s' := by
  refine ⟨fun i standing hi hslp => ?_, fun i standing hi hwaits => ?_⟩
  · rcases h i with heq | ⟨hold, -⟩
    · rw [heq, hi]
    · exact absurd hslp (hold standing hi)
  · rcases h i with heq | ⟨-, hnew⟩
    · rw [← heq, hi]
    · exact absurd hwaits (hnew standing hi)

lemma congr (h : ∀ i, s'.standing? i = s.standing? i) : Calm s s' := of_cases fun i => .inl (h i)

end Calm

variable {standing : Standing} {runtime : RuntimeView} {i : ℕ}

lemma not_sleeps_of_state (h : standing.state ≠ .blocked) : ¬standing.Sleeps:= fun hslp => h hslp.1

lemma not_waits_of_state (h : standing.state ≠ .blocked) :
  ¬standing.Waits := fun hwaits => h hwaits.1

lemma not_waits_of_kernel (h : standing.runtime = none) : ¬standing.Waits := by
  rintro ⟨-, hsome⟩
  rw [h] at hsome
  cases hsome

lemma not_sleeps_of_kernel (h : standing.runtime = none) : ¬standing.Sleeps := by
  rintro ⟨-, _, hsome, -⟩
  rw [h] at hsome
  cases hsome

lemma state_current (hs : s.table.Sound)
  (h : s.standing? s.currentIndex = some standing) : standing.state = .running := by
  obtain ⟨_, ht, rfl⟩ := standing?_eq_some h
  exact hs.current_running (getElem?_table_of ht)

namespace Calm

/-! ### One position -/

/-- A change of one task is calm when it is not blocked before or after. -/
lemma of_position {g : Standing → Standing}
    (hset : ∀ j,
        s'.standing? j =
          (s.standing? j).map fun standing => if i = j then g standing else standing)
    (hold : ∀ old, s.standing? i = some old → old.state ≠ .blocked ∧ (g old).state ≠ .blocked) :
    Calm s s' := by
  refine of_cases fun j => ?_
  by_cases heq : i = j
  · subst heq
    refine .inr ⟨fun old ho => not_sleeps_of_state (hold old ho).1, fun new hn => ?_⟩
    rw [hset] at hn
    obtain ⟨old, ho, rfl⟩ := map_eq_some_iff.1 hn
    rw [if_pos rfl]
    exact not_waits_of_state (hold old ho).2
  · left
    rw [hset]
    simp only [if_neg heq, map_id']

lemma of_unblocked {g : Standing → Standing}
    (hset : ∀ j,
        s'.standing? j =
          (s.standing? j).map fun standing => if i = j then g standing else standing)
    (hg : ∀ standing, (g standing).state = standing.state)
    (hold : ∀ old, s.standing? i = some old → old.state ≠ .blocked) : Calm s s' :=
  of_position hset fun old ho => ⟨hold old ho, by rw [hg]; exact hold old ho⟩

lemma unblocked_current (hs : s.table.Sound) (h : s.standing? s.currentIndex = some old) :
  old.state ≠ .blocked := by
  rw [state_current hs h]
  exact TaskState.noConfusion

lemma setRuntime_current (hs : s.table.Sound) (runtime : UserTaskRuntime) :
  Calm s (s.setRuntime s.currentIndex runtime) :=
  of_unblocked (standing?_setRuntime _ _) (fun _ => rfl) fun _ => unblocked_current hs

lemma saveContext (hold : ∀ old, s.standing? i = some old → old.state ≠ .blocked) :
  Calm s (s.modifyTask i ({ · with context })) :=
  of_unblocked (standing?_saveContext _ _) (fun _ => rfl) hold

lemma spawns (hspn : s.Spawns s' task) (hready : task.state = .ready) : Calm s s' := by
  refine of_cases fun i => ?_
  rw [standing?_spawns hspn]
  split
  · next heq =>
    subst heq
    refine .inr ⟨fun old hold => ?_, fun new hnew => ?_⟩
    · rw [standing?, List.getElem?_eq_none (Nat.le_refl _)] at hold
      cases hold
    cases hnew
    refine not_waits_of_state ?_
    rw [Task.standing, hready]
    exact TaskState.noConfusion
  · exact .inl rfl

lemma handOff (hs : s.table.Sound)
  (hnext : ∀ old, s.standing? next = some old → old.state ≠ .blocked) :
  Calm s (s.handOff .ready next) := by
  refine of_cases fun i => ?_
  rw [standing?_handOff]
  by_cases htouched : next = i ∨ s.currentIndex = i
  · refine .inr ⟨fun old hold => not_sleeps_of_state ?_, fun new hnew => not_waits_of_state ?_⟩
    · rcases htouched with rfl | rfl
      · exact hnext old hold
      · exact unblocked_current hs hold
    obtain ⟨old, _, rfl⟩ := map_eq_some_iff.1 hnew
    show (if next = i then TaskState.running
      else if s.currentIndex = i then TaskState.ready else old.state) ≠ _
    split_ifs with h h'
    · exact TaskState.noConfusion
    · exact TaskState.noConfusion
    · exact absurd htouched (by simp [h, h'])
  · left
    obtain ⟨hne, hne'⟩ := not_or.1 htouched
    simp only [if_neg hne, if_neg hne', map_id']

lemma retired (hs : s.table.Sound) (exitCode parent taskId : ℕ) (active : List ℕ) :
  Calm s (s.retired exitCode parent taskId active) := by
  refine of_cases fun i => ?_
  rw [standing?_retired]
  by_cases hzero : 0 = i
  · subst hzero
    refine .inr ⟨fun old hold => ?_, fun new hnew => ?_⟩
    · have hker := runtime_first hs hold
      exact not_sleeps_of_kernel hker
    · obtain ⟨old, hold, rfl⟩ := map_eq_some_iff.1 hnew
      have hker := runtime_first hs hold
      exact not_waits_of_kernel hker
  by_cases hcur : s.currentIndex = i
  · subst hcur
    refine .inr ⟨fun old hold => not_sleeps_of_state (unblocked_current hs hold),
      fun new hnew => not_waits_of_state ?_⟩
    obtain ⟨_, _, rfl⟩ := map_eq_some_iff.1 hnew
    simp only [if_neg hzero, if_true]
    exact TaskState.noConfusion
  · left
    simp only [if_neg hzero, if_neg hcur, map_id']

lemma wakeKeyboardReaders (s : Scheduler) : Calm s s.wakeKeyboardReaders.2 := by
  rcases wakeKeyboardReaders_eq s with heq | ⟨index, _, runtime, ht, hk, hread, -, heq⟩
  · rw [heq]
    exact .refl s
  rw [heq]
  refine of_cases fun i => ?_
  rw [standing?_setState]
  by_cases hidx : index = i
  · subst hidx
    refine .inr ⟨fun old hold => ?_, fun new hnew => not_waits_of_state ?_⟩
    · rintro ⟨-, r, hr, hpend⟩
      rw [standing?_of ht] at hold
      cases hold
      rw [Task.standing, hk] at hr
      cases hr
      have hopen : runtime.view.pending.read = true := hread
      rw [hpend] at hopen
      cases hopen
    · obtain ⟨_, _, rfl⟩ := map_eq_some_iff.1 hnew
      rw [if_pos rfl]
      exact TaskState.noConfusion
  · left
    simp only [if_neg hidx, map_id']

lemma wakeWaitingParentForChildExit
    (hcall : s.wakeWaitingParentForChildExit parentTaskId childTaskId = .ok s') : Calm s s' := by
  rcases wakeWaitingParentForChildExit_ok hcall with ⟨rfl, -⟩ |
    ⟨index, _, runtime, _, _, _, hwait, hcoll, -, rfl⟩
  · exact .refl s'
  refine of_cases fun i => ?_
  rw [completeWait, standing?_setState, standing?_setRuntime, standing?_collect hcoll, map_map]
  by_cases hidx : index = i
  · subst hidx
    refine .inr ⟨fun old hold => ?_, fun new hnew => not_waits_of_state ?_⟩
    · rintro ⟨-, r, hr, hpend⟩
      rw [standing?_of hwait.parent_eq] at hold
      cases hold
      rw [Task.standing, hwait.kind] at hr
      cases hr
      have hopen : runtime.view.pending.wait = true := by
        show runtime.waitpidRequest.isSome = true
        rw [hwait.request_eq]
        rfl
      rw [hpend] at hopen
      cases hopen
    · obtain ⟨_, _, rfl⟩ := map_eq_some_iff.1 hnew
      simp only [Function.comp, if_true]
      exact TaskState.noConfusion
  · left
    simp only [Function.comp_def, if_neg hidx, map_id']

lemma finishCurrentTask (hs : s.table.Sound)
  (hcall : s.finishCurrentTask exitCode = .ok (exit, s')) : Calm s s' := by
  have hretd : ∀ {result s1}, s.retireCurrentTask exitCode = .ok (result, s1) → Calm s s1 := by
    intro _ _ hret
    rcases retireCurrentTask_ok (dispatch_sound hs) hret with ⟨rfl, -⟩ |
      ⟨_, _, _, -, -, -, -, -, rfl⟩
    · exact .refl _
    · exact .retired hs _ _ _ _
  rcases finishCurrentTask_ok hcall with hret | ⟨_, _, _, hret, hwake⟩
  · exact hretd hret
  · exact (hretd hret).trans (.wakeWaitingParentForChildExit hwake)

lemma reclaimFinishedUserResources
    (hcall : s.reclaimFinishedUserResources mapper memory taskId = .ok (result, s', memory')) :
    Calm s s' := by
  rcases (standing?_reclaimFinishedUserResources hcall).2 with hsame |
    ⟨_, _, _, _, ht, hfin, -, -, hsame⟩
  · exact .congr hsame
  refine of_unblocked (fun i => (hsame i).trans (standing?_setRuntime _ _ i)) (fun _ => rfl)
    fun old hold => ?_
  rw [standing?_of ht] at hold
  cases hold
  rw [Task.standing, hfin]
  exact TaskState.noConfusion

lemma replaceCurrentUserImage (hs : s.table.Sound) {space : UserAddressSpace}
  {frame : UserTrapFrame} {heapStart : UserVirtualAddress}
  {result : Option (ℕ × UserAddressSpace)}
  (hcall : s.replaceCurrentUserImage space frame heapStart = .ok (result, s')) : Calm s s' := by
  rcases replaceCurrentUserImage_ok hcall with ⟨-, rfl⟩ | ⟨_, runtime, heap, _, hcur, -, -, rfl⟩
  · exact .refl _
  have hsound : (s.setRuntime s.currentIndex (runtime.withImage space frame heap)).table.Sound := by
    rw [hcur.table_setRuntime]
    exact hs
  exact (setRuntime_current hs _).trans
    (of_unblocked (standing?_clearContext _) (fun _ => rfl) fun _ => unblocked_current hsound)

end Calm

lemma standing?_wakeSleeping_of_lt (hi : s.standing? i = some standing)
  (hrt : standing.runtime = some runtime) (hwake : runtime.sleepWakeTick = some wakeTick)
  (hlt : tick < wakeTick) : (s.wakeSleepingUserTasks tick).standing? i = some standing := by
  obtain ⟨task, ht, rfl⟩ := standing?_eq_some hi
  rw [standing?, getElem?_wakeSleepingUserTasks, ht, map_some, map_some]
  cases hk : task.kind with
  | kernel =>
    rw [Task.standing, hk] at hrt
    cases hrt
  | user found =>
    rw [Task.standing, hk] at hrt
    cases hrt
    have hfound : found.sleepWakeTick = some wakeTick := hwake
    have hsame : wakeSleepingTask tick task = task := by
      simp only [wakeSleepingTask, hk, hfound, hlt, if_true]
    rw [hsame]

lemma standing?_wakeSleeping_of_le (hi : s.standing? i = some standing)
  (hrt : standing.runtime = some runtime) (hwake : runtime.sleepWakeTick = some wakeTick)
  (hblk : standing.state = .blocked) (hle : wakeTick ≤ tick) :
  ((s.wakeSleepingUserTasks tick).standing? i).map Standing.state = some .ready := by
  obtain ⟨task, ht, rfl⟩ := standing?_eq_some hi
  rw [standing?, getElem?_wakeSleepingUserTasks, ht, map_some, map_some, map_some]
  cases hk : task.kind with
  | kernel =>
    rw [Task.standing, hk] at hrt
    cases hrt
  | user found =>
    rw [Task.standing, hk] at hrt
    cases hrt
    have hfound : found.sleepWakeTick = some wakeTick := hwake
    have hsta : task.state = .blocked := hblk
    simp only [wakeSleepingTask, hk, hfound, Nat.not_lt.2 hle, if_false, hsta]
    rfl

lemma waits_wakeSleepingUserTasks
    (hi : (s.wakeSleepingUserTasks tick).standing? i = some standing) (hwaits : standing.Waits) :
    s.standing? i = some standing := by
  obtain ⟨_, ht', rfl⟩ := standing?_eq_some hi
  rw [getElem?_wakeSleepingUserTasks] at ht'
  obtain ⟨task, ht, rfl⟩ := map_eq_some_iff.1 ht'
  rcases wakeSleepingTask_cases tick task with heq | ⟨_, _, -, heq⟩
  · rw [heq]
    exact standing?_of ht
  have hsta := hwaits.1
  rw [heq] at hsta
  have hsta : (task.state.wakeBlocked).getD task.state = .blocked := hsta
  cases hold : task.state <;> rw [hold] at hsta <;> cases hsta

lemma Runs.view_eq (h : s.Runs runtime) (hcur : s.CurrentUser current found) :
  found.view = runtime := by
  obtain ⟨_, hstand⟩ := h
  rw [standing?_of hcur.current_eq, Task.standing, hcur.kind] at hstand
  exact Option.some.inj (congrArg Standing.runtime (Option.some.inj hstand))

lemma Runs.currentUser (h : s.Runs runtime) :
  ∃ current found, s.CurrentUser current found ∧ found.view = runtime := by
  have hruns := h
  obtain ⟨_, hstand⟩ := h
  obtain ⟨current, ht, heq⟩ := standing?_eq_some hstand
  rcases hk : current.kind with _ | found
  · rw [Task.standing, hk] at heq
    cases heq
  · have hcur : s.CurrentUser current found := ⟨ht, hk⟩
    exact ⟨current, found, hcur, hruns.view_eq hcur⟩

lemma Runs.setRuntime (h : s.Runs runtime) (new : UserTaskRuntime) :
  (s.setRuntime s.currentIndex new).Runs new.view := by
  obtain ⟨context, hstand⟩ := h
  refine ⟨context, ?_⟩
  show (s.setRuntime s.currentIndex new).standing? s.currentIndex = _
  rw [standing?_setRuntime, hstand, map_some, if_pos rfl]

lemma standing?_setRuntime_of_ne (h : j ≠ i) (runtime : UserTaskRuntime) :
  (s.setRuntime i runtime).standing? j = s.standing? j := by
  rw [standing?_setRuntime]
  simp only [if_neg h.symm, map_id']

/-! ### Requests of blocked tasks -/

/-- **Every blocked user task has exactly one request.** -/
def Asks (s : Scheduler) : Prop :=
  ∀ (i : ℕ) (standing : Standing) (runtime : RuntimeView), s.standing? i = some standing →
    standing.state = .blocked → standing.runtime = some runtime → runtime.pending.count = 1

lemma Asks.of_waits (h : s.Asks) (hwaits : ∀ (i : ℕ) (standing : Standing),
  s'.standing? i = some standing → standing.Waits → s.standing? i = some standing) : s'.Asks := by
  intro i standing runtime hi hblk hrt
  exact h i standing runtime (hwaits i standing hi ⟨hblk, by rw [hrt]; rfl⟩) hblk
    hrt

lemma Asks.calm (h : s.Asks) (hcalm : Calm s s') : s'.Asks := h.of_waits hcalm.waits

lemma Asks.oneShot (h : s.Asks) {taskId : ℕ} {entry : OneShotUserTask} {index : ℕ} {task : Task}
  {runtime : UserTaskRuntime} (ho : OneShot s taskId entry s' index task runtime current)
  (hker : current.kind = .kernel) : s'.Asks := by
  refine h.of_waits fun i standing hi hwaits => ?_
  rw [ho.result.standing?_eq, standing?_clearContext, standing?_handOff, map_map] at hi
  obtain ⟨_, hold, rfl⟩ := map_eq_some_iff.1 hi
  simp only [Function.comp] at hwaits ⊢
  by_cases hidx : index = i
  · simp only [if_pos hidx] at hwaits
    exact absurd hwaits.1 TaskState.noConfusion
  by_cases hcur : s.currentIndex = i
  · subst hcur
    rw [standing?_of ho.current_eq] at hold
    cases hold
    simp only [if_neg hidx] at hwaits
    exact absurd hwaits (not_waits_of_kernel (by
      show current.kind.view = none
      rw [hker]
      rfl))
  · simp only [if_neg hidx, if_neg hcur]
    exact hold

lemma OneShot.rests (hs : s.table.Sound) {taskId : ℕ} {entry : OneShotUserTask} {index : ℕ}
  {task : Task} {runtime : UserTaskRuntime}
  (ho : OneShot s taskId entry s' index task runtime current)
  (hi : s.standing? i = some standing) (hslp : standing.Sleeps) :
  s'.standing? i = some standing := by
  have hidx : index ≠ i := by
    rintro rfl
    rw [standing?_of ho.task_eq] at hi
    cases hi
    have hsta : task.state = .blocked := hslp.1
    rw [ho.ready] at hsta
    cases hsta
  have hcur : s.currentIndex ≠ i := by
    rintro rfl
    have hsta := state_current hs hi
    rw [hslp.1] at hsta
    cases hsta
  rw [ho.result.standing?_eq, standing?_clearContext, standing?_handOff, hi, map_some,
    map_some, if_neg hidx, if_neg hidx, if_neg hcur]

lemma standing?_blocked_of_sleeps (hs : s.table.Sound)
  (hi : s.standing? i = some standing) (hslp : standing.Sleeps) :
  s.blocked.standing? i = some standing := by
  have hcur : s.currentIndex ≠ i := by
    rintro rfl
    have hsta := state_current hs hi
    rw [hslp.1] at hsta
    cases hsta
  have hzero : 0 ≠ i := by
    rintro rfl
    have hker := runtime_first hs hi
    exact not_sleeps_of_kernel hker hslp
  rw [standing?_blocked, hi, map_some, if_neg hzero, if_neg hcur, if_neg hcur]

lemma Asks.blocked (h : s.Asks) {recorded : UserTaskRuntime}
  (hcnt : recorded.view.pending.count = 1) :
  (s.setRuntime s.currentIndex recorded).blocked.Asks := by
  intro i standing runtime hi hblk hrt
  rw [standing?_blocked, standing?_setRuntime, map_map] at hi
  obtain ⟨old, hold, rfl⟩ := map_eq_some_iff.1 hi
  simp only [Function.comp] at hblk hrt
  by_cases heq : s.currentIndex = i
  · rw [if_pos heq] at hrt
    cases hrt
    exact hcnt
  have hidx : (s.setRuntime s.currentIndex recorded).currentIndex ≠ i := heq
  rw [if_neg heq] at hrt
  rw [if_neg heq, if_neg hidx] at hblk
  split at hblk
  · cases hblk
  · exact h i old runtime hold hblk hrt

end Scheduler
end ManaOS
