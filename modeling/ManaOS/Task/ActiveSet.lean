/-
The set of active user tasks.

`Life` is what `assert_transition_invariants` looks at, `Engaged` what makes it pass.

* `Engaged.assertTransitionInvariants`: the assertion passes.
-/
import ManaOS.Task.ChildRecords

namespace ManaOS
open Checked UserTaskRuntime List

/-! ### One task -/

/-- What the transition assertions see of a task. -/
structure Life where
  isUser : Bool
  state : TaskState
  spaced : Bool
  reclaiming : Bool

/-- What the transition assertions see of the task. -/
def Task.life (task : Task) : Life :=
  match task.kind with
  | .kernel => ⟨false, task.state, false, false⟩
  | .user runtime => ⟨true, task.state, runtime.addressSpace.isSome, runtime.addressSpaceReclaiming⟩

lemma Task.life_user {task : Task} (h : task.kind = .user runtime) : task.life =
  ⟨true, task.state, runtime.addressSpace.isSome, runtime.addressSpaceReclaiming⟩ := by
  rw [life, h]

@[simp] lemma Task.life_state (task : Task) : task.life.state = task.state := by
  rw [life]
  split <;> rfl

@[simp] lemma Task.life_isUser (task : Task) : task.life.isUser = task.kind.isUser := by
  rw [life]
  split <;> next h => rw [h, TaskKind.isUser]

lemma Task.life_setState (task : Task) (state : TaskState) :
  ({ task with state } : Task).life = { task.life with state } := by
  cases hk : task.kind <;> simp only [life, hk]

namespace Life

/-- An active task is an unfinished user task; a user task keeps its address space until it has
finished; one that runs or waits is active; only a finished task is reclaimed. -/
structure Fits (active : Prop) (life : Life) : Prop where
  unfinished : active → life.isUser = true ∧ life.state ≠ .finished
  spaced : life.isUser = true → life.state ≠ .finished → life.spaced = true
  engaged : life.isUser = true → life.state = .running ∨ life.state = .blocked → active
  reclaiming : life.reclaiming = true → life.state = .finished ∧ life.spaced = true

variable {active active' : Prop} {life : Life}

lemma Fits.move (h : life.Fits active) {state : TaskState} (hold : life.state ≠ .finished)
  (hnew : state ≠ .finished)
  (hact : life.isUser = true → state = .running ∨ state = .blocked → active) :
  ({ life with state } : Life).Fits active where
  unfinished ha := ⟨(h.unfinished ha).1, hnew⟩
  spaced huser _ := h.spaced huser hold
  engaged := hact
  reclaiming hr := absurd (h.reclaiming hr).1 hold

lemma Fits.finish (h : life.Fits active) (hold : life.state ≠ .finished) :
  ({ life with state := .finished } : Life).Fits False where
  unfinished := False.elim
  spaced _ hne := absurd rfl hne
  engaged _ hsta := by rcases hsta with hsta | hsta <;> cases hsta
  reclaiming hr := absurd (h.reclaiming hr).1 hold

lemma Fits.activate (h : life.Fits active) (huser : life.isUser = true)
  (hsta : life.state ≠ .finished) : life.Fits True where
  unfinished _ := ⟨huser, hsta⟩
  spaced := h.spaced
  engaged _ _ := trivial
  reclaiming := h.reclaiming

lemma Fits.congr (h : life.Fits active) (hiff : active' ↔ active) : life.Fits active' :=
  (propext hiff) ▸ h

end Life

namespace Scheduler
variable {s s' : Scheduler}

/-! ### All tasks -/

/-- **The invariant of the active set.** -/
structure Engaged (s : Scheduler) : Prop where
  identified : ∀ (i : ℕ) (t : Task), s.tasks[i]? = some t → t.getId = i
  nodup : s.activeUserTaskIdentifiers.Nodup
  retained : ∀ i ∈ s.activeUserTaskIdentifiers, i < s.tasks.length
  fits : ∀ (i : ℕ) (t : Task), s.tasks[i]? = some t → t.life.Fits (i ∈ s.activeUserTaskIdentifiers)

lemma activated_active (s : Scheduler) (taskId : ℕ) :
    (s.activated taskId).activeUserTaskIdentifiers =
      if s.activeUserTaskIdentifiers.contains taskId then s.activeUserTaskIdentifiers else
        s.activeUserTaskIdentifiers ++ [taskId] := by
  rw [activated, isUserTaskActive]
  split <;> rfl

lemma mem_activated (s : Scheduler) (taskId : ℕ) :
  taskId ∈ (s.activated taskId).activeUserTaskIdentifiers := by
  rw [activated_active]
  split
  · next hmem => simpa using hmem
  · exact mem_append_right _ (mem_singleton_self _)

namespace Engaged

lemma congr (h : s.Engaged) (htasks : s'.tasks = s.tasks)
  (hact : s'.activeUserTaskIdentifiers = s.activeUserTaskIdentifiers) : s'.Engaged := by
  refine ⟨?_, ?_, ?_, ?_⟩
  · rw [htasks]
    exact h.identified
  · rw [hact]
    exact h.nodup
  · rw [htasks, hact]
    exact h.retained
  · rw [htasks, hact]
    exact h.fits

lemma of_tasks (h : s.Engaged) (hact : s'.activeUserTaskIdentifiers = s.activeUserTaskIdentifiers)
  (hlen : s'.tasks.length = s.tasks.length)
  (htasks : ∀ (i : ℕ) (t' : Task), s'.tasks[i]? = some t' → ∃ t, s.tasks[i]? = some t ∧
    t'.getId = t.getId ∧ t'.life.Fits (i ∈ s.activeUserTaskIdentifiers)) : s'.Engaged := by
  refine ⟨fun i t' ht' => ?_, ?_, ?_, fun i t' ht' => ?_⟩
  · obtain ⟨t, ht, hid, -⟩ := htasks i t' ht'
    rw [hid]
    exact h.identified i t ht
  · rw [hact]
    exact h.nodup
  · rw [hact, hlen]
    exact h.retained
  · obtain ⟨t, -, -, hfits⟩ := htasks i t' ht'
    rw [hact]
    exact hfits

variable {i : ℕ}

lemma modifyTask (h : s.Engaged) {f : Task → Task}
    (hf : ∀ t,
        s.tasks[i]? = some t →
        (f t).getId = t.getId ∧
        (t.life.Fits (i ∈ s.activeUserTaskIdentifiers) →
         (f t).life.Fits (i ∈ s.activeUserTaskIdentifiers))) :
    (s.modifyTask i f).Engaged := by
  refine h.of_tasks rfl (length_modifyTask s i f) fun j t' ht' => ?_
  rw [getElem?_modifyTask] at ht'
  obtain ⟨t, ht, rfl⟩ := Option.map_eq_some_iff.1 ht'
  refine ⟨t, ht, ?_⟩
  split
  · next heq =>
    subst heq
    exact ⟨(hf t ht).1, (hf t ht).2 (h.fits i t ht)⟩
  · exact ⟨rfl, h.fits j t ht⟩

lemma modifyTask_life (h : s.Engaged) {f : Task → Task}
  (hf : ∀ t, s.tasks[i]? = some t → (f t).getId = t.getId ∧ (f t).life = t.life) :
  (s.modifyTask i f).Engaged :=
  h.modifyTask fun t ht => ⟨(hf t ht).1, fun hfits => by rw [(hf t ht).2]; exact hfits⟩

lemma setRuntime (h : s.Engaged) {runtime' : UserTaskRuntime}
  (ht : s.tasks[i]? = some t) (hk : t.kind = .user runtime)
  (hsp : runtime'.addressSpace.isSome = runtime.addressSpace.isSome)
  (hrecl : runtime'.addressSpaceReclaiming = runtime.addressSpaceReclaiming) :
  (s.setRuntime i runtime').Engaged := by
  refine h.modifyTask_life fun u hu => ⟨rfl, ?_⟩
  rw [ht] at hu
  cases hu
  rw [Task.life_user hk, Task.life_user rfl, hsp, hrecl]

lemma clearContext (h : s.Engaged) (i : ℕ) : (s.clearContext i).Engaged :=
  h.modifyTask_life fun _ _ => ⟨rfl, rfl⟩

lemma setState (h : s.Engaged) {state : TaskState}
  (hold : ∀ t, s.tasks[i]? = some t → t.state ≠ .finished) (hnew : state ≠ .finished)
  (hact : ∀ t, s.tasks[i]? = some t → t.kind.isUser = true →
    state = .running ∨ state = .blocked → i ∈ s.activeUserTaskIdentifiers) :
  (s.setState i state).Engaged := by
  refine h.modifyTask fun t ht => ⟨rfl, fun hfits => ?_⟩
  rw [Task.life_setState]
  exact hfits.move (by rw [Task.life_state]; exact hold t ht) hnew
    (by rw [Task.life_isUser]; exact hact t ht)

lemma resume (h : s.Engaged) (ht : s.tasks[i]? = some t) (hker : t.kind = .kernel)
    (hsta : t.state ≠ .finished) : (s.setState i .running).Engaged := by
  refine h.setState (fun u hu => ?_) TaskState.noConfusion fun u hu huser _ => ?_
  · rw [ht] at hu
    cases hu
    exact hsta
  rw [ht] at hu
  cases hu
  rw [hker] at huser
  cases huser

lemma activated (h : s.Engaged) (ht : s.tasks[i]? = some t)
  (huser : t.kind.isUser = true) (hsta : t.state ≠ .finished) : (s.activated i).Engaged := by
  rw [Scheduler.activated]
  split
  · exact h
  next hnot =>
  have hnot : i ∉ s.activeUserTaskIdentifiers := by simpa [isUserTaskActive] using hnot
  refine ⟨h.identified, ?_, ?_, fun j u hu => ?_⟩
  · refine List.nodup_append.2 ⟨h.nodup, List.nodup_singleton i, ?_⟩
    rintro a ha b hb rfl
    exact hnot (List.mem_singleton.1 hb ▸ ha)
  · intro j hj
    rcases List.mem_append.1 hj with hj | hj
    · exact h.retained j hj
    · rw [List.mem_singleton.1 hj]
      exact (List.getElem?_eq_some_iff.1 ht).1
  rcases eq_or_ne j i with rfl | hne
  · rw [ht] at hu
    cases hu
    refine ((h.fits j t ht).activate ?_ ?_).congr ?_
    · rw [Task.life_isUser]
      exact huser
    · rw [Task.life_state]
      exact hsta
    · simp
  · exact (h.fits j u hu).congr (by simp [hne])

/-! ### The assertion -/

lemma getTaskIndex (h : s.Engaged) (ht : s.tasks[i]? = some t) : s.getTaskIndex i = some i := by
  obtain ⟨hlt, rfl⟩ := List.getElem?_eq_some_iff.1 ht
  refine List.findIdx?_eq_some_iff_getElem.2 ⟨hlt, ?_, fun j hj => ?_⟩
  · rw [h.identified i _ ht]
    exact beq_self_eq_true i
  · rw [h.identified j _ (List.getElem?_eq_getElem (Nat.lt_trans hj hlt))]
    simpa using Nat.ne_of_lt hj

lemma of_active (h : s.Engaged) (ht : s.tasks[i]? = some task)
  (hmem : i ∈ s.activeUserTaskIdentifiers) : ∃ runtime, task.kind = .user runtime ∧
    task.state ≠ .finished ∧ runtime.addressSpaceReclaiming = false ∧
    runtime.hasSchedulableAddressSpace = true := by
  have hfits := h.fits i task ht
  obtain ⟨huser, hsta⟩ := hfits.unfinished hmem
  rw [Task.life_isUser] at huser
  obtain ⟨runtime, hk⟩ := TaskKind.isUser_iff.1 huser
  rw [Task.life_user hk] at hfits hsta
  have hspaced : runtime.addressSpace.isSome = true := hfits.spaced rfl hsta
  have hrecl : runtime.addressSpaceReclaiming = false := by
    cases hr : runtime.addressSpaceReclaiming with
    | false => rfl
    | true => exact absurd (hfits.reclaiming hr).1 hsta
  refine ⟨runtime, hk, hsta, hrecl, ?_⟩
  rw [hasSchedulableAddressSpace, hspaced, hrecl]
  rfl

lemma assertActiveFrom (h : s.Engaged) (before rest : List ℕ)
  (hsplit : before ++ rest = s.activeUserTaskIdentifiers) :
  s.assertActiveFrom before rest = .ok () := by
  induction rest generalizing before with
  | nil => rfl
  | cons i _ ih =>
    have hmem : i ∈ s.activeUserTaskIdentifiers := by
      rw [← hsplit]
      exact mem_append_right _ mem_cons_self
    obtain ⟨task, hget⟩ : ∃ task, s.tasks[i]? = some task :=
      ⟨_, getElem?_eq_getElem (h.retained i hmem)⟩
    obtain ⟨runtime, hk, hsta, hrecl, hsched⟩ := h.of_active hget hmem
    have hspaced : runtime.addressSpace.isSome = true := by
      rw [hasSchedulableAddressSpace, hrecl, Bool.not_false, Bool.and_true] at hsched
      exact hsched
    have hopen : (task.state != .finished) = true := by simpa using hsta
    -- the set has no duplicates, so the identifiers before this one differ from it
    have hnew : before.contains i = false := by
      have hnodup := h.nodup
      rw [← hsplit] at hnodup
      have hnot : i ∉ before := fun hb =>
        (nodup_append.1 hnodup).2.2 i hb i mem_cons_self rfl
      simpa using hnot
    simp only [Scheduler.assertActiveFrom, hnew, h.getTaskIndex hget, taskAt_eq_ok.2 hget,
      expect_some, ok_bind, hk, Bool.not_false, hrecl, hspaced, hopen, Bool.and_self,
      hasSchedulableAddressSpace, require, if_true]
    exact ih (before ++ [i]) (by rw [append_assoc]; exact hsplit)

lemma assertTaskLifecycle (h : s.Engaged) (ht : s.tasks[i]? = some task) :
  s.assertTaskLifecycle task = .ok () := by
  have hfits := h.fits i task ht
  have hid := h.identified i task ht
  cases hk : task.kind with
  | kernel => simp only [Scheduler.assertTaskLifecycle, hk]
  | user runtime =>
    rw [Task.life_user hk] at hfits
    obtain ⟨-, -, heng, hrecl⟩ := hfits
    have hact : s.isUserTaskActive task.getId = decide (i ∈ s.activeUserTaskIdentifiers) := by
      rw [isUserTaskActive, hid]
      simp
    simp only [Scheduler.assertTaskLifecycle, hk, hact, hasSchedulableAddressSpace]
    by_cases hmem : i ∈ s.activeUserTaskIdentifiers
    · obtain ⟨_, hk', hsta, hcalm, hsched⟩ := h.of_active ht hmem
      rw [hk] at hk'
      cases hk'
      rw [hasSchedulableAddressSpace, hcalm, Bool.not_false, Bool.and_true] at hsched
      have hsome : runtime.addressSpace.isNone = false := by
        rw [← Option.not_isSome, hsched]
        rfl
      simp [hmem, hsched, hcalm, hsome, hsta, require]
    have hidle : task.state ≠ .running := fun hrun => hmem (heng rfl (.inl hrun))
    cases hr : runtime.addressSpaceReclaiming with
    | false => simp [hmem, hidle, require]
    | true =>
      obtain ⟨hfin, hsp⟩ := hrecl hr
      have hfin : task.state = .finished := hfin
      have hsp : runtime.addressSpace.isSome = true := hsp
      simp [hmem, hfin, hsp, require]

/-- **The transition assertion passes.** -/
theorem assertTransitionInvariants (h : s.Engaged) : s.assertTransitionInvariants = .ok () := by
  have hall : ∀ tasks : List Task, (∀ task ∈ tasks, task ∈ s.tasks) →
    tasks.forM s.assertTaskLifecycle = .ok () := by
    intro tasks
    induction tasks with
    | nil => exact fun _ => rfl
    | cons task rest ih =>
      intro hmem
      obtain ⟨i, hi⟩ := mem_iff_getElem?.1 (hmem task mem_cons_self)
      show (s.assertTaskLifecycle task >>= fun _ => rest.forM s.assertTaskLifecycle) = _
      rw [h.assertTaskLifecycle hi, ok_bind]
      exact ih fun t ht => hmem t (mem_cons_of_mem _ ht)
  rw [Scheduler.assertTransitionInvariants, assertActiveUserTaskInvariants,
    h.assertActiveFrom [] _ rfl, ok_bind]
  exact hall s.tasks fun _ ht => ht

end Engaged
end Scheduler
end ManaOS
