/-
Where a task stands: its runtime, its state and its kernel context.

The protocol of blocking requests looks at nothing else of a task.

* `Pending.fits`, `InOrder`: what may be open in each state, for one task and for all.
-/
import ManaOS.Task.ActiveCalls

namespace ManaOS
open Checked

/-- Where a task stands; the runtime is `none` for a kernel task. -/
@[ext] structure Standing where
  runtime : Option RuntimeView
  state : TaskState
  context : TaskContext

/-- Where the task stands. -/
def Task.standing (task : Task) : Standing := ⟨task.kind.view, task.state, task.context⟩

namespace Scheduler
variable {s s' : Scheduler}

/-- The standing of the task at a position. -/
def standing? (s : Scheduler) (i : ℕ) : Option Standing := (s.tasks[i]?).map Task.standing

lemma standing?_of {t : Task} (h : s.tasks[i]? = some t) : s.standing? i = some t.standing := by
  rw [standing?, h]
  rfl

lemma standing?_eq_some {standing : Standing} (h : s.standing? i = some standing) :
  ∃ t, s.tasks[i]? = some t ∧ t.standing = standing := Option.map_eq_some_iff.1 h

/-! ### Updates -/

lemma standing?_of_tasks (h : s'.tasks = s.tasks) (j : ℕ) : s'.standing? j = s.standing? j := by
  rw [standing?, standing?, h]

lemma standing?_modifyTask {f : Task → Task} {g : Standing → Standing}
  (h : ∀ t, s.tasks[i]? = some t → (f t).standing = g t.standing) (j : ℕ) :
  (s.modifyTask i f).standing? j =
    (s.standing? j).map fun standing => if i = j then g standing else standing := by
  rw [standing?, standing?, getElem?_modifyTask]
  cases ht : s.tasks[j]? with
  | none => rfl
  | some t =>
    simp only [Option.map_some]
    split
    · next heq =>
      subst heq
      rw [h t ht]
    · rfl

lemma standing?_modifyTask_of_eq {f : Task → Task}
  (h : ∀ t, s.tasks[i]? = some t → (f t).standing = t.standing) (j : ℕ) :
  (s.modifyTask i f).standing? j = s.standing? j := by
  rw [standing?_modifyTask (g := id) h]
  simp

lemma standing?_setState (i : ℕ) (state : TaskState) (j : ℕ) :
    (s.setState i state).standing? j =
      (s.standing? j).map fun standing => if i = j then { standing with state } else standing :=
  standing?_modifyTask (fun _ _ => rfl) j

lemma standing?_clearContext (i j : ℕ) :
  (s.clearContext i).standing? j = (s.standing? j).map fun standing =>
    if i = j then { standing with context := .new } else standing :=
  standing?_modifyTask (fun _ _ => rfl) j

lemma standing?_setRuntime (i : ℕ) (runtime : UserTaskRuntime) (j : ℕ) :
  (s.setRuntime i runtime).standing? j = (s.standing? j).map fun standing =>
    if i = j then { standing with runtime := some runtime.view } else standing :=
  standing?_modifyTask (fun _ _ => rfl) j

lemma standing?_saveContext (i : ℕ) (context : TaskContext) (j : ℕ) :
    (s.modifyTask i ({ · with context })).standing? j =
      (s.standing? j).map fun standing => if i = j then { standing with context } else standing :=
  standing?_modifyTask (fun _ _ => rfl) j

lemma SameView.standing?_eq (h : SameView s s') (j : ℕ) : s'.standing? j = s.standing? j := by
  have hview : (s'.tasks[j]?).map Task.view = (s.tasks[j]?).map Task.view := by
    rw [← List.getElem?_map, ← List.getElem?_map, h.tasks]
  have hstand : ∀ t : Option Task, t.map Task.standing =
    (t.map Task.view).map fun view => ⟨view.runtime, view.state, view.context⟩ := fun t => by
    cases t <;> rfl
  rw [standing?, standing?, hstand, hstand, hview]

lemma ActiveOnly.standing?_eq (h : ActiveOnly s s') (j : ℕ) : s'.standing? j = s.standing? j :=
  standing?_of_tasks h.tasks j

lemma standing?_handOff (left : TaskState) (next j : ℕ) :
  (s.handOff left next).standing? j = (s.standing? j).map fun standing =>
    { standing with
      state :=
        if next = j then .running else if s.currentIndex = j then left
        else standing.state } := by
  have h : (s.handOff left next).standing? j = ((s.setState s.currentIndex left).setState
    next .running).standing? j := standing?_of_tasks rfl j
  rw [h, standing?_setState, standing?_setState, Option.map_map]
  refine congrArg (Option.map · _) (funext fun standing => ?_)
  simp only [Function.comp]
  split_ifs <;> rfl

lemma standing?_blocked (j : ℕ) :
  s.blocked.standing? j = (s.standing? j).map fun standing =>
    { standing with
      state :=
        if 0 = j then .running else if s.currentIndex = j then .blocked else standing.state
      context := if s.currentIndex = j then .new else standing.context } := by
  have h : s.blocked.standing? j = (((s.setState s.currentIndex .blocked).clearContext
    s.currentIndex).setState 0 .running).standing? j := standing?_of_tasks rfl j
  rw [h, standing?_setState, standing?_clearContext, standing?_setState, Option.map_map,
    Option.map_map]
  refine congrArg (Option.map · _) (funext fun standing => ?_)
  simp only [Function.comp]
  split_ifs <;> rfl

lemma standing?_reparent (exiting j : ℕ) :
  (s.reparentOrphanedChildrenToInitialProcess exiting).standing? j = s.standing? j := by
  rw [standing?, standing?, reparentOrphanedChildrenToInitialProcess, List.getElem?_map,
    Option.map_map]
  refine congrArg (Option.map · _) (funext fun t => ?_)
  simp only [Function.comp, Task.standing, reparentTask_kind, reparentTask_state]
  rw [reparentTask]
  split <;> rfl

lemma standing?_retired (exitCode parent taskId : ℕ) (active : List ℕ) (j : ℕ) :
  (s.retired exitCode parent taskId active).standing? j = (s.standing? j).map fun standing =>
    { standing with
      state :=
        if 0 = j then .running else if s.currentIndex = j then .finished
        else standing.state } := by
  have h : (s.retired exitCode parent taskId active).standing? j = (((s.modifyTask s.currentIndex
      (exited · exitCode)).reparentOrphanedChildrenToInitialProcess taskId).setState 0
        .running).standing? j := standing?_of_tasks rfl j
  rw [h, standing?_setState, standing?_reparent,
    standing?_modifyTask (g := ({ · with state := .finished })) fun _ _ => rfl, Option.map_map]
  refine congrArg (Option.map · _) (funext fun standing => ?_)
  simp only [Function.comp]
  split_ifs <;> rfl

lemma standing?_collected (recordIndex index j : ℕ) :
  (s.collected recordIndex index).standing? j = s.standing? j := by
  have h : (s.collected recordIndex index).standing? j =
    (s.modifyTask index reaped).standing? j := standing?_of_tasks rfl j
  rw [h]
  exact standing?_modifyTask_of_eq (f := reaped) (fun _ _ => rfl) j

lemma standing?_spawns {task : Task} (h : s.Spawns s' task) (j : ℕ) :
  s'.standing? j = if j = s.tasks.length then some task.standing else s.standing? j := by
  obtain ⟨_, -, rfl⟩ := h
  show ((s.tasks ++ [task])[j]?).map Task.standing = _
  split
  · next heq =>
    rw [heq, List.getElem?_append_right (Nat.le_refl _), Nat.sub_self]
    rfl
  next _ =>
  rcases Nat.lt_or_ge j s.tasks.length with hlt | hge
  · rw [List.getElem?_append_left hlt, standing?]
  · rw [List.getElem?_append_right hge, List.getElem?_singleton, if_neg (by omega), standing?,
      List.getElem?_eq_none hge]

end Scheduler

/-! ### Pending requests -/

/-- Which requests and completions of a user task are open. -/
@[ext] structure Pending where
  sleep : Bool
  wait : Bool
  read : Bool
  completion : Bool
  deriving DecidableEq

/-- What a user task has open. -/
def RuntimeView.pending (runtime : RuntimeView) : Pending := ⟨runtime.sleepWakeTick.isSome,
  runtime.waitpidRequest.isSome, runtime.readRequest.isSome, runtime.waitpidCompletion.isSome⟩

namespace Pending

/-- Nothing is open. -/
def clear : Pending := ⟨false, false, false, false⟩

/-- How many of the three requests are open. -/
def count (pending : Pending) : ℕ := pending.sleep.toNat + pending.wait.toNat + pending.read.toNat

/-- **What may be open in each state.**  A running or finished task has no request.  A ready task
with something to complete, and a blocked task with its one request, has an empty context, so that
it is entered through its saved frame. -/
def fits (pending : Pending) (state : TaskState) (contextEmpty : Bool) : Bool :=
  match state with
  | .running => pending == clear
  | .ready =>
    !pending.sleep && !pending.wait && (!(pending.read || pending.completion) || contextEmpty)
  | .blocked =>
    !pending.completion && (pending.count ≤ 1 : Bool) && (pending.count == 0 || contextEmpty)
  | .finished => pending.count == 0

variable {pending : Pending}

lemma eq_clear_iff : pending = clear ↔ pending.sleep =
  false ∧ pending.wait = false ∧ pending.read = false ∧ pending.completion = false := by
  rw [Pending.ext_iff]
  rfl

lemma fits_clear (state : TaskState) (contextEmpty : Bool) : clear.fits state contextEmpty := by
  cases state <;> cases contextEmpty <;> decide

lemma eq_clear_of_running (h : pending.fits .running contextEmpty = true) : pending = clear := by
  simpa [fits] using h

lemma eq_clear_of_ready (h : pending.fits .ready false = true) : pending = clear := by
  obtain ⟨sleep, wait, read, completion⟩ := pending
  revert h
  cases sleep <;> cases wait <;> cases read <;> cases completion <;> decide

lemma of_ready (h : pending.fits .ready contextEmpty = true) :
  pending.sleep = false ∧ pending.wait = false := by
  simp only [fits, Bool.and_eq_true, Bool.not_eq_true'] at h
  exact h.1

lemma eq_clear_of_sleeper
  (h : pending.fits .blocked contextEmpty = true) (hsleep : pending.sleep = true) :
  { pending with sleep := false } = clear := by
  obtain ⟨_, wait, read, completion⟩ := pending
  revert h
  cases hsleep
  cases wait <;> cases read <;> cases completion <;> cases contextEmpty <;> decide

lemma fits_ready_of_reader (h : pending.fits .blocked contextEmpty = true)
    (hread : pending.read = true) : pending.fits .ready contextEmpty = true := by
  obtain ⟨sleep, wait, _, completion⟩ := pending
  revert h
  cases hread
  cases sleep <;> cases wait <;> cases completion <;> cases contextEmpty <;> decide

lemma fits_ready_of_waiter
  (h : pending.fits .blocked contextEmpty = true) (hwait : pending.wait = true) :
  ({ pending with wait := false, completion := true } : Pending).fits .ready contextEmpty =
    true := by
  obtain ⟨sleep, _, read, completion⟩ := pending
  revert h
  cases hwait
  cases sleep <;> cases read <;> cases completion <;> cases contextEmpty <;> decide

lemma state_of_wait {state : TaskState}
  (h : pending.fits state contextEmpty = true) (hwait : pending.wait = true) :
  state = .blocked := by
  obtain ⟨sleep, _, read, completion⟩ := pending
  revert h
  cases hwait
  cases state <;> cases sleep <;> cases read <;> cases completion <;> cases contextEmpty <;> decide

lemma state_of_sleep {state : TaskState}
  (h : pending.fits state contextEmpty = true) (hsleep : pending.sleep = true) :
  state = .blocked := by
  obtain ⟨_, wait, read, completion⟩ := pending
  revert h
  cases hsleep
  cases state <;> cases wait <;> cases read <;> cases completion <;> cases contextEmpty <;> decide

end Pending

/-- The open requests of a user task fit its state. -/
def Standing.InOrder (standing : Standing) : Prop := ∀ runtime, standing.runtime =
  some runtime → runtime.pending.fits standing.state standing.context.isEmpty = true

namespace Scheduler

/-- **The request protocol**: every task stands in order. -/
def InOrder (s : Scheduler) : Prop :=
  ∀ (i : ℕ) (standing : Standing), s.standing? i = some standing → standing.InOrder

end Scheduler
end ManaOS
