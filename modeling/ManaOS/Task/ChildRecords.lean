/-
Child exit records and family trees.

The exit bookkeeping is kept twice, in the task records and in the list of child exit records.

* `child_exit_records_agree` (**records**): the two agree in every reachable state;
* `exit_delivered_once`: no exit is collected twice.
-/
import Mathlib.Data.List.Nodup
import ManaOS.Task.Calls

namespace ManaOS
open Checked
namespace ProcessTable
variable {table table' : ProcessTable}

/-- A process whose exit status has not been collected. -/
def Waitable (process : Process) : Prop :=
  process.isUser = true ∧ process.status.any TaskExitStatus.waitCollected = false

/-- A process that may still be waited for has a parent that can wait: no finished user
process. -/
def Attended (table : ProcessTable) : Prop := ∀ (i j : ℕ) (process parent : Process),
  table.processes[i]? = some process → Waitable process → process.parent =
  some j → table.processes[j]? = some parent → parent.isUser = true → parent.state ≠ .finished

/-! ### Steps -/

lemma Attended.of_states (h : table.Attended)
  (hproc : ∀ (i : ℕ) (process' : Process), table'.processes[i]? = some process' →
    ∃ process state, table.processes[i]? = some process ∧ process' = { process with state } ∧
    (state = .finished ↔ process.state = .finished)) : table'.Attended := by
  intro i j process' parent' hi hwtbl hpar hj huser hfin
  obtain ⟨process, _, hi0, rfl, -⟩ := hproc i process' hi
  obtain ⟨parent, _, hj0, rfl, hiff⟩ := hproc j parent' hj
  exact h i j process parent hi0 hwtbl hpar hj0 huser (hiff.1 hfin)

lemma Attended.spawn (hs : table.Sound) (h : table.Attended) {parent : Process} (isUser : Bool)
  (hpar : table.processes[table.current]? = some parent) :
  Attended { table with
    processes := table.processes ++ [⟨table.next, some parent.identifier, none, isUser, .ready⟩]
    next := table.next + 1 } := by
  intro i j process owner hi hwtbl hj hown huser
  -- the parent of either kind of process is an old process
  have hold : ∀ owner', table.processes[j]? = some owner' → owner' = owner := by
    intro _ hget
    rw [List.getElem?_append_left (List.getElem?_eq_some_iff.1 hget).1, hget] at hown
    exact Option.some.inj hown
  rcases Nat.lt_or_ge i table.processes.length with hlt | hge
  · rw [List.getElem?_append_left hlt] at hi
    have hj_lt : j < table.processes.length := Nat.lt_trans (hs.parent_lt i process j hi hj) hlt
    have hget := List.getElem?_eq_getElem hj_lt
    obtain rfl := hold _ hget
    exact h i j process _ hi hwtbl hj hget huser
  rw [List.getElem?_append_right hge, List.getElem?_singleton] at hi
  split at hi
  · cases hi
    cases hj
    rw [hs.identifier _ _ hpar] at hold
    obtain rfl := hold parent hpar
    rw [hs.current_running hpar]
    exact TaskState.noConfusion
  · cases hi

lemma Attended.exit (hs : table.Sound) (h : table.Attended) {process : Process}
  {parent exitCode : ℕ} (hcur : table.processes[table.current]? = some process)
  (huser : process.isUser = true) : (table.exit process.identifier parent exitCode).Attended := by
  have hid := hs.identifier _ _ hcur
  have hpos : process.identifier ≠ bootstrapIdentifier := by
    rw [hid]
    intro hzero
    rw [show table.current = 0 from hzero] at hcur
    rw [(hs.first hcur).1] at huser
    cases huser
  intro i j _ _ hi hwtbl hpar hj hown hfin
  obtain ⟨old, haft⟩ := afterExit hi
  obtain ⟨before, howned⟩ := afterExit hj
  rw [howned.state] at hfin
  split at hfin
  · cases hfin
  next hzero =>
  have hpar' := haft.parent
  rw [hpar] at hpar'
  split at hpar'
  · -- a moved child belongs to the initial process
    cases hpar'
    exact hzero rfl
  next hkept =>
  have hkept : old.parent ≠ some process.identifier := fun heq =>
    hkept ⟨hwtbl.1, heq, hwtbl.2, hpos⟩
  rw [← hpar', hid] at hkept
  rw [if_neg fun heq => hkept (by rw [heq])] at hfin
  refine h i j old before haft.old_eq ⟨haft.isUser ▸ hwtbl.1, ?_⟩ hpar'.symm
    howned.old_eq (howned.isUser ▸ hown) hfin
  have hstat := hwtbl.2
  rw [haft.status] at hstat
  split at hstat
  · next heq =>
    -- the exiting process itself has no status yet
    have hold := haft.old_eq
    rw [← heq, hcur] at hold
    cases hold
    rw [hs.status_none hcur (by rw [hs.current_running hcur]; exact TaskState.noConfusion)]
    rfl
  · exact hstat

lemma Attended.collect (h : table.Attended) (recordIndex index : ℕ) :
  (table.collect recordIndex index).Attended := by
  intro i j _ _ hi hwtbl hpar hj huser hfin
  rw [getElem?_collect] at hi hj
  obtain ⟨old, hold, rfl⟩ := Option.map_eq_some_iff.1 hi
  obtain ⟨before, hbef, rfl⟩ := Option.map_eq_some_iff.1 hj
  refine h i j old before hold ?_ ?_ hbef ?_ ?_
  · split at hwtbl
    · refine ⟨hwtbl.1, ?_⟩
      have hstat := hwtbl.2
      rw [Process.reaped] at hstat
      cases hold : old.status with
      | none => rfl
      | some _ =>
        rw [hold] at hstat
        cases hstat
    · exact hwtbl
  · split at hpar <;> exact hpar
  · split at huser <;> exact huser
  · split at hfin <;> exact hfin

lemma Attended.step (hs : table.Sound) (h : table.Attended) (hstep : Step table table') :
  table'.Attended := by
  cases hstep with
  | spawn parent isUser hpar _ => exact h.spawn hs isUser hpar
  | wake woken => exact h.of_states (wake_states woken)
  | handOff _ process _ hnext hready hleft =>
    exact h.of_states (hs.handOff_states hnext (by rw [hready]; exact TaskState.noConfusion) hleft)
  | block process hcur huser hrun =>
    obtain ⟨_, hfirst⟩ := hs.exists_first
    exact h.of_states (hs.handOff_states hfirst (hs.first hfirst).2 (.inr rfl))
  | exit process _ _ hcur huser _ _ _ => exact h.exit hs hcur huser
  | collect recordIndex _ index _ _ _ _ _ => exact h.collect recordIndex index

/-- **No process that may still be waited for loses its parent**, in any run. -/
theorem Attended.steps (hs : table.Sound) (h : table.Attended) (hsteps : Steps table table') :
  table'.Attended := by
  induction hsteps with
  | refl => exact h
  | tail hrun hstep ih => exact ih.step (hs.steps hrun) hstep

/-- The exit of the process has been collected. -/
def Collected (table : ProcessTable) (i : ℕ) : Prop := ∃ process exitCode,
  table.processes[i]? = some process ∧ process.status = some ⟨exitCode, true⟩

lemma Collected.step (h : table.Collected i) (hstep : Step table table') : table'.Collected i := by
  obtain ⟨process, exitCode, hi, hstatus⟩ := h
  cases hstep with
  | spawn _ _ _ _ =>
    refine ⟨process, exitCode, ?_, hstatus⟩
    rw [List.getElem?_append_left (List.getElem?_eq_some_iff.1 hi).1, hi]
  | wake =>
    refine ⟨_, exitCode, by rw [getElem?_wake, hi]; rfl, ?_⟩
    dsimp only
    split <;> exact hstatus
  | handOff | block =>
    refine ⟨_, exitCode, by rw [getElem?_handOff, hi]; rfl, ?_⟩
    exact hstatus
  | exit _ _ _ hcurrent _ _ hnone _ =>
    refine ⟨_, exitCode, by rw [getElem?_exit, hi]; rfl, ?_⟩
    -- the exiting process had no status before
    have hne : table.current ≠ i := by
      rintro rfl
      cases hcurrent.symm.trans hi
      cases hnone.symm.trans hstatus
    dsimp only
    rw [if_neg hne, Process.reparent]
    split_ifs <;> exact hstatus
  | collect =>
    refine ⟨_, exitCode, by rw [getElem?_collect, hi]; rfl, ?_⟩
    split_ifs <;> simp [Process.reaped, hstatus]

lemma Collected.steps (h : table.Collected i) (hsteps : Steps table table') :
  table'.Collected i := by
  induction hsteps with
  | refl => exact h
  | tail _ hstep ih => exact ih.step hstep

end ProcessTable

namespace Scheduler
variable {mapper : PageMapper} {s : Scheduler}
open ProcessTable (Attended)

/-! ### Reachable schedulers -/

lemma table_new_attended : Scheduler.new.table.Attended := by
  intro i j _ _ hi hwtbl
  cases i with
  | zero =>
    cases hi
    cases hwtbl.1
  | succ i => cases hi

lemma Reachable.attended (h : Reachable mapper s) : s.table.Attended :=
  table_new_attended.steps table_new_sound (Calls.table table_new_sound h).1

lemma length_filter_record {records : List ChildExitRecord} {childTaskId : ℕ}
  (hdist : (records.map ChildExitRecord.childTaskId).Nodup)
  (hmem : ∃ record ∈ records, record.childTaskId = childTaskId) :
  (records.filter (·.childTaskId == childTaskId)).length = 1 := by
  have hcnt : ∀ l : List ChildExitRecord, (l.filter (·.childTaskId == childTaskId)).length =
      (l.map ChildExitRecord.childTaskId).count childTaskId := fun l => by
    rw [← List.countP_eq_length_filter, List.count, List.countP_map]
    rfl
  obtain ⟨_, hrec, rfl⟩ := hmem
  rw [hcnt]
  exact List.count_eq_one_of_mem hdist (List.mem_map_of_mem hrec)

/-- **Child exit records agree with the tasks.**  In every reachable state an uncollected
record names a finished user task that is still retained, with the same exit code and the
same parent; a finished user task has exactly one record; and a user task that has not
finished, or whose status has not been collected, has no finished user task as its
parent. -/
theorem child_exit_records_agree (h : Reachable mapper s) :
    (∀ record ∈ s.childExitRecords, record.collected = false →
      ∃ (i : ℕ) (task : Task),
        s.tasks[i]? = some task ∧
        task.getId = record.childTaskId ∧
        task.kind.isUser = true ∧
        task.state = .finished ∧
        task.metadata.exitStatus = some ⟨record.exitCode, false⟩ ∧
        task.metadata.parentIdentifier = some record.parentTaskId) ∧
    (∀ (i : ℕ) (task : Task),
      s.tasks[i]? = some task →
      task.kind.isUser = true →
      task.state = .finished →
      (s.childExitRecords.filter (·.childTaskId == task.getId)).length = 1) ∧
    ∀ (i j : ℕ) (task parent : Task),
      s.tasks[i]? = some task →
      task.kind.isUser = true →
      task.state ≠ .finished ∨ task.metadata.waitCollected = false →
      s.tasks[j]? = some parent →
      task.metadata.parentIdentifier = some parent.getId →
      parent.kind.isUser = true →
      parent.state ≠ .finished := by
  have hs := h.sound
  refine ⟨fun record hrecord hfresh => ?_, fun i task ht huser hfin => ?_, ?_⟩
  · obtain ⟨_, hprocess, huser, hstatus, hparent⟩ := hs.record record hrecord
    have hid := hs.identifier _ _ hprocess
    have hfin := (hs.finished_iff _ _ hprocess).2 (by rw [hstatus]; rfl)
    rw [getElem?_table] at hprocess
    obtain ⟨task, ht, rfl⟩ := Option.map_eq_some_iff.1 hprocess
    rw [hfresh] at hstatus
    exact ⟨record.childTaskId, task, ht, hid, huser, hfin, hstatus, hparent hfresh⟩
  · have hid : task.getId = i := hs.identifier i _ (getElem?_table_of ht)
    have hstatus := (hs.finished_iff i _ (getElem?_table_of ht)).1 hfin
    rw [hid]
    exact length_filter_record hs.distinct (hs.recorded i _ (getElem?_table_of ht) hstatus)
  intro i j _ parent ht huser hopen hj hparent hparentUser
  have hid : parent.getId = j := hs.identifier j _ (getElem?_table_of hj)
  rw [hid] at hparent
  refine h.attended i j _ _ (getElem?_table_of ht) ⟨huser, ?_⟩ hparent (getElem?_table_of hj)
    hparentUser
  rcases hopen with hstate | hcollected
  · rw [hs.status_none (getElem?_table_of ht) hstate]
    rfl
  · exact hcollected

/-- After the run in which a user task exits, its one record agrees with it. -/
theorem child_exit_records_agree_exitRun :
    ∃ s,
      Reachable walkMapper s ∧
      s.childExitRecords = [⟨bootstrapIdentifier, 1, 7, false⟩] ∧
      ∀ record ∈ s.childExitRecords, record.collected = false →
        ∃ (i : ℕ) (task : Task),
          s.tasks[i]? = some task ∧
          task.getId = record.childTaskId ∧
          task.kind.isUser = true ∧
          task.state = .finished ∧
          task.metadata.exitStatus = some ⟨record.exitCode, false⟩ ∧
          task.metadata.parentIdentifier = some record.parentTaskId := by
  have hrun : exitRun.map (·.childExitRecords) = .ok [⟨bootstrapIdentifier, 1, 7, false⟩] := by
    decide +kernel
  obtain ⟨s, hs, hrecords⟩ := map_eq_ok.1 hrun
  exact ⟨s, exitRun_reachable hs, hrecords, (child_exit_records_agree (exitRun_reachable hs)).1⟩

lemma collection_of_some (hs : s.table.Sound)
  (h : s.collectWaitableChildExit parentTaskId childTaskId = .ok (some exit, s')) :
  ∃ recordIndex record task,
    Collection s parentTaskId childTaskId exit s' recordIndex record exit.taskId task := by
  rcases collectWaitableChildExit_ok h with ⟨hnone, -⟩ | ⟨_, _, record, index, _, hsome, hc⟩
  · cases hnone
  cases hsome
  obtain ⟨_, ht, hid⟩ := getTaskIndex_eq_some hc.getTaskIndex
  have hindex : index = exit.taskId := by
    rw [hc.exit_eq, ← hid]
    exact (hs.identifier _ _ (getElem?_table_of ht)).symm
  exact ⟨_, _, _, hindex ▸ hc⟩

/-- **An exit is delivered once.**  After a collection no run leads to one, by any task and for any
selector, that returns the exit of the same child. -/
theorem exit_delivered_once (h : Reachable mapper s)
  (hcollect : s.collectWaitableChildExit parentTaskId childTaskId = .ok (some exit, s1))
  (hrun : Calls mapper s1 s2)
  (hagain : s2.collectWaitableChildExit parentTaskId' childTaskId' = .ok (some exit', s3)) :
  exit'.taskId ≠ exit.taskId := by
  intro hsame
  obtain ⟨_, _, task, hc⟩ := collection_of_some h.sound hcollect
  have hcall : Calls mapper s s1 := .single (.collectWaitableChildExit hcollect)
  obtain ⟨hlater, hs2⟩ := Calls.table (Calls.table h.sound hcall).2 hrun
  obtain ⟨_, _, task', hc'⟩ := collection_of_some hs2 hagain
  -- the first collection has marked the child, and the mark stays
  have hmark : s1.table.Collected exit.taskId := by
    rw [hc.result, table_collected]
    refine ⟨_, exit.exitCode, by
      rw [ProcessTable.getElem?_collect, getElem?_table_of hc.task_eq]; rfl, ?_⟩
    simp [Process.reaped, processOf, hc.status, hc.exit_eq]
  obtain ⟨_, _, hi, hcollected⟩ := hmark.steps hlater
  rw [hsame] at hc'
  rw [getElem?_table_of hc'.task_eq] at hi
  cases hi
  have hclash : some false = some true :=
    congrArg (Option.map TaskExitStatus.waitCollected) (hc'.status.symm.trans hcollected)
  cases hclash

/-- After the first collection a second child is spawned, exits and is collected. -/
def secondExitRun : Panicking (Bool × Bool) := do
  let s ← exitRun
  let (exit, s) ← s.collectWaitableChildExit bootstrapIdentifier none
  let (taskId, s, _) ← s.spawnUserTask walkMapper bootMemory bootKernel.selectors bootRequest
  let (_, s) ← s.activateUserTask taskId
  let (_, s) ← s.prepareOneShotUserTask taskId
  let (_, s) ← s.finishCurrentTask 7
  let (exit', _) ← s.collectWaitableChildExit bootstrapIdentifier none
  return (exit.isSome, exit'.isSome)

theorem exit_delivered_once_exitRun : ∃ s exit s1 s2 exit' s3, Reachable walkMapper s ∧
  s.collectWaitableChildExit bootstrapIdentifier none = .ok (some exit, s1) ∧
  Calls walkMapper s1 s2 ∧ s2.collectWaitableChildExit bootstrapIdentifier none =
    .ok (some exit', s3) ∧ exit'.taskId ≠ exit.taskId := by
  have hrun : secondExitRun = .ok (true, true) := by decide +kernel
  simp only [secondExitRun, bind_eq_ok, Prod.exists, pure_eq_ok, Prod.mk.injEq,
    Option.isSome_iff_exists] at hrun
  obtain ⟨s, hs, _, s1, hcollect, _, _, _, hspawn, _, _, hactive, _, _, henter, _, s2, hfinish,
    _, s3, hagain, ⟨exit, rfl⟩, exit', rfl⟩ := hrun
  have hcalls : Calls walkMapper s1 s2 := (((Relation.ReflTransGen.single
    (.spawnUserTask hspawn)).tail (.activateUserTask hactive)).tail
      (.prepareOneShotUserTask henter)).tail (.finishCurrentTask hfinish)
  exact ⟨s, exit, s1, s2, exit', s3, exitRun_reachable hs, hcollect, hcalls, hagain,
    exit_delivered_once (exitRun_reachable hs) hcollect hcalls hagain⟩

end Scheduler
end ManaOS
