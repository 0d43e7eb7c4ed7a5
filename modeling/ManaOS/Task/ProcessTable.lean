/-
An abstract process table: who runs, who is whose parent, and which exits were collected.

The table has six steps; the scheduler takes no others.

* `Steps.dispatch`: a run of the table is a run of the dispatcher;
* `Sound.steps` (**invariant**): every run keeps it.
-/
import ManaOS.Task.Dispatch
import ManaOS.Task.Scheduler

namespace ManaOS
open Option

/-- What the bookkeeping sees of a task. -/
structure Process where
  identifier : ℕ
  parent : Option ℕ
  status : Option TaskExitStatus
  isUser : Bool
  state : TaskState
  deriving DecidableEq

namespace Process

def exited (process : Process) (exitCode : ℕ) : Process :=
  { process with state := .finished, status := some ⟨exitCode, false⟩ }

/-- A process whose exit status was collected. -/
def reaped (process : Process) : Process :=
  { process with status := process.status.map ({ · with waitCollected := true }) }

/-- A child of an exiting process goes to the initial process, unless its exit was collected. -/
def reparent (exiting : ℕ) (process : Process) : Process :=
  if process.isUser ∧ process.parent = some exiting ∧
      process.status.any TaskExitStatus.waitCollected = false ∧ exiting ≠ bootstrapIdentifier then
    { process with parent := some bootstrapIdentifier }
  else process

end Process

/-- The tasks and their child exit records. -/
@[ext] structure ProcessTable where
  processes : List Process
  current : ℕ
  next : ℕ
  records : List ChildExitRecord

namespace ProcessTable

def modify (table : ProcessTable) (index : ℕ) (f : Process → Process) : ProcessTable :=
  { table with processes := table.processes.modify index f }

def setState (table : ProcessTable) (index : ℕ) (state : TaskState) : ProcessTable :=
  table.modify index ({ · with state })

/-- Move the children of an exiting process to the initial process. -/
def reparent (table : ProcessTable) (exiting : ℕ) : ProcessTable :=
  { table with
    processes := table.processes.map (Process.reparent exiting)
    records := table.records.map (·.reparentToInitialProcess exiting) }

/-- The current process leaves the CPU in a state and another one runs. -/
def handOff (table : ProcessTable) (left : TaskState) (next : ℕ) : ProcessTable :=
  { (table.setState table.current left).setState next .running with current := next }

/-- The current process exits. -/
def exit (table : ProcessTable) (identifier parent exitCode : ℕ) : ProcessTable :=
  let table := (table.modify table.current (·.exited exitCode)).reparent identifier
  let table := table.setState 0 .running
  { table with
    current := 0
    records := table.records ++ [⟨parent, identifier, exitCode, false⟩] }

/-- An exit record is collected. -/
def collect (table : ProcessTable) (recordIndex index : ℕ) : ProcessTable :=
  { table.modify index Process.reaped with
    records := table.records.modify recordIndex ({ · with collected := true }) }

/-- Chosen user processes that are blocked become ready. -/
def wake (table : ProcessTable) (woken : ℕ → Bool) : ProcessTable :=
  { table with
    processes := table.processes.mapIdx fun index process =>
      if process.isUser ∧ process.state = .blocked ∧ woken index then
        { process with state := .ready }
      else process }

/-- The steps of the table. -/
inductive Step : ProcessTable → ProcessTable → Prop
  /-- The current process starts a child. -/
  | spawn (table : ProcessTable) (parent : Process) (isUser : Bool)
      (hparent : table.processes[table.current]? = some parent)
      (hroom : table.processes.length < vecCapacity) :
      Step table
        { table with
          processes :=
            table.processes ++ [⟨table.next, some parent.identifier, none, isUser, .ready⟩]
          next := table.next + 1 }
  /-- Some blocked user processes become ready. -/
  | wake (table : ProcessTable) (woken : ℕ → Bool) : Step table (table.wake woken)
  /-- The current process waits or blocks and a ready one runs. -/
  | handOff (table : ProcessTable) (next : ℕ) (process : Process) (left : TaskState)
      (hnext : table.processes[next]? = some process) (hready : process.state = .ready)
      (hleft : left = .ready ∨ left = .blocked) : Step table (table.handOff left next)
  /-- The current user process blocks and the first process runs. -/
  | block (table : ProcessTable) (process : Process)
      (hcurrent : table.processes[table.current]? = some process) (huser : process.isUser = true)
      (hrunning : process.state = .running) : Step table (table.handOff .blocked 0)
  /-- The current user process exits. -/
  | exit (table : ProcessTable) (process : Process) (parent exitCode : ℕ)
      (hcurrent : table.processes[table.current]? = some process) (huser : process.isUser = true)
      (hrunning : process.state = .running) (hstatus : process.status = none)
      (hparent : process.parent = some parent) :
      Step table (table.exit process.identifier parent exitCode)
  /-- An exit record is collected. -/
  | collect (table : ProcessTable) (recordIndex : ℕ) (record : ChildExitRecord) (index : ℕ)
      (process : Process) (hrecord : table.records[recordIndex]? = some record)
      (hfresh : record.collected = false)
      (hprocess : table.processes[index]? = some process)
      (hidentifier : process.identifier = record.childTaskId) :
      Step table (table.collect recordIndex index)

def Steps : ProcessTable → ProcessTable → Prop := Relation.ReflTransGen Step

/-! ### Lookups after a step -/

section
variable (table : ProcessTable) (i j : ℕ)

lemma getElem?_modify (f : Process → Process) :
  (table.modify i f).processes[j]? =
    (table.processes[j]?).map fun process => if i = j then f process else process :=
  List.getElem?_modify f i table.processes j

lemma getElem?_setState (state : TaskState) :
    (table.setState i state).processes[j]? =
      (table.processes[j]?).map fun process => if i = j then { process with state } else process :=
  table.getElem?_modify i j _

lemma getElem?_handOff (left : TaskState) (next : ℕ) :
  (table.handOff left next).processes[j]? = (table.processes[j]?).map fun process =>
    { process with
      state :=
        if next = j then .running else if table.current = j then left else process.state } := by
  show ((table.setState table.current left).setState next .running).processes[j]? = _
  rw [getElem?_setState, getElem?_setState, map_map]
  refine congrArg (Option.map · _) (funext fun process => ?_)
  simp only [Function.comp]
  split_ifs <;> rfl

lemma getElem?_wake (woken : ℕ → Bool) :
  (table.wake woken).processes[j]? = (table.processes[j]?).map fun process =>
    if process.isUser ∧ process.state = .blocked ∧ woken j then
      { process with state := .ready }
    else process :=
  List.getElem?_mapIdx

lemma getElem?_exit (identifier parent exitCode : ℕ) :
  (table.exit identifier parent exitCode).processes[j]? = (table.processes[j]?).map fun process =>
      let process := if table.current = j then process.exited exitCode else process
        let process := process.reparent identifier
        if 0 = j then { process with state := .running } else process := by
  rw [exit]
  show (setState _ 0 .running).processes[j]? = _
  rw [getElem?_setState]
  show (((table.modify _ _).processes.map _)[j]?).map _ = _
  rw [List.getElem?_map, getElem?_modify, map_map, map_map]
  rfl

lemma getElem?_collect (recordIndex : ℕ) :
    (table.collect recordIndex i).processes[j]? =
      (table.processes[j]?).map fun process => if i = j then process.reaped else process :=
  table.getElem?_modify i j _

end

/-! ### The dispatcher -/

def slotOf (process : Process) : Slot := ⟨process.isUser, process.state⟩

/-- The table as a dispatcher. -/
def dispatch (table : ProcessTable) : Dispatch := ⟨table.processes.map slotOf, table.current⟩

lemma dispatch_slot? (table : ProcessTable) (i : ℕ) :
  table.dispatch.slot? i = (table.processes[i]?).map slotOf := List.getElem?_map

lemma dispatch_setState (table : ProcessTable) (i : ℕ) (state : TaskState) :
  (table.setState i state).dispatch = table.dispatch.setState i state := by
  refine Dispatch.ext (List.ext_getElem? fun j => ?_) rfl
  show (table.setState i state).dispatch.slot? j = (table.dispatch.setState i state).slot? j
  rw [Dispatch.slot?_setState, dispatch_slot?, dispatch_slot?, getElem?_setState, map_map, map_map]
  refine congrArg (Option.map · _) (funext fun process => ?_)
  simp only [Function.comp]
  split <;> rfl

lemma dispatch_handOff (table : ProcessTable) (left : TaskState) (next : ℕ) :
  (table.handOff left next).dispatch =
    { (table.dispatch.setState table.dispatch.current left).setState next .running with
      current := next } := by
  have h : ((table.setState table.current left).setState next .running).dispatch =
    (table.dispatch.setState table.current left).setState next .running := by
    rw [dispatch_setState, dispatch_setState]
  exact congrArg (fun d : Dispatch => { d with current := next }) h

@[simp] lemma slotOf_reparent (exiting : ℕ) (process : Process) :
  slotOf (process.reparent exiting) = slotOf process := by
  rw [Process.reparent]
  split <;> rfl

lemma dispatch_exit (table : ProcessTable) (identifier parent exitCode : ℕ) :
  (table.exit identifier parent exitCode).dispatch =
    { (table.dispatch.setState table.dispatch.current .finished).setState 0 .running with
      current := 0 } := by
  refine Dispatch.ext (List.ext_getElem? fun j => ?_) rfl
  show (table.exit identifier parent exitCode).dispatch.slot? j =
    ((table.dispatch.setState table.current .finished).setState 0 .running).slot? j
  rw [Dispatch.slot?_setState, Dispatch.slot?_setState, dispatch_slot?, dispatch_slot?,
    getElem?_exit, map_map, map_map, map_map]
  refine congrArg (Option.map · _) (funext fun process => ?_)
  have hslot : ∀ p : Process, slotOf { p with state := .running } =
    { slotOf p with state := .running } := fun p => rfl
  simp only [Function.comp]
  split_ifs <;> simp only [hslot, slotOf_reparent] <;> rfl

variable {table' : ProcessTable} {process : Process}

/-- Each step of the table is a step of the dispatcher or leaves it alone. -/
theorem Step.dispatch (h : Step table table') : Dispatch.Steps table.dispatch table'.dispatch := by
  cases h with
  | spawn parent isUser hpar _ =>
    have heq : ∀ process : Process, (table.processes ++ [process]).map slotOf =
      table.processes.map slotOf ++ [slotOf process] := fun process => List.map_append
    have hstep := Dispatch.Step.spawn table.dispatch isUser
    refine .single ?_
    rw [ProcessTable.dispatch, ProcessTable.dispatch, heq]
    exact hstep
  | wake _ =>
    refine .single (.wake _ _ ?_ fun index slot hslot => ?_)
    · simp [ProcessTable.dispatch, ProcessTable.wake]
    rw [dispatch_slot?] at hslot
    obtain ⟨process, hproc, rfl⟩ := map_eq_some_iff.1 hslot
    rw [List.getElem?_map, getElem?_wake, hproc]
    simp only [map_some]
    split
    · next hwoken =>
      refine .inr ⟨?_, ?_⟩
      · rw [slotOf, hwoken.1, hwoken.2.1]
      · rw [slotOf, hwoken.1]
    · exact .inl rfl
  | handOff next process left hnext hready hleft =>
    rw [dispatch_handOff]
    refine .single (.handOff _ next process.isUser left ?_ hleft)
    rw [dispatch_slot?, hnext, map_some, slotOf, hready]
  | block process hcur huser hrun =>
    rw [dispatch_handOff]
    refine .single (.stop _ .blocked ?_ (.inl rfl))
    show table.dispatch.slot? table.current = _
    rw [dispatch_slot?, hcur, map_some, slotOf, huser, hrun]
  | exit process _ _ hcur huser hrun _ _ =>
    rw [dispatch_exit]
    refine .single (.stop _ .finished ?_ (.inr rfl))
    show table.dispatch.slot? table.current = _
    rw [dispatch_slot?, hcur, map_some, slotOf, huser, hrun]
  | collect recordIndex _ index process _ _ _ _ =>
    have heq : (table.collect recordIndex index).dispatch = table.dispatch := by
      refine Dispatch.ext (List.ext_getElem? fun j => ?_) rfl
      show (table.collect recordIndex index).dispatch.slot? j = table.dispatch.slot? j
      rw [dispatch_slot?, dispatch_slot?, getElem?_collect, map_map]
      refine congrArg (Option.map · _) (funext fun process => ?_)
      simp only [Function.comp]
      split <;> rfl
    rw [heq]
    exact .refl

/-- A run of the table is a run of the dispatcher. -/
theorem Steps.dispatch (h : Steps table table') :
    Dispatch.Steps table.dispatch table'.dispatch := by
  induction h with
  | refl => exact .refl
  | tail _ hstep ih => exact ih.trans hstep.dispatch

/-! ### The invariant -/

/-- **The invariant of the process table.**  Identifiers are positions, parents come before
children, and statuses and records describe the same exits. -/
structure Sound (table : ProcessTable) : Prop where
  dispatch : table.dispatch.Sound
  next_eq : table.next = table.processes.length
  length_le : table.processes.length ≤ vecCapacity
  identifier : ∀ (i : ℕ) (process : Process), table.processes[i]? = some process →
    process.identifier = i
  parent_lt : ∀ (i : ℕ) (process : Process) (parent : ℕ),
    table.processes[i]? = some process → process.parent = some parent → parent < i
  user_parent : ∀ (i : ℕ) (process : Process), table.processes[i]? = some process →
    process.isUser = true → process.parent.isSome = true
  finished_iff : ∀ (i : ℕ) (process : Process), table.processes[i]? = some process →
    (process.state = .finished ↔ process.status.isSome = true)
  record : ∀ record ∈ table.records, ∃ process, table.processes[record.childTaskId]? =
    some process ∧ process.isUser = true ∧ process.status = some ⟨record.exitCode,
    record.collected⟩ ∧ (record.collected = false → process.parent = some record.parentTaskId)
  distinct : (table.records.map ChildExitRecord.childTaskId).Nodup
  recorded : ∀ (i : ℕ) (process : Process), table.processes[i]? = some process →
    process.status.isSome = true → ∃ record ∈ table.records, record.childTaskId = i

lemma Sound.current_running {table : ProcessTable} (h : table.Sound)
  (hcur : table.processes[table.current]? = some process) : process.state = .running :=
  (h.dispatch.running_iff table.current (slotOf process)
    (by rw [dispatch_slot?, hcur]; rfl)).2 rfl

lemma Sound.status_none {table : ProcessTable} (h : table.Sound) {i : ℕ}
  (hproc : table.processes[i]? = some process) (hsta : process.state ≠ .finished) :
  process.status = none := by
  cases hstat : process.status with
  | none => rfl
  | some _ => exact absurd ((h.finished_iff i process hproc).2 (by rw [hstat]; rfl)) hsta

/-- A step that changes only states, none from or to finished, keeps the invariant. -/
lemma Sound.of_states {table : ProcessTable} (h : table.Sound)
  (hdisp : table'.dispatch.Sound) (hnext : table'.next = table.next)
  (hrecs : table'.records = table.records)
  (hlen : table'.processes.length = table.processes.length)
  (hproc : ∀ (i : ℕ) (process' : Process), table'.processes[i]? = some process' →
    ∃ process state, table.processes[i]? = some process ∧ process' = { process with state } ∧
    (state = .finished ↔ process.state = .finished)) : table'.Sound := by
  refine ⟨hdisp, ?_, ?_, ?_, ?_, ?_, ?_, ?_, ?_, ?_⟩
  · rw [hnext, hlen, h.next_eq]
  · rw [hlen]
    exact h.length_le
  · intro i process' hget
    obtain ⟨process, state, hold, rfl, -⟩ := hproc i process' hget
    exact h.identifier i process hold
  · intro i process' parent hget hpar
    obtain ⟨process, state, hold, rfl, -⟩ := hproc i process' hget
    exact h.parent_lt i process parent hold hpar
  · intro i process' hget huser
    obtain ⟨process, state, hold, rfl, -⟩ := hproc i process' hget
    exact h.user_parent i process hold huser
  · intro i process' hget
    obtain ⟨process, state, hold, rfl, hfin⟩ := hproc i process' hget
    exact hfin.trans (h.finished_iff i process hold)
  · intro record hrec
    rw [hrecs] at hrec
    obtain ⟨_, hold, _, hstat, _⟩ := h.record record hrec
    have hlt : record.childTaskId < table'.processes.length := by
      rw [hlen]
      exact (List.getElem?_eq_some_iff.1 hold).1
    obtain ⟨process, state, hget, heq, -⟩ := hproc _ _ (List.getElem?_eq_getElem hlt)
    rw [hold] at hget
    cases hget
    refine ⟨_, List.getElem?_eq_getElem hlt, ?_, ?_, ?_⟩ <;> rw [heq] <;> assumption
  · rw [hrecs]
    exact h.distinct
  · intro i process' hget hstat
    obtain ⟨process, _, hold, rfl, -⟩ := hproc i process' hget
    rw [hrecs]
    exact h.recorded i process hold hstat

lemma Sound.handOff_states {table : ProcessTable} (h : table.Sound) {next : ℕ}
  (hnext : table.processes[next]? = some process)
  (hready : process.state ≠ .finished) (hleft : left = .ready ∨ left = .blocked) (i : ℕ)
  (process' : Process) (hget : (table.handOff left next).processes[i]? = some process') :
  ∃ process state, table.processes[i]? = some process ∧ process' = { process with state } ∧
    (state = .finished ↔ process.state = .finished) := by
  rw [getElem?_handOff] at hget
  obtain ⟨old, hold, rfl⟩ := map_eq_some_iff.1 hget
  refine ⟨old, _, hold, rfl, ?_⟩
  have hrun : table.current = i → old.state = .running := by
    rintro rfl
    exact h.current_running hold
  have hnot : next = i → old.state ≠ .finished := by
    rintro rfl
    rw [hnext] at hold
    cases hold
    exact hready
  rcases hleft with rfl | rfl <;> split_ifs <;> simp_all

lemma Sound.handOff {table : ProcessTable} (h : table.Sound) {next : ℕ}
  (hnext : table.processes[next]? = some process)
  (hready : process.state ≠ .finished) (hleft : left = .ready ∨ left = .blocked)
  (hdisp : (table.handOff left next).dispatch.Sound) : (table.handOff left next).Sound := by
  refine h.of_states hdisp rfl rfl ?_ (h.handOff_states hnext hready hleft)
  simp [ProcessTable.handOff, setState, modify]

lemma wake_states {table : ProcessTable} (woken : ℕ → Bool) (i : ℕ) (process' : Process)
  (hget : (table.wake woken).processes[i]? = some process') :
  ∃ process state, table.processes[i]? = some process ∧ process' = { process with state } ∧
    (state = .finished ↔ process.state = .finished) := by
  rw [getElem?_wake] at hget
  obtain ⟨old, hold, rfl⟩ := map_eq_some_iff.1 hget
  split
  · next hblk => exact ⟨old, .ready, hold, rfl, by rw [hblk.2.1]; simp⟩
  · exact ⟨old, old.state, hold, rfl, Iff.rfl⟩

lemma Sound.wake {table : ProcessTable} (h : table.Sound) (woken : ℕ → Bool)
  (hdisp : (table.wake woken).dispatch.Sound) : (table.wake woken).Sound :=
  h.of_states hdisp rfl rfl List.length_mapIdx (wake_states woken)

lemma Sound.exists_first {table : ProcessTable} (h : table.Sound) :
  ∃ first, table.processes[0]? = some first := by
  obtain ⟨_, hslot, -⟩ := h.dispatch.first
  rw [dispatch_slot?] at hslot
  obtain ⟨first, hfirst, -⟩ := map_eq_some_iff.1 hslot
  exact ⟨first, hfirst⟩

lemma Sound.first {table : ProcessTable} (h : table.Sound)
  (hproc : table.processes[0]? = some process) :
  process.isUser = false ∧ process.state ≠ .finished := by
  obtain ⟨state, hslot, hne⟩ := h.dispatch.first
  rw [dispatch_slot?, hproc, map_some, Option.some.injEq] at hslot
  have huser : process.isUser = false := congrArg Slot.isUser hslot
  have hsta : process.state = state := congrArg Slot.state hslot
  exact ⟨huser, hsta ▸ hne⟩

lemma Sound.spawn {table : ProcessTable} (h : table.Sound)
  (hpar : table.processes[table.current]? = some parent)
  (hroom : table.processes.length < vecCapacity) (heq : table' = { table with
      processes := table.processes ++ [⟨table.next, some parent.identifier, none, isUser, .ready⟩]
      next := table.next + 1 }) (hdisp : table'.dispatch.Sound) : table'.Sound := by
  subst heq
  -- a process of the new table is an old one or the child
  have hcases : ∀ (i : ℕ) (process : Process), (table.processes ++
    [(⟨table.next, some parent.identifier, none, isUser, .ready⟩ : Process)])[i]? =
    some process → table.processes[i]? = some process ∨ (i = table.processes.length ∧
    process = ⟨table.next, some parent.identifier, none, isUser, .ready⟩) := by
    intro i process hget
    rcases Nat.lt_or_ge i table.processes.length with hlt | hge
    · rw [List.getElem?_append_left hlt] at hget
      exact .inl hget
    rw [List.getElem?_append_right hge, List.getElem?_singleton] at hget
    split at hget
    · next _ => exact .inr ⟨by omega, (Option.some.inj hget).symm⟩
    · cases hget
  refine ⟨hdisp, ?_, ?_, ?_, ?_, ?_, ?_, ?_, h.distinct, ?_⟩
  · simp [h.next_eq]
  · rw [List.length_append]
    exact hroom
  · intro i process hget
    rcases hcases i process hget with hold | ⟨rfl, rfl⟩
    · exact h.identifier i process hold
    · exact h.next_eq
  · intro i process p hget hp
    rcases hcases i process hget with hold | ⟨rfl, rfl⟩
    · exact h.parent_lt i process p hold hp
    · cases hp
      rw [h.identifier _ _ hpar]
      exact (List.getElem?_eq_some_iff.1 hpar).1
  · intro i process hget huser
    rcases hcases i process hget with hold | ⟨rfl, rfl⟩
    · exact h.user_parent i process hold huser
    · rfl
  · intro i process hget
    rcases hcases i process hget with hold | ⟨rfl, rfl⟩
    · exact h.finished_iff i process hold
    · simp
  · intro record hrec
    obtain ⟨process, hold, hrest⟩ := h.record record hrec
    refine ⟨process, ?_, hrest⟩
    rw [List.getElem?_append_left (List.getElem?_eq_some_iff.1 hold).1]
    exact hold
  · intro i process hget hstat
    rcases hcases i process hget with hold | ⟨rfl, rfl⟩
    · exact h.recorded i process hold hstat
    · cases hstat

lemma Sound.collect {table : ProcessTable} (h : table.Sound) {recordIndex index : ℕ}
  {record : ChildExitRecord} (hrec : table.records[recordIndex]? = some record)
  (hproc : table.processes[index]? = some process)
  (hident : process.identifier = record.childTaskId)
  (hdisp : (table.collect recordIndex index).dispatch.Sound) :
  (table.collect recordIndex index).Sound := by
  have hidx : record.childTaskId = index := by
    rw [← hident, h.identifier index process hproc]
  have hold : ∀ (i : ℕ) (new : Process),
    (table.collect recordIndex index).processes[i]? = some new → ∃ old,
      table.processes[i]? = some old ∧ new = if index = i then old.reaped else old := by
    intro i new hget
    rw [getElem?_collect] at hget
    obtain ⟨old, hgot, rfl⟩ := map_eq_some_iff.1 hget
    exact ⟨old, hgot, rfl⟩
  have hsome : ∀ status : Option TaskExitStatus,
    (status.map ({ · with waitCollected := true })).isSome = status.isSome := fun status => by
    cases status <;> rfl
  refine ⟨hdisp, ?_, ?_, ?_, ?_, ?_, ?_, ?_, ?_, ?_⟩
  · simp [ProcessTable.collect, modify, h.next_eq]
  · simpa [ProcessTable.collect, modify] using h.length_le
  · intro i new hget
    obtain ⟨old, hgot, rfl⟩ := hold i new hget
    split <;> exact h.identifier i old hgot
  · intro i new parent hget hpar
    obtain ⟨old, hgot, rfl⟩ := hold i new hget
    split at hpar <;> exact h.parent_lt i old parent hgot hpar
  · intro i new hget huser
    obtain ⟨old, hgot, rfl⟩ := hold i new hget
    split at huser <;> split <;> exact h.user_parent i old hgot huser
  · intro i new hget
    obtain ⟨old, hgot, rfl⟩ := hold i new hget
    split
    · rw [Process.reaped, hsome]
      exact h.finished_iff i old hgot
    · exact h.finished_iff i old hgot
  · intro new hnew
    obtain ⟨k, hk⟩ := List.mem_iff_getElem?.1 hnew
    rw [ProcessTable.collect, List.getElem?_modify] at hk
    obtain ⟨old, hget, rfl⟩ := map_eq_some_iff.1 hk
    obtain ⟨child, hch, huser, hstat, hpar⟩ := h.record old (List.mem_of_getElem? hget)
    split
    · next heq =>
      -- the marked record: its process is the reaped one
      subst heq
      rw [hrec] at hget
      cases hget
      refine ⟨child.reaped, ?_, huser, ?_, fun hfalse => by cases hfalse⟩
      · rw [getElem?_collect, hch, map_some, if_pos hidx.symm]
      · rw [Process.reaped, hstat]
        rfl
    next hne =>
    have hchildren : old.childTaskId ≠ index := by
      intro heq
      refine hne ((List.getElem?_inj ?_ h.distinct).1 ?_)
      · rw [List.length_map]
        exact (List.getElem?_eq_some_iff.1 hrec).1
      · rw [List.getElem?_map, List.getElem?_map, hrec, hget, map_some, map_some, hidx, heq]
    refine ⟨child, ?_, huser, hstat, hpar⟩
    rw [getElem?_collect, hch, map_some, if_neg hchildren.symm]
  · have hmap : (table.collect recordIndex index).records.map ChildExitRecord.childTaskId =
      table.records.map ChildExitRecord.childTaskId := by
      refine List.ext_getElem? fun k => ?_
      rw [List.getElem?_map, List.getElem?_map, ProcessTable.collect, List.getElem?_modify]
      cases table.records[k]? with
      | none => rfl
      | some old =>
        show some (ChildExitRecord.childTaskId (if recordIndex = k then _ else old)) = _
        split <;> rfl
    rw [hmap]
    exact h.distinct
  · intro i new hget hstat
    obtain ⟨old, hgot, rfl⟩ := hold i new hget
    have hstat' : old.status.isSome = true := by
      split at hstat
      · rwa [Process.reaped, hsome] at hstat
      · exact hstat
    obtain ⟨r, hr, hch⟩ := h.recorded i old hgot hstat'
    obtain ⟨k, hk⟩ := List.mem_iff_getElem?.1 hr
    refine ⟨if recordIndex = k then { r with collected := true } else r, ?_, ?_⟩
    · refine List.mem_of_getElem? (i := k) ?_
      rw [ProcessTable.collect, List.getElem?_modify, hk]
      rfl
    · split <;> exact hch

/-- What an exit leaves of a process. -/
structure AfterExit (table : ProcessTable) (exiting exitCode i : ℕ) (old new : Process) : Prop where
  old_eq : table.processes[i]? = some old
  identifier : new.identifier = old.identifier
  isUser : new.isUser = old.isUser
  status : new.status = if table.current = i then some ⟨exitCode, false⟩ else old.status
  state : new.state = if 0 = i then .running else if table.current = i then .finished else old.state
  parent : new.parent = if new.isUser ∧ old.parent = some exiting ∧
        new.status.any TaskExitStatus.waitCollected = false ∧ exiting ≠ bootstrapIdentifier then
      some bootstrapIdentifier
    else old.parent

lemma afterExit {table : ProcessTable}
  (h : (table.exit exiting parent exitCode).processes[i]? = some new) :
  ∃ old, AfterExit table exiting exitCode i old new := by
  rw [getElem?_exit] at h
  obtain ⟨old, hold, rfl⟩ := map_eq_some_iff.1 h
  refine ⟨old, hold, ?_, ?_, ?_, ?_, ?_⟩ <;> simp only [Process.reparent] <;> split_ifs <;>
    simp_all [Process.exited]

lemma Sound.exit {table : ProcessTable} (h : table.Sound)
  {parent exitCode : ℕ} (hcurrent : table.processes[table.current]? = some process)
  (huser : process.isUser = true) (hstatus : process.status = none)
  (hpar : process.parent = some parent)
  (hdisp : (table.exit process.identifier parent exitCode).dispatch.Sound) :
  (table.exit process.identifier parent exitCode).Sound := by
  have hid := h.identifier _ _ hcurrent
  -- the exiting process is neither the first one nor its own parent
  have hpos : table.current ≠ 0 := by
    intro hzero
    rw [hzero] at hcurrent
    rw [(h.first hcurrent).1] at huser
    cases huser
  have hself : parent ≠ table.current := Nat.ne_of_lt (h.parent_lt _ _ _ hcurrent hpar)
  have hrecs : ∀ record ∈ table.records, record.childTaskId ≠ table.current := by
    intro record hrec heq
    obtain ⟨child, hch, -, hstat, -⟩ := h.record record hrec
    rw [heq, hcurrent] at hch
    cases hch
    rw [hstatus] at hstat
    cases hstat
  have hlen : (table.exit process.identifier parent exitCode).processes.length =
    table.processes.length := by
    simp [ProcessTable.exit, setState, modify, ProcessTable.reparent]
  have hnew : ∀ (i : ℕ) (old : Process), table.processes[i]? = some old → ∃ new,
    (table.exit process.identifier parent exitCode).processes[i]? = some new ∧
      AfterExit table process.identifier exitCode i old new := by
    intro i old hold
    have hlt : i < (table.exit process.identifier parent exitCode).processes.length := by
      rw [hlen]
      exact (List.getElem?_eq_some_iff.1 hold).1
    obtain ⟨_, haft⟩ := afterExit (List.getElem?_eq_getElem hlt)
    have heq := haft.old_eq
    rw [hold] at heq
    cases heq
    exact ⟨_, List.getElem?_eq_getElem hlt, haft⟩
  refine ⟨hdisp, ?_, ?_, ?_, ?_, ?_, ?_, ?_, ?_, ?_⟩
  · rw [hlen]
    exact h.next_eq
  · rw [hlen]
    exact h.length_le
  · intro i new hget
    obtain ⟨old, haft⟩ := afterExit hget
    rw [haft.identifier]
    exact h.identifier i old haft.old_eq
  · intro i new p hget hp
    obtain ⟨old, haft⟩ := afterExit hget
    rw [haft.parent] at hp
    split at hp
    · next hcond =>
      cases hp
      refine Nat.pos_of_ne_zero fun hzero => ?_
      have hold := haft.old_eq
      rw [hzero] at hold
      rw [haft.isUser, (h.first hold).1] at hcond
      cases hcond.1
    · exact h.parent_lt i old p haft.old_eq hp
  · intro i new hget hnewUser
    obtain ⟨old, haft⟩ := afterExit hget
    rw [haft.parent]
    split
    · rfl
    · exact h.user_parent i old haft.old_eq (haft.isUser ▸ hnewUser)
  · intro i new hget
    obtain ⟨old, haft⟩ := afterExit hget
    have hfirst : 0 = i → old.status = none := by
      rintro rfl
      exact h.status_none haft.old_eq (h.first haft.old_eq).2
    rw [haft.state, haft.status]
    split_ifs with hzero hcur
    · exact absurd (hcur.trans hzero.symm) hpos
    · rw [hfirst hzero]
      simp
    · simp
    · exact h.finished_iff i old haft.old_eq
  · intro record hrec
    rcases List.mem_append.1 hrec with hold | hlast
    · obtain ⟨r, hr, rfl⟩ := List.mem_map.1 hold
      obtain ⟨_, hch, hchildUser, hstat, hchildParent⟩ := h.record r hr
      obtain ⟨new, hget, haft⟩ := hnew _ _ hch
      have hnewStatus : new.status = some ⟨r.exitCode, r.collected⟩ := by
        rw [haft.status, if_neg (hrecs r hr).symm, hstat]
      have hnewUser : new.isUser = true := haft.isUser.trans hchildUser
      -- the record and the process are moved to the initial process together
      rw [ChildExitRecord.reparentToInitialProcess]
      split
      · next hkeep =>
        refine ⟨new, hget, hnewUser, hnewStatus, fun hfresh => ?_⟩
        have hpar' := hchildParent hfresh
        rw [haft.parent, if_neg, hpar']
        rintro ⟨-, heq, -⟩
        rw [hpar', Option.some.injEq] at heq
        rcases hkeep with hne | hcoll
        · exact hne heq
        · rw [hfresh] at hcoll
          cases hcoll
      next hmove =>
      rw [not_or, not_not, Bool.not_eq_true] at hmove
      refine ⟨new, hget, hnewUser, hnewStatus, fun hfresh => ?_⟩
      rw [haft.parent, if_pos]
      refine ⟨hnewUser, ?_, ?_, ?_⟩
      · rw [hchildParent hmove.2, hmove.1]
      · rw [hnewStatus, hmove.2]
        rfl
      · rw [hid]
        exact hpos
    · cases List.mem_singleton.1 hlast
      obtain ⟨new, hget, haft⟩ := hnew _ _ hcurrent
      refine ⟨new, ?_, haft.isUser.trans huser, ?_, fun _ => ?_⟩
      · rw [← hget, ← hid]
      · rw [haft.status, if_pos rfl]
      rw [haft.parent, if_neg, hpar]
      rintro ⟨-, heq, -⟩
      rw [hpar, hid, Option.some.injEq] at heq
      exact hself heq
  · show ((table.records.map _ ++ [_]).map ChildExitRecord.childTaskId).Nodup
    have hch : ∀ record : ChildExitRecord,
      (record.reparentToInitialProcess process.identifier).childTaskId = record.childTaskId := by
      intro record
      rw [ChildExitRecord.reparentToInitialProcess]
      split <;> rfl
    rw [List.map_append, List.map_map, List.map_singleton, List.nodup_append]
    refine ⟨?_, by simp, ?_⟩
    · have hmap : table.records.map (ChildExitRecord.childTaskId ∘ (·.reparentToInitialProcess
        process.identifier)) = table.records.map ChildExitRecord.childTaskId :=
          List.map_congr_left fun record _ => hch record
      rw [hmap]
      exact h.distinct
    intro a ha b hb
    obtain ⟨record, hrec, rfl⟩ := List.mem_map.1 ha
    cases List.mem_singleton.1 hb
    rw [Function.comp, hch, hid]
    exact hrecs record hrec
  · intro i _ hget hsome
    obtain ⟨old, haft⟩ := afterExit hget
    rw [haft.status] at hsome
    split at hsome
    · next hcur =>
      refine ⟨_, List.mem_append_right _ (List.mem_singleton_self _), ?_⟩
      exact hid.trans hcur
    obtain ⟨_, hrec, hch⟩ := h.recorded i old haft.old_eq hsome
    refine ⟨_, List.mem_append_left _ (List.mem_map_of_mem hrec), ?_⟩
    rw [ChildExitRecord.reparentToInitialProcess]
    split <;> exact hch

/-- One step keeps the invariant. -/
theorem Sound.step {table : ProcessTable} (h : table.Sound) (hstep : Step table table') :
  table'.Sound := by
  have hdisp := h.dispatch.steps hstep.dispatch
  cases hstep with
  | spawn parent _ hpar hroom => exact h.spawn hpar hroom rfl hdisp
  | wake woken => exact h.wake woken hdisp
  | handOff _ process _ hnext hready hleft =>
    refine h.handOff hnext ?_ hleft hdisp
    rw [hready]
    simp
  | block process hcur huser hrun =>
    obtain ⟨_, hfirst⟩ := h.exists_first
    exact h.handOff hfirst (h.first hfirst).2 (.inr rfl) hdisp
  | exit process _ _ hcur huser _ hstat hpar => exact h.exit hcur huser hstat hpar hdisp
  | collect _ _ _ _ hrec _ hproc hident => exact h.collect hrec hproc hident hdisp

/-- **Every run keeps the invariant.** -/
theorem Sound.steps {table : ProcessTable} (h : table.Sound)
  (hsteps : Steps table table') : table'.Sound := by
  induction hsteps with
  | refl => exact h
  | tail _ hstep ih => exact ih.step hstep

end ProcessTable
end ManaOS
