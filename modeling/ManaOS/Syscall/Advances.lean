/-
Syscalls keep the request protocol.

A blocking handler stores the one request of its caller, which then blocks; every other handler
leaves the protocol in order and the waiting tasks alone.

* `syscallDispatchFromTrapFrame_protocol` (**dispatch**): the three ways in which a syscall ends.
-/
import ManaOS.Syscall.Sentinels
import ManaOS.Task.Rest

namespace ManaOS
open Checked Scheduler Option
namespace Scheduler
variable {mapper : PageMapper} {s s' : Scheduler}

/-- The current task is a user task. -/
def runsUser (s : Scheduler) : Bool := ((s.standing? s.currentIndex).bind Standing.runtime).isSome

lemma runsUser_of_standing (hidx : s'.currentIndex = s.currentIndex)
  (h : ∀ i, s'.standing? i = s.standing? i) : s'.runsUser = s.runsUser := by
  rw [runsUser, runsUser, hidx, h]

lemma CurrentUser.runsUser (h : s.CurrentUser current runtime) : s.runsUser = true := by
  rw [Scheduler.runsUser, standing?_of h.current_eq, bind_some, Task.standing, h.kind]
  rfl

lemma Runs.runsUser (h : s.Runs runtime) : s.runsUser = true := by
  obtain ⟨_, hruns⟩ := h
  rw [Scheduler.runsUser, hruns]
  rfl

lemma exists_currentUser (h : s.runsUser = true) :
  ∃ current runtime, s.CurrentUser current runtime := by
  rw [Scheduler.runsUser] at h
  cases hstand : s.standing? s.currentIndex with
  | none =>
    rw [hstand] at h
    cases h
  | some standing =>
    obtain ⟨current, ht, rfl⟩ := standing?_eq_some hstand
    rw [hstand, bind_some, Task.standing] at h
    cases hk : current.kind with
    | kernel =>
      rw [hk] at h
      cases h
    | user runtime => exact ⟨current, runtime, ht, hk⟩

lemma runsUser_of_first (hs : s.table.Sound) (h : s.currentIndex = 0) : s.runsUser = false := by
  obtain ⟨current, hcur⟩ := exists_current hs
  have hstand := standing?_of hcur
  have hker : current.standing.runtime = none := by
    rw [h] at hstand
    exact runtime_first hs hstand
  rw [runsUser, hstand, bind_some, hker]
  rfl

lemma runsUser_wakeSleepingUserTasks (s : Scheduler) (tick : ℕ) :
  (s.wakeSleepingUserTasks tick).runsUser = s.runsUser := by
  have hsame : ((s.wakeSleepingUserTasks tick).standing? s.currentIndex).map
    (·.runtime.isSome) = (s.standing? s.currentIndex).map (·.runtime.isSome) := by
    rw [standing?, standing?, getElem?_wakeSleepingUserTasks, map_map, map_map, map_map]
    refine congrArg (Option.map · _) (funext fun task => ?_)
    simp only [Function.comp, Task.standing]
    rcases wakeSleepingTask_cases tick task with heq | ⟨_, hk, -, heq⟩
    · rw [heq]
    · rw [heq, hk]
      rfl
  have hruns : ∀ standing : Option Standing, (standing.bind Standing.runtime).isSome =
    (standing.map (·.runtime.isSome)).getD false := by
    intro standing
    cases standing <;> rfl
  rw [runsUser, runsUser, hruns, hruns, ← hsame]
  rfl

lemma runsUser_setRuntime (ht : s.tasks[i]? = some task) (hk : task.kind = .user runtime)
    (new : UserTaskRuntime) : (s.setRuntime i new).runsUser = s.runsUser := by
  rw [runsUser, runsUser]
  show (((s.setRuntime i new).standing? s.currentIndex).bind Standing.runtime).isSome = _
  rw [standing?_setRuntime]
  by_cases heq : i = s.currentIndex
  · rw [← heq, standing?_of ht, map_some, if_pos rfl, bind_some, bind_some, Task.standing, hk]
    rfl
  · simp only [if_neg heq, map_id']

lemma currentIndex_collect
    (h : s.collectWaitableChildExit parentTaskId childTaskId = .ok (exit, s')) :
    s'.currentIndex = s.currentIndex := by
  rcases collectWaitableChildExit_ok h with ⟨-, rfl⟩ | ⟨_, _, _, _, _, -, hcoll⟩
  · rfl
  · rw [hcoll.result]
    rfl

lemma runtime_new {i : ℕ} (h : Scheduler.new.tasks[i]? = some task) :
  task.standing.runtime = none := by
  cases i with
  | zero =>
    cases h
    rfl
  | succ i => cases h

/-- Calls that keep the request protocol and leave the waiting tasks alone. -/
structure Advances (mapper : PageMapper) (s s' : Scheduler) : Prop where
  calls : s.Calls mapper s'
  order : s.InOrder → s'.InOrder
  calm : Calm s s'
  runsUser : s'.runsUser = s.runsUser

namespace Advances

lemma refl (s : Scheduler) : Advances mapper s s := ⟨.refl, id, .refl s, rfl⟩

lemma trans (h : Advances mapper s s') (h' : Advances mapper s' s'') : Advances mapper s s'' :=
  ⟨h.calls.trans h'.calls, h'.order ∘ h.order, h.calm.trans h'.calm, h'.runsUser.trans h.runsUser⟩

lemma of_standing (hcalls : s.Calls mapper s') (hidx : s'.currentIndex = s.currentIndex)
  (h : ∀ i, s'.standing? i = s.standing? i) : Advances mapper s s' :=
  ⟨hcalls, fun horder => horder.congr h, .congr h, runsUser_of_standing hidx h⟩

lemma setRuntime (hs : s.table.Sound) {new : UserTaskRuntime}
  (hcur : s.CurrentUser current runtime) (hpend : new.view.pending = runtime.view.pending)
  (hcall : s.Call mapper (s.setRuntime s.currentIndex new)) :
  Advances mapper s (s.setRuntime s.currentIndex new) where
  calls := .single hcall
  order := fun horder => horder.setRuntime_current (hpend.trans (horder.clear hs hcur))
  calm := .setRuntime_current hs new
  runsUser := by
    rw [hcur.runsUser]
    exact ((hcur.runs hs).setRuntime new).runsUser

lemma record (hs : s.table.Sound) (h : s.recordCurrentUserTrapFrame frame source = .ok s') :
  Advances mapper s s' := by
  have hcall : s.Call mapper s' := .recordCurrentUserTrapFrame h
  rcases recordCurrentUserTrapFrame_ok h with ⟨rfl, -⟩ | ⟨_, _, hcur, rfl⟩
  · exact .refl _
  · refine .setRuntime hs hcur ?_ hcall
    rw [markRecorded_view]
    rfl

lemma runsUser_spawns (hspn : s.Spawns s' task)
  (hpar : s.tasks[s.currentIndex]? = some parent) : s'.runsUser = s.runsUser := by
  obtain ⟨hlt, -⟩ := List.getElem?_eq_some_iff.1 hpar
  have hidx : s'.currentIndex = s.currentIndex := by
    obtain ⟨_, -, rfl⟩ := hspn
    rfl
  rw [Scheduler.runsUser, Scheduler.runsUser, hidx, standing?_spawns hspn,
    if_neg (Nat.ne_of_lt hlt)]

lemma spawnUserTask
    (h : s.spawnUserTask mapper memory selectors request = .ok (taskId, s', memory')) :
    Advances mapper s s' := by
  obtain ⟨_, _, _, _, ⟨_, hpar, -⟩, -, hrt, hspn⟩ := spawnUserTask_ok h
  refine ⟨.single (.spawnUserTask h), fun horder => horder.spawns hspn fun r hr => ?_,
    .spawns hspn rfl, runsUser_spawns hspn hpar⟩
  cases hr
  simp only [UserTaskRuntime.new, bind_eq_ok] at hrt
  obtain ⟨_, -, hrt⟩ := hrt
  cases hrt
  rfl

lemma spawn (h : s.spawn mapper memory = .ok (taskId, s', memory')) : Advances mapper s s' := by
  obtain ⟨_, _, ⟨_, hpar, -⟩, hspn⟩ := spawn_ok h
  refine ⟨.single (.spawn h), fun horder => horder.spawns hspn fun r hr => ?_,
    .spawns hspn rfl, runsUser_spawns hspn hpar⟩
  cases hr

lemma activateUserTask {activated : Bool}
  (h : s.activateUserTask taskId = .ok (activated, s')) : Advances mapper s s' :=
  of_standing (.single (.activateUserTask h)) (ActiveOnly.of_activate h).currentIndex
    (ActiveOnly.of_activate h).standing?_eq

lemma collectWaitableChildExit
    (h : s.collectWaitableChildExit parentTaskId childTaskId = .ok (exit, s')) :
    Advances mapper s s' :=
  of_standing (.single (.collectWaitableChildExit h)) (currentIndex_collect h)
    (standing?_collect h)

lemma replaceCurrentUserImage (hs : s.table.Sound) {space : UserAddressSpace}
  {frame : UserTrapFrame} {heapStart : UserVirtualAddress}
  {result : Option (ℕ × UserAddressSpace)}
  (h : s.replaceCurrentUserImage space frame heapStart = .ok (result, s')) :
  Advances mapper s s' := by
  refine ⟨.single (.replaceCurrentUserImage h), fun horder => horder.replaceCurrentUserImage h,
    .replaceCurrentUserImage hs h, ?_⟩
  rcases replaceCurrentUserImage_ok h with ⟨-, rfl⟩ | ⟨_, runtime, heap, _, hcur, -, -, rfl⟩
  · rfl
  obtain ⟨_, hruns⟩ := (hcur.runs hs).setRuntime (runtime.withImage space frame heap)
  have hruns : (s.setRuntime s.currentIndex (runtime.withImage space frame heap)).standing?
    s.currentIndex = _ := hruns
  rw [hcur.runsUser, Scheduler.runsUser]
  show (((Scheduler.clearContext _ s.currentIndex).standing? s.currentIndex).bind
    Standing.runtime).isSome = true
  rw [standing?_clearContext, hruns, map_some, if_pos rfl]
  rfl

lemma replaceCurrentFileDescriptorTable (s : Scheduler) (table : FileDescriptorTable) :
  Advances mapper s (s.replaceCurrentFileDescriptorTable table) :=
  have hsame := sameView_replaceCurrentFileDescriptorTable s table
  of_standing (.single (.replaceCurrentFileDescriptorTable s table)) hsame.currentIndex
    hsame.standing?_eq

lemma wakeKeyboardReaders (s : Scheduler) : Advances mapper s s.wakeKeyboardReaders.2 := by
  refine ⟨.single (.wakeKeyboardReaders s), fun horder => horder.wakeKeyboardReaders,
    .wakeKeyboardReaders s, ?_⟩
  rcases wakeKeyboardReaders_eq s with heq | ⟨index, _, _, -, -, -, -, heq⟩
  · rw [heq]
  rw [heq, Scheduler.runsUser, Scheduler.runsUser]
  show (((s.setState index .ready).standing? s.currentIndex).bind Standing.runtime).isSome = _
  rw [standing?_setState]
  cases s.standing? s.currentIndex with
  | none => rfl
  | some _ =>
    simp only [map_some, bind_some]
    split <;> rfl

lemma takeFinishedUserExit (s : Scheduler) : Advances mapper s s.takeFinishedUserExit.2 := by
  refine of_standing (.single (.takeFinishedUserExit s)) ?_ (standing?_of_tasks ?_)
  · rw [Scheduler.takeFinishedUserExit]
    split <;> rfl
  · rw [Scheduler.takeFinishedUserExit]
    split <;> rfl

lemma reclaimFinishedUserResources
    (h : s.reclaimFinishedUserResources mapper memory taskId = .ok (result, s', memory')) :
    Advances mapper s s' := by
  refine ⟨.single (.reclaimFinishedUserResources h), fun horder =>
    horder.reclaimFinishedUserResources h, .reclaimFinishedUserResources h, ?_⟩
  rcases standing?_reclaimFinishedUserResources h with ⟨hidx, hsame |
    ⟨_, _, _, reclaimed, ht, -, hk, -, hsame⟩⟩
  · exact runsUser_of_standing hidx hsame
  · rw [← runsUser_setRuntime ht hk reclaimed]
    exact runsUser_of_standing hidx hsame

end Advances

/-- A user task that exits leaves the CPU to the first task. -/
structure Exits (mapper : PageMapper) (s s' : Scheduler) : Prop where
  calls : s.Calls mapper s'
  order : s.InOrder → s'.InOrder
  calm : Calm s s'
  runsUser : s.runsUser = true → s'.runsUser = false

lemma Exits.finishCurrentTask (hs : s.table.Sound)
  (h : s.finishCurrentTask exitCode = .ok (exit, s')) : Exits mapper s s' := by
  have hcall : s.Call mapper s' := .finishCurrentTask h
  refine ⟨.single hcall, fun horder => horder.finishCurrentTask hs h, .finishCurrentTask hs h,
    fun huser => ?_⟩
  have hs' : s'.table.Sound := (Calls.table hs (.single hcall)).2
  obtain ⟨current, runtime, hcur⟩ := exists_currentUser huser
  have hrun : current.state = .running := hs.current_running (getElem?_table_of hcur.current_eq)
  have hfirst : ∀ {result s1}, s.retireCurrentTask exitCode = .ok (result, s1) →
    s1.currentIndex = 0 := by
    intro _ _ hret
    rcases retireCurrentTask_ok (dispatch_sound hs) hret with ⟨-, hstuck⟩ |
      ⟨_, _, _, -, -, -, -, -, rfl⟩
    · exact absurd hrun (hstuck current hcur.current_eq
        (TaskKind.isUser_iff.2 ⟨runtime, hcur.kind⟩))
    · rfl
  refine runsUser_of_first hs' ?_
  rcases finishCurrentTask_ok h with hret | ⟨_, _, _, hret, hwake⟩
  · exact hfirst hret
  rcases wakeWaitingParentForChildExit_ok hwake with ⟨rfl, -⟩ |
    ⟨_, _, _, _, _, s2, -, hcoll, -, rfl⟩
  · exact hfirst hret
  · show s2.currentIndex = 0
    rw [currentIndex_collect hcoll, hfirst hret]

end Scheduler

lemma Requests.pending (h : Requests runtime number runtime')
    (hclear : runtime.view.pending = .clear) :
    runtime'.view.pending.completion = false ∧ runtime'.view.pending.count = 1 := by
  cases h with
  | sleep wakeTick =>
    have hopen : ({ runtime with sleepWakeTick := some wakeTick } : UserTaskRuntime).view.pending =
      { runtime.view.pending with sleep := true } := rfl
    rw [hopen, hclear]
    exact ⟨rfl, rfl⟩
  | wait request =>
    have hopen : ({ runtime with waitpidRequest := some request } : UserTaskRuntime).view.pending =
      { runtime.view.pending with wait := true } := rfl
    rw [hopen, hclear]
    exact ⟨rfl, rfl⟩
  | read request =>
    have hopen : ({ runtime with readRequest := some request } : UserTaskRuntime).view.pending =
      { runtime.view.pending with read := true } := rfl
    rw [hopen, hclear]
    exact ⟨rfl, rfl⟩

lemma UserTaskRuntime.not_hasRequest {runtime : UserTaskRuntime}
  (h : runtime.view.pending = .clear) : ¬runtime.HasRequest := by
  obtain ⟨hsleep, hwait, hread, -⟩ := Pending.eq_clear_iff.1 h
  rintro (hopen | hopen | hopen)
  · exact absurd (hsleep.symm.trans hopen) Bool.noConfusion
  · exact absurd (hwait.symm.trans hopen) Bool.noConfusion
  · exact absurd (hread.symm.trans hopen) Bool.noConfusion

namespace Kernel
variable {kernel : Kernel} {frame : UserTrapFrame} {result : ℕ}

lemma Quiet.advances (h : Quiet mapper kernel kernel') : Scheduler.Advances mapper kernel.scheduler
  kernel'.scheduler := .of_standing h.calls h.view.currentIndex h.view.standing?_eq

lemma spawnFromImage_advances
    (h : kernel.spawnFromImage mapper request image = .ok (taskId, kernel')) :
    Scheduler.Advances mapper kernel.scheduler kernel'.scheduler := by
  obtain ⟨_, _, _, _, hspawn, rfl⟩ := spawnFromImage_ok h
  exact .spawnUserTask hspawn

/-- An `lseek` whose new offset is the exit sentinel. -/
def SeeksToExit (kernel : Kernel) (frame : UserTrapFrame) : Prop :=
  frame.rax = ManaOS.sysLseek ∧ SeekSucceeds kernel frame userExitSentinel

/-- A result that is not taken for an exit, unless a seek forged it. -/
def Returns (kernel : Kernel) (frame : UserTrapFrame) (result : ℕ) : Prop :=
  SeeksToExit kernel frame ∨ result ≠ userExitSentinel

lemma returns_of_plain (h : Plain result) : Returns kernel frame result := .inr h.ne.1

lemma Effect.advances (hs : kernel.scheduler.table.Sound)
    (h : Effect mapper kernel frame result frame' kernel') :
    (Returns kernel frame result ∧ Scheduler.Advances mapper kernel.scheduler kernel'.scheduler) ∨
    (result = userExitSentinel ∧ Scheduler.Exits mapper kernel.scheduler kernel'.scheduler) ∨
    ∃ kernel1 current runtime runtime',
      Quiet mapper kernel kernel1 ∧
      kernel1.scheduler.CurrentUser current runtime ∧
      Requests runtime frame.rax runtime' ∧
      result = userBlockSentinel ∧
      kernel'.scheduler = kernel1.scheduler.setRuntime kernel1.scheduler.currentIndex runtime' := by
  cases h with
  | handled h => exact .inl ⟨returns_of_plain h.plain, h.quiet.advances⟩
  | sought hnum h =>
    refine .inl ⟨?_, (sysLseek_quiet h).advances⟩
    rcases sysLseek_result h with hplain | hsucc
    · exact returns_of_plain hplain
    · by_cases hexit : result = userExitSentinel
      · subst hexit
        exact .inl ⟨hnum, hsucc⟩
      · exact .inr hexit
  | resized h hplain =>
    refine .inl ⟨returns_of_plain hplain, ?_⟩
    have hcall : kernel.scheduler.Call mapper _ := .processCurrentUserBreak h
    rcases processCurrentUserBreak_ok h with ⟨-, rfl⟩ | ⟨_, _, _, _, hcur, -, rfl⟩
    · exact .refl _
    · exact .setRuntime hs hcur rfl hcall
  | mapped h hplain =>
    refine .inl ⟨returns_of_plain hplain, ?_⟩
    have hcall : kernel.scheduler.Call mapper _ := .processCurrentUserMapping h
    rcases processCurrentUserMapping_ok h with ⟨-, rfl⟩ | ⟨_, _, _, _, _, hcur, -, -, -, rfl⟩
    · exact .refl _
    · exact .setRuntime hs hcur rfl hcall
  | unmapped h hplain =>
    refine .inl ⟨returns_of_plain hplain, ?_⟩
    have hcall : kernel.scheduler.Call mapper _ := .processCurrentUserUnmapping h
    rcases processCurrentUserUnmapping_ok h with rfl | ⟨_, _, _, hcur, rfl⟩
    · exact .refl _
    · exact .setRuntime hs hcur rfl hcall
  | requested hqt hcur _ hreq _ => exact .inr (.inr ⟨_, _, _, _, hqt, hcur, hreq, rfl, rfl⟩)
  | collected hnum _ h hqt =>
    have hcoll : Scheduler.Advances mapper kernel.scheduler _ := .collectWaitableChildExit h
    exact .inl ⟨returns_of_plain (plain_of_collect hs h), hcoll.trans hqt.advances⟩
  | spawned hnum hqt h hactv hres =>
    refine .inl ⟨returns_of_plain ?_, (hqt.advances.trans (spawnFromImage_advances h)).trans
      (.activateUserTask hactv)⟩
    rw [hres]
    split
    · have hs1 := hs
      rw [← hqt.view.table_eq] at hs1
      exact plain_of_spawn hs1 h
    · decide
  | replaced hnum hqt h =>
    obtain ⟨_, _, _, _, _, _, table, -, -, hrepl, rfl⟩ := buildAndPublishExecveCandidate_some h
    have hs1 := hs
    rw [← hqt.view.table_eq] at hs1
    exact .inl ⟨.inr (by decide),
      (hqt.advances.trans (.replaceCurrentUserImage hs1 hrepl)).trans
        (.replaceCurrentFileDescriptorTable _ table)⟩
  | notReplaced hqt h =>
    obtain ⟨_, rfl⟩ := buildAndPublishExecveCandidate_none h
    exact .inl ⟨returns_of_plain (by decide), hqt.advances⟩
  | exited _ h hsched _ =>
    rw [← hsched] at h
    exact .inr (.inl ⟨rfl, .finishCurrentTask hs h⟩)

/-- **A dispatched syscall** advances the protocol, or its caller exits, or stores its one request
and blocks.  A forged block sentinel panics instead. -/
lemma syscallDispatchFromTrapFrame_protocol (hreach : kernel.scheduler.Reachable mapper)
    (horder : kernel.scheduler.InOrder)
    (h : kernel.syscallDispatchFromTrapFrame mapper frame = .ok (result, frame', kernel')) :
    (Returns kernel frame result ∧
      result ≠ userBlockSentinel ∧
      Scheduler.Advances mapper kernel.scheduler kernel'.scheduler) ∨
    (result = userExitSentinel ∧ Scheduler.Exits mapper kernel.scheduler kernel'.scheduler) ∨
    ∃ asked view recorded,
      result = userBlockSentinel ∧
      Scheduler.Calm kernel.scheduler asked ∧
      asked.table.Sound ∧
      Scheduler.Asking asked view ∧
      recorded.view.pending = view.pending ∧
      kernel'.scheduler = (asked.setRuntime asked.currentIndex recorded).blocked := by
  obtain ⟨_, kernel1, hrun, hconc⟩ := syscallDispatchFromTrapFrame_ok h
  have heffect := runSyscall_effect hreach.sound hrun
  have hreach1 : kernel1.scheduler.Reachable mapper := hreach.trans heffect.calls
  rcases heffect.advances hreach.sound with ⟨hreturns, hadv⟩ | ⟨rfl, hexits⟩ |
    ⟨kernel2, current, _, runtime', hqt, hcur, hreq, rfl, hsto⟩
  · refine .inl ⟨hreturns, ?_⟩
    cases hconc with
    | replaced => exact ⟨by decide, hadv⟩
    | blocked hrec hblock =>
      -- a caller with nothing open cannot block
      have hrecorded : Scheduler.Advances mapper kernel1.scheduler _ := .record hreach1.sound hrec
      have hreach2 : Scheduler.Reachable mapper _ := hreach1.trans hrecorded.calls
      rcases blockCurrentUserAfterSyscall_ok (dispatch_sound hreach2.sound) hblock with ⟨hnone, -⟩ |
        ⟨_, _, ht, hk, -, hreq, -⟩
      · cases hnone
      · have hclear := (hrecorded.order (hadv.order horder)).clear hreach2.sound ⟨ht, hk⟩
        exact absurd hreq (UserTaskRuntime.not_hasRequest hclear)
    | exited => exact ⟨by decide, hadv⟩
    | returned hexecve hblock hexit hrec => exact ⟨hblock, hadv.trans (.record hreach1.sound hrec)⟩
  · refine .inr (.inl ⟨rfl, ?_⟩)
    cases hconc with
    | exited => exact hexits
    | returned hexecve hblock hexit hrec => exact absurd rfl hexit
  refine .inr (.inr ?_)
  have horder2 := hqt.advances.order horder
  have hs2 : kernel2.scheduler.table.Sound := by
    rw [hqt.view.table_eq]
    exact hreach.sound
  obtain ⟨hcomp, hcnt⟩ := hreq.pending (horder2.clear hs2 hcur)
  have hasking : Scheduler.Asking kernel1.scheduler runtime'.view := by
    rw [hsto]
    refine ⟨fun i standing hne hi => ?_, (hcur.runs hs2).setRuntime runtime', hcomp, hcnt⟩
    have hne : i ≠ kernel2.scheduler.currentIndex := hne
    rw [standing?_setRuntime_of_ne hne] at hi
    exact horder2 i standing hi
  have haft : kernel1.scheduler.CurrentUser
    { current with kind := .user runtime' } runtime' := by
    rw [hsto]
    exact ⟨getElem?_setRuntime_self hcur.current_eq runtime', rfl⟩
  have hcalm : Scheduler.Calm kernel.scheduler kernel1.scheduler := by
    rw [hsto]
    exact hqt.advances.calm.trans (.setRuntime_current hs2 runtime')
  cases hconc with
  | blocked hrec hblock =>
    obtain ⟨heq, -⟩ := recordAndBlock_ok hreach1.sound haft hrec hblock
    refine ⟨kernel1.scheduler, runtime'.view, _, rfl, hcalm, hreach1.sound, hasking, ?_, heq⟩
    rw [markRecorded_view]
    rfl
  | returned _ hblock _ _ => exact absurd rfl hblock

end Kernel
end ManaOS
