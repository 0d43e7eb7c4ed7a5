/-
Sentinel results: three reserved values tell the entry stub that the caller exited, blocks or runs a
new image.  Every handler but `lseek` keeps its ordinary results away from them.

* `sentinels_genuine_iff` (**sentinels**): when sentinel results are genuine;
* `lseek_returns_exit_sentinel`: a seek that forges one.
-/
import ManaOS.Syscall.Returns

namespace ManaOS
open Checked Scheduler

/-! ### Seeks -/

lemma addSignedOffset_eq_some : addSignedOffset base offset = some value ↔
  (value : ℤ) = base + offset ∧ offset ≠ -2 ^ 63 ∧ (0 ≤ offset → base + offset < wordSize) := by
  rw [addSignedOffset]
  split_ifs with hpos hleast
  · rw [checkedAdd_eq_some]
    omega
  · simp only [false_iff, not_and]
    exact fun _ hne => absurd hleast hne
  · rw [checkedSub_eq_some]
    omega

lemma FileDescriptorTable.seekFrom_eq_ok {table : FileDescriptorTable} :
    table.seekFrom files descriptor offset whence = .ok (value, table') ↔
      ∃ openFile,
        table.getOpenFile descriptor = .ok openFile ∧
        addSignedOffset (seekBase files openFile whence) offset = some value ∧
        table' = table.setOffset descriptor openFile value := by
  rw [seekFrom]
  cases table.getOpenFile descriptor with
  | error _ => simp
  | ok openFile =>
    simp only [Except.ok.injEq, exists_eq_left']
    cases hsum : addSignedOffset (seekBase files openFile whence) offset with
    | none => simp
    | some _ =>
      simp only [Except.ok.injEq, Prod.mk.injEq, Option.some.injEq]
      exact and_congr_right fun heq => by rw [heq, eq_comm]

namespace Kernel
variable {mapper : PageMapper} {kernel kernel' : Kernel} {frame frame' : UserTrapFrame}
  {result value : ℕ}

/-- The `lseek` of a frame succeeds with this offset. -/
def SeekSucceeds (kernel : Kernel) (frame : UserTrapFrame) (value : ℕ) : Prop :=
  ∃ whence table table',
  seekWhence frame.rdx = some whence ∧ kernel.scheduler.currentFileDescriptorTable = .ok table ∧
  table.seekFrom kernel.fileSystem.files frame.rdi (toSigned frame.rsi) whence = .ok (value, table')

/-- An `lseek` on an open file whose base and offset add up to a sentinel or an errno value, without
overflow. -/
def SeeksIntoReserved (kernel : Kernel) (frame : UserTrapFrame) : Prop :=
  frame.rax = ManaOS.sysLseek ∧ ∃ whence table openFile, seekWhence frame.rdx = some whence ∧
  kernel.scheduler.currentFileDescriptorTable = .ok table ∧ table.getOpenFile frame.rdi =
  .ok openFile ∧ let base := FileDescriptorTable.seekBase kernel.fileSystem.files openFile whence
    (userExecveSentinel : ℤ) ≤ base + toSigned frame.rsi ∧ toSigned frame.rsi ≠ -2 ^ 63 ∧
      (0 ≤ toSigned frame.rsi → base + toSigned frame.rsi < wordSize)

lemma seeksIntoReserved_iff : SeeksIntoReserved kernel frame ↔ frame.rax =
  ManaOS.sysLseek ∧ ∃ value, userExecveSentinel ≤ value ∧ SeekSucceeds kernel frame value := by
  refine and_congr_right fun _ => ?_
  constructor
  · rintro ⟨whence, table, openFile, hwhence, htab, hopen, hlow, hleast, hfits⟩
    obtain ⟨value, hval⟩ := Int.eq_ofNat_of_zero_le (Int.le_trans (Int.natCast_nonneg _) hlow)
    refine ⟨value, by omega, whence, table, _, hwhence, htab,
      FileDescriptorTable.seekFrom_eq_ok.2 ⟨openFile, hopen, ?_, rfl⟩⟩
    exact addSignedOffset_eq_some.2 ⟨hval.symm, hleast, hfits⟩
  rintro ⟨_, _, whence, table, _, hwhence, htab, hseek⟩
  obtain ⟨openFile, hopen, hsum, -⟩ := FileDescriptorTable.seekFrom_eq_ok.1 hseek
  obtain ⟨_, hleast, hfits⟩ := addSignedOffset_eq_some.1 hsum
  exact ⟨whence, table, openFile, hwhence, htab, hopen, by omega, hleast, hfits⟩

lemma sysLseek_result (h : kernel.sysLseek frame.rdi frame.rsi frame.rdx = .ok (result, kernel')) :
  Plain result ∨ SeekSucceeds kernel frame result := by
  rw [sysLseek] at h
  split at h
  · cases h
    exact .inl (by decide)
  next whence hwhence =>
  obtain ⟨⟨_, _⟩, hop, h⟩ := bind_eq_ok.1 h
  cases h
  obtain ⟨table, table', _, _, htab, hseek, rfl, -⟩ := withCurrentFileDescriptorTable_ok hop
  split at hseek
  · next error _ =>
    cases hseek
    exact .inl (plain_filesystemErrorToLinux error)
  · next hnext =>
    cases hseek
    exact .inr ⟨whence, table, table', hwhence, htab, hnext⟩

/-! ### What a sentinel stands for -/

/-- The caller ran before the call and has finished after it. -/
def CallerFinished (kernel kernel' : Kernel) : Prop := ∃ before after,
  kernel.scheduler.tasks[kernel.scheduler.currentIndex]? = some before ∧ before.state = .running ∧
  kernel'.scheduler.tasks[kernel.scheduler.currentIndex]? = some after ∧ after.state = .finished

/-- The call, given by its number, stored a request of its caller. -/
def CallerRequested (kernel : Kernel) (number : ℕ) (kernel' : Kernel) : Prop :=
  ∃ before runtime stored after runtime', kernel.scheduler.CurrentUser before runtime ∧
  Requests runtime number stored ∧ kernel'.scheduler.tasks[kernel.scheduler.currentIndex]? =
  some after ∧ after.kind = .user runtime' ∧ runtime'.requests = stored.requests

/-- The caller has a new image, and this is its entry frame. -/
def CallerReplaced (mapper : PageMapper) (kernel : Kernel) (frame : UserTrapFrame)
  (kernel' : Kernel) : Prop :=
  ∃ memory image arguments environment built memory' after runtime,
    kernel.memory.SameTables memory ∧ BuildsImage mapper memory image
    syscallUserStackPages arguments environment built memory' ∧ built.entryFrame kernel.selectors =
    .ok frame ∧ kernel'.scheduler.tasks[kernel.scheduler.currentIndex]? = some after ∧ after.kind =
    .user runtime ∧ runtime.addressSpace = some built.space ∧ runtime.savedFrame = frame

/-- **A sentinel result is genuine**: the caller was finished by `exit` or `exit_group`, the call
stored a request, or it published a new image. -/
structure Genuine (mapper : PageMapper) (kernel : Kernel) (frame : UserTrapFrame) (result : ℕ)
    (frame' : UserTrapFrame) (kernel' : Kernel) : Prop where
  exit : result = userExitSentinel →
    (frame.rax = ManaOS.sysExit ∨ frame.rax = sysExitGroup) ∧ CallerFinished kernel kernel'
  block : result = userBlockSentinel → CallerRequested kernel frame.rax kernel'
  execve : result = userExecveSentinel →
    frame.rax = ManaOS.sysExecve ∧ CallerReplaced mapper kernel frame' kernel'

lemma genuine_of_plain (h : Plain result) : Genuine mapper kernel frame result frame' kernel' :=
  ⟨fun heq => absurd heq h.ne.1, fun heq => absurd heq h.ne.2.1, fun heq => absurd heq h.ne.2.2⟩

lemma plain_of_collect (hs : kernel.scheduler.table.Sound) {parent : ℕ} {childTaskId : Option ℕ}
  {exit : UserTaskExit} {scheduler : Scheduler}
  (h : kernel.scheduler.collectWaitableChildExit parent childTaskId =
    .ok (some exit, scheduler)) : Plain exit.taskId := by
  rcases collectWaitableChildExit_ok h with ⟨hnone, -⟩ |
    ⟨_, _, _, taskIndex, _, hsome, hcoll⟩
  · cases hnone
  cases hsome
  obtain ⟨child, hch, hid⟩ := getTaskIndex_eq_some hcoll.getTaskIndex
  have hidx : child.getId = taskIndex := hs.identifier _ _ (getElem?_table_of hch)
  rw [hcoll.exit_eq, ← hid, hidx]
  exact plain_of_le_length hs (Nat.le_of_lt (List.getElem?_eq_some_iff.1 hch).1)

lemma plain_of_spawn (hs : kernel.scheduler.table.Sound)
  (h : kernel.spawnFromImage mapper request image = .ok (child, kernel')) : Plain child := by
  obtain ⟨_, _, _, _, hspawn, -⟩ := spawnFromImage_ok h
  obtain ⟨_, _, _, _, -, rfl, -⟩ := spawnUserTask_ok hspawn
  have hnext : kernel.scheduler.nextTaskIdentifier = kernel.scheduler.tasks.length := by
    simpa [table] using hs.next_eq
  exact plain_of_le_length hs (Nat.le_of_eq hnext)

lemma CallerRequested.blocked {kernel1 : Kernel} (hs : kernel1.scheduler.table.Sound)
  (h : CallerRequested kernel number kernel1)
  (hidx : kernel1.scheduler.currentIndex = kernel.scheduler.currentIndex)
  (hrec : kernel1.scheduler.recordCurrentUserTrapFrame frame1 .syscall = .ok scheduler1)
  (hblock : scheduler1.blockCurrentUserAfterSyscall = .ok (some taskId, scheduler2)) :
  CallerRequested kernel number
    { kernel1 with scheduler := scheduler2, preemptionState := .userReturn } := by
  obtain ⟨before, runtime, stored, _, _, hcur, hreq, haft, hkind, hsame⟩ := h
  rw [← hidx] at haft
  obtain ⟨-, hget⟩ := recordAndBlock_ok hs ⟨haft, hkind⟩ hrec hblock
  rw [hidx] at hget
  exact ⟨before, runtime, stored, _, _, hcur, hreq, hget, rfl, hsame⟩

/-- Without a reserved seek, a handler returns a plain result or what a sentinel stands for. -/
lemma Effect.result_cases (hs : kernel.scheduler.table.Sound)
  (hseek : ¬ SeeksIntoReserved kernel frame)
  (h : Effect mapper kernel frame result frame' kernel') :
  Plain result ∨
  (result = userExitSentinel ∧ (frame.rax = ManaOS.sysExit ∨ frame.rax = sysExitGroup) ∧
    ∃ exit, kernel.scheduler.finishCurrentTask frame.rdi = .ok (exit, kernel'.scheduler)) ∨
  (result = userBlockSentinel ∧ CallerRequested kernel frame.rax kernel' ∧
    kernel'.scheduler.currentIndex = kernel.scheduler.currentIndex) ∨
  (result = userExecveSentinel ∧ frame.rax = ManaOS.sysExecve ∧
    CallerReplaced mapper kernel frame' kernel') := by
  cases h with
  | handled h => exact .inl h.plain
  | sought hnum h =>
    refine .inl ((sysLseek_result h).elim id fun hsucc => ?_)
    refine .inl (Nat.lt_of_not_le fun hlow => hseek ?_)
    exact seeksIntoReserved_iff.2 ⟨hnum, result, hlow, hsucc⟩
  | resized h hplain => exact .inl hplain
  | mapped h hplain => exact .inl hplain
  | unmapped h hplain => exact .inl hplain
  | @requested _ current _ runtime' hqt hcur _ hreq _ =>
    refine .inr (.inr (.inl ⟨rfl, ?_, hqt.view.currentIndex⟩))
    obtain ⟨before, runtime, hbef, -, hview⟩ := hqt.view.currentUser hcur
    obtain ⟨stored, hsto, hsame⟩ := hreq.of_view hview
    have hget := getElem?_setRuntime_self hcur.current_eq runtime'
    refine ⟨before, runtime, stored, { current with kind := .user runtime' }, runtime', hbef,
      hsto, ?_, rfl, hsame.symm⟩
    rw [← hqt.view.currentIndex]
    exact hget
  | collected hnum _ h hqt => exact .inl (plain_of_collect hs h)
  | spawned hnum hqt h _ hres =>
    left
    rw [hres]
    split
    · have hs1 := hs
      rw [← hqt.view.table_eq] at hs1
      exact plain_of_spawn hs1 h
    · decide
  | replaced hnum hqt h =>
    refine .inr (.inr (.inr ⟨rfl, hnum, ?_⟩))
    obtain ⟨built, memory1, _, _, _, _, table, hbuilds, hent, hrepl, rfl⟩ :=
      buildAndPublishExecveCandidate_some h
    rcases replaceCurrentUserImage_ok hrepl with ⟨hnone, -⟩ |
      ⟨_, runtime, heap, _, hcur, -, -, rfl⟩
    · cases hnone
    rw [hqt.selectors] at hent
    have haft := getElem?_published hcur.current_eq
      (runtime.withImage built.space frame' heap) table
    rw [CallerReplaced, ← hqt.view.currentIndex]
    exact ⟨_, _, _, _, built, memory1, _, _, hqt.memory, hbuilds, hent, haft, rfl, rfl, rfl⟩
  | notReplaced _ h => exact .inl (by decide)
  | exited hnum h hsched _ =>
    rw [← hsched] at h
    exact .inr (.inl ⟨rfl, hnum, _, h⟩)

/-- The result of a syscall is genuine, and a successful seek returns a value below the sentinels
and the errno values. -/
structure ResultsGenuine (mapper : PageMapper) (kernel : Kernel) (frame : UserTrapFrame) :
    Prop where
  genuine : ∀ result frame' kernel', kernel.syscallDispatchFromTrapFrame mapper frame =
    .ok (result, frame', kernel') → Genuine mapper kernel frame result frame' kernel'
  seek : frame.rax = ManaOS.sysLseek → ∀ value, SeekSucceeds kernel frame value →
    value < userExecveSentinel

/-- The caller of `exit` is a user task.  Syscalls come from Ring 3, so it always is. -/
def ExitsAsUser (kernel : Kernel) (frame : UserTrapFrame) : Prop :=
  frame.rax = ManaOS.sysExit ∨ frame.rax = sysExitGroup → ∃ current,
  kernel.scheduler.tasks[kernel.scheduler.currentIndex]? = some current ∧ current.kind.isUser = true

lemma genuine_of_not_seeksIntoReserved (hs : kernel.scheduler.table.Sound)
  (hseek : ¬ SeeksIntoReserved kernel frame) (huser : ExitsAsUser kernel frame)
  (h : kernel.syscallDispatchFromTrapFrame mapper frame = .ok (result, frame', kernel')) :
  Genuine mapper kernel frame result frame' kernel' := by
  obtain ⟨_, _, hrun, hconc⟩ := syscallDispatchFromTrapFrame_ok h
  have heffect := runSyscall_effect hs hrun
  have hs1 := (Scheduler.Calls.table hs heffect.calls).2
  -- the selectors in the frame play no part in a seek
  have hseek : ¬ SeeksIntoReserved kernel (kernel.withSelectors frame) := hseek
  rcases heffect.result_cases hs hseek with hplain | ⟨rfl, hnum, _, hfinish⟩ |
    ⟨rfl, hrequested, hidx⟩ | ⟨rfl, hnum, hrepl⟩
  · exact genuine_of_plain hplain
  · refine ⟨fun _ => ⟨hnum, ?_⟩, fun heq => absurd heq (by decide),
      fun heq => absurd heq (by decide)⟩
    obtain ⟨current, hcur, hcaller⟩ := huser hnum
    obtain ⟨after, haft, hfin⟩ := finishCurrentTask_finished hs hfinish hcur hcaller
    refine ⟨current, after, hcur, hs.current_running (getElem?_table_of hcur), ?_, hfin⟩
    cases hconc with
    | exited => exact haft
    | returned hexecve hblock hexit hrec => exact absurd rfl hexit
  · refine ⟨fun heq => absurd heq (by decide), fun _ => ?_, fun heq => absurd heq (by decide)⟩
    cases hconc with
    | blocked hrec hblock => exact hrequested.blocked hs1 hidx hrec hblock
    | returned hexecve hblock hexit hrec => exact absurd rfl hblock
  · refine ⟨fun heq => absurd heq (by decide), fun heq => absurd heq (by decide),
      fun _ => ⟨hnum, ?_⟩⟩
    cases hconc with
    | replaced => exact hrepl
    | returned hexecve _ _ _ => exact absurd rfl hexecve

lemma syscallDispatchFromTrapFrame_exit_kernel (mapper : PageMapper)
  (hnum : frame.rax = ManaOS.sysExit ∨ frame.rax = sysExitGroup)
  (hcur : kernel.scheduler.tasks[kernel.scheduler.currentIndex]? = some current)
  (hker : current.kind.isUser = false) :
  kernel.syscallDispatchFromTrapFrame mapper frame =
    .ok (userExitSentinel, { kernel.withSelectors frame with rax := userExitSentinel },
      kernel) := by
  have hfin : kernel.scheduler.finishCurrentTask frame.rdi = .ok (none, kernel.scheduler) := by
    rw [finishCurrentTask, retireCurrentTask, currentTask_eq_ok.2 hcur, ok_bind, hker]
    rfl
  have hexit : kernel.sysExit frame.rdi = .ok (userExitSentinel, kernel) := by
    rw [sysExit, hfin]
    rfl
  have hrun : kernel.runSyscall mapper (kernel.withSelectors frame) =
    .ok (userExitSentinel, kernel.withSelectors frame, kernel) := by
    have hcapt : (kernel.withSelectors frame).rax = ManaOS.sysExit ∨
      (kernel.withSelectors frame).rax = sysExitGroup := hnum
    have hne : ∀ number, number ≠ ManaOS.sysExit → number ≠ sysExitGroup →
      (kernel.withSelectors frame).rax ≠ number := by
      rintro _ hexit hgroup rfl
      exact hcapt.elim hexit hgroup
    rw [runSyscall, if_neg (hne _ (by decide) (by decide)), dispatchSyscall,
      if_neg (hne _ (by decide) (by decide)), if_pos hcapt]
    show (kernel.sysExit frame.rdi >>= _) = _
    rw [hexit]
    rfl
  rw [syscallDispatchFromTrapFrame, hrun]
  rfl

/-- **When sentinel results are genuine.**  In every reachable state and for every syscall:
exactly when the call is no `lseek` into the reserved values, and an `exit` comes from a user
task. -/
theorem sentinels_genuine_iff (hreach : kernel.scheduler.Reachable mapper) :
    ResultsGenuine mapper kernel frame ↔
      ¬ SeeksIntoReserved kernel frame ∧ ExitsAsUser kernel frame := by
  have hs := hreach.sound
  constructor
  · intro h
    refine ⟨fun hreserved => ?_, fun hnumber => ?_⟩
    · obtain ⟨hnumber, value, hlow, hsucceeds⟩ := seeksIntoReserved_iff.1 hreserved
      exact Nat.not_lt.2 hlow (h.seek hnumber value hsucceeds)
    obtain ⟨current, hcurrent⟩ := exists_current hs
    refine ⟨current, hcurrent, ?_⟩
    by_contra hkernel
    have hdispatch := syscallDispatchFromTrapFrame_exit_kernel mapper hnumber hcurrent
      (by simpa using hkernel)
    obtain ⟨-, _, _, hbefore, hrun, hafter, hfinished⟩ := (h.genuine _ _ _ hdispatch).exit rfl
    rw [hbefore] at hafter
    cases hafter
    rw [hrun] at hfinished
    cases hfinished
  · rintro ⟨hseek, huser⟩
    refine ⟨fun result frame' kernel' h => genuine_of_not_seeksIntoReserved hs hseek huser h,
      fun hnumber value hsucceeds => Nat.lt_of_not_le fun hlow => hseek ?_⟩
    exact seeksIntoReserved_iff.2 ⟨hnumber, value, hlow, hsucceeds⟩

/-! ### Two seeks -/

/-- The frame of an `lseek` on descriptor zero. -/
def seekFrame (offset whence : ℕ) : UserTrapFrame :=
  { rax := ManaOS.sysLseek, rdi := 0, rsi := offset, rdx := whence
    instructionPointer := userProgramBase, stackPointer := userProgramBase }

/-- A user task with the keyboard as its descriptor zero runs. -/
def keyboardRun : Panicking Kernel := do
  let s := Scheduler.new.replaceCurrentFileDescriptorTable keyboardTable
  let (taskId, s, memory) ←
    s.spawnUserTask walkMapper bootMemory bootKernel.selectors bootRequest
  let (_, s) ← s.activateUserTask taskId
  let (_, s) ← s.prepareOneShotUserTask taskId
  return { bootKernel with scheduler := s, memory }

/-- It seeks to the largest `i64`. -/
def soughtRun : Panicking Kernel := do
  let kernel ← keyboardRun
  let (_, _, kernel) ←
    kernel.syscallDispatchFromTrapFrame walkMapper (seekFrame (2 ^ 63 - 1) 0)
  return kernel

lemma keyboardRun_reachable (h : keyboardRun = .ok kernel) :
  kernel.scheduler.Reachable walkMapper := by
  simp only [keyboardRun, bind_eq_ok, Prod.exists, pure_eq_ok] at h
  obtain ⟨_, _, _, h1, _, _, h2, _, _, h3, rfl⟩ := h
  exact (((Relation.ReflTransGen.single (.replaceCurrentFileDescriptorTable _ _)).tail
    (.spawnUserTask h1)).tail (.activateUserTask h2)).tail (.prepareOneShotUserTask h3)

lemma soughtRun_reachable (h : soughtRun = .ok kernel) : kernel.scheduler.Reachable walkMapper := by
  simp only [soughtRun, bind_eq_ok, Prod.exists, pure_eq_ok] at h
  obtain ⟨_, h1, _, _, _, h2, rfl⟩ := h
  have hreach := keyboardRun_reachable h1
  exact hreach.trans (syscallDispatchFromTrapFrame_calls hreach.sound h2)

/-- A second seek, relative to the first offset, returns the exit sentinel; its caller is
still running. -/
theorem lseek_returns_exit_sentinel :
    ∃ (kernel kernel' : Kernel) (frame' : UserTrapFrame),
      kernel.scheduler.Reachable walkMapper ∧
      kernel.syscallDispatchFromTrapFrame walkMapper (seekFrame (2 ^ 63 - 4095) 1) =
        .ok (userExitSentinel, frame', kernel') ∧
      (kernel'.scheduler.tasks[kernel.scheduler.currentIndex]?).map Task.state = some .running := by
  have hrun : (do
    let kernel ← soughtRun
    let (result, _, kernel') ←
      kernel.syscallDispatchFromTrapFrame walkMapper (seekFrame (2 ^ 63 - 4095) 1)
    return (result, (kernel'.scheduler.tasks[kernel.scheduler.currentIndex]?).map Task.state)) =
    .ok (userExitSentinel, some .running) := by
    decide +kernel
  simp only [bind_eq_ok, Prod.exists, pure_eq_ok, Prod.mk.injEq] at hrun
  obtain ⟨kernel, hkernel, _, frame', kernel', hseek, rfl, hstate⟩ := hrun
  exact ⟨kernel, kernel', frame', soughtRun_reachable hkernel, hseek, hstate⟩

/-- The first seek is genuine. -/
theorem sentinels_genuine_iff_seek : ∃ kernel : Kernel, kernel.scheduler.Reachable walkMapper ∧
  ResultsGenuine walkMapper kernel (seekFrame (2 ^ 63 - 1) 0) := by
  have hrun : keyboardRun.map (fun _ => ()) = .ok () := by decide +kernel
  obtain ⟨kernel, hkernel, -⟩ := map_eq_ok.1 hrun
  have hreach := keyboardRun_reachable hkernel
  refine ⟨kernel, hreach, (sentinels_genuine_iff hreach).2 ⟨?_, ?_⟩⟩
  · rintro ⟨-, _, _, _, hwhence, -, -, hlow, -⟩
    cases hwhence
    have hhigh : ((0 : ℕ) : ℤ) + toSigned (2 ^ 63 - 1) < userExecveSentinel := by decide
    exact Int.not_le.2 hhigh hlow
  · rintro (h | h) <;> exact absurd h (by decide)

end Kernel
end ManaOS
