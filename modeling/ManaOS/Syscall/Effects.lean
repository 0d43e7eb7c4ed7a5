/-
What a syscall does before its frame is recorded: the effects of the handlers.

* `runSyscall_effect` (**effects**): every syscall has one of them.
-/
import ManaOS.Syscall.FileEffects

namespace ManaOS
open Checked Scheduler

/-- A blocking handler, by its number, stores one request in the runtime of its caller. -/
inductive Requests (runtime : UserTaskRuntime) : ℕ → UserTaskRuntime → Prop
  | sleep (wakeTick : ℕ) :
      Requests runtime sysNanosleep { runtime with sleepWakeTick := some wakeTick }
  | wait (request : UserWaitpidRequest) (hsleep : runtime.sleepWakeTick = none)
      (hwait : runtime.waitpidRequest = none) (hcompletion : runtime.waitpidCompletion = none) :
      Requests runtime sysWaitpid { runtime with waitpidRequest := some request }
  | read (request : UserReadRequest) (hsleep : runtime.sleepWakeTick = none)
      (hwait : runtime.waitpidRequest = none) (hcompletion : runtime.waitpidCompletion = none)
      (hread : runtime.readRequest = none) :
      Requests runtime sysRead { runtime with readRequest := some request }

lemma Requests.of_view {runtime runtime1 : UserTaskRuntime}
  (hview : runtime.view = runtime1.view) (h : Requests runtime1 number stored) :
  ∃ stored', Requests runtime number stored' ∧ stored'.requests = stored.requests := by
  have hsleep : runtime.sleepWakeTick = runtime1.sleepWakeTick :=
    congrArg RuntimeView.sleepWakeTick hview
  have hwait : runtime.waitpidRequest = runtime1.waitpidRequest :=
    congrArg RuntimeView.waitpidRequest hview
  have hcomp : runtime.waitpidCompletion = runtime1.waitpidCompletion :=
    congrArg RuntimeView.waitpidCompletion hview
  have hread : runtime.readRequest = runtime1.readRequest := congrArg RuntimeView.readRequest hview
  cases h with
  | sleep wakeTick =>
    refine ⟨_, .sleep wakeTick, ?_⟩
    simp only [UserTaskRuntime.requests, hwait, hread]
  | wait request h1 h2 h3 =>
    refine ⟨_, .wait request (hsleep.trans h1) (hwait.trans h2) (hcomp.trans h3), ?_⟩
    simp only [UserTaskRuntime.requests, hsleep, hread]
  | read request h1 h2 h3 h4 =>
    refine ⟨_, .read request (hsleep.trans h1) (hwait.trans h2) (hcomp.trans h3)
      (hread.trans h4), ?_⟩
    simp only [UserTaskRuntime.requests, hsleep, hwait]

namespace Kernel

/-- **What the handler of a syscall did**: the result, the stacked frame and the kernel after it. -/
inductive Effect (mapper : PageMapper) (kernel : Kernel) (frame : UserTrapFrame) :
    ℕ → UserTrapFrame → Kernel → Prop
  | handled {result kernel'} (h : Handled mapper kernel result kernel') :
      Effect mapper kernel frame result frame kernel'
  | sought {result kernel'} (hnumber : frame.rax = ManaOS.sysLseek)
      (h : kernel.sysLseek frame.rdi frame.rsi frame.rdx = .ok (result, kernel')) :
      Effect mapper kernel frame result frame kernel'
  | resized {request value result scheduler memory}
      (h : kernel.scheduler.processCurrentUserBreak mapper kernel.memory request =
        .ok (value, scheduler, memory)) (hplain : Plain result) :
      Effect mapper kernel frame result frame { kernel with scheduler, memory }
  | mapped {request source value result scheduler memory captured}
      (h : kernel.scheduler.processCurrentUserMapping mapper kernel.memory request
        (initializeMappingPage source) (none, kernel.fileSystem.files) =
          .ok (value, scheduler, memory, captured)) (hplain : Plain result) :
      Effect mapper kernel frame result frame
        { kernel with
          scheduler
          memory
          fileSystem := { kernel.fileSystem with files := captured.2 } }
  | unmapped {request value result scheduler memory}
      (h : kernel.scheduler.processCurrentUserUnmapping mapper kernel.memory request =
        .ok (value, scheduler, memory)) (hplain : Plain result) :
      Effect mapper kernel frame result frame { kernel with scheduler, memory }
  | requested {kernel₁ current runtime runtime'} (hquiet : Quiet mapper kernel kernel₁)
      (hcurrent : kernel₁.scheduler.CurrentUser current runtime)
      (hrunning : current.state = .running)
      (hrequest : Requests runtime frame.rax runtime')
      (hcall : kernel₁.scheduler.Call mapper
        (kernel₁.scheduler.setRuntime kernel₁.scheduler.currentIndex runtime')) :
      Effect mapper kernel frame userBlockSentinel frame
        { kernel₁ with
          scheduler := kernel₁.scheduler.setRuntime kernel₁.scheduler.currentIndex runtime' }
  | collected {parent childTaskId exit scheduler kernel'}
      (hnumber : frame.rax = ManaOS.sysWaitpid)
      (hparent : kernel.scheduler.getCurrentTaskId = .ok parent)
      (h : kernel.scheduler.collectWaitableChildExit parent childTaskId =
        .ok (some exit, scheduler)) (hquiet : Quiet mapper { kernel with scheduler } kernel') :
      Effect mapper kernel frame exit.taskId frame kernel'
  | spawned {kernel₁ request image child kernel₂ activated scheduler result}
      (hnumber : frame.rax = ManaOS.sysSpawn) (hquiet : Quiet mapper kernel kernel₁)
      (h : kernel₁.spawnFromImage mapper request image = .ok (child, kernel₂))
      (hactivate : kernel₂.scheduler.activateUserTask child = .ok (activated, scheduler))
      (hresult : result = if activated then child else errorNotImplemented) :
      Effect mapper kernel frame result frame { kernel₂ with scheduler }
  | replaced {kernel₁ staging image frame' kernel'} (hnumber : frame.rax = ManaOS.sysExecve)
      (hquiet : Quiet mapper kernel kernel₁)
      (h : kernel₁.buildAndPublishExecveCandidate mapper staging image =
        .ok (some frame', kernel')) :
      Effect mapper kernel frame userExecveSentinel frame' kernel'
  | notReplaced {kernel₁ staging image kernel'} (hquiet : Quiet mapper kernel kernel₁)
      (h : kernel₁.buildAndPublishExecveCandidate mapper staging image = .ok (none, kernel')) :
      Effect mapper kernel frame errorNotImplemented frame kernel'
  | exited {exit scheduler kernel'}
      (hnumber : frame.rax = ManaOS.sysExit ∨ frame.rax = sysExitGroup)
      (h : kernel.scheduler.finishCurrentTask frame.rdi = .ok (exit, scheduler))
      (hscheduler : kernel'.scheduler = scheduler) (hmemory : kernel'.memory = kernel.memory) :
      Effect mapper kernel frame userExitSentinel frame kernel'

section
variable {kernel : Kernel} {frame : UserTrapFrame}

variable {error : ℕ} {α : Type}

lemma sysRead_effect (hnum : frame.rax = ManaOS.sysRead)
  (h : kernel.sysRead mapper fileDescriptor userPointer length = .ok (result, kernel')) :
  Effect mapper kernel frame result frame kernel' := by
  rw [sysRead] at h
  split at h
  · cases h
    exact .handled (handled_of_plain (by decide))
  next _ hbuf =>
  obtain ⟨⟨value, _⟩, hread, h⟩ := bind_eq_ok.1 h
  obtain ⟨hqt, hcnt, herr⟩ := readIntoBuffer_ok hread
  cases value with
  | ok _ =>
    cases h
    have hle := hcnt _ rfl
    have hbytes := copyOutputBuffer_length hbuf
    exact .handled ⟨hqt, plain_of_lt (by omega)⟩
  | error error =>
    obtain ⟨cause, rfl⟩ := herr error rfl
    simp only at h
    split at h
    · split at h
      · cases h
        exact .handled ⟨hqt, plain_zero⟩
      next _ _ =>
      obtain ⟨⟨_, _⟩, hprep, h⟩ := bind_eq_ok.1 h
      rcases prepareCurrentUserRead_ok hprep with ⟨rfl, rfl⟩ |
        ⟨_, _, hcur, hrun, hsleep, hwait, hcomp, hnone, rfl, rfl⟩
      · cases h
        exact .handled ⟨hqt, by decide⟩
      cases h
      exact .requested hqt hcur hrun
        (hnum ▸ .read _ hsleep hwait hcomp hnone)
        (.prepareCurrentUserRead hprep)
    · cases h
      exact .handled ⟨hqt, plain_filesystemErrorToLinux cause⟩

lemma sleep_effect (hnum : frame.rax = ManaOS.sysNanosleep) (hqt : Quiet mapper kernel kernel₁)
  (h : (if durationTicks = 0 then return (0, kernel₁)
    else
      match checkedAdd kernel₁.timerTicks durationTicks with
        | none => return (errorInvalidArgument, kernel₁)
        | some wakeTick => do
            let (prepared, scheduler) ← kernel₁.scheduler.prepareCurrentUserSleep wakeTick
            let kernel := { kernel₁ with scheduler }
            if prepared.isNone then return (errorNotImplemented, kernel)
            else return (userBlockSentinel, kernel)) = Except.ok (result, kernel')) :
    Effect mapper kernel frame result frame kernel' := by
  split at h
  · cases h
    exact .handled ⟨hqt, plain_zero⟩
  split at h
  · cases h
    exact .handled ⟨hqt, by decide⟩
  obtain ⟨⟨_, _⟩, hprep, h⟩ := bind_eq_ok.1 h
  rcases prepareCurrentUserSleep_ok hprep with ⟨rfl, rfl⟩ |
    ⟨_, _, hcur, hrun, rfl, rfl⟩
  · cases h
    exact .handled ⟨hqt, by decide⟩
  · cases h
    exact .requested hqt hcur hrun (hnum ▸ .sleep _)
      (.prepareCurrentUserSleep hprep)

lemma sysNanosleep_effect (hnum : frame.rax = ManaOS.sysNanosleep)
  (h : kernel.sysNanosleep mapper requestPointer remainingPointer = .ok (result, kernel')) :
  Effect mapper kernel frame result frame kernel' := by
  rw [sysNanosleep] at h
  split at h
  · cases h
    exact .handled (handled_of_plain (by decide))
  simp only at h
  split at h
  · cases h
    exact .handled (handled_of_plain (by decide))
  next remaining _ =>
  split at h
  · cases h
    exact .handled (handled_of_plain (by decide))
  · cases remaining with
    | none => exact sleep_effect hnum (.refl _) h
    | some _ => exact sleep_effect hnum (quiet_storeBuffer _ _ _) h

lemma waitForChild_effect (hnum : frame.rax = ManaOS.sysWaitpid)
  (hpar : kernel.scheduler.getCurrentTaskId = .ok parentTaskId)
  (h : kernel.waitForChild mapper parentTaskId selector statusBuffer noHang =
    .ok (result, kernel')) : Effect mapper kernel frame result frame kernel' := by
  simp only [waitForChild, bind_eq_ok, Prod.exists] at h
  obtain ⟨exit, scheduler, hcoll, h⟩ := h
  cases exit with
  | some _ =>
    obtain ⟨_, hstore, h⟩ := bind_eq_ok.1 h
    cases h
    refine .collected hnum hpar hcoll ?_
    cases statusBuffer with
    | none =>
      cases hstore
      exact .refl _
    | some _ =>
      simp only [storeWaitStatus, bind_eq_ok] at hstore
      obtain ⟨_, -, hstore⟩ := hstore
      cases hstore
      exact quiet_storeBuffer _ _ _
  | none =>
    have hsame : scheduler = kernel.scheduler := by
      rcases collectWaitableChildExit_ok hcoll with ⟨-, heq⟩ | ⟨_, _, _, _, _, hsome, -⟩
      · exact heq
      · cases hsome
    subst hsame
    simp only at h
    split at h
    · cases h
      exact .handled ⟨.refl _, plain_zero⟩
    obtain ⟨⟨_, _⟩, hprep, h⟩ := bind_eq_ok.1 h
    rcases prepareCurrentUserWaitpid_ok hprep with ⟨rfl, rfl⟩ |
      ⟨_, _, hcur, hrun, hsleep, hwait, hcomp, rfl, rfl⟩
    · cases h
      exact .handled ⟨.refl _, by decide⟩
    · cases h
      exact .requested (.refl _) hcur hrun
        (hnum ▸ .wait _ hsleep hwait hcomp) (.prepareCurrentUserWaitpid hprep)

lemma sysWaitpid_effect (hnum : frame.rax = ManaOS.sysWaitpid)
  (h : kernel.sysWaitpid mapper processIdentifier statusPointer options = .ok (result, kernel')) :
  Effect mapper kernel frame result frame kernel' := by
  rw [sysWaitpid] at h
  split at h
  · cases h
    exact .handled (handled_of_plain (by decide))
  split at h
  · cases h
    exact .handled (handled_of_plain (by decide))
  simp only [bind_eq_ok] at h
  obtain ⟨_, hpar, hasChild, -, h⟩ := h
  cases hasChild with
  | none =>
    cases h
    exact .handled (handled_of_plain (by decide))
  | some matching =>
    cases matching with
    | false =>
      cases h
      exact .handled (handled_of_plain (by decide))
    | true =>
      simp only at h
      split at h
      · exact waitForChild_effect hnum hpar h
      split at h
      · cases h
        exact .handled (handled_of_plain (by decide))
      · exact waitForChild_effect hnum hpar h

/-! ### Memory handlers -/

lemma plain_asU64 (address : UserVirtualAddress) : Plain address.asU64 :=
  plain_of_lt (Nat.lt_trans address.lt_end (by decide))

lemma sysBrk_effect (h : kernel.sysBrk mapper requestedBreak = .ok (result, kernel')) :
  Effect mapper kernel frame result frame kernel' := by
  rw [sysBrk] at h
  split at h
  · cases h
    exact .handled (handled_of_plain (by decide))
  split at h
  · cases h
    exact .handled (handled_of_plain (by decide))
  obtain ⟨⟨_, _, _⟩, hbreak, h⟩ := bind_eq_ok.1 h
  cases h
  refine .resized hbreak ?_
  rcases processCurrentUserBreak_ok hbreak with ⟨rfl, -⟩ | ⟨_, _, _, nextBreak, -, rfl, -⟩
  · decide
  · exact plain_asU64 nextBreak

lemma mappingSourceFromArguments_error
    (h : kernel.mappingSourceFromArguments fileDescriptor offset flags = .ok (.error error)) :
    Plain error := by
  rw [mappingSourceFromArguments] at h
  split at h
  · cases h
  split at h
  · cases h
    decide
  obtain ⟨_, -, h⟩ := bind_eq_ok.1 h
  split at h
  · next cause _ =>
    cases h
    exact plain_filesystemErrorToLinux cause
  split at h
  · cases h
  · cases h
    decide
  · cases h
    decide

lemma plain_mmapResult (h : ∀ start, value = .ok start → Plain start) :
  Plain (mmapResult captured value) := by
  cases value with
  | ok start => exact h start rfl
  | error error =>
    cases error with
    | initializationFailed =>
      rw [mmapResult]
      cases captured.1 with
      | none => decide
      | some cause => exact plain_filesystemErrorToLinux cause
    | invalidRequest => exact plain_userMappingErrorToLinux .invalidRequest
    | addressInUse => exact plain_userMappingErrorToLinux .addressInUse
    | outOfMemory => exact plain_userMappingErrorToLinux .outOfMemory

lemma sysMmap_effect
    (h : kernel.sysMmap mapper requestedAddress length protection flags fileDescriptor offset =
        .ok (result, kernel')) :
    Effect mapper kernel frame result frame kernel' := by
  rw [sysMmap] at h
  split at h
  · split at h
    · cases h
      exact .handled (handled_of_plain (by decide))
    obtain ⟨source, hsrc, h⟩ := bind_eq_ok.1 h
    cases source with
    | error error =>
      cases h
      exact .handled (handled_of_plain (mappingSourceFromArguments_error hsrc))
    | ok _ =>
      simp only at h
      split at h
      · cases h
        exact .handled (handled_of_plain (by decide))
      obtain ⟨⟨_, _, _, _, _⟩, hmap, h⟩ := bind_eq_ok.1 h
      cases h
      refine .mapped hmap (plain_mmapResult fun start hst => ?_)
      rcases processCurrentUserMapping_ok hmap with ⟨rfl, -⟩ |
        ⟨_, _, _, allocation, _, -, -, -, rfl, -⟩
      · cases hst
      cases allocation with
      | error _ => cases hst
      | ok _ =>
        cases hst
        exact plain_asU64 _
  · cases h
    exact .handled (handled_of_plain (by decide))

lemma sysMunmap_effect (h : kernel.sysMunmap mapper startAddress length = .ok (result, kernel')) :
  Effect mapper kernel frame result frame kernel' := by
  rw [sysMunmap] at h
  split at h
  · cases h
    exact .handled (handled_of_plain (by decide))
  split at h
  · cases h
    exact .handled (handled_of_plain (by decide))
  obtain ⟨⟨_, _, _⟩, hunmap, h⟩ := bind_eq_ok.1 h
  cases h
  refine .unmapped hunmap ?_
  split <;> decide

/-! ### Entry vectors -/

/-- Every error of a fallible computation is plain. -/
def FailsPlain {α : Type} (x : Except ℕ α) : Prop := ∀ error, x = .error error → Plain error

lemma FailsPlain.bind {β : Type} {f : α → Except ℕ β} (hx : FailsPlain x)
  (hf : ∀ a, FailsPlain (f a)) : FailsPlain (x >>= f) := by
  intro error herr
  cases x with
  | error _ =>
    cases herr
    exact hx _ rfl
  | ok a => exact hf a error herr

lemma failsPlain_pure (a : α) : FailsPlain (pure a : Except ℕ α) := by
  rintro _ ⟨⟩

lemma failsPlain_okOr (value : Option α) (h : Plain error) : FailsPlain (okOr value error) := by
  cases value with
  | none =>
    rintro _ ⟨⟩
    exact h
  | some a => rintro _ ⟨⟩

lemma failsPlain_throw (h : Plain error) : FailsPlain (throw error : Except ℕ α) := by
  rintro _ ⟨⟩
  exact h

lemma copyUserEntryPointerArraySlot_fails (kernel : Kernel) (userPointerArray index : ℕ) :
  FailsPlain (kernel.copyUserEntryPointerArraySlot mapper userPointerArray index) :=
  (failsPlain_okOr _ (by decide)).bind fun _ => (failsPlain_okOr _ (by decide)).bind fun _ =>
    (failsPlain_okOr _ (by decide)).bind fun _ => failsPlain_pure _

lemma copyUserEntryStringValue_fails (kernel : Kernel) (userStringPointer copied : ℕ) :
  FailsPlain (kernel.copyUserEntryStringValue mapper userStringPointer copied) := by
  refine (failsPlain_okOr _ (by decide)).bind fun _ => (failsPlain_okOr _ (by decide)).bind
    fun _ => (failsPlain_okOr _ (by decide)).bind fun _ => ?_
  dsimp only
  split
  · exact (failsPlain_throw (by decide)).bind fun _ => failsPlain_pure _
  · exact failsPlain_pure _

lemma copyUserEntryStringsFrom_fails (kernel : Kernel)
    (userPointerArray remaining index copied : ℕ) :
    FailsPlain
      (kernel.copyUserEntryStringsFrom mapper userPointerArray remaining index copied) := by
  induction remaining generalizing index copied with
  | zero =>
    rw [copyUserEntryStringsFrom]
    refine (copyUserEntryPointerArraySlot_fails _ _ _).bind fun _ => ?_
    dsimp only
    split
    · exact failsPlain_pure _
    · exact failsPlain_throw (by decide)
  | succ _ ih =>
    rw [copyUserEntryStringsFrom]
    refine (copyUserEntryPointerArraySlot_fails _ _ _).bind fun _ => ?_
    dsimp only
    split
    · exact failsPlain_pure _
    · exact (copyUserEntryStringValue_fails _ _ _).bind fun _ =>
        (ih _ _).bind fun _ => failsPlain_pure _

lemma copyUserEntryStringVector_fails (kernel : Kernel) (userPointerArray maxValues copied : ℕ) :
  FailsPlain (kernel.copyUserEntryStringVector mapper userPointerArray maxValues copied) := by
  rw [copyUserEntryStringVector]
  split
  · exact failsPlain_pure _
  · exact copyUserEntryStringsFrom_fails _ _ _ _ _

lemma copyUserProgramEntryStaging_error
    (h : kernel.copyUserProgramEntryStaging mapper path arguments environment =
        .ok (.error error)) :
    Plain error := by
  rw [copyUserProgramEntryStaging] at h
  split at h
  · cases h
    decide
  simp only [bind_eq_ok, pure_eq_ok] at h
  obtain ⟨_, -, h⟩ := h
  exact ((copyUserEntryStringVector_fails _ _ _ _).bind fun _ =>
    (copyUserEntryStringVector_fails _ _ _ _).bind fun _ => failsPlain_pure _) _ h

lemma readProgramImage_quiet (mapper : PageMapper) (kernel : Kernel) (path : Path) :
  Quiet mapper kernel (kernel.readProgramImage path).2 := by
  rw [readProgramImage]
  repeat' split
  all_goals exact ⟨.refl, .refl _, .refl _, rfl⟩

lemma loadProgramImage_quiet {path : Path} {image : Except UserProgramSpawnError (List UInt8)}
  (h : kernel.loadProgramImage path = (image, kernel')) : Quiet mapper kernel kernel' := by
  have hread := readProgramImage_quiet mapper kernel path
  rw [loadProgramImage] at h
  split at h
  · next heq =>
    rw [heq] at hread
    cases h
    exact hread
  next heq =>
  rw [heq] at hread
  split at h <;>
  · cases h
    exact hread

lemma readExecveCandidateImage_ok (mapper : PageMapper) {path : Path}
  {image : Except ℕ (List UInt8)}
  (h : kernel.readExecveCandidateImage path = .ok (image, kernel')) :
  Quiet mapper kernel kernel' ∧ FailsPlain image := by
  have hdone : ∀ {error : ℕ}, Plain error → FailsPlain (.error error : Except ℕ (List UInt8)) := by
    intro _ hplain
    exact failsPlain_throw hplain
  rw [readExecveCandidateImage] at h
  split at h
  · cases h
    exact ⟨.refl _, hdone (by decide)⟩
  split at h
  · next cause _ =>
    cases h
    exact ⟨.refl _, hdone (plain_filesystemErrorToLinux cause)⟩
  split at h
  · cases h
    exact ⟨.refl _, hdone (by decide)⟩
  · cases h
    exact ⟨.refl _, hdone (by decide)⟩
  split at h
  · next cause _ =>
    cases h
    exact ⟨.refl _, hdone (plain_filesystemErrorToLinux cause)⟩
  next _ _ _ =>
  simp only at h
  split at h
  · cases h
  cases h
  refine ⟨⟨.refl, .refl _, .refl _, rfl⟩, ?_⟩
  split
  · split
    · exact failsPlain_pure _
    · exact hdone (by decide)
    · next cause _ _ => exact hdone (plain_filesystemErrorToLinux cause)
  · exact hdone (by decide)

lemma sysSpawn_effect (hnum : frame.rax = ManaOS.sysSpawn)
  (h : kernel.sysSpawn mapper path arguments environment = .ok (result, kernel')) :
  Effect mapper kernel frame result frame kernel' := by
  simp only [sysSpawn, bind_eq_ok] at h
  obtain ⟨staging, hstaging, h⟩ := h
  cases staging with
  | error error =>
    cases h
    exact .handled (handled_of_plain (copyUserProgramEntryStaging_error hstaging))
  | ok _ =>
    simp only at h
    split at h
    · cases h
      exact .handled (handled_of_plain (by decide))
    obtain ⟨⟨_, _⟩, hspawn, h⟩ := bind_eq_ok.1 h
    rw [spawnUserProgram] at hspawn
    split at hspawn
    · next error kernel₂ hload =>
      cases hspawn
      cases h
      exact .handled ⟨loadProgramImage_quiet hload, plain_spawnErrorToLinux error⟩
    next _ _ hload =>
    obtain ⟨⟨_, _⟩, himage, hspawn⟩ := bind_eq_ok.1 hspawn
    cases hspawn
    obtain ⟨⟨activated, _⟩, hactv, h⟩ := bind_eq_ok.1 h
    cases activated <;>
    · cases h
      exact .spawned hnum (loadProgramImage_quiet hload) himage hactv rfl

lemma sysExecve_effect (hnum : frame.rax = ManaOS.sysExecve)
  (h : kernel.sysExecve mapper path arguments environment frame = .ok (result, frame', kernel')) :
  Effect mapper kernel frame result frame' kernel' := by
  simp only [sysExecve, bind_eq_ok] at h
  obtain ⟨staging, hstaging, h⟩ := h
  cases staging with
  | error error =>
    cases h
    exact .handled (handled_of_plain (copyUserProgramEntryStaging_error hstaging))
  | ok _ =>
    obtain ⟨⟨image, _⟩, hread, h⟩ := bind_eq_ok.1 h
    obtain ⟨hqt, hfails⟩ := readExecveCandidateImage_ok mapper hread
    cases image with
    | error _ =>
      cases h
      exact .handled ⟨hqt, hfails _ rfl⟩
    | ok _ =>
      simp only at h
      split at h
      · cases h
        exact .handled ⟨hqt, by decide⟩
      split at h
      · cases h
        exact .handled ⟨hqt, by decide⟩
      obtain ⟨⟨published, _⟩, hpub, h⟩ := bind_eq_ok.1 h
      cases published with
      | none =>
        cases h
        exact .notReplaced hqt hpub
      | some _ =>
        cases h
        exact .replaced hnum hqt hpub

lemma sysExit_effect (hnum : frame.rax = ManaOS.sysExit ∨ frame.rax = sysExitGroup)
  (h : kernel.sysExit frame.rdi = .ok (result, kernel')) :
  Effect mapper kernel frame result frame kernel' := by
  simp only [sysExit, bind_eq_ok, Prod.exists] at h
  obtain ⟨exit, _, hfin, h⟩ := h
  cases exit <;>
  · cases h
    exact .exited hnum hfin rfl rfl

/-! ### The handler stage -/

lemma plain_of_le_length (hs : kernel.scheduler.table.Sound)
  (h : index ≤ kernel.scheduler.tasks.length) : Plain index := by
  have hle : kernel.scheduler.tasks.length ≤ vecCapacity := by
    simpa [table] using hs.length_le
  exact plain_of_lt (Nat.lt_of_le_of_lt (Nat.le_trans h hle) (by decide))

lemma sysGetpid_handled (hs : kernel.scheduler.table.Sound)
  (h : kernel.sysGetpid = .ok (result, kernel')) : Handled mapper kernel result kernel' := by
  simp only [sysGetpid, getCurrentTaskId, bind_eq_ok, pure_eq_ok, currentTask_eq_ok] at h
  obtain ⟨_, ⟨current, hcur, rfl⟩, h⟩ := h
  cases h
  refine handled_of_plain (plain_of_le_length hs ?_)
  have hid : current.getId = kernel.scheduler.currentIndex :=
    hs.identifier _ _ (getElem?_table_of hcur)
  rw [hid]
  exact Nat.le_of_lt (List.getElem?_eq_some_iff.1 hcur).1

lemma sysGetppid_handled (hs : kernel.scheduler.table.Sound)
  (h : kernel.sysGetppid = .ok (result, kernel')) : Handled mapper kernel result kernel' := by
  simp only [sysGetppid, getCurrentParentTaskId, bind_eq_ok, pure_eq_ok, currentTask_eq_ok] at h
  obtain ⟨_, ⟨current, hcur, rfl⟩, h⟩ := h
  cases h
  refine handled_of_plain ?_
  cases hpar : current.metadata.parentIdentifier with
  | none => decide
  | some parent =>
    refine plain_of_le_length hs ?_
    have hlt : parent < kernel.scheduler.currentIndex :=
      hs.parent_lt _ _ _ (getElem?_table_of hcur) hpar
    exact Nat.le_of_lt (Nat.lt_trans hlt (List.getElem?_eq_some_iff.1 hcur).1)

lemma of_ite_eq {p q : Prop} [Decidable p]
  (h : (if p then x else y) = z) (hpos : p → x = z → q) (hneg : y = z → q) : q := by
  by_cases hp : p
  · exact hpos hp (by rwa [if_pos hp] at h)
  · exact hneg (by rwa [if_neg hp] at h)

lemma dispatchSyscall_effect (hs : kernel.scheduler.table.Sound)
  (h : kernel.dispatchSyscall mapper frame = .ok (result, kernel')) :
  Effect mapper kernel frame result frame kernel' := by
  rw [dispatchSyscall] at h
  refine of_ite_eq h (fun _ h => .handled ((sysWrite_handled ..).holds h)) fun h => ?_
  refine of_ite_eq h (fun hnum h => sysExit_effect hnum h) fun h => ?_
  refine of_ite_eq h (fun _ h => .handled ((sysOpen_handled ..).holds h)) fun h => ?_
  refine of_ite_eq h (fun _ h => .handled ((sysOpenat_handled ..).holds h)) fun h => ?_
  refine of_ite_eq h (fun _ h => .handled ((sysClose_handled ..).holds h)) fun h => ?_
  refine of_ite_eq h (fun _ h => .handled ((sysFstat_handled ..).holds h)) fun h => ?_
  refine of_ite_eq h (fun hnum h => .sought hnum h) fun h => ?_
  refine of_ite_eq h (fun _ h => sysMmap_effect h) fun h => ?_
  refine of_ite_eq h (fun _ h => sysMunmap_effect h) fun h => ?_
  refine of_ite_eq h (fun _ h => sysBrk_effect h) fun h => ?_
  refine of_ite_eq h (fun hnum h => sysNanosleep_effect hnum h) fun h => ?_
  refine of_ite_eq h (fun hnum h => sysWaitpid_effect hnum h) fun h => ?_
  refine of_ite_eq h (fun hnum h => sysRead_effect hnum h) fun h => ?_
  refine of_ite_eq h (fun _ h => .handled ((sysGetdents64_handled ..).holds h)) fun h => ?_
  refine of_ite_eq h (fun _ h => .handled ((sysGetcwd_handled ..).holds h)) fun h => ?_
  refine of_ite_eq h (fun _ h => .handled (sysGetpid_handled hs h)) fun h => ?_
  refine of_ite_eq h (fun _ h => .handled (sysGetppid_handled hs h)) fun h => ?_
  refine of_ite_eq h (fun _ h => .handled ((sysChdir_handled ..).holds h)) fun h => ?_
  refine of_ite_eq h (fun hnum h => sysSpawn_effect hnum h) fun h => ?_
  cases h
  exact .handled (handled_of_plain (by decide))

/-- **Every syscall has one of the effects.** -/
theorem runSyscall_effect (hs : kernel.scheduler.table.Sound)
  (h : kernel.runSyscall mapper frame = .ok (result, frame', kernel')) :
  Effect mapper kernel frame result frame' kernel' := by
  rw [runSyscall] at h
  split at h
  · next hnum => exact sysExecve_effect hnum h
  · obtain ⟨⟨_, _⟩, hdisp, h⟩ := bind_eq_ok.1 h
    cases h
    exact dispatchSyscall_effect hs hdisp

end
end Kernel
end ManaOS
