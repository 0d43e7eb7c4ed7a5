/-
How a dispatched syscall ends: a `Kernel.Effect` of the handler and a `Kernel.Conclusion`.

* `Kernel.syscallDispatchFromTrapFrame_calls`: a syscall is a run of scheduler calls.
-/
import ManaOS.Syscall.Effects
import ManaOS.Syscall.Images

namespace ManaOS
open Checked

lemma Scheduler.recordAndBlock_ok {s s1 s2 : Scheduler} (hs : s.table.Sound) {current : Task}
  {runtime : UserTaskRuntime} (hcur : s.CurrentUser current runtime) {taskId : ℕ}
  {frame : UserTrapFrame} (hrec : s.recordCurrentUserTrapFrame frame .syscall = .ok s1)
  (hblock : s1.blockCurrentUserAfterSyscall = .ok (some taskId, s2)) :
  let recorded := UserTrapFrameSource.syscall.markRecorded { runtime with savedFrame := frame }
  s2 = (s.setRuntime s.currentIndex recorded).blocked ∧ s2.tasks[s.currentIndex]? =
      some { current with kind := .user recorded, state := .blocked, context := .new } := by
  obtain ⟨hpos, -⟩ := bootstrap_waits (dispatch_sound hs) hcur.current_eq
    (TaskKind.isUser_iff.2 ⟨runtime, hcur.kind⟩)
  rcases recordCurrentUserTrapFrame_ok hrec with ⟨-, _, hfound, hker⟩ |
    ⟨_, _, hfound, rfl⟩
  · rw [hcur.current_eq] at hfound
    cases hfound
    rw [hcur.kind] at hker
    cases hker
  have hsame := hfound.current_eq
  rw [hcur.current_eq] at hsame
  cases hsame
  have hkind := hfound.kind
  rw [hcur.kind] at hkind
  cases hkind
  have hsound := hs
  rw [← hcur.table_setRuntime] at hsound
  rcases blockCurrentUserAfterSyscall_ok (dispatch_sound hsound) hblock with ⟨hnone, -⟩ |
    ⟨_, _, -, -, -, -, heq⟩
  · cases hnone
  have hget := getElem?_setRuntime_self hcur.current_eq
    (UserTrapFrameSource.syscall.markRecorded { runtime with savedFrame := frame })
  rw [heq]
  exact ⟨rfl, getElem?_blocked_current hget hpos⟩

namespace Kernel

/-- **The ending of a syscall**, from the kernel and the frame that its handler left. -/
inductive Conclusion (kernel : Kernel) (frame : UserTrapFrame) : ℕ → UserTrapFrame → Kernel → Prop
  | replaced : Conclusion kernel frame userExecveSentinel frame kernel
  | blocked {scheduler₁ scheduler₂ taskId}
      (hrecord : kernel.scheduler.recordCurrentUserTrapFrame { frame with rax := 0 } .syscall =
        .ok scheduler₁)
      (hblock : scheduler₁.blockCurrentUserAfterSyscall = .ok (some taskId, scheduler₂)) :
      Conclusion kernel frame userBlockSentinel { frame with rax := 0 }
        { kernel with scheduler := scheduler₂, preemptionState := .userReturn }
  | exited : Conclusion kernel frame userExitSentinel { frame with rax := userExitSentinel } kernel
  | returned {result scheduler₁} (hexecve : result ≠ userExecveSentinel)
      (hblock : result ≠ userBlockSentinel) (hexit : result ≠ userExitSentinel)
      (hrecord : kernel.scheduler.recordCurrentUserTrapFrame { frame with rax := result } .syscall =
        .ok scheduler₁) :
      Conclusion kernel frame result { frame with rax := result }
        { kernel with scheduler := scheduler₁ }

variable {kernel : Kernel}

lemma syscallDispatchFromTrapFrame_ok
    (h : kernel.syscallDispatchFromTrapFrame mapper frame = .ok (result, frame', kernel')) :
    ∃ frame1 kernel1,
      kernel.runSyscall mapper (kernel.withSelectors frame) = .ok (result, frame1, kernel1) ∧
      Conclusion kernel1 frame1 result frame' kernel' := by
  simp only [syscallDispatchFromTrapFrame, bind_eq_ok, Prod.exists] at h
  obtain ⟨_, _, _, hrun, h⟩ := h
  split at h
  · next hexecve =>
    subst hexecve
    cases h
    exact ⟨_, _, hrun, .replaced⟩
  next hexecve =>
  split at h
  · next hblock =>
    subst hblock
    simp only [bind_eq_ok, Prod.exists, expect_eq_ok] at h
    obtain ⟨scheduler₁, hrec, _, _, hblk, _, rfl, h⟩ := h
    cases h
    exact ⟨_, _, hrun, .blocked hrec hblk⟩
  next hblock =>
  split at h
  · next hexit =>
    subst hexit
    cases h
    exact ⟨_, _, hrun, .exited⟩
  next hexit =>
  obtain ⟨_, hrec, h⟩ := bind_eq_ok.1 h
  cases h
  exact ⟨_, _, hrun, .returned hexecve hblock hexit hrec⟩

lemma Effect.calls (h : Effect mapper kernel frame result frame' kernel') :
  kernel.scheduler.Calls mapper kernel'.scheduler := by
  cases h with
  | handled h => exact h.quiet.calls
  | sought hnum h => exact (sysLseek_quiet h).calls
  | resized h hplain => exact .single (.processCurrentUserBreak h)
  | mapped h hplain => exact .single (.processCurrentUserMapping h)
  | unmapped h _ => exact .single (.processCurrentUserUnmapping h)
  | requested hqt _ _ _ hcall => exact hqt.calls.tail hcall
  | collected hnum _ h hqt =>
    exact (Relation.ReflTransGen.single (.collectWaitableChildExit h)).trans hqt.calls
  | spawned hnum hqt h hactv _ =>
    obtain ⟨_, _, _, _, hspawn, rfl⟩ := spawnFromImage_ok h
    exact (hqt.calls.tail (.spawnUserTask hspawn)).tail (.activateUserTask hactv)
  | replaced hnum hqt h =>
    obtain ⟨_, _, _, _, _, _, _, -, -, hrepl, rfl⟩ := buildAndPublishExecveCandidate_some h
    exact (hqt.calls.tail (.replaceCurrentUserImage hrepl)).tail
      (.replaceCurrentFileDescriptorTable _ _)
  | notReplaced hqt h =>
    obtain ⟨_, rfl⟩ := buildAndPublishExecveCandidate_none h
    exact hqt.calls
  | exited _ h hsched _ =>
    rw [hsched]
    exact .single (.finishCurrentTask h)

lemma Conclusion.calls (h : Conclusion kernel frame result frame' kernel') :
  kernel.scheduler.Calls mapper kernel'.scheduler := by
  cases h with
  | replaced => exact .refl
  | blocked hrec hblock =>
    exact (Relation.ReflTransGen.single (.recordCurrentUserTrapFrame hrec)).tail
      (.blockCurrentUserAfterSyscall hblock)
  | exited => exact .refl
  | returned _ _ _ hrec => exact .single (.recordCurrentUserTrapFrame hrec)

lemma syscallDispatchFromTrapFrame_calls (hs : kernel.scheduler.table.Sound)
  (h : kernel.syscallDispatchFromTrapFrame mapper frame = .ok (result, frame', kernel')) :
  kernel.scheduler.Calls mapper kernel'.scheduler := by
  obtain ⟨_, _, hrun, hconc⟩ := syscallDispatchFromTrapFrame_ok h
  exact (runSyscall_effect hs hrun).calls.trans hconc.calls

end Kernel
end ManaOS
