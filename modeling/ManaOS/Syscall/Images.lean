/-
Building and publishing a program image.

`spawn` and `execve` build an image in the same four steps, which `BuildsImage` names.

* `spawnFromImage_ok`: a spawned task runs a built image.
-/
import ManaOS.Syscall.Process
import ManaOS.Task.RequestEffects

namespace ManaOS
open Checked

/-- A program image with its stack and entry vectors in a fresh address space. -/
structure UserImage where
  space : UserAddressSpace
  loaded : LoadedElf
  prepared : PreparedUserStack

/-- Build an image: address space, segments, stack, entry vectors. -/
def BuildsImage (mapper : PageMapper) (memory : Memory) (image : List UInt8)
  (pages : PageCount) (arguments environment : List (List UInt8)) (built : UserImage)
  (memory' : Memory) : Prop :=
  ∃ memory₁ memory₂ stack memory₃, createUserAddressSpace memory = .ok (built.space, memory₁) ∧
    loadUserProgram mapper built.space memory₁ image = .ok (built.loaded, memory₂) ∧
    allocateUserStack mapper built.space memory₂ pages = .ok (stack, memory₃) ∧
    prepareInitialStackBytes mapper built.space memory₃ stack arguments environment =
      .ok (built.prepared, memory')

def UserImage.entryFrame (built : UserImage) (selectors : UserModeSelectors) : Panicking
  UserTrapFrame := userEntryFrame selectors built.loaded.entryPoint built.prepared.stackPointer
    built.prepared.entryArguments

def UserImage.spawnRequest (built : UserImage) : Scheduler.UserTaskSpawnRequest :=
  ⟨built.space, built.loaded.entryPoint, built.prepared.stackPointer, built.loaded.heapStart,
    built.prepared.entryArguments⟩

lemma Scheduler.getElem?_published {s : Scheduler}
  (hcur : s.tasks[s.currentIndex]? = some current) (runtime : UserTaskRuntime)
  (table : FileDescriptorTable) :
  (((s.setRuntime s.currentIndex runtime).clearContext
    s.currentIndex).replaceCurrentFileDescriptorTable table).tasks[s.currentIndex]? =
      some { current with
        metadata := { current.metadata with fileDescriptors := table }
        kind := .user runtime
        context := .new } :=
  getElem?_modifyTask_self (getElem?_modifyTask_self (getElem?_modifyTask_self hcur))

namespace Kernel
variable {kernel : Kernel}

lemma spawnFromImage_ok (h : kernel.spawnFromImage mapper request image = .ok (taskId, kernel')) :
  ∃ built : UserImage, ∃ memory₁ scheduler memory,
    kernel.scheduler.spawnUserTask mapper memory₁ kernel.selectors built.spawnRequest =
      .ok (taskId, scheduler, memory) ∧
    kernel' = { kernel with memory, scheduler } := by
  simp only [spawnFromImage, bind_eq_ok, Prod.exists, pure_eq_ok, Prod.mk.injEq] at h
  obtain ⟨space, _, -, loaded, _, -, _, _, -, _, -, -, -, -, -, prepared, memory₁, -, _, scheduler,
    memory, hspawn, rfl, rfl⟩ := h
  exact ⟨⟨space, loaded, prepared⟩, memory₁, scheduler, memory, hspawn, rfl⟩

lemma buildExecveCandidate_ok {candidate : ExecveImageCandidate} {memory : Memory}
    (h : kernel.buildExecveCandidate mapper staging image = .ok (candidate, memory)) :
    ∃ built,
      BuildsImage mapper kernel.memory image syscallUserStackPages staging.argumentValues
        staging.environmentValues built memory ∧
      built.entryFrame kernel.selectors = .ok candidate.trapFrame ∧
      candidate = ⟨built.space, candidate.trapFrame, built.loaded.heapStart⟩ := by
  simp only [buildExecveCandidate, bind_eq_ok, Prod.exists, pure_eq_ok, Prod.mk.injEq] at h
  obtain ⟨space, memory₁, hcr, loaded,
    memory₂, hload, stack, memory₃, hstack, prepared, _, hprep, _, hfrm, rfl, rfl⟩ := h
  exact ⟨⟨space, loaded, prepared⟩,
    ⟨memory₁, memory₂, stack, memory₃, hcr, hload, hstack, hprep⟩, hfrm, rfl⟩

lemma buildAndPublishExecveCandidate_some {frame : UserTrapFrame}
  (h : kernel.buildAndPublishExecveCandidate mapper staging image = .ok (some frame, kernel')) :
  ∃ built memory₁ taskId old scheduler memory₂ table,
    BuildsImage mapper kernel.memory image syscallUserStackPages staging.argumentValues
      staging.environmentValues built memory₁ ∧
    built.entryFrame kernel.selectors = .ok frame ∧
    kernel.scheduler.replaceCurrentUserImage built.space frame built.loaded.heapStart =
      .ok (some (taskId, old), scheduler) ∧
    kernel' = { kernel with
        scheduler := scheduler.replaceCurrentFileDescriptorTable table
        memory := switchToUserAddressSpace memory₂ built.space } := by
  simp only [buildAndPublishExecveCandidate, bind_eq_ok, Prod.exists] at h
  obtain ⟨_, -, _, memory₁, hbuild, replaced, scheduler, hrepl, h⟩ := h
  obtain ⟨built, hbuilt, hfrm, hcand⟩ := buildExecveCandidate_ok hbuild
  rw [hcand] at hrepl
  cases replaced with
  | none =>
    simp only [bind_eq_ok, pure_eq_ok, Prod.mk.injEq, reduceCtorEq, false_and, and_false,
      exists_false] at h
  | some pair =>
    obtain ⟨taskId, old⟩ := pair
    simp only [bind_eq_ok, Prod.exists, pure_eq_ok, Prod.mk.injEq, Option.some.injEq] at h
    obtain ⟨_, memory₂, -, _, -, _, -, _, -, rfl, rfl⟩ := h
    rw [hcand]
    exact ⟨built, memory₁, taskId, old, scheduler, memory₂, _, hbuilt, hfrm, hrepl, rfl⟩

lemma buildAndPublishExecveCandidate_none
    (h : kernel.buildAndPublishExecveCandidate mapper staging image = .ok (none, kernel')) :
    ∃ memory, kernel' = { kernel with memory } := by
  simp only [buildAndPublishExecveCandidate, bind_eq_ok, Prod.exists] at h
  obtain ⟨current, -, _, _, -, replaced, _, hrepl, h⟩ := h
  cases replaced with
  | some _ =>
    simp only [bind_eq_ok, pure_eq_ok, Prod.mk.injEq, reduceCtorEq, false_and, and_false,
      exists_false] at h
  | none =>
    simp only [bind_eq_ok, Prod.exists, pure_eq_ok, Prod.mk.injEq, true_and] at h
    obtain ⟨_, _, -, rfl⟩ := h
    rcases Scheduler.replaceCurrentUserImage_ok hrepl with ⟨-, rfl⟩ |
      ⟨_, _, _, _, -, -, hsome, -⟩
    · cases current <;> exact ⟨_, rfl⟩
    · cases hsome

end Kernel
end ManaOS
