/-
Kernel stacks and the capacity of the virtual range allocator.

The allocator tests its capacity of 128 free ranges before it merges the freed range with its
neighbours, and `KernelStack::destroy` asserts that it takes the reservation back.

* `live_range_freed_iff` (**release**): when a live range is taken back;
* `fragmented_stack_rejected`: a stack that cannot be destroyed.
-/
import ManaOS.Memory.VirtualRanges
import ManaOS.Memory.FrameFailures
import ManaOS.Task.KernelStack

namespace ManaOS
open Checked

/-- The message of the last assertion of `KernelStack::destroy`. -/
def returnedOnce : String := "destroyed kernel stack virtual reservation must be returned once"

lemma failsOnly_unmapKernelPages (mapper : PageMapper) (virtualRange : KernelVirtualRange)
  (owner : FrameRangeOwner) (indices : List ℕ) (memory : Memory) :
  FailsOnly (· ≠ returnedOnce)
    (unmapKernelPages mapper virtualRange owner indices memory) := by
  induction indices generalizing memory with
  | nil => exact .ok _
  | cons _ _ ih =>
    refine .bind (.expect fun _ => by decide) fun _ _ => ?_
    refine .bind (.expect fun _ => by decide) fun _ _ => ?_
    refine .bind (.expect fun _ => by decide) fun _ _ => ?_
    refine .bind (failsOnly_oneFrameRange _ (by decide) (by decide)) fun _ _ => ?_
    refine .bind (failsOnly_freeFramesFor (by decide) _ _ _) fun freed _ => ?_
    exact .bind (.require fun _ => by decide) fun _ _ => ih _

lemma failsOnly_writableRange (reservation : KernelStackVirtualReservation) :
  FailsOnly (· ≠ returnedOnce) reservation.writableRange :=
  .bind (.expect fun _ => by decide) fun _ _ => .expect fun _ => by decide

namespace KernelStack
variable {stack : KernelStack}

lemma destroy_eq_returnedOnce (h : stack.destroy mapper memory ranges = .error returnedOnce) :
  (ranges.freePages stack.virtualReservation.range).1 = false := by
  rcases bind_eq_error.1 h with h | ⟨_, -, h⟩
  · exact absurd rfl (failsOnly_writableRange _ _ h)
  rcases bind_eq_error.1 h with h | ⟨_, -, h⟩
  · exact absurd rfl (failsOnly_unmapKernelPages _ _ _ _ _ _ h)
  rcases bind_eq_error.1 h with h | ⟨-, -, h⟩
  · exact absurd (require_eq_error.1 h).2 (by decide)
  rcases bind_eq_error.1 h with h | ⟨-, -, h⟩
  · exact (require_eq_error.1 h).1
  · cases h

lemma freePages_of_destroy {result : Memory × KernelVirtualRangeAllocator}
  (h : stack.destroy mapper memory ranges = .ok result) :
  (ranges.freePages stack.virtualReservation.range).1 = true := by
  obtain ⟨_, -, h⟩ := bind_eq_ok.1 h
  obtain ⟨_, -, h⟩ := bind_eq_ok.1 h
  obtain ⟨_, -, h⟩ := bind_eq_ok.1 h
  obtain ⟨_, h, -⟩ := bind_eq_ok.1 h
  exact require_eq_ok.1 h

end KernelStack

/-! ### Live ranges -/

/-- **A live range is taken back exactly while there is room** for one more free range, even where
it would merge with its neighbours.  The stack on it can be destroyed in that case only. -/
theorem live_range_freed_iff {start : KernelPageStart} {count : PageCount}
  {allocator : KernelVirtualRangeAllocator}
  (hnew : KernelVirtualRangeAllocator.new start count = some allocator)
  (calls : List RangeCall) {range : KernelVirtualRange}
  (hlive : range ∈ (RangeState.reached allocator calls).live) :
  let ranges := (RangeState.reached allocator calls).allocator
  ((ranges.freePages range).1 = true ↔ ranges.freeRanges.length < maxFreeRanges) ∧
  ∀ mapper (stack : KernelStack) memory, stack.virtualReservation.range = range →
    (stack.destroy mapper memory ranges = .error returnedOnce →
      ¬ ranges.freeRanges.length < maxFreeRanges) ∧
    ∀ result, stack.destroy mapper memory ranges = .ok result →
      ranges.freeRanges.length < maxFreeRanges := by
  have h := RangeState.lawful_reached hnew calls
  have hiff : ((RangeState.reached allocator calls).allocator.freePages range).1 = true ↔
    (RangeState.reached allocator calls).allocator.freeRanges.length < maxFreeRanges := by
    rw [h.allocator.freePages_iff]
    exact ⟨fun hrange => hrange.room, fun hroom => ⟨h.inside _ hlive, h.notFree _ hlive, hroom⟩⟩
  refine ⟨hiff, fun mapper stack memory hrange => ⟨fun herror hroom => ?_, fun result hok => ?_⟩⟩
  · have hfalse := KernelStack.destroy_eq_returnedOnce herror
    rw [hrange, hiff.2 hroom] at hfalse
    cases hfalse
  · have htrue := KernelStack.freePages_of_destroy hok
    rw [hrange] at htrue
    exact hiff.1 htrue

/-- The pages of one stack reservation: a guard page and four writable pages. -/
def stackReservationPages : PageCount := ⟨5, by decide, by decide⟩

/-- The reservations of the first stacks of the dynamic mapping range. -/
def stackReservation (index : ℕ) : Option KernelVirtualRange :=
  (newDynamicMappingAllocator.managedStart.checkedAdd
    (index * stackReservationPages.byteLen)).bind (KernelVirtualRange.new · stackReservationPages)

/-- 256 stacks are made, then every second one destroyed until 128 free ranges are left. -/
def fragmentingCalls : List RangeCall := List.replicate 256 (.allocate stackReservationPages) ++
  (List.range 127).filterMap fun index => (stackReservation (2 * index)).map .release

/-- The next stack cannot be destroyed, although it is live. -/
theorem fragmented_stack_rejected :
    ∃ range ∈ (RangeState.reached newDynamicMappingAllocator fragmentingCalls).live,
      ((RangeState.reached newDynamicMappingAllocator fragmentingCalls).allocator.freePages
        range).1 =
        false := by
  decide +kernel

/-- One live stack in an unfragmented range. -/
theorem live_range_freed_first_stack :
    ∃ range ∈
      (RangeState.reached newDynamicMappingAllocator [.allocate stackReservationPages]).live,
      ((RangeState.reached newDynamicMappingAllocator [.allocate
        stackReservationPages]).allocator.freePages range).1 =
        true := by
  have hlive : ∃ range, range ∈ (RangeState.reached newDynamicMappingAllocator
    [.allocate stackReservationPages]).live := ⟨_, List.mem_cons_self⟩
  obtain ⟨range, hlive⟩ := hlive
  exact ⟨range, hlive, (live_range_freed_iff new_dynamic_eq _ hlive).1.2 (by decide)⟩

end ManaOS
