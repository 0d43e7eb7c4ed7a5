/-
The messages with which a free of frames can end: a full table of tracked ranges alone.

* `failsOnly_freeFramesFor`: the bound for one free.
-/
import ManaOS.Lib.Failures
import ManaOS.Memory.AddressSpace

namespace ManaOS
open Checked

/-- The messages of `insert_tracked_range_at`. -/
def trackingMessages : List String :=
  [capacityExhausted, "frame allocator range tracking insert index out of bounds"]

variable {allowed : String → Prop} (h : ∀ message ∈ trackingMessages, allowed message)
include h

lemma failsOnly_insertTrackedRangeAt (ranges : List TrackedRange) (index : ℕ)
  (range : TrackedRange) : FailsOnly allowed (insertTrackedRangeAt ranges index range) :=
  .bind (.require fun _ => h _ (by simp [trackingMessages])) fun _ _ =>
    .bind (.require fun _ => h _ (by simp [trackingMessages])) fun _ _ => .pure _

lemma failsOnly_placeMarked (ranges : List TrackedRange) (index : ℕ)
  (before marked after : TrackedRange) :
  FailsOnly allowed (placeMarked ranges index before marked after) := by
  rw [placeMarked]
  split
  · refine .bind (failsOnly_insertTrackedRangeAt h _ _ _) fun _ _ => ?_
    split
    · exact failsOnly_insertTrackedRangeAt h _ _ _
    · exact .pure _
  · split
    · exact failsOnly_insertTrackedRangeAt h _ _ _
    · exact .pure _

lemma failsOnly_freeFramesFor (memory : Memory) (range : PhysicalFrameRange)
  (owner : FrameRangeOwner) : FailsOnly allowed (memory.freeFramesFor range owner) := by
  refine .bind ?_ fun _ _ => .pure _
  rw [PhysicalFrameAllocator.freeFramesFor]
  split
  · exact .ok _
  refine .bind ?_ fun _ _ => .pure _
  rw [markRangeFree, markRange]
  split
  · exact .ok _
  · split
    · exact .ok _
    · exact .bind (failsOnly_placeMarked h _ _ _ _ _) fun _ _ => .pure _

omit h in
lemma failsOnly_oneFrameRange (frame : PhysicalFrameStart) {message : String}
  (hcnt : allowed "single-frame count must be valid") (hmsg : allowed message) :
  FailsOnly allowed (oneFrameRange frame message) :=
  .bind (.expect fun _ => hcnt) fun _ _ => .expect fun _ => hmsg

end ManaOS
