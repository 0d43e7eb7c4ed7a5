/-
The physical frame allocator (`memory/frame_allocator.rs`).

The arrays with their live counts are lists; the tracking capacity stays an explicit assertion.
`mark_range_used` and `mark_range_free` are `markRange` at their values.

* `allocateFramesFor`, `freeFramesFor`: the calls of the kernel;
* `addRegion`, `reserveRegionFor`: the registrations of the boot code.
-/
import ManaOS.Memory.Address
import Mathlib.Logic.Function.Basic

namespace ManaOS
open Checked

def maxRegions : ℕ := 128

def maxTrackedRanges : ℕ := 512

/-- `Region`: a start address and a number of 4 KiB pages. -/
structure Region where
  start : ℕ
  pages : ℕ
  deriving DecidableEq

inductive FrameRangeState
  | reserved
  | free
  | used
  deriving DecidableEq

inductive FrameRangeOwner
  | free
  | firmwareReserved
  | kernelImage
  | mmio
  | guardPage
  | unknownUsed
  | pageTable
  | kernelHeap
  | kernelStack
  | framebufferBackbuffer
  | ahciDma
  | dynamicKernelMapping
  | userStack
  | userElf
  | userHeap
  | userMapping
  deriving DecidableEq

structure TrackedRange where
  region : Region
  state : FrameRangeState
  owner : FrameRangeOwner
  deriving DecidableEq

/-- `PhysicalFrameAllocator`: the live prefixes of its two arrays. -/
structure PhysicalFrameAllocator where
  regions : List Region
  trackedRanges : List TrackedRange
  deriving DecidableEq

def regionEnd (region : Region) : Option ℕ :=
  (checkedMul region.pages pageSize).bind fun byteCount => checkedAdd region.start byteCount

/-- What the two normalizations share: the aligned region from `lowest` on. -/
def normalizeFrom (lowest start : ℕ) (frameCount : FrameCount) : Option Region :=
  (checkedAdd start frameCount.byteLen).bind fun stop =>
    (alignUp lowest pageSize).bind fun alignedStart =>
      if stop ≤ alignedStart then none
      else some ⟨alignedStart, (stop - alignedStart) / pageSize⟩

/-- `normalize_region`: conventional memory never includes frame zero. -/
def normalizeRegion (start : ℕ) (frameCount : FrameCount) : Option Region :=
  normalizeFrom (max start pageSize) start frameCount

def normalizeReservedRegion (start : ℕ) (frameCount : FrameCount) : Option Region :=
  normalizeFrom start start frameCount

/-- `merge_adjacent_regions`, with the region under construction. -/
def mergeRegionsFrom : Region → List Region → List Region
  | current, [] => [current]
  | current, next :: rest =>
    if regionEnd current = some next.start then
      mergeRegionsFrom { current with pages := saturatingAdd current.pages next.pages } rest
    else current :: mergeRegionsFrom next rest

def mergeAdjacentRegions : List Region → List Region
  | [] => []
  | region :: rest => mergeRegionsFrom region rest

/-- The index of the first element that does not start before `start`. -/
def insertionIndex {α : Type} (startOf : α → ℕ) (start : ℕ) : List α → ℕ
  | [] => 0
  | a :: rest => if startOf a < start then insertionIndex startOf start rest + 1 else 0

/-- `insert_region`: a full region array drops the new region silently. -/
def insertRegion (regions : List Region) (region : Region) : List Region :=
  if maxRegions ≤ regions.length then regions
  else
    mergeAdjacentRegions
      (regions.insertIdx (insertionIndex Region.start region.start regions) region)

/-! ### The tracked ranges -/

/-- `merge_adjacent_tracked_ranges`, with the range under construction. -/
def mergeTrackedFrom : TrackedRange → List TrackedRange → List TrackedRange
  | current, [] => [current]
  | current, next :: rest =>
    if current.state = next.state ∧ current.owner = next.owner ∧
        regionEnd current.region = some next.region.start then
      mergeTrackedFrom
        { current with
          region :=
            { current.region with
              pages := saturatingAdd current.region.pages next.region.pages } }
        rest
    else current :: mergeTrackedFrom next rest

def mergeAdjacentTrackedRanges : List TrackedRange → List TrackedRange
  | [] => []
  | range :: rest => mergeTrackedFrom range rest

/-- The message of the capacity assertion. -/
def capacityExhausted : String := "frame allocator range tracking capacity exhausted"

variable (ranges : List TrackedRange)

def insertTrackedRangeAt (index : ℕ) (range : TrackedRange) :
  Panicking (List TrackedRange) := do
  require (ranges.length < maxTrackedRanges) capacityExhausted
  require (index ≤ ranges.length) "frame allocator range tracking insert index out of bounds"
  return ranges.insertIdx index range

def insertTrackedRange (region : Region) (state : FrameRangeState)
  (owner : FrameRangeOwner) : Panicking (List TrackedRange) :=
  if region.pages = 0 then .ok ranges
  else do
    let index := insertionIndex (fun t : TrackedRange => t.region.start) region.start ranges
    let ranges ← insertTrackedRangeAt ranges index ⟨region, state, owner⟩
    return mergeAdjacentTrackedRanges ranges

/-- The loop of `remove_reserved_region_from_free_ranges`, over the ranges before the index and
those from it on.  The pieces of a split range are stepped over; the inserted one is checked against
capacity. -/
def removeReservedLoop (reservedStart reservedEnd : ℕ) :
  List TrackedRange → List TrackedRange → Panicking (List TrackedRange)
  | done, [] => .ok done
  | done, tracked :: rest =>
    if tracked.state ≠ .free then
      removeReservedLoop reservedStart reservedEnd (done ++ [tracked]) rest
    else
      match regionEnd tracked.region with
      | none => removeReservedLoop reservedStart reservedEnd (done ++ [tracked]) rest
      | some trackedEnd =>
        let overlapStart := max tracked.region.start reservedStart
        let overlapEnd := min trackedEnd reservedEnd
        if overlapEnd ≤ overlapStart then
          removeReservedLoop reservedStart reservedEnd (done ++ [tracked]) rest
        else
          let beforePages := (overlapStart - tracked.region.start) / pageSize
          let afterPages := (trackedEnd - overlapEnd) / pageSize
          let before := { tracked with region := { tracked.region with pages := beforePages } }
          if 0 < beforePages ∧ 0 < afterPages then do
            -- the inserted tail is stepped over as well
            let after : TrackedRange := ⟨⟨overlapEnd, afterPages⟩, .free, .free⟩
            require ((done ++ before :: rest).length < maxTrackedRanges) capacityExhausted
            removeReservedLoop reservedStart reservedEnd (done ++ [before, after]) rest
          else if 0 < beforePages then
            removeReservedLoop reservedStart reservedEnd (done ++ [before]) rest
          else if 0 < afterPages then
            let after := { tracked with region := ⟨overlapEnd, afterPages⟩ }
            removeReservedLoop reservedStart reservedEnd (done ++ [after]) rest
          else removeReservedLoop reservedStart reservedEnd done rest

def removeReservedRegionFromFreeRanges (reserved : Region) :
  Panicking (List TrackedRange) :=
  match regionEnd reserved with
  | none => .ok ranges
  | some reservedEnd => do
      let ranges ← removeReservedLoop reserved.start reservedEnd [] ranges
      return mergeAdjacentTrackedRanges ranges

/-- What the scan of `mark_range_used` and `mark_range_free` stops at. -/
inductive MarkScan
  | notFound
  | found (index : ℕ) (tracked : TrackedRange) (trackedEnd : ℕ)

/-- The scan of the two marks: the first eligible range that contains `[start, stop)`; one without
an end stops it. -/
def markScan (eligible : TrackedRange → Bool) (start stop : ℕ) : ℕ → List TrackedRange → MarkScan
  | _, [] => .notFound
  | index, tracked :: rest =>
    if eligible tracked then
      match regionEnd tracked.region with
      | none => .notFound
      | some trackedEnd =>
        if start < tracked.region.start ∨ trackedEnd < stop then
          markScan eligible start stop (index + 1) rest
        else .found index tracked trackedEnd
    else markScan eligible start stop (index + 1) rest

/-- Put `marked` in the place of a range, with the nonempty rests around it. -/
def placeMarked (index : ℕ) (before marked after : TrackedRange) :
  Panicking (List TrackedRange) :=
  if 0 < before.region.pages then do
    let ranges ← insertTrackedRangeAt (ranges.set index before) (index + 1) marked
    if 0 < after.region.pages then insertTrackedRangeAt ranges (index + 2) after
    else return ranges
  else if 0 < after.region.pages then
    insertTrackedRangeAt (ranges.set index marked) (index + 1) after
  else return ranges.set index marked

/-- `mark_range_used` and `mark_range_free`: relabel `region` inside one eligible range, whose rests
keep `keptState` and `keptOwner`. -/
def markRange (eligible : TrackedRange → Bool) (keptState : FrameRangeState)
  (keptOwner : FrameRangeOwner) (newState : FrameRangeState) (newOwner : FrameRangeOwner)
  (ranges : List TrackedRange) (region : Region) : Panicking (Bool × List TrackedRange) :=
  match regionEnd region with
  | none => .ok (false, ranges)
  | some regionStop =>
    match markScan eligible region.start regionStop 0 ranges with
    | .notFound => .ok (false, ranges)
    | .found index tracked trackedEnd => do
        let beforePages := (region.start - tracked.region.start) / pageSize
        let afterPages := (trackedEnd - regionStop) / pageSize
        let ranges ← placeMarked ranges index
          ⟨⟨tracked.region.start, beforePages⟩, keptState, keptOwner⟩
          ⟨region, newState, newOwner⟩
          ⟨⟨regionStop, afterPages⟩, keptState, keptOwner⟩
        return (true, mergeAdjacentTrackedRanges ranges)

def markRangeUsed (usedRegion : Region) (owner : FrameRangeOwner) :
  Panicking (Bool × List TrackedRange) :=
  markRange (fun tracked => tracked.state == .free) .free .free .used owner ranges usedRegion

def markRangeFree (freedRegion : Region) (owner : FrameRangeOwner) :
  Panicking (Bool × List TrackedRange) :=
  markRange (fun tracked => tracked.state == .used && tracked.owner == owner) .used owner
    .free .free ranges freedRegion

/-- The loop of `allocate_frames_for` from the index on; a refused mark changes nothing. -/
def allocateFramesLoop (ranges : List TrackedRange) (frameCount : FrameCount)
  (owner : FrameRangeOwner) :
  List TrackedRange → Panicking (Option PhysicalFrameRange × List TrackedRange)
  | [] => .ok (none, ranges)
  | tracked :: rest =>
    if tracked.state ≠ .free ∨ tracked.region.pages < frameCount.asU64 then
      allocateFramesLoop ranges frameCount owner rest
    else do
      let candidate : Region := ⟨tracked.region.start, frameCount.asU64⟩
      let (marked, ranges') ← markRangeUsed ranges candidate owner
      if marked then do
        let start ← expect (PhysicalFrameStart.new candidate.start)
          "frame allocator returned an unaligned physical frame"
        return (PhysicalFrameRange.new start frameCount, ranges')
      else allocateFramesLoop ranges frameCount owner rest

/-- The fold of `owner_statistics`: each range adds its pages to the total of its
owner. -/
def countOwner (totals : FrameRangeOwner → ℕ) (range : TrackedRange) : FrameRangeOwner → ℕ :=
  Function.update totals range.owner (saturatingAdd (totals range.owner) range.region.pages)

structure FrameAllocatorStatistics where
  reserved : ℕ
  free : ℕ
  used : ℕ
  deriving DecidableEq

/-- The fold of `statistics`: each range adds its pages to the total of its state. -/
def countState (statistics : FrameAllocatorStatistics) (range : TrackedRange) :
  FrameAllocatorStatistics :=
  match range.state with
  | .reserved =>
    { statistics with reserved := saturatingAdd statistics.reserved range.region.pages }
  | .free => { statistics with free := saturatingAdd statistics.free range.region.pages }
  | .used => { statistics with used := saturatingAdd statistics.used range.region.pages }

namespace PhysicalFrameAllocator

def new : PhysicalFrameAllocator := ⟨[], []⟩

variable (allocator : PhysicalFrameAllocator)

def addRegion (start : ℕ) (frameCount : FrameCount) :
  Panicking PhysicalFrameAllocator :=
  match normalizeRegion start frameCount with
  | none => .ok allocator
  | some region => do
      let ranges ← insertTrackedRange allocator.trackedRanges region .free .free
      return ⟨insertRegion allocator.regions region, ranges⟩

def reserveRegionFor (start : ℕ) (frameCount : FrameCount)
  (owner : FrameRangeOwner) : Panicking PhysicalFrameAllocator :=
  match normalizeReservedRegion start frameCount with
  | none => .ok allocator
  | some region => do
      let ranges ← insertTrackedRange allocator.trackedRanges region .reserved owner
      let ranges ← removeReservedRegionFromFreeRanges ranges region
      return { allocator with trackedRanges := ranges }

def allocateFramesFor (frameCount : FrameCount)
  (owner : FrameRangeOwner) :
  Panicking (Option PhysicalFrameRange × PhysicalFrameAllocator) := do
  require (owner != .free) "allocated frames must record a non-free owner"
  let (range, ranges) ←
    allocateFramesLoop allocator.trackedRanges frameCount owner allocator.trackedRanges
  return (range, { allocator with trackedRanges := ranges })

def allocateFrameFor (owner : FrameRangeOwner) :
  Panicking (Option PhysicalFrameStart × PhysicalFrameAllocator) := do
  let count ← expect (FrameCount.new 1) "single-frame count must be valid"
  let (range, allocator) ← allocator.allocateFramesFor count owner
  return (range.map PhysicalFrameRange.start, allocator)

def freeFramesFor (range : PhysicalFrameRange)
  (owner : FrameRangeOwner) : Panicking (Bool × PhysicalFrameAllocator) :=
  if owner = .free then .ok (false, allocator)
  else do
    let (freed, ranges) ← markRangeFree allocator.trackedRanges
      ⟨range.start.asAddress, range.frameCount.asU64⟩ owner
    return (freed, { allocator with trackedRanges := ranges })

def statistics : FrameAllocatorStatistics := allocator.trackedRanges.foldl countState ⟨0, 0, 0⟩

/-- `owner_statistics`: the sixteen named totals as a function of the owner. -/
def ownerStatistics : FrameRangeOwner → ℕ := allocator.trackedRanges.foldl countOwner fun _ => 0

end PhysicalFrameAllocator
end ManaOS
