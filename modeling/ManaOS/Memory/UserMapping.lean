/-
Private user mappings (`memory/user_mapping.rs`).

The page initializer of `map_private` is a closure over mutable state; here it takes and
returns that state.

* `UserMappings.mapPrivate`, `UserMappings.unmapRange`: the two calls.
-/
import ManaOS.Memory.AddressSpace

namespace ManaOS
open Checked

def maxUserMappings : ℕ := 32

/-- `UserMappingRange`: a page range inside the mapping region. -/
structure UserMappingRange where
  start : UserPageStart
  endExclusive : UserPageStart
  pageCount : PageCount
  end_eq : endExclusive.asU64 = start.asU64 + pageCount.byteLen
  base_le : userMappingBase ≤ start.asU64
  le_end : endExclusive.asU64 ≤ userMappingEnd
  deriving DecidableEq

namespace UserMappingRange

def new (start : UserPageStart) (pageCount : PageCount) : Option UserMappingRange :=
  match h : start.checkedAdd pageCount.byteLen with
  | none => none
  | some endExclusive =>
    if hin : start.asU64 < userMappingBase ∨ userMappingEnd < endExclusive.asU64 then none
    else
      some ⟨start, endExclusive, pageCount, UserPageStart.checkedAdd_eq_some.1 h, by omega,
        by omega⟩

def fromByteLen (start : UserPageStart) (byteLen : ℕ) : Option UserMappingRange :=
  if byteLen = 0 ∨ byteLen % pageSize ≠ 0 then none
  else (PageCount.new (byteLen / pageSize)).bind (new start)

def overlaps (range other : UserMappingRange) : Bool :=
  range.start.asU64 < other.endExclusive.asU64 && other.start.asU64 < range.endExclusive.asU64

def contains (range other : UserMappingRange) : Bool :=
  range.start.asU64 ≤ other.start.asU64 && other.endExclusive.asU64 ≤ range.endExclusive.asU64

end UserMappingRange

inductive UserMappingSource
  | anonymous
  | filePrivate
  deriving DecidableEq

/-- `UserMapping`: one record. -/
structure UserMapping where
  start : UserPageStart
  pageCount : PageCount
  source : UserMappingSource
  deriving DecidableEq

def UserMapping.range (mapping : UserMapping) : Option UserMappingRange :=
  UserMappingRange.new mapping.start mapping.pageCount

/-- `UserMappingLength`: a nonempty byte length with its page count. -/
structure UserMappingLength where
  byteLen : ℕ
  pageCount : PageCount
  deriving DecidableEq

def pageCountForLength (length : ℕ) : Option PageCount :=
  if length = 0 then none
  else
    (checkedAdd length (pageSize - 1)).bind fun raised =>
      PageCount.new (alignDown raised pageSize / pageSize)

def UserMappingLength.fromSyscallArgument (byteLen : ℕ) : Option UserMappingLength :=
  (pageCountForLength byteLen).map fun pageCount => ⟨byteLen, pageCount⟩

inductive UserMappingPlacement
  | any
  | fixedNoReplace (start : UserPageStart)
  | fixedReplace (start : UserPageStart)
  deriving DecidableEq

structure UserMappingPlan where
  placement : UserMappingPlacement
  length : UserMappingLength
  writable : Bool
  source : UserMappingSource
  deriving DecidableEq

def userPageStartFromRaw (address : ℕ) : Option UserPageStart :=
  (UserVirtualAddress.new address).bind UserPageStart.new

structure UserMappingUnmapRequest where
  start : UserPageStart
  length : UserMappingLength
  deriving DecidableEq

def UserMappingUnmapRequest.fromSyscallArguments (startAddress length : ℕ) : Option
  UserMappingUnmapRequest := (userPageStartFromRaw startAddress).bind
    fun start => (UserMappingLength.fromSyscallArgument length).map fun length => ⟨start, length⟩

inductive UserMappingError
  | invalidRequest
  | addressInUse
  | outOfMemory
  | initializationFailed
  deriving DecidableEq

structure UserMappingAllocation where
  start : UserVirtualAddress
  pageCount : PageCount
  replacedPageCount : ℕ
  deriving DecidableEq

/-- `UserMappings`: the search cursor and the record slots. -/
structure UserMappings where
  nextStart : UserPageStart
  records : List (Option UserMapping)
  length_records : records.length = maxUserMappings
  deriving DecidableEq

/-- A page initializer with its captured state: page index and zeroed buffer to the filled one. -/
abbrev PageInitializer (σ : Type) := σ → ℕ → List UInt8 → Except UserMappingError (List UInt8) × σ

def userPageFlags (writable : Bool) : PageTableFlags :=
  { present := true, userAccessible := true, noExecute := true, writable }

def pageInitializeLength (length pageIndex : ℕ) : Option ℕ :=
  (checkedMul pageIndex pageSize).map fun pageStartOffset => min (length - pageStartOffset) pageSize

def fixedStartAddress (start : UserPageStart) (byteLen : ℕ) :
  Except UserMappingError UserPageStart :=
  match start.checkedAdd byteLen with
  | none => .error .invalidRequest
  | some endAddress =>
    if start.asU64 < userMappingBase ∨ userMappingEnd < endAddress.asU64 then
      .error .invalidRequest
    else .ok start

def userPageStart (start : UserPageStart) (pageIndex : ℕ) : Option UserPageStart :=
  (checkedMul pageIndex pageSize).bind start.checkedAdd

/-- `page_count`. -/
def mappingPageCount (count : ℕ) : Panicking PageCount :=
  expect (PageCount.new count) "user mapping page count must be valid"

namespace UserMappings

def new : UserMappings where
  nextStart := ⟨⟨userMappingBase, by decide, by decide⟩, by decide⟩
  records := List.replicate maxUserMappings none
  length_records := List.length_replicate

variable (mappings : UserMappings)

def setRecord (index : ℕ) (record : Option UserMapping) : UserMappings :=
  { mappings with
    records := mappings.records.set index record
    length_records := by rw [List.length_set, mappings.length_records] }

def activeRecords : ℕ := mappings.records.countP Option.isSome

def nextEmptyRecordIndex : Option ℕ := mappings.records.findIdx? Option.isNone

/-- One turn of `max_by_key`: the later end, the new one when they are equal. -/
def latest (best : Option UserPageStart) (pageStart : UserPageStart) : Option UserPageStart :=
  match best with
  | none => some pageStart
  | some current => if current.asU64 ≤ pageStart.asU64 then some pageStart else some current

/-- The ends of the records that meet a range. -/
def endsOfMeeting (requestedRange : UserMappingRange) : List UserPageStart :=
  mappings.records.filterMap fun record =>
    (record.bind UserMapping.range).bind fun mappingRange =>
      if requestedRange.overlaps mappingRange then some mappingRange.endExclusive else none

/-- `overlapping_record_end`: the largest end of the records that meet the range. -/
def overlappingRecordEnd (requestedRange : UserMappingRange) : Option UserPageStart :=
  (mappings.endsOfMeeting requestedRange).foldl latest none

def findContainingRecordIndex (requestedRange : UserMappingRange) :
  Option ℕ :=
  mappings.records.findIdx? fun record =>
    match record.bind UserMapping.range with
    | none => false
    | some mappingRange => mappingRange.contains requestedRange

/-- The loop of `next_available_start`: a turn moves past every record it met, so one turn more than
slots suffices. -/
def nextAvailableStartLoop (mappings : UserMappings) (byteLen : ℕ) :
  ℕ → UserPageStart → Option UserPageStart
  | 0, _ => none
  | turns + 1, candidate =>
    (UserMappingRange.fromByteLen candidate byteLen).bind fun candidateRange =>
      match mappings.overlappingRecordEnd candidateRange with
      | none => some candidate
      | some overlapEnd => nextAvailableStartLoop mappings byteLen turns overlapEnd

def nextAvailableStart (preferredStart : UserPageStart) (byteLen : ℕ) : Option UserPageStart :=
    mappings.nextAvailableStartLoop byteLen (maxUserMappings + 1) preferredStart

def startAddressForPlacement (placement : UserMappingPlacement)
  (byteLen : ℕ) : Except UserMappingError UserPageStart :=
  match placement with
  | .any =>
    match mappings.nextAvailableStart mappings.nextStart byteLen with
    | none => .error .outOfMemory
    | some start => .ok start
  | .fixedReplace start => fixedStartAddress start byteLen
  | .fixedNoReplace start => do
      let start ← fixedStartAddress start byteLen
      match UserMappingRange.fromByteLen start byteLen with
      | none => .error .invalidRequest
      | some requestedRange =>
        if (mappings.overlappingRecordEnd requestedRange).isSome then .error .addressInUse
        else .ok start

/-- One turn of the loop of `ensure_replace_record_capacity`. -/
def countReplacedRecord (requestedRange : UserMappingRange) (recordCount : ℕ)
  (mapping : UserMapping) : Except UserMappingError ℕ :=
  match mapping.range with
  | none => .error .invalidRequest
  | some mappingRange =>
    if !requestedRange.overlaps mappingRange then .ok recordCount
    else
      let left := if mappingRange.start.asU64 < requestedRange.start.asU64 then 1 else 0
      let right :=
        if requestedRange.endExclusive.asU64 < mappingRange.endExclusive.asU64 then 1 else 0
      .ok (recordCount - 1 + left + right)

def ensureReplaceRecordCapacity (requestedRange : UserMappingRange) :
  Except UserMappingError Unit := do
  let recordCount ← (mappings.records.filterMap id).foldlM (countReplacedRecord requestedRange)
    mappings.activeRecords
  if recordCount < maxUserMappings then .ok () else .error .outOfMemory

def applyRecordUnmap (recordIndex : ℕ) (splitRecordIndex : Option ℕ)
  (record : UserMapping) (leftPages rightPages : ℕ) (rightStart : UserPageStart) :
  Panicking UserMappings :=
  if leftPages = 0 then
    if rightPages = 0 then return mappings.setRecord recordIndex none
    else do
      let rightCount ← mappingPageCount rightPages
      return mappings.setRecord recordIndex (some ⟨rightStart, rightCount, record.source⟩)
  else if rightPages = 0 then do
    let leftCount ← mappingPageCount leftPages
    return mappings.setRecord recordIndex (some ⟨record.start, leftCount, record.source⟩)
  else do
    let splitRecordIndex ← expect splitRecordIndex "middle unmap must reserve a split record"
    let leftCount ← mappingPageCount leftPages
    let rightCount ← mappingPageCount rightPages
    let mappings := mappings.setRecord recordIndex (some ⟨record.start, leftCount, record.source⟩)
    return mappings.setRecord splitRecordIndex (some ⟨rightStart, rightCount, record.source⟩)

section
variable (mapper : PageMapper) (space : UserAddressSpace)

/-- The loop of `unmap_pages` and `unmap_prefix` over page indices. -/
def unmapIndices (pageMessage mappedMessage : String) (start : UserPageStart) :
  List ℕ → Memory → Panicking Memory
  | [], memory => .ok memory
  | pageIndex :: rest, memory => do
      let pageStart ← expect (userPageStart start pageIndex) pageMessage
      let (unmapped, memory) ← space.unmapUserPageFor mapper memory pageStart .userMapping
      require unmapped mappedMessage
      unmapIndices pageMessage mappedMessage start rest memory

def unmapPages (memory : Memory) (start : UserPageStart) (pageCount : PageCount) :
  Panicking Memory :=
  unmapIndices mapper space "tracked mapping page must be valid"
    "tracked private user mapping page must be mapped" start (List.range pageCount.asU64) memory

def unmapPrefix (memory : Memory) (start : UserPageStart) (pageCount : ℕ) : Panicking Memory :=
  unmapIndices mapper space "mapped prefix page must be valid"
    "mapped private prefix page must be mapped" start (List.range pageCount) memory

def freeUnmappedPage (memory : Memory) (physicalAddress : PhysicalFrameStart) :
  Panicking Memory := do
  let physicalRange ← oneFrameRange physicalAddress
    "single user mapping frame range must be valid"
  let (freed, memory) ← memory.freeFramesFor physicalRange .userMapping
  require freed "unmapped private user mapping page must be owned by user mappings"
  return memory

/-- The loop of `map_pages` from `mappedPages` on.  Every failure but a length overflow unmaps the
pages mapped so far. -/
def mapPagesLoop {σ : Type} (start : UserPageStart) (length : ℕ) (flags : PageTableFlags)
  (initializePage : PageInitializer σ) :
  (remaining mappedPages : ℕ) → Memory → σ → Panicking (Except UserMappingError Unit × Memory × σ)
  | 0, _, memory, captured => .ok (.ok (), memory, captured)
  | remaining + 1, mappedPages, memory, captured =>
    match userPageStart start mappedPages with
    | none => do
        let memory ← unmapPrefix mapper space memory start mappedPages
        return (.error .invalidRequest, memory, captured)
    | some pageStart => do
        let (frame, memory) ← memory.allocateFrameFor .userMapping
        match frame with
        | none => do
            let memory ← unmapPrefix mapper space memory start mappedPages
            return (.error .outOfMemory, memory, captured)
        | some physicalAddress =>
          let memory := memory.zeroBytes physicalAddress.asAddress pageSize
          match pageInitializeLength length mappedPages with
          | none => return (.error .invalidRequest, memory, captured)
          | some pageLength =>
            let (initialized, captured) :=
              if 0 < pageLength then
                initializePage captured mappedPages (List.replicate pageLength 0)
              else (.ok [], captured)
            match initialized with
            | .error error => do
                let memory ← freeUnmappedPage memory physicalAddress
                let memory ← unmapPrefix mapper space memory start mappedPages
                return (.error error, memory, captured)
            | .ok contents => do
                let memory := memory.writeBytes physicalAddress.asAddress contents
                let memory ←
                  space.mapUserPage mapper memory pageStart physicalAddress flags
                mapPagesLoop start length flags initializePage remaining (mappedPages + 1)
                  memory captured

def mapPages {σ : Type} (memory : Memory) (start : UserPageStart) (length : ℕ)
  (pageCount : PageCount) (writable : Bool) (initializePage : PageInitializer σ)
  (captured : σ) : Panicking (Except UserMappingError Unit × Memory × σ) :=
  mapPagesLoop mapper space start length (userPageFlags writable) initializePage pageCount.asU64 0
    memory captured

/-- One turn of `replace_overlapping_pages` over the record slots. -/
def replaceRecord (requestedRange : UserMappingRange)
  (state : UserMappings × Memory × ℕ) (recordIndex : ℕ) :
  Panicking (UserMappings × Memory × ℕ) :=
  let (mappings, memory, replacedPages) := state
  match mappings.records[recordIndex]?.join with
  | none => return state
  | some record => do
      let recordRange ← expect record.range "tracked mapping range must be valid"
      if !requestedRange.overlaps recordRange then return state
      else do
        let recordStart := recordRange.start.asU64
        let recordEnd := recordRange.endExclusive.asU64
        let overlapStartAddress := max recordStart requestedRange.start.asU64
        let overlapEndAddress := min recordEnd requestedRange.endExclusive.asU64
        let overlapStart ← expect (userPageStartFromRaw overlapStartAddress)
          "replacement overlap start must be a valid user address"
        let overlapPages ←
          mappingPageCount ((overlapEndAddress - overlapStartAddress) / pageSize)
        let overlapRange ← expect (UserMappingRange.new overlapStart overlapPages)
          "replacement overlap range must be valid"
        let memory ←
          unmapPages mapper space memory overlapRange.start overlapRange.pageCount
        let replacedPages := saturatingAdd replacedPages overlapRange.pageCount.asU64
        let leftPages := (overlapRange.start.asU64 - recordStart) / pageSize
        let rightPages := (recordEnd - overlapRange.endExclusive.asU64) / pageSize
        let splitRecordIndex ←
          if 0 < leftPages ∧ 0 < rightPages then do
            let index ← expect mappings.nextEmptyRecordIndex
              "replacement preflight must reserve split records"
            pure (some index)
          else pure none
        let mappings ← mappings.applyRecordUnmap recordIndex splitRecordIndex record leftPages
          rightPages overlapRange.endExclusive
        return (mappings, memory, replacedPages)

variable (mappings : UserMappings)
variable (memory : Memory)

def replaceOverlappingPages
  (requestedRange : UserMappingRange) : Panicking (UserMappings × Memory × ℕ) :=
  (List.range maxUserMappings).foldlM (replaceRecord mapper space requestedRange)
    (mappings, memory, 0)

/-- The replacement of overlapping pages that `FixedReplace` makes first. -/
def prepareReplacement
  (placement : UserMappingPlacement) (requestedRange : UserMappingRange) :
  Panicking (Except UserMappingError ℕ × UserMappings × Memory) :=
  match placement with
  | .fixedReplace _ =>
    match mappings.ensureReplaceRecordCapacity requestedRange with
    | .error error => return (.error error, mappings, memory)
    | .ok () => do
        let (mappings, memory, replacedPages) ←
          replaceOverlappingPages mapper space mappings memory requestedRange
        return (.ok replacedPages, mappings, memory)
  | _ => return (.ok 0, mappings, memory)

/-- The end of `map_private`: take a slot, map the pages, store the record, move the cursor. -/
def mapIntoRecord {σ : Type} (plan : UserMappingPlan)
  (requestedRange : UserMappingRange) (replacedPageCount : ℕ)
  (initializePage : PageInitializer σ) (captured : σ) :
  Panicking (Except UserMappingError UserMappingAllocation × UserMappings × Memory × σ) :=
  match mappings.nextEmptyRecordIndex with
  | none => return (.error .outOfMemory, mappings, memory, captured)
  | some recordIndex => do
      let (mapped, memory, captured) ← mapPages mapper space memory requestedRange.start
        plan.length.byteLen plan.length.pageCount plan.writable initializePage captured
      match mapped with
      | .error error => return (.error error, mappings, memory, captured)
      | .ok () =>
        let mappings := mappings.setRecord recordIndex
          (some ⟨requestedRange.start, plan.length.pageCount, plan.source⟩)
        let mappings :=
          match plan.placement with
          | .any => { mappings with nextStart := requestedRange.endExclusive }
          | _ => mappings
        return (.ok ⟨requestedRange.start.asAddress, requestedRange.pageCount,
          replacedPageCount⟩, mappings, memory, captured)

def mapPrivate {σ : Type} (plan : UserMappingPlan)
  (initializePage : PageInitializer σ) (captured : σ) :
  Panicking (Except UserMappingError UserMappingAllocation × UserMappings × Memory × σ) :=
  match mappings.startAddressForPlacement plan.placement plan.length.pageCount.byteLen with
  | .error error => return (.error error, mappings, memory, captured)
  | .ok start =>
    match UserMappingRange.new start plan.length.pageCount with
    | none => return (.error .invalidRequest, mappings, memory, captured)
    | some requestedRange => do
        let (replaced, mappings, memory) ←
          prepareReplacement mapper space mappings memory plan.placement requestedRange
        match replaced with
        | .error error => return (.error error, mappings, memory, captured)
        | .ok replacedPageCount =>
          mapIntoRecord mapper space mappings memory plan requestedRange replacedPageCount
            initializePage captured

def unmapRange (request : UserMappingUnmapRequest) :
  Panicking (Option PageCount × UserMappings × Memory) := let refused := (none, mappings, memory)
  match UserMappingRange.new request.start request.length.pageCount with
  | none => return refused
  | some requestedRange =>
    match mappings.findContainingRecordIndex requestedRange with
    | none => return refused
    | some recordIndex => do
        let record ← expect mappings.records[recordIndex]?.join "containing record must exist"
        let recordRange ← expect record.range "containing record range must be valid"
        let leftPages := (requestedRange.start.asU64 - recordRange.start.asU64) / pageSize
        let rightPages :=
          (recordRange.endExclusive.asU64 - requestedRange.endExclusive.asU64) / pageSize
        let splits : Bool := 0 < leftPages ∧ 0 < rightPages
        let splitRecordIndex := if splits then mappings.nextEmptyRecordIndex else none
        if splits && splitRecordIndex.isNone then return refused
        else do
          let memory ← unmapPages mapper space memory requestedRange.start
            request.length.pageCount
          let mappings ← mappings.applyRecordUnmap recordIndex splitRecordIndex record
            leftPages rightPages requestedRange.endExclusive
          return (some request.length.pageCount, mappings, memory)

end
end UserMappings
end ManaOS
