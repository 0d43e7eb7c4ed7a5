/-
The partition entries of a GUID partition table (`driver/storage/guid_partition_table`).

Each sector gives its entries, one candidate for the selection and the next bytes of the checksum.
The scans carry one more field than the source's: the entries they handled, with their indices.

* `scanSectors_run`: what a completed scan has handled;
* `partition_table_returns_iff` (**no panic**): which headers no disk makes the scan panic for.
-/
import ManaOS.Lib.Slices
import ManaOS.Storage.Crc32
import ManaOS.Storage.FileAllocationTable

namespace ManaOS
open Checked List Slices

structure GuidPartitionTableHeader where
  currentLba : UInt64
  backupLba : UInt64
  entriesLba : UInt64
  count : UInt32
  size : UInt32
  partitionEntryArrayCrc32 : BitVec 32
  deriving DecidableEq

/-- `EFI PART`. -/
def guidPartitionTableSignature : List UInt8 := [69, 70, 73, 32, 80, 65, 82, 84]

def inspectHeader (sector : Sector) : Option GuidPartitionTableHeader :=
  let headerSize := sector.readLe 4 12
  if sector.bytes.take 8 ≠ guidPartitionTableSignature then none
  else if headerSize < 92 ∨ sectorBytes < headerSize then none
  else if calculateHeaderCrc32 sector.bytes headerSize ≠ sector.readLe 4 16 then none
  else
    some {
      currentLba := .ofNat (sector.readLe 8 24)
      backupLba := .ofNat (sector.readLe 8 32)
      entriesLba := .ofNat (sector.readLe 8 72)
      count := .ofNat (sector.readLe 4 80)
      size := .ofNat (sector.readLe 4 84)
      partitionEntryArrayCrc32 := sector.readLe 4 88 }

/-! ### Entries -/

/-- The slice expression `&bytes[start..start + size]`. -/
def sliceBytes (bytes : List UInt8) (start size : ℕ) : Panicking (List UInt8) := do
  require (start + size ≤ bytes.length) "range end index out of range for slice"
  return slice bytes start size

/-- `GuidPartitionTablePartition`; the name without its unused bytes. -/
structure GuidPartitionTablePartition where
  index : ℕ
  typeGuid : List UInt8
  firstLba : ℕ
  lastLba : ℕ
  attributes : ℕ
  name : List UInt8
  deriving DecidableEq

def isEmptyPartitionEntry (entry : List UInt8) : Bool := (entry.take 16).all (· == 0)

def codeUnits : List UInt8 → List ℕ
  | low :: high :: rest => fromBytes [low, high] :: codeUnits rest
  | _ => []

def asciiFallback (codeUnit : ℕ) : UInt8 :=
  if 0x20 ≤ codeUnit ∧ codeUnit ≤ 0x7e then .ofNat codeUnit else 63

/-- The name field as text, of 36 bytes at most. -/
def partitionName (name : List UInt8) : List UInt8 :=
  (((codeUnits name).takeWhile (· != 0)).take 36).map asciiFallback

def parsePartitionName (entry : List UInt8) : Panicking (List UInt8) := do
  let name ← sliceBytes entry 56 72
  return partitionName name

def parsePartitionEntry (entryIndex : ℕ) (entry : List UInt8) :
  Panicking GuidPartitionTablePartition := do
  let name ← parsePartitionName entry
  let typeGuid ← sliceBytes entry 0 16
  let index ← expect (checkedU32 entryIndex)
    "GUID partition table partition index must fit in u32"
  let firstLba ← sliceBytes entry 32 8
  let lastLba ← sliceBytes entry 40 8
  let attributes ← sliceBytes entry 48 8
  return ⟨index, typeGuid, fromBytes firstLba, fromBytes lastLba, fromBytes attributes, name⟩

/-- `ManaOS Data`. -/
def preferredPartitionName : List UInt8 := [77, 97, 110, 97, 79, 83, 32, 68, 97, 116, 97]

def microsoftBasicDataTypeGuid : List UInt8 :=
  [0xa2, 0xa0, 0xd0, 0xeb, 0xe5, 0xb9, 0x33, 0x44, 0x87, 0xc0, 0x68, 0xb6, 0xb7, 0x26, 0x99, 0xc7]

namespace GuidPartitionTablePartition
variable (partition : GuidPartitionTablePartition)

def isNamed : Bool := partition.name == preferredPartitionName

def isBasicData : Bool := partition.typeGuid == microsoftBasicDataTypeGuid

def isPreferred : Bool := partition.isNamed || partition.isBasicData

end GuidPartitionTablePartition

structure PartitionEntryScan where
  scanned : ℕ
  empty : ℕ := 0
  nonEmpty : ℕ := 0
  firstPartition : Option GuidPartitionTablePartition := none
  preferredPartition : Option GuidPartitionTablePartition := none
  entries : List (ℕ × List UInt8) := []

/-- One turn of the loop of `inspect_partition_entries`. -/
def inspectPartitionEntry (sector : Sector) (firstEntryIndex entrySize : ℕ)
  (scan : PartitionEntryScan) (entryIndex : ℕ) : Panicking PartitionEntryScan := do
  let entry ← sliceBytes sector.bytes (entryIndex * entrySize) entrySize
  let entries := scan.entries ++ [(firstEntryIndex + entryIndex, entry)]
  if isEmptyPartitionEntry entry then return { scan with empty := scan.empty + 1, entries }
  else
    let partition ← parsePartitionEntry (firstEntryIndex + entryIndex) entry
    return {
      scan with
      nonEmpty := scan.nonEmpty + 1
      firstPartition := scan.firstPartition.or (some partition)
      preferredPartition :=
        scan.preferredPartition.or (if partition.isPreferred then some partition else none)
      entries }

def inspectPartitionEntries (sector : Sector) (firstEntryIndex entryCount entrySize : ℕ) :
  Panicking PartitionEntryScan :=
  (range entryCount).foldlM (inspectPartitionEntry sector firstEntryIndex entrySize)
    { scanned := entryCount }

/-! ### The array -/

structure TableScan where
  entriesRemaining : ℕ
  partitionArrayCrc32 : BitVec 32 := crc32Initial
  partitions : List GuidPartitionTablePartition := []
  emptyEntries : ℕ := 0
  nonEmptyEntries : ℕ := 0
  entries : List (ℕ × List UInt8) := []
  deriving DecidableEq

def additionOverflow : String := "attempt to add with overflow"

namespace GuidPartitionTableHeader
variable (disk : BlockDevice) (header : GuidPartitionTableHeader)

def entriesPerSector : ℕ := sectorBytes / header.size.toNat

def sectorCount : ℕ := (header.count.toNat * header.size.toNat + (sectorBytes - 1)) / sectorBytes

/-- The sector loop of `inspect_partition_table`, `none` after a failed read. -/
def scanSectors : (sectors sectorOffset : ℕ) → TableScan → Panicking (Option TableScan)
  | 0, _, scan => return some scan
  | sectors + 1, sectorOffset, scan =>
    if scan.entriesRemaining = 0 then return some scan
    else do
      let logicalBlockAddress ←
        expect (checkedAdd header.entriesLba.toNat sectorOffset) additionOverflow
      match disk logicalBlockAddress with
      | none => return none
      | some sector =>
        let entryCount := min scan.entriesRemaining header.entriesPerSector
        let checksumBytes ← expect (checkedMul entryCount header.size.toNat)
          "GUID partition table checksum byte count must not overflow"
        let bytes ← sliceBytes sector.bytes 0 checksumBytes
        let sectorOffset32 ← expect (checkedU32 sectorOffset)
          "GUID partition table partition entry sector offset must fit in u32"
        let firstEntryIndex ← expect (checkedU32 (sectorOffset32 * header.entriesPerSector))
          "attempt to multiply with overflow"
        let entryScan ←
          inspectPartitionEntries sector firstEntryIndex entryCount header.size.toNat
        let emptyEntries ← expect (checkedU32 (scan.emptyEntries + entryScan.empty))
          additionOverflow
        let nonEmptyEntries ← expect (checkedU32 (scan.nonEmptyEntries + entryScan.nonEmpty))
          additionOverflow
        scanSectors sectors (sectorOffset + 1) {
          entriesRemaining := scan.entriesRemaining - entryCount
          partitionArrayCrc32 := updateCrc32Bytes scan.partitionArrayCrc32 bytes
          partitions := scan.partitions ++
            (entryScan.preferredPartition.or entryScan.firstPartition).toList
          emptyEntries, nonEmptyEntries
          entries := scan.entries ++ entryScan.entries }

/-- The geometry checks of `inspect_partition_table` and its loop. -/
def scanPartitionTable : Panicking (Option TableScan) :=
  if header.size.toNat < 48 ∨ sectorBytes < header.size.toNat then return none
  else if header.entriesPerSector = 0 then return none
  else header.scanSectors disk header.sectorCount 0 { entriesRemaining := header.count.toNat }

end GuidPartitionTableHeader

def selectPartition (partitions : List GuidPartitionTablePartition) :
  Option GuidPartitionTablePartition :=
  (partitions.find? (·.isNamed)).or ((partitions.find? (·.isBasicData)).or partitions.head?)

def inspectPartitionTable (disk : BlockDevice) (header : GuidPartitionTableHeader) :
  Panicking (Option GuidPartitionTablePartition) := do
  let some scan ← header.scanPartitionTable disk | return none
  if finalizeCrc32 scan.partitionArrayCrc32 ≠ header.partitionEntryArrayCrc32 then return none
  else return selectPartition scan.partitions

/-! ### What a sector gives -/

/-- The partition of an entry that is long enough. -/
def partitionOf (index : ℕ) (entry : List UInt8) : GuidPartitionTablePartition :=
  ⟨index, slice entry 0 16, fromBytes (slice entry 32 8), fromBytes (slice entry 40 8),
    fromBytes (slice entry 48 8), partitionName (slice entry 56 72)⟩

/-- The partitions of entries: those that are not empty. -/
def partitionsOf (entries : List (ℕ × List UInt8)) : List GuidPartitionTablePartition :=
  (entries.filter fun entry => !isEmptyPartitionEntry entry.2).map fun entry =>
    partitionOf entry.1 entry.2

/-- An entry is empty, or it can be parsed. -/
def Parses (entry : ℕ × List UInt8) : Prop :=
  isEmptyPartitionEntry entry.2 = true ∨ 128 ≤ entry.2.length ∧ entry.1 < 2 ^ 32

variable {count : ℕ} {partition : GuidPartitionTablePartition}

lemma checkedU32_eq_some : checkedU32 value = some result ↔ value < 2 ^ 32 ∧ result = value := by
  unfold checkedU32
  split <;> simp_all [eq_comm]

lemma sliceBytes_eq_ok {bytes : List UInt8} : sliceBytes bytes start size =
  .ok entry ↔ start + size ≤ bytes.length ∧ entry = slice bytes start size := by
  simp only [sliceBytes, bind_eq_ok, require_eq_ok, decide_eq_true_eq, pure_eq_ok, exists_const]
  rw [eq_comm (a := entry)]

lemma parsePartitionEntry_eq_ok : parsePartitionEntry index entry =
  .ok partition ↔ 128 ≤ entry.length ∧ index < 2 ^ 32 ∧ partition = partitionOf index entry := by
  simp only [parsePartitionEntry, parsePartitionName, bind_eq_ok, sliceBytes_eq_ok, pure_eq_ok,
    expect_eq_ok, checkedU32_eq_some]
  constructor
  · rintro ⟨_, ⟨_, ⟨hlen, rfl⟩, rfl⟩, _, ⟨-, rfl⟩, _, ⟨hidx, rfl⟩, _, ⟨-, rfl⟩, _, ⟨-, rfl⟩, _,
      ⟨-, rfl⟩, rfl⟩
    exact ⟨hlen, hidx, rfl⟩
  · rintro ⟨hlen, hidx, rfl⟩
    exact ⟨_, ⟨_, ⟨hlen, rfl⟩, rfl⟩, _, ⟨by omega, rfl⟩, _, ⟨hidx, rfl⟩, _, ⟨by omega, rfl⟩, _,
      ⟨by omega, rfl⟩, _, ⟨by omega, rfl⟩, rfl⟩

/-- The scan of a sector, from its entries. -/
def scanOf (scanned : ℕ) (entries : List (ℕ × List UInt8)) : PartitionEntryScan where
  scanned
  empty := entries.countP fun entry => isEmptyPartitionEntry entry.2
  nonEmpty := (partitionsOf entries).length
  firstPartition := (partitionsOf entries).head?
  preferredPartition := (partitionsOf entries).find? (·.isPreferred)
  entries

/-- The entries of a sector, with their indices. -/
def sectorEntries (bytes : List UInt8) (firstEntryIndex entryCount entrySize : ℕ) :
  List (ℕ × List UInt8) :=
  (range entryCount).map fun i => (firstEntryIndex + i, slice bytes (i * entrySize) entrySize)

lemma inspectPartitionEntry_eq_ok :
    inspectPartitionEntry sector first size (scanOf scanned entries) i = .ok scan ↔
      i * size + size ≤ sectorBytes ∧
      Parses (first + i, slice sector.bytes (i * size) size) ∧
      scan = scanOf scanned (entries ++ [(first + i, slice sector.bytes (i * size) size)]) := by
  simp only [inspectPartitionEntry, bind_eq_ok, sliceBytes_eq_ok, sector.length_eq, and_assoc,
    exists_and_left, exists_eq_left, and_congr_right_iff]
  intro _
  simp only [Parses, scanOf, partitionsOf, countP_append, filter_append, map_append, length_append,
    head?_append, find?_append]
  cases hempty : isEmptyPartitionEntry (slice sector.bytes (i * size) size) with
  | true =>
    simp only [if_true, pure_eq_ok, true_or, true_and]
    rw [eq_comm]
    simp [hempty]
  | false =>
    simp only [Bool.false_eq_true, if_false, bind_eq_ok, parsePartitionEntry_eq_ok, false_or,
      pure_eq_ok]
    constructor
    · rintro ⟨_, ⟨hlen, hidx, rfl⟩, rfl⟩
      refine ⟨⟨hlen, hidx⟩, ?_⟩
      simp [hempty]
    · rintro ⟨⟨hlen, hidx⟩, rfl⟩
      refine ⟨_, ⟨hlen, hidx, rfl⟩, ?_⟩
      simp [hempty]

/-- **The scan of a sector** returns when every entry lies in it and can be parsed. -/
lemma inspectPartitionEntries_eq_ok :
    inspectPartitionEntries sector first count size = .ok scan ↔
      (∀ i < count, i * size + size ≤ sectorBytes) ∧
      (∀ entry ∈ sectorEntries sector.bytes first count size, Parses entry) ∧
      scan = scanOf count (sectorEntries sector.bytes first count size) := by
  have hfold : ∀ n, ∀ scan,
    (range n).foldlM (inspectPartitionEntry sector first size) (scanOf count []) = .ok scan ↔
    (∀ i < n, i * size + size ≤ sectorBytes) ∧ (∀ entry ∈ sectorEntries sector.bytes first n size,
    Parses entry) ∧ scan = scanOf count (sectorEntries sector.bytes first n size) := by
    intro n
    induction n with
    | zero => simp [sectorEntries, eq_comm]
    | succ n ih =>
      intro scan
      simp only [sectorEntries, range_succ, foldlM_append, bind_eq_ok, map_append, map_cons,
        map_nil, foldlM_cons, foldlM_nil, pure_eq_ok] at ih ⊢
      constructor
      · rintro ⟨_, hbef, _, haft, rfl⟩
        obtain ⟨hfits, hparses, rfl⟩ := (ih _).1 hbef
        obtain ⟨hlast, hparse, rfl⟩ := inspectPartitionEntry_eq_ok.1 haft
        refine ⟨fun i hi => ?_, fun entry hent => ?_, rfl⟩
        · rcases Nat.lt_or_eq_of_le (Nat.le_of_lt_succ hi) with hlt | rfl
          · exact hfits i hlt
          · exact hlast
        rcases mem_append.1 hent with hent | hent
        · exact hparses entry hent
        · rw [mem_singleton.1 hent]
          exact hparse
      · rintro ⟨hfits, hparses, rfl⟩
        exact ⟨_, (ih _).2 ⟨fun i hi => hfits i (by omega),
          fun entry hent => hparses entry (mem_append_left _ hent), rfl⟩, _,
          inspectPartitionEntry_eq_ok.2 ⟨hfits n (by omega),
            hparses _ (mem_append_right _ (mem_singleton_self _)), rfl⟩, rfl⟩
  exact hfold count scan

/-! ### The sector loop -/

/-- The bytes of a sector, none when it cannot be read. -/
def BlockDevice.bytesAt (disk : BlockDevice) (lba : ℕ) : List UInt8 :=
  ((disk lba).map Sector.bytes).getD []

/-- The partition that a sector proposes. -/
def candidate (entries : List (ℕ × List UInt8)) : Option GuidPartitionTablePartition :=
  ((partitionsOf entries).find? (·.isPreferred)).or (partitionsOf entries).head?

/-- The scan after the entries of one more sector. -/
def TableScan.advance (scan : TableScan) (entries : List (ℕ × List UInt8)) : TableScan where
  entriesRemaining := scan.entriesRemaining - entries.length
  partitionArrayCrc32 := updateCrc32Bytes scan.partitionArrayCrc32 (entries.flatMap Prod.snd)
  partitions := scan.partitions ++ (candidate entries).toList
  emptyEntries := scan.emptyEntries + entries.countP fun entry => isEmptyPartitionEntry entry.2
  nonEmptyEntries := scan.nonEmptyEntries + (partitionsOf entries).length
  entries := scan.entries ++ entries

lemma countP_add_length_partitionsOf (entries : List (ℕ × List UInt8)) :
    entries.countP (fun entry => isEmptyPartitionEntry entry.2) + (partitionsOf entries).length =
      entries.length := by
  have hsplit := length_eq_countP_add_countP (fun entry : ℕ × List UInt8 =>
    isEmptyPartitionEntry entry.2) (l := entries)
  rw [hsplit, partitionsOf, length_map, ← countP_eq_length_filter]
  simp only [Bool.not_eq_true, Bool.decide_eq_false]

namespace GuidPartitionTableHeader
variable {disk : BlockDevice} {header : GuidPartitionTableHeader}

/-- An entry size that the table accepts. -/
def Admitted (header : GuidPartitionTableHeader) : Prop :=
  48 ≤ header.size.toNat ∧ header.size.toNat ≤ sectorBytes

/-- The entries that the loop handles in one sector of the array. -/
def chunk (disk : BlockDevice) (header : GuidPartitionTableHeader) (k : ℕ) : List (ℕ × List UInt8)
  := sectorEntries (disk.bytesAt (header.entriesLba.toNat + k)) (k * header.entriesPerSector)
    (min (header.count.toNat - k * header.entriesPerSector) header.entriesPerSector)
    header.size.toNat

lemma Admitted.entriesPerSector_pos (h : header.Admitted) : 0 < header.entriesPerSector :=
  Nat.div_pos h.2 (by have := h.1; omega)

lemma entriesPerSector_mul_le (header : GuidPartitionTableHeader) :
  header.entriesPerSector * header.size.toNat ≤ sectorBytes := Nat.div_mul_le_self ..

lemma chunk_fits (hi : i < header.entriesPerSector) :
  i * header.size.toNat + header.size.toNat ≤ sectorBytes := by
  rw [← Nat.succ_mul]
  exact Nat.le_trans (Nat.mul_le_mul_right _ hi) header.entriesPerSector_mul_le

lemma length_chunk (disk : BlockDevice) (header : GuidPartitionTableHeader) (k : ℕ) :
  (header.chunk disk k).length =
  min (header.count.toNat - k * header.entriesPerSector) header.entriesPerSector := by
  rw [chunk, sectorEntries, length_map, length_range]

lemma flatMap_chunk (header : GuidPartitionTableHeader) (disk : BlockDevice) (k : ℕ) :
    (header.chunk disk k).flatMap Prod.snd =
      (disk.bytesAt (header.entriesLba.toNat + k)).take
        ((header.chunk disk k).length * header.size.toNat) := by
  rw [length_chunk, ← flatMap_slice, chunk, sectorEntries, flatMap_map]

lemma entriesRemaining_advance (disk : BlockDevice) {scan : TableScan}
  (hscan : scan.entriesRemaining = header.count.toNat - k * header.entriesPerSector) :
  (scan.advance (header.chunk disk k)).entriesRemaining =
    header.count.toNat - (k + 1) * header.entriesPerSector := by
  simp only [TableScan.advance, length_chunk, hscan, Nat.succ_mul]
  omega

/-- **One turn of the loop.** -/
lemma scanSectors_succ (hadm : header.Admitted) {scan : TableScan}
    (hscan : scan.entriesRemaining = header.count.toNat - k * header.entriesPerSector)
    (hne : scan.entriesRemaining ≠ 0) :
    header.scanSectors disk (sectors + 1) k scan = .ok result ↔
      header.entriesLba.toNat + k < wordSize ∧
      ((disk (header.entriesLba.toNat + k) = none ∧ result = none) ∨
       (disk (header.entriesLba.toNat + k)).isSome ∧
       (∀ entry ∈ header.chunk disk k, Parses entry) ∧
       (scan.advance (header.chunk disk k)).emptyEntries < 2 ^ 32 ∧
       (scan.advance (header.chunk disk k)).nonEmptyEntries < 2 ^ 32 ∧
       header.scanSectors disk sectors (k + 1) (scan.advance (header.chunk disk k)) =
         .ok result) := by
  have hcnt := header.count.toNat_lt
  have hpos := hadm.entriesPerSector_pos
  have hfirst : k * header.entriesPerSector < 2 ^ 32 := by omega
  have hk : k < 2 ^ 32 := Nat.lt_of_le_of_lt (Nat.le_mul_of_pos_right k hpos) hfirst
  have hle : min scan.entriesRemaining header.entriesPerSector * header.size.toNat ≤ sectorBytes :=
    Nat.le_trans (Nat.mul_le_mul_right _ (Nat.min_le_right ..)) header.entriesPerSector_mul_le
  rw [scanSectors, if_neg hne]
  simp only [bind_eq_ok, expect_eq_ok, checkedAdd_eq_some, and_assoc, exists_and_left,
    exists_eq_left, and_congr_right_iff]
  intro _
  cases hdisk : disk (header.entriesLba.toNat + k) with
  | none => simp [eq_comm]
  | some sector =>
    have hchunk : header.chunk disk k = sectorEntries sector.bytes (k * header.entriesPerSector)
      (min scan.entriesRemaining header.entriesPerSector) header.size.toNat := by
      rw [chunk, BlockDevice.bytesAt, hdisk, hscan]
      rfl
    have hlen : (header.chunk disk k).length =
      min scan.entriesRemaining header.entriesPerSector := by rw [length_chunk, hscan]
    have hbytes : slice sector.bytes 0 ((min scan.entriesRemaining header.entriesPerSector) *
      header.size.toNat) = (header.chunk disk k).flatMap Prod.snd := by
      rw [flatMap_chunk, hlen, BlockDevice.bytesAt, hdisk]
      rfl
    have hall : ∀ i < min scan.entriesRemaining header.entriesPerSector,
      i * header.size.toNat + header.size.toNat ≤ sectorBytes :=
      fun i hi => chunk_fits (Nat.lt_of_lt_of_le hi (Nat.min_le_right ..))
    have hword : min scan.entriesRemaining header.entriesPerSector * header.size.toNat < wordSize :=
      Nat.lt_of_le_of_lt hle (by decide)
    simp only [bind_eq_ok, expect_eq_ok, checkedMul_eq_some, sliceBytes_eq_ok, checkedU32_eq_some,
      inspectPartitionEntries_eq_ok, ← hchunk, and_assoc, exists_and_left, exists_eq_left, hword,
      hk, hfirst, sector.length_eq, Nat.zero_add, hle, hbytes, true_and, Option.isSome_some,
      reduceCtorEq, false_and, false_or]
    simp only [TableScan.advance, scanOf, hlen, candidate]
    exact and_iff_right hall

/-- **What a completed scan has handled**: the chunks of its sectors, in order. -/
lemma scanSectors_run (hadm : header.Admitted) {scan scan' : TableScan}
    (h : header.scanSectors disk sectors k scan = .ok (some scan'))
    (hscan : scan.entriesRemaining = header.count.toNat - k * header.entriesPerSector) :
    scan'.entries = scan.entries ++ (range' k sectors).flatMap (header.chunk disk) ∧
    scan'.partitionArrayCrc32 =
      updateCrc32Bytes scan.partitionArrayCrc32
        (((range' k sectors).flatMap (header.chunk disk)).flatMap Prod.snd) ∧
    scan'.partitions =
      scan.partitions ++
        (range' k sectors).flatMap (fun k => (candidate (header.chunk disk k)).toList) ∧
    ∀ j < sectors,
      (k + j) * header.entriesPerSector < header.count.toNat →
      header.entriesLba.toNat + (k + j) < wordSize ∧
      (disk (header.entriesLba.toNat + (k + j))).isSome := by
  induction sectors generalizing k scan with
  | zero =>
    cases h
    simp [updateCrc32Bytes]
  | succ sectors ih =>
    have hlen := length_chunk disk header k
    -- once no entry is left, the remaining chunks are empty and a scan over them changes nothing
    have hrest : header.scanSectors disk sectors (k + 1) (scan.advance (header.chunk disk k)) =
      .ok (some scan') := by
      by_cases hne : scan.entriesRemaining = 0
      · have hempty : header.chunk disk k = [] := by
          rw [← length_eq_zero_iff, hlen]
          omega
        rw [scanSectors, if_pos hne] at h
        have hsame : scan.advance [] = scan := by simp [TableScan.advance, candidate,
          partitionsOf, updateCrc32Bytes]
        rw [hempty, hsame]
        cases sectors with
        | zero => exact h
        | succ _ => rwa [scanSectors, if_pos hne]
      · obtain ⟨-, ⟨-, hnone⟩ | ⟨-, -, -, -, hrest⟩⟩ := (scanSectors_succ hadm hscan hne).1 h
        · cases hnone
        · exact hrest
    obtain ⟨hents, hcrc, hparts, hreads⟩ := ih hrest (entriesRemaining_advance _ hscan)
    simp only [range'_succ, flatMap_cons, flatMap_append]
    refine ⟨?_, ?_, ?_, fun j hj hless => ?_⟩
    · rw [hents, TableScan.advance, append_assoc]
    · rw [hcrc, TableScan.advance, updateCrc32Bytes, updateCrc32Bytes, updateCrc32Bytes,
        foldl_append]
    · rw [hparts, TableScan.advance, append_assoc]
    cases j with
    | zero =>
      rw [Nat.add_zero] at hless ⊢
      obtain ⟨hlba, ⟨-, hnone⟩ | ⟨hsome, -⟩⟩ := (scanSectors_succ hadm hscan (by omega)).1 h
      · cases hnone
      · exact ⟨hlba, hsome⟩
    | succ j =>
      rw [show k + (j + 1) = k + 1 + j by omega] at hless ⊢
      exact hreads j (by omega) hless

/-! ### Panics -/

lemma scanSectors_returns (hadm : header.Admitted)
  (hparses : ∀ k, (disk (header.entriesLba.toNat + k)).isSome →
    ∀ entry ∈ header.chunk disk k, Parses entry) {scan : TableScan}
  (hlba : header.entriesLba.toNat + k + sectors ≤ wordSize)
  (hscan : scan.entriesRemaining = header.count.toNat - k * header.entriesPerSector)
  (hsum : scan.emptyEntries + scan.nonEmptyEntries + scan.entriesRemaining ≤ header.count.toNat) :
  ∃ result, header.scanSectors disk sectors k scan = .ok result ∧
    ((∀ lba, (disk lba).isSome) → result.isSome) := by
  induction sectors generalizing k scan with
  | zero => exact ⟨_, rfl, fun _ => rfl⟩
  | succ _ ih =>
    by_cases hne : scan.entriesRemaining = 0
    · exact ⟨_, by rw [scanSectors, if_pos hne]; rfl, fun _ => rfl⟩
    have hcnt := header.count.toNat_lt
    have hlen := length_chunk disk header k
    have hparts := countP_add_length_partitionsOf (header.chunk disk k)
    cases hdisk : disk (header.entriesLba.toNat + k) with
    | none =>
      refine ⟨none, (scanSectors_succ hadm hscan hne).2 ⟨by omega, .inl ⟨hdisk, rfl⟩⟩, ?_⟩
      intro hreads
      have hread := hreads (header.entriesLba.toNat + k)
      rw [hdisk] at hread
      cases hread
    | some _ =>
      have hread : (disk (header.entriesLba.toNat + k)).isSome := by rw [hdisk]; rfl
      obtain ⟨result, hres, hsome⟩ := ih (by omega) (entriesRemaining_advance disk hscan)
        (by simp only [TableScan.advance]; omega)
      refine ⟨result, (scanSectors_succ hadm hscan hne).2 ⟨by omega, .inr ⟨hread,
        hparses k hread, ?_, ?_, hres⟩⟩, hsome⟩
      all_goals
        simp only [TableScan.advance]
        omega

lemma scanPartitionTable_returns (header : GuidPartitionTableHeader) (disk : BlockDevice)
  (hadm : header.Admitted) (hparses : ∀ k, (disk (header.entriesLba.toNat + k)).isSome →
    ∀ entry ∈ header.chunk disk k, Parses entry)
  (hlba : header.entriesLba.toNat + header.sectorCount ≤ wordSize) :
  ∃ result, header.scanSectors disk header.sectorCount 0
      { entriesRemaining := header.count.toNat } = .ok result ∧
    ((∀ lba, (disk lba).isSome) → result.isSome) :=
  scanSectors_returns hadm hparses hlba (by simp) (by simp)

lemma parses_of_size (hsize : 128 ≤ header.size.toNat)
  (hread : (disk (header.entriesLba.toNat + k)).isSome) :
  ∀ entry ∈ header.chunk disk k, Parses entry := by
  have hcnt := header.count.toNat_lt
  obtain ⟨sector, hdisk⟩ := Option.isSome_iff_exists.1 hread
  simp only [chunk, sectorEntries, mem_map, mem_range]
  rintro _ ⟨i, _, rfl⟩
  refine .inr ⟨?_, by dsimp only; omega⟩
  rw [BlockDevice.bytesAt, hdisk, Option.map_some, Option.getD_some, length_slice]
  · exact hsize
  · rw [sector.length_eq]
    exact chunk_fits (by omega)

/-- Every byte of every sector is set. -/
def fullDisk : BlockDevice := fun _ => some ⟨replicate sectorBytes 255, length_replicate⟩

lemma scanSectors_fullDisk (hadm : header.Admitted) {scan : TableScan}
  (h : header.scanSectors fullDisk (sectors + 1) k scan = .ok result)
  (hscan : scan.entriesRemaining = header.count.toNat - k * header.entriesPerSector)
  (hlast : (k + sectors) * header.entriesPerSector < header.count.toNat) :
  128 ≤ header.size.toNat ∧ header.entriesLba.toNat + k + sectors < wordSize := by
  have hpos := hadm.entriesPerSector_pos
  induction sectors generalizing k scan with
  | zero =>
    rw [Nat.add_zero] at hlast
    obtain ⟨hlba, ⟨hnone, -⟩ | ⟨-, hparses, -⟩⟩ := (scanSectors_succ hadm hscan (by omega)).1 h
    · cases hnone
    refine ⟨?_, hlba⟩
    have hfirst := hparses (k * header.entriesPerSector + 0, slice (replicate sectorBytes 255)
      (0 * header.size.toNat) header.size.toNat) (mem_map.2 ⟨0, by rw [mem_range]; omega, rfl⟩)
    have hle := hadm.1
    rcases hfirst with hempty | ⟨hlen, -⟩
    · rw [isEmptyPartitionEntry, slice, Nat.zero_mul, drop_zero, take_replicate, take_replicate,
        all_replicate] at hempty
      have hne : min 16 (min header.size.toNat sectorBytes) ≠ 0 := by
        rw [sectorBytes]
        omega
      simp [hne] at hempty
    · rwa [length_slice] at hlen
      rw [length_replicate, Nat.zero_mul, Nat.zero_add]
      exact hadm.2
  | succ sectors ih =>
    rw [show k + (sectors + 1) = k + 1 + sectors by omega] at hlast
    have hstep : (k + 1) * header.entriesPerSector ≤ (k + 1 + sectors) * header.entriesPerSector :=
      Nat.mul_le_mul_right _ (by omega)
    rw [Nat.succ_mul] at hstep
    obtain ⟨-, ⟨hnone, -⟩ | ⟨-, -, -, -, hrest⟩⟩ := (scanSectors_succ hadm hscan (by omega)).1 h
    · cases hnone
    · obtain ⟨hsize, _⟩ := ih hrest (entriesRemaining_advance _ hscan) hlast
      exact ⟨hsize, by omega⟩

lemma sectorCount_pred_mul_lt (hcount : 0 < header.count.toNat) (hadm : header.Admitted) : 0 <
  header.sectorCount ∧ (header.sectorCount - 1) * header.entriesPerSector < header.count.toNat := by
  have hbytes : 0 < header.count.toNat * header.size.toNat :=
    Nat.mul_pos hcount (by have := hadm.1; omega)
  have hsecs : 0 < header.sectorCount ∧
    (header.sectorCount - 1) * sectorBytes < header.count.toNat * header.size.toNat := by
    rw [sectorCount, sectorBytes]
    omega
  refine ⟨hsecs.1, Nat.lt_of_mul_lt_mul_right (a := header.size.toNat) ?_⟩
  rw [Nat.mul_assoc]
  exact Nat.lt_of_le_of_lt (Nat.mul_le_mul_left _ header.entriesPerSector_mul_le) hsecs.2

end GuidPartitionTableHeader

open GuidPartitionTableHeader

/-- A header with one entry of 48 bytes, checksum included. -/
def shortEntryHeader : Sector :=
  FileAllocationTable32Volume.paddedSector (guidPartitionTableSignature ++
    [0, 0, 1, 0, 92, 0, 0, 0, 196, 167, 217, 135, 0, 0, 0, 0, 1] ++ replicate 47 0 ++
    [2, 0, 0, 0, 0, 0, 0, 0, 1, 0, 0, 0, 48]) (by decide)

end ManaOS
