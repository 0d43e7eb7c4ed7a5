/-
Regular files of a FAT32 volume (`driver/storage/file_allocation_table`).

`read_file_contents` reads a chain of clusters whole and `read_file_range` a window of it.

* `read_file_range_of_contents`: a range is a slice of the file;
* `read_file_range_full_iff` (**ranges**): when a successful read is in full.
-/
import ManaOS.Memory.UserPointer

namespace ManaOS
open Checked Option List Nat

/-! ### The volume -/

def sectorBytes : ℕ := 512

/-- A sector, as the DMA buffer holds it after a read. -/
structure Sector where
  bytes : List UInt8
  length_eq : bytes.length = sectorBytes

/-- A block device with deterministic reads, `none` where `read_logical_block` fails. -/
abbrev BlockDevice := ℕ → Option Sector

/-- `read_le_u16` and `read_le_u32`, and the single byte of a field. -/
def Sector.readLe (size : ℕ) (sector : Sector) (offset : ℕ) : ℕ :=
  fromBytes ((sector.bytes.drop offset).take size)

/-- A checked result of `u32` arithmetic. -/
def checkedU32 (value : ℕ) : Option ℕ := if value < 2 ^ 32 then some value else none

structure FileAllocationTable32Volume where
  bytesPerSector : ℕ
  sectorsPerCluster : ℕ
  reservedSectorCount : ℕ
  fileAllocationTableCount : ℕ
  fileAllocationTableSize : ℕ
  fileSystemInformationSector : ℕ
  backupBootSector : ℕ
  totalSectors : ℕ
  rootCluster : ℕ
  firstDataSector : ℕ
  clusterCount : ℕ
  bytesPerSector_eq : bytesPerSector = sectorBytes
  sectorsPerCluster_pos : 0 < sectorsPerCluster
  sectorsPerCluster_lt : sectorsPerCluster < 256

/-- `FileAllocationTable32DirectoryEntry`, without the names and attributes. -/
structure FileAllocationTable32DirectoryEntry where
  firstCluster : ℕ
  fileSize : ℕ
  fileSize_lt : fileSize < 2 ^ 32

def parseVolume (sector : Sector) : Option FileAllocationTable32Volume :=
  let bytesPerSector := sector.readLe 2 11
  let sectorsPerCluster := (sector.bytes[13]?.getD 0).toNat
  let reservedSectorCount := sector.readLe 2 14
  let fileAllocationTableCount := sector.readLe 1 16
  let rootEntryCount := sector.readLe 2 17
  let totalSectors16 := sector.readLe 2 19
  let fileAllocationTableSize16 := sector.readLe 2 22
  let totalSectors32 := sector.readLe 4 32
  let fileAllocationTableSize := sector.readLe 4 36
  let rootCluster := sector.readLe 4 44
  if hbytes : bytesPerSector ≠ sectorBytes then none
  else if hsectors : sectorsPerCluster = 0 ∨ 2 ^ sectorsPerCluster.log2 ≠ sectorsPerCluster then
    none
  else if reservedSectorCount = 0 ∨ fileAllocationTableCount = 0 then none
  else if rootEntryCount ≠ 0 ∨ totalSectors16 ≠ 0 ∨ fileAllocationTableSize16 ≠ 0 then none
  else if totalSectors32 = 0 ∨ fileAllocationTableSize = 0 ∨ rootCluster < 2 then none
  else do
    let tables ← checkedU32 (fileAllocationTableCount * fileAllocationTableSize)
    let firstDataSector ← checkedU32 (reservedSectorCount + tables)
    if totalSectors32 ≤ firstDataSector then none
    else
      some {
        bytesPerSector, sectorsPerCluster, reservedSectorCount, fileAllocationTableCount,
        fileAllocationTableSize
        fileSystemInformationSector := sector.readLe 2 48
        backupBootSector := sector.readLe 2 50
        totalSectors := totalSectors32
        rootCluster, firstDataSector
        clusterCount := (totalSectors32 - firstDataSector) / sectorsPerCluster
        bytesPerSector_eq := not_not.1 hbytes
        sectorsPerCluster_pos := Nat.pos_of_ne_zero fun hzero => hsectors (.inl hzero)
        sectorsPerCluster_lt := UInt8.toNat_lt _ }

def isBadCluster (cluster : ℕ) : Bool := cluster == 0x0ffffff7

def isEndOfChain (cluster : ℕ) : Bool := 0x0ffffff8 ≤ cluster

namespace FileAllocationTable32Volume
variable (disk : BlockDevice) (volume : FileAllocationTable32Volume)

def clusterFirstSector (cluster : ℕ) : Option ℕ :=
  if cluster < 2 then none
  else if volume.clusterCount ≤ cluster - 2 then none
  else do
    let sectors ← checkedU32 ((cluster - 2) * volume.sectorsPerCluster)
    checkedU32 (volume.firstDataSector + sectors)

def bytesPerCluster : Option ℕ := checkedMul volume.bytesPerSector volume.sectorsPerCluster

def validateCluster (cluster : ℕ) (visitedClusters : List ℕ) : Bool :=
  !(isBadCluster cluster || (volume.clusterFirstSector cluster).isNone) &&
    !visitedClusters.contains cluster

def readNextCluster (cluster : ℕ) : Option ℕ := do
  let byteOffset ← checkedU32 (cluster * 4)
  let sector ← disk (volume.reservedSectorCount + byteOffset / volume.bytesPerSector)
  return sector.readLe 4 (byteOffset % volume.bytesPerSector) % 2 ^ 28

/-- The contents with the next sector, up to the size of the file. -/
def extendContents (fileSize : ℕ) (contents : List UInt8) (sector : Sector) : List UInt8 :=
  contents ++ sector.bytes.take (min (fileSize - contents.length) sectorBytes)

/-- The sectors of `read_cluster_contents`, from one sector of the cluster on. -/
def readClusterContents (firstSector fileSize : ℕ) :
  (sectors sectorOffset : ℕ) → (contents : List UInt8) → Option (List UInt8)
  | 0, _, contents => some contents
  | sectors + 1, sectorOffset, contents => do
    let sector ← (checkedU32 (firstSector + sectorOffset)).bind disk
    let contents := extendContents fileSize contents sector
    if fileSize ≤ contents.length then some contents
    else readClusterContents firstSector fileSize sectors (sectorOffset + 1) contents

/-- The loop of `read_file_contents`; each turn adds a byte, so that `fileSize` turns suffice. -/
def readContentsLoop (fileSize : ℕ) : (turns cluster : ℕ) →
  (visitedClusters : List ℕ) → (contents : List UInt8) → Option (List UInt8)
  | 0, _, _, contents => some contents
  | turns + 1, cluster, visitedClusters, contents =>
    if fileSize ≤ contents.length then some contents
    else if !volume.validateCluster cluster visitedClusters then none
    else do
      let firstSector ← volume.clusterFirstSector cluster
      let contents ← readClusterContents disk firstSector fileSize volume.sectorsPerCluster 0
        contents
      if fileSize ≤ contents.length then some contents
      else
        let nextCluster ← volume.readNextCluster disk cluster
        if isEndOfChain nextCluster then none
        else if isBadCluster nextCluster || (volume.clusterFirstSector nextCluster).isNone then none
        else readContentsLoop fileSize turns nextCluster (visitedClusters ++ [cluster]) contents

def readFileContents (entry : FileAllocationTable32DirectoryEntry) : Option (List UInt8) :=
  if entry.fileSize = 0 then some []
  else volume.readContentsLoop disk entry.fileSize entry.fileSize entry.firstCluster [] []

/-- `RangeReadWindow`, the length of the output buffer and the number of bytes to read. -/
structure RangeReadWindow where
  readStart : ℕ
  readEnd : ℕ
  bufferLen : ℕ
  bytesToRead : ℕ

/-- The sectors of `read_cluster_range_contents`; the front of the output buffer stands for
`RangeOutput`. -/
def readClusterRangeContents (window : RangeReadWindow) (firstSector : ℕ) :
  (sectors sectorOffset sectorFilePosition : ℕ) → (stored : List UInt8) → Option (List UInt8)
  | 0, _, _, stored => some stored
  | sectors + 1, sectorOffset, sectorFilePosition, stored => do
    let sectorEnd ← checkedAdd sectorFilePosition sectorBytes
    if window.readStart < sectorEnd ∧ sectorFilePosition < window.readEnd then
      let sector ← (checkedU32 (firstSector + sectorOffset)).bind disk
      let copyStart := window.readStart - sectorFilePosition
      let copyEnd := min (window.readEnd - sectorFilePosition) sectorBytes
      let _outputEnd ← checkedAdd stored.length (copyEnd - copyStart)
      let stored := stored ++ (sector.bytes.take copyEnd).drop copyStart
      if window.bufferLen ≤ stored.length then some stored
      else
        readClusterRangeContents window firstSector sectors (sectorOffset + 1) sectorEnd stored
    else readClusterRangeContents window firstSector sectors (sectorOffset + 1) sectorEnd stored

/-- The loop of `read_file_range`; each turn moves on, so that `endOffset` turns suffice. -/
def readRangeLoop (window : RangeReadWindow) (bytesPerCluster : ℕ) : (turns cluster : ℕ) →
  (visitedClusters : List ℕ) → (filePosition : ℕ) → (stored : List UInt8) → Option (List UInt8)
  | 0, _, _, _, stored => some stored
  | turns + 1, cluster, visitedClusters, filePosition, stored =>
    if window.readEnd ≤ filePosition then some stored
    else if !volume.validateCluster cluster visitedClusters then none
    else do
      let clusterEnd ← checkedAdd filePosition bytesPerCluster
      let stored ← (if window.readStart < clusterEnd then
          (volume.clusterFirstSector cluster).bind fun firstSector =>
            readClusterRangeContents disk window firstSector volume.sectorsPerCluster 0
              filePosition stored
        else some stored : Option (List UInt8))
      if window.bytesToRead ≤ stored.length then some stored
      else
        let nextCluster ← volume.readNextCluster disk cluster
        if isEndOfChain nextCluster then some stored
        else if isBadCluster nextCluster || (volume.clusterFirstSector nextCluster).isNone then none
        else
          readRangeLoop window bytesPerCluster turns nextCluster (visitedClusters ++ [cluster])
            clusterEnd stored

/-- `read_file_range`: the number of bytes read and the output buffer. -/
def readFileRange (entry : FileAllocationTable32DirectoryEntry) (offset : ℕ)
  (output : List UInt8) : Option (ℕ × List UInt8) :=
  if output = [] ∨ entry.fileSize ≤ offset then some (0, output)
  else do
    let bytesToRead := min output.length (entry.fileSize - offset)
    let endOffset ← checkedAdd offset bytesToRead
    let bytesPerCluster ← volume.bytesPerCluster
    let stored ← volume.readRangeLoop disk ⟨offset, endOffset, output.length, bytesToRead⟩
      bytesPerCluster endOffset entry.firstCluster [] 0 []
    return (stored.length, stored ++ output.drop stored.length)

/-! ### The two readers agree -/

variable {disk volume} {window : RangeReadWindow} {fileSize : ℕ} {file contents : List UInt8}

lemma clusterBytes_bounds (volume : FileAllocationTable32Volume) :
  sectorBytes ≤ sectorBytes * volume.sectorsPerCluster ∧
    sectorBytes * volume.sectorsPerCluster < 2 ^ 17 ∧ 0 < sectorBytes :=
  ⟨Nat.le_mul_of_pos_right _ volume.sectorsPerCluster_pos,
    Nat.mul_lt_mul_of_pos_left volume.sectorsPerCluster_lt (by decide), by decide⟩

lemma bytesPerCluster_eq (volume : FileAllocationTable32Volume) :
  volume.bytesPerCluster = some (sectorBytes * volume.sectorsPerCluster) := by
  have hsmall := volume.clusterBytes_bounds.2.1
  rw [bytesPerCluster, volume.bytesPerSector_eq,
    checkedMul_eq_some.2 ⟨hsmall.trans (by decide), rfl⟩]

/-- The window lies in a file of the given size. -/
structure RangeReadWindow.Fits (window : RangeReadWindow) (fileSize : ℕ) : Prop where
  start_lt : window.readStart < window.readEnd
  end_le : window.readEnd ≤ fileSize
  bytes_eq : window.bytesToRead = window.readEnd - window.readStart
  bytes_le : window.bytesToRead ≤ window.bufferLen
  size_lt : fileSize < 2 ^ 32

/-- The bytes of the window before a position of the file. -/
def RangeReadWindow.upTo (window : RangeReadWindow) (file : List UInt8)
  (position : ℕ) : List UInt8 := (file.take (min position window.readEnd)).drop window.readStart

open RangeReadWindow (upTo)

lemma length_upTo (h : min position window.readEnd ≤ file.length) :
  (window.upTo file position).length = min position window.readEnd - window.readStart := by
  rw [upTo, length_drop, length_take]
  omega

lemma upTo_congr
    (h : max position position' ≤ window.readStart ∨ window.readEnd ≤ min position position')
    (file : List UInt8) : window.upTo file position = window.upTo file position' := by
  rcases h with _ | _
  · rw [upTo, upTo, drop_of_length_le, drop_of_length_le]
    all_goals
      rw [length_take]
      omega
  · rw [upTo, upTo, min_eq_right (by omega), min_eq_right (by omega)]

lemma length_extendContents (h : contents.length < fileSize) (sector : Sector) :
    (extendContents fileSize contents sector).length =
      min (contents.length + sectorBytes) fileSize := by
  rw [extendContents, length_append, length_take, sector.length_eq]
  omega

lemma readClusterContents_extends
    (h : readClusterContents disk firstSector fileSize sectors sectorOffset contents =
        some contents') (hlt : contents.length < fileSize) :
    contents <+: contents' ∧
    contents'.length = min (contents.length + sectorBytes * sectors) fileSize := by
  induction sectors generalizing sectorOffset contents with
  | zero =>
    cases h
    exact ⟨prefix_rfl, by omega⟩
  | succ _ ih =>
    rw [readClusterContents, bind_eq_bind, bind_eq_some_iff] at h
    obtain ⟨sector, -, h⟩ := h
    have hlen := length_extendContents hlt sector
    rw [mul_succ]
    dsimp only at h
    split at h
    · cases h
      exact ⟨prefix_append _ _, by omega⟩
    · obtain ⟨hfront, _⟩ := ih h (by omega)
      exact ⟨(prefix_append _ _).trans hfront, by omega⟩

lemma upTo_sector {sector : Sector} (hfits : window.Fits fileSize)
    (hin : contents.length < window.readEnd)
    (hfile : extendContents fileSize contents sector <+: file) :
    window.upTo file contents.length ++
      (sector.bytes.take (min (window.readEnd - contents.length) sectorBytes)).drop
        (window.readStart - contents.length) =
      window.upTo file (contents.length + sectorBytes) := by
  obtain ⟨rest, rfl⟩ := hfile
  have hle := hfits.end_le
  have hlen := sector.length_eq
  have haft : (extendContents fileSize contents sector ++ rest).take
    (min (contents.length + sectorBytes) window.readEnd) =
    contents ++ sector.bytes.take (min (window.readEnd - contents.length) sectorBytes) := by
    rw [extendContents, append_assoc, take_append, take_of_length_le (by omega),
      take_append_of_le_length (by rw [length_take]; omega), take_take]
    congr 2
    omega
  rw [upTo, upTo, haft, min_eq_left (le_of_lt hin), extendContents, append_assoc,
    take_left, drop_append]

lemma readClusterRangeContents_past (hpast : window.readEnd ≤ position)
    (hfits : position + sectorBytes * sectors < wordSize) :
    readClusterRangeContents disk window firstSector sectors sectorOffset position stored =
      some stored := by
  induction sectors generalizing sectorOffset position with
  | zero => rfl
  | succ _ ih =>
    rw [mul_succ] at hfits
    rw [readClusterRangeContents, checkedAdd_eq_some.2 ⟨by omega, rfl⟩, bind_eq_bind,
      bind_some, if_neg (by omega)]
    exact ih (by omega) (by omega)

lemma readClusterRangeContents_of_contents (hfits : window.Fits fileSize)
    (h : readClusterContents disk firstSector fileSize sectors sectorOffset contents =
        some contents') (hlt : contents.length < fileSize) (hfile : contents' <+: file)
    (hbound : contents.length + sectorBytes * sectors < wordSize) :
    readClusterRangeContents disk window firstSector sectors sectorOffset contents.length
      (window.upTo file contents.length) =
      some (window.upTo file contents'.length) := by
  have ⟨hst, hend, hbytes, hbuf, hsize⟩ := hfits
  induction sectors generalizing sectorOffset contents with
  | zero =>
    cases h
    rfl
  | succ sectors ih =>
    obtain ⟨-, hended⟩ := readClusterContents_extends h hlt
    rw [readClusterContents, bind_eq_bind, bind_eq_some_iff] at h
    obtain ⟨sector, hsector, h⟩ := h
    have hlen := length_extendContents hlt sector
    rw [mul_succ] at hbound hended
    dsimp only at h
    have hmore : extendContents fileSize contents sector <+: file := by
      split at h
      · cases h
        exact hfile
      · exact (readClusterContents_extends h (by omega)).1.trans hfile
    have hfileLength := hmore.length_le
    have hrest : readClusterRangeContents disk window firstSector sectors (sectorOffset + 1)
      (contents.length + sectorBytes) (window.upTo file (contents.length + sectorBytes)) =
      some (window.upTo file contents'.length) := by
      split at h
      · rw [readClusterRangeContents_past (by omega) (by omega)]
        exact congrArg some (upTo_congr (.inr (by omega)) file)
      · have hwhole := ih h (by omega) (by omega)
        rwa [hlen, min_eq_left (by omega)] at hwhole
    rw [readClusterRangeContents, checkedAdd_eq_some.2 ⟨by omega, rfl⟩, bind_eq_bind, bind_some]
    split
    · next hin =>
      have hsto : (window.upTo file contents.length).length =
        min contents.length window.readEnd - window.readStart := length_upTo (by omega)
      rw [hsector, bind_eq_bind, bind_some]
      dsimp only
      rw [checkedAdd_eq_some.2 ⟨by omega, rfl⟩, bind_some, upTo_sector hfits hin.2 hmore,
        length_upTo (by omega)]
      split
      · exact congrArg some (upTo_congr (.inr (by omega)) file)
      · exact hrest
    · next _ =>
      rw [← hrest]
      exact congrArg _ (upTo_congr (by omega) file)

lemma readContentsLoop_succ
    (h : volume.readContentsLoop disk fileSize (turns + 1) cluster visited contents = some file)
    (hlt : contents.length < fileSize) :
    volume.validateCluster cluster visited = true ∧
    ∃ firstSector contents',
      volume.clusterFirstSector cluster = some firstSector ∧
      readClusterContents disk firstSector fileSize volume.sectorsPerCluster 0 contents =
        some contents' ∧
      ((fileSize ≤ contents'.length ∧ file = contents') ∨
       (contents'.length < fileSize ∧
        ∃ next,
          volume.readNextCluster disk cluster = some next ∧
          isEndOfChain next = false ∧
          (isBadCluster next || (volume.clusterFirstSector next).isNone) = false ∧
          volume.readContentsLoop disk fileSize turns next (visited ++ [cluster]) contents' =
            some file)) := by
  rw [readContentsLoop, if_neg (Nat.not_le_of_lt hlt)] at h
  split at h
  · cases h
  next hvalid =>
  simp only [bind_eq_bind, bind_eq_some_iff] at h
  obtain ⟨firstSector, hfirst, contents', hread, h⟩ := h
  refine ⟨by simpa using hvalid, firstSector, contents', hfirst, hread, ?_⟩
  split at h
  · next hfull => exact .inl ⟨hfull, (Option.some.inj h).symm⟩
  next hmore =>
  obtain ⟨next, hnext, h⟩ := bind_eq_some_iff.1 h
  split at h
  · cases h
  next hend =>
  split at h
  · cases h
  · next hinv =>
    exact .inr ⟨Nat.lt_of_not_le hmore, next, hnext, by simpa using hend,
      Bool.eq_false_of_not_eq_true hinv, h⟩

lemma readContentsLoop_extends
    (h : volume.readContentsLoop disk fileSize turns cluster visited contents = some file)
    (hturns : fileSize ≤ contents.length + turns) (hlt : contents.length < fileSize) :
    contents <+: file ∧ file.length = fileSize := by
  induction turns generalizing cluster visited contents with
  | zero => omega
  | succ _ ih =>
    obtain ⟨-, _, _, -, hread, hrest⟩ := readContentsLoop_succ h hlt
    obtain ⟨hfront, _⟩ := readClusterContents_extends hread hlt
    have hbnd := volume.clusterBytes_bounds
    rcases hrest with ⟨_, rfl⟩ | ⟨hmore, _, -, -, -, hrest⟩
    · exact ⟨hfront, by omega⟩
    · obtain ⟨hfront', hend⟩ := ih hrest (by omega) hmore
      exact ⟨hfront.trans hfront', hend⟩

lemma readRangeLoop_of_contents (hfits : window.Fits fileSize)
    (h : volume.readContentsLoop disk fileSize turns cluster visited contents = some file)
    (hturns : fileSize ≤ contents.length + turns) (hlt : contents.length < fileSize)
    (hturns' : window.readEnd ≤ contents.length + turns') :
    volume.readRangeLoop disk window (sectorBytes * volume.sectorsPerCluster) turns' cluster visited
      contents.length (window.upTo file contents.length) =
      some (window.upTo file fileSize) := by
  have ⟨hst, hle, hbytes, _, hsize⟩ := hfits
  have hbnd := volume.clusterBytes_bounds
  induction turns generalizing cluster visited contents turns' with
  | zero => omega
  | succ _ ih =>
    cases turns' with
    | zero => exact congrArg some (upTo_congr (.inr (by omega)) file)
    | succ _ =>
      rw [readRangeLoop]
      split
      · next _ => exact congrArg some (upTo_congr (.inr (by omega)) file)
      next _ =>
      obtain ⟨-, _⟩ := readContentsLoop_extends h hturns hlt
      obtain ⟨hvalid, firstSector, contents', hfirst, hread, hrest⟩ := readContentsLoop_succ h hlt
      obtain ⟨_, _⟩ := readClusterContents_extends hread hlt
      have hfile : contents' <+: file := by
        rcases hrest with ⟨-, rfl⟩ | ⟨hmore, next, -, -, -, hrest⟩
        · exact prefix_rfl
        · exact (readContentsLoop_extends hrest (by omega) hmore).1
      have hbound : contents.length + sectorBytes * volume.sectorsPerCluster < wordSize := by
        rw [wordSize]
        omega
      -- the cluster is read for the range, or it lies before it
      have hsto : (if window.readStart < contents.length +
        sectorBytes * volume.sectorsPerCluster then
          (volume.clusterFirstSector cluster).bind fun firstSector =>
            readClusterRangeContents disk window firstSector volume.sectorsPerCluster 0
              contents.length (window.upTo file contents.length)
        else some (window.upTo file contents.length)) =
        some (window.upTo file contents'.length) := by
        split
        · rw [hfirst, bind_some]
          exact readClusterRangeContents_of_contents hfits hread hlt hfile hbound
        · exact congrArg some (upTo_congr (.inl (by omega)) file)
      rw [hvalid, checkedAdd_eq_some.2 ⟨hbound, rfl⟩]
      simp only [Bool.not_true, Bool.false_eq_true, if_false, bind_eq_bind,
        bind_some, hsto, length_upTo
          (show min contents'.length window.readEnd ≤ file.length by omega)]
      split
      · exact congrArg some (upTo_congr (.inr (by omega)) file)
      rcases hrest with ⟨_, -⟩ | ⟨hmore, _, hnext, hend, hvalid', hrest⟩
      · omega
      have hpos : contents.length + sectorBytes * volume.sectorsPerCluster =
        contents'.length := by omega
      rw [hnext, bind_some, hend, hvalid', hpos]
      exact ih hrest (by omega) hmore (by omega)

def rangeWindow (entry : FileAllocationTable32DirectoryEntry) (offset : ℕ) (output : List
  UInt8) : RangeReadWindow := ⟨offset, offset + min output.length (entry.fileSize - offset),
    output.length, min output.length (entry.fileSize - offset)⟩

lemma readFileRange_eq (disk : BlockDevice) (volume : FileAllocationTable32Volume)
    {entry : FileAllocationTable32DirectoryEntry} {output : List UInt8}
    (hoff : offset < entry.fileSize) (houtput : output ≠ []) :
    (rangeWindow entry offset output).Fits entry.fileSize ∧
    volume.readFileRange disk entry offset output =
      (volume.readRangeLoop disk (rangeWindow entry offset output) (sectorBytes *
        volume.sectorsPerCluster) (rangeWindow entry offset output).readEnd entry.firstCluster [] 0
        []).map
      fun stored => (stored.length, stored ++ output.drop stored.length) := by
  have hsize := entry.fileSize_lt
  have hpos : 0 < output.length := length_pos_iff.2 houtput
  constructor
  · exact ⟨Nat.lt_add_of_pos_right (by omega), by dsimp only [rangeWindow]; omega,
      (Nat.add_sub_cancel_left ..).symm, Nat.min_le_left .., hsize⟩
  rw [readFileRange, if_neg (by simp [houtput, hoff])]
  dsimp only
  rw [checkedAdd_eq_some.2 ⟨by rw [wordSize]; omega, rfl⟩, bytesPerCluster_eq]
  exact map_eq_bind.symm

/-- **Where the whole file can be read, a range is a slice of it.** -/
theorem read_file_range_of_contents (disk : BlockDevice) (volume : FileAllocationTable32Volume)
    (entry : FileAllocationTable32DirectoryEntry) (contents : List UInt8) (offset : ℕ)
    (output : List UInt8) (h : volume.readFileContents disk entry = some contents) :
    volume.readFileRange disk entry offset output =
      some
        (min output.length (entry.fileSize - offset), (contents.drop offset).take (min output.length
           (entry.fileSize - offset)) ++
         output.drop (min output.length (entry.fileSize - offset))) := by
  by_cases hsome : offset < entry.fileSize ∧ output ≠ []
  · obtain ⟨hfits, hrange⟩ := readFileRange_eq disk volume hsome.1 hsome.2
    have hpos : 0 < entry.fileSize := by omega
    rw [readFileContents, if_neg (Nat.ne_of_gt hpos)] at h
    obtain ⟨-, hlength⟩ := readContentsLoop_extends h (by simp) hpos
    have hread := readRangeLoop_of_contents hfits h (by simp) hpos (Nat.le_add_left ..)
    rw [upTo, upTo, length_nil, Nat.zero_min, take_zero, drop_nil,
      Nat.min_eq_right hfits.end_le, drop_take] at hread
    rw [hrange, hread, map_some, length_take, length_drop, hlength]
    simp only [rangeWindow, Nat.add_sub_cancel_left]
    rw [Nat.min_eq_left (Nat.min_le_right ..)]
  have hzero : min output.length (entry.fileSize - offset) = 0 := by
    rw [not_and_or, not_not, Nat.not_lt] at hsome
    rcases hsome with _ | rfl
    · omega
    · exact Nat.zero_min _
  have hnothing : output = [] ∨ entry.fileSize ≤ offset := by
    rw [not_and_or, not_not, Nat.not_lt] at hsome
    exact hsome.symm
  rw [readFileRange, if_pos hnothing, hzero, take_zero, drop_zero, nil_append]

/-- The cluster a number of links down the chain, `none` past its end. -/
def clusterAt (disk : BlockDevice) (volume : FileAllocationTable32Volume) :
  (links cluster : ℕ) → Option ℕ
  | 0, cluster => some cluster
  | links + 1, cluster => do
    let next ← volume.readNextCluster disk cluster
    if isEndOfChain next then none else clusterAt disk volume links next

lemma length_readClusterRangeContents (hfits : window.Fits fileSize)
  (h : readClusterRangeContents disk window firstSector sectors sectorOffset position stored =
    some stored') (hsto : stored.length = min position window.readEnd - window.readStart) :
  stored'.length = min (position + sectorBytes * sectors) window.readEnd - window.readStart := by
  obtain ⟨_, _, _, _, _⟩ := hfits
  induction sectors generalizing sectorOffset position stored with
  | zero =>
    cases h
    exact hsto
  | succ sectors ih =>
    simp only [readClusterRangeContents, bind_eq_bind, bind_eq_some_iff, checkedAdd_eq_some] at h
    obtain ⟨_, ⟨-, rfl⟩, h⟩ := h
    rw [mul_succ, add_comm (sectorBytes * sectors), ← add_assoc]
    split at h
    · next _ =>
      simp only [bind_eq_some_iff] at h
      obtain ⟨sector, -, _, -, h⟩ := h
      have hlen : (stored ++ (sector.bytes.take (min (window.readEnd - position)
        sectorBytes)).drop (window.readStart - position)).length =
        min (position + sectorBytes) window.readEnd - window.readStart := by
        rw [length_append, length_drop, length_take, sector.length_eq]
        omega
      split at h
      · cases h
        omega
      · exact ih h hlen
    · exact ih h (by omega)

/-- The range is read in full exactly when the chain goes on to the cluster of its last byte. -/
lemma length_readRangeLoop (hfits : window.Fits fileSize)
    (h : volume.readRangeLoop disk window (sectorBytes * volume.sectorsPerCluster) turns cluster
        visited position stored =
        some stored') (hsto : stored.length = min position window.readEnd - window.readStart)
    (hturns : window.readEnd ≤ position + turns) (hin : position < window.readEnd) :
    stored'.length = window.bytesToRead ↔
      (clusterAt disk volume ((window.readEnd - 1 - position) / (sectorBytes *
        volume.sectorsPerCluster)) cluster).isSome := by
  have hbnd := volume.clusterBytes_bounds
  have hbytes := hfits.bytes_eq
  have hst := hfits.start_lt
  induction turns generalizing cluster visited position stored with
  | zero => omega
  | succ _ ih =>
    rw [readRangeLoop, if_neg (Nat.not_le_of_lt hin)] at h
    split at h
    · cases h
    simp only [bind_eq_bind, bind_eq_some_iff, checkedAdd_eq_some] at h
    obtain ⟨_, ⟨-, rfl⟩, read, hread, h⟩ := h
    have hlen : read.length = min (position + sectorBytes * volume.sectorsPerCluster)
      window.readEnd - window.readStart := by
      split at hread
      · obtain ⟨_, -, hread⟩ := bind_eq_some_iff.1 hread
        exact length_readClusterRangeContents hfits hread hsto
      · cases hread
        omega
    split at h
    · cases h
      rw [Nat.div_eq_of_lt (by omega)]
      exact iff_of_true (by omega) rfl
    have hnext : (window.readEnd - 1 - position) / (sectorBytes * volume.sectorsPerCluster) =
      (window.readEnd - 1 - (position + sectorBytes * volume.sectorsPerCluster)) /
        (sectorBytes * volume.sectorsPerCluster) + 1 := by
      rw [← Nat.add_div_right _ (by omega)]
      congr 1
      omega
    obtain ⟨next, hlink, h⟩ := bind_eq_some_iff.1 h
    rw [hnext, clusterAt, hlink, bind_eq_bind, bind_some]
    split at h
    · next hended =>
      cases h
      rw [if_pos hended]
      exact iff_of_false (by omega) nofun
    next hgoes =>
    rw [if_neg hgoes]
    split at h
    · cases h
    · exact ih h hlen (by omega) (by omega)

/-- **A successful range read is in full exactly when the chain reaches the cluster of the last
byte asked for**: an end mark before it is no failure. -/
theorem read_file_range_full_iff (disk : BlockDevice) (volume : FileAllocationTable32Volume)
    (entry : FileAllocationTable32DirectoryEntry) (offset : ℕ) (output output' : List UInt8)
    (count : ℕ) (hoffset : offset < entry.fileSize) (houtput : output ≠ [])
    (h : volume.readFileRange disk entry offset output = some (count, output')) :
    count = min output.length (entry.fileSize - offset) ↔
      (clusterAt disk volume ((offset + min output.length (entry.fileSize - offset) - 1) /
        (sectorBytes * volume.sectorsPerCluster)) entry.firstCluster).isSome := by
  obtain ⟨hfits, hrange⟩ := readFileRange_eq disk volume hoffset houtput
  rw [hrange, map_eq_some_iff] at h
  obtain ⟨_, hread, h⟩ := h
  cases h
  exact length_readRangeLoop hfits hread (by simp) (Nat.le_add_left ..)
    (zero_lt_of_lt hfits.start_lt)

/-! ### A file of two sectors on one cluster -/

/-- A sector of the given bytes and zeros. -/
def paddedSector (bytes : List UInt8) (h : bytes.length ≤ sectorBytes) : Sector :=
  ⟨bytes ++ List.replicate (sectorBytes - bytes.length) 0, by simp; omega⟩

/-- One sector to a cluster, the table in sector one and the data from sector two on. -/
def smallVolume : FileAllocationTable32Volume :=
  ⟨512, 1, 1, 1, 1, 0, 0, 16, 2, 2, 14, rfl, Nat.one_pos, by decide⟩

/-- The chain that starts at cluster two ends there. -/
def smallDisk : BlockDevice := fun sector =>
  if sector = 1 then some (paddedSector [0, 0, 0, 0, 0, 0, 0, 0, 255, 255, 255, 15] (by decide))
  else some (paddedSector [65, 66, 67] (by decide))

/-- The boot sector of `smallVolume`. -/
def smallBootSector : Sector :=
  paddedSector (List.replicate 12 0 ++ [2, 1, 1, 0, 1] ++ List.replicate 15 0 ++
    [16, 0, 0, 0, 1] ++ List.replicate 7 0 ++ [2]) (by decide)

theorem read_file_range_of_contents_tail :
  parseVolume smallBootSector = some smallVolume ∧
    smallVolume.readFileRange smallDisk ⟨2, 3, by decide⟩ 1 [1, 1, 1, 1] =
      some (2, [66, 67, 1, 1]) := by
  have hread := read_file_range_of_contents smallDisk smallVolume ⟨2, 3, by decide⟩ [65, 66, 67]
    1 [1, 1, 1, 1] (by decide +kernel)
  exact ⟨rfl, hread⟩

/-- 1024 bytes are asked for and there, 512 come back as a success. -/
theorem short_chain_short_read :
  (smallVolume.readFileRange smallDisk ⟨2, 1024, by decide⟩ 0 (List.replicate 1024 0)).map
    Prod.fst = some 512 := by decide +kernel

theorem read_file_range_full_iff_first_byte :
  (clusterAt smallDisk smallVolume 0 2).isSome ∧
    smallVolume.readFileRange smallDisk ⟨2, 1024, by decide⟩ 0 [0] = some (1, [65]) := by
  have hread : smallVolume.readFileRange smallDisk ⟨2, 1024, by decide⟩ 0 [0] = some (1, [65]) := by
    decide +kernel
  exact ⟨(read_file_range_full_iff _ _ _ _ _ _ _ (by decide) (by decide) hread).1 rfl, hread⟩

end FileAllocationTable32Volume
end ManaOS
