/-
The partition array as one run of bytes, and the partition selected from it.

* `partition_array_contiguous_iff`: when the scan reads one run of bytes;
* `partition_selection_iff` (**selection**): when the whole array decides.
-/
import ManaOS.Lib.Selection
import ManaOS.Storage.GuidPartitionTable

namespace ManaOS
open Checked List Slices
namespace GuidPartitionTableHeader
variable {disk : BlockDevice} {header : GuidPartitionTableHeader} {scan : TableScan}

/-- The scan completes with the checksum of the header. -/
structure Accepts (disk : BlockDevice) (header : GuidPartitionTableHeader) (scan : TableScan) :
    Prop where
  scan_eq : header.scanPartitionTable disk = .ok (some scan)
  crc_eq : finalizeCrc32 scan.partitionArrayCrc32 = header.partitionEntryArrayCrc32

/-- The bytes of the array, from its first sector on. -/
def arrayBytes (disk : BlockDevice) (header : GuidPartitionTableHeader) : List UInt8 :=
  ((range header.sectorCount).flatMap fun k => disk.bytesAt (header.entriesLba.toNat + k)).take
    (header.count.toNat * header.size.toNat)

/-- An entry of the array as one run of bytes. -/
def arrayEntry (disk : BlockDevice) (header : GuidPartitionTableHeader) (k : ℕ) : ℕ × List UInt8 :=
    (k, slice (header.arrayBytes disk) (k * header.size.toNat) header.size.toNat)

/-- The scan has read the array as one run of bytes. -/
structure ReadsArray (disk : BlockDevice) (header : GuidPartitionTableHeader) (scan : TableScan) :
    Prop where
  crc_eq : header.partitionEntryArrayCrc32 =
    finalizeCrc32 (updateCrc32Bytes crc32Initial (header.arrayBytes disk))
  entries_eq : scan.entries = (range header.count.toNat).map (header.arrayEntry disk)

lemma Accepts.run (h : Accepts disk header scan) :
    header.Admitted ∧
    scan.entries = (range header.sectorCount).flatMap (header.chunk disk) ∧
    scan.partitionArrayCrc32 = updateCrc32Bytes crc32Initial (scan.entries.flatMap Prod.snd) ∧
    scan.partitions =
      (range header.sectorCount).flatMap (fun k => (candidate (header.chunk disk k)).toList) ∧
    ∀ k < header.sectorCount,
      header.entriesLba.toNat + k < wordSize ∧ (disk (header.entriesLba.toNat + k)).isSome := by
  have hscan := h.scan_eq
  rw [scanPartitionTable] at hscan
  split at hscan
  · cases hscan
  next _ =>
  split at hscan
  · cases hscan
  have hadm : header.Admitted := by
    rw [Admitted]
    omega
  obtain ⟨hents, hcrc, hparts, hreads⟩ := scanSectors_run hadm hscan (by simp)
  rw [← range_eq_range', nil_append] at hents hparts
  rw [← range_eq_range', ← hents] at hcrc
  refine ⟨hadm, hents, hcrc, hparts, fun k hk => ?_⟩
  have hpos : 0 < header.count.toNat := by
    refine Nat.pos_of_ne_zero fun hzero => ?_
    rw [sectorCount, hzero, Nat.zero_mul] at hk
    exact absurd hk (by decide +revert)
  have hlast := (sectorCount_pred_mul_lt hpos hadm).2
  have hle : k * header.entriesPerSector ≤ (header.sectorCount - 1) * header.entriesPerSector :=
    Nat.mul_le_mul_right _ (by omega)
  have hread := hreads k hk
  rw [Nat.zero_add] at hread
  exact hread (by omega)

lemma chunk_eq (hreads : ∀ k < header.sectorCount, (disk (header.entriesLba.toNat + k)).isSome)
    (hk : k < header.sectorCount)
    (htile : k * header.entriesPerSector * header.size.toNat = k * sectorBytes) :
    header.chunk disk k =
      (range (min (header.count.toNat - k * header.entriesPerSector) header.entriesPerSector)).map
        fun i => header.arrayEntry disk (k * header.entriesPerSector + i) := by
  refine map_congr_left fun i hi => Prod.ext rfl ?_
  rw [mem_range] at hi
  have hblocks : ∀ j < header.sectorCount,
    (disk.bytesAt (header.entriesLba.toNat + j)).length = sectorBytes := by
    intro j hj
    obtain ⟨sector, hsector⟩ := Option.isSome_iff_exists.1 (hreads j hj)
    rw [BlockDevice.bytesAt, hsector]
    exact sector.length_eq
  have hend : (k * header.entriesPerSector + i) * header.size.toNat + header.size.toNat ≤
    header.count.toNat * header.size.toNat := by
    rw [← Nat.succ_mul]
    exact Nat.mul_le_mul_right _ (by omega)
  dsimp only [arrayEntry, arrayBytes]
  rw [slice_take hend, Nat.add_mul, htile, slice_flatMap hblocks hk (chunk_fits (by omega))]

lemma Accepts.readsArray (h : Accepts disk header scan)
  (htile : ∀ k < header.sectorCount,
    k * header.entriesPerSector * header.size.toNat = k * sectorBytes)
  (hall : header.count.toNat ≤ header.sectorCount * header.entriesPerSector) :
  ReadsArray disk header scan := by
  obtain ⟨-, hents, hcrc, -, hreads⟩ := h.run
  have hmap : scan.entries = (range header.count.toNat).map (header.arrayEntry disk) := by
    rw [hents, ← Nat.min_eq_left hall, ← flatMap_chunks, flatMap_def, flatMap_def]
    refine congrArg flatten (map_congr_left fun k hk => ?_)
    rw [mem_range] at hk
    exact chunk_eq (fun j hj => (hreads j hj).2) hk (htile k hk)
  refine ⟨?_, hmap⟩
  have hbytes : scan.entries.flatMap Prod.snd = header.arrayBytes disk := by
    rw [hmap, flatMap_map]
    exact (flatMap_slice ..).trans (take_of_length_le (by rw [arrayBytes, length_take]; omega))
  rw [← h.crc_eq, hcrc, hbytes]

lemma count_mul_size_le (header : GuidPartitionTableHeader) :
  header.count.toNat * header.size.toNat ≤ header.sectorCount * sectorBytes := by
  rw [sectorCount, sectorBytes]
  omega

lemma Accepts.readsArray_of_full (h : Accepts disk header scan)
  (hfull : header.entriesPerSector * header.size.toNat = sectorBytes) :
  ReadsArray disk header scan := by
  have hpos : 0 < header.size.toNat := Nat.lt_of_lt_of_le (by decide) h.run.1.1
  refine h.readsArray (fun k _ => by rw [Nat.mul_assoc, hfull]) (Nat.le_of_mul_le_mul_right ?_ hpos)
  rw [Nat.mul_assoc, hfull]
  exact header.count_mul_size_le

/-! ### Gaps -/

/-- The same geometry with another checksum. -/
def withCrc (header : GuidPartitionTableHeader) (crc : BitVec 32) : GuidPartitionTableHeader :=
  { header with partitionEntryArrayCrc32 := crc }

lemma scanSectors_withCrc (crc : BitVec 32) : (header.withCrc crc).scanSectors disk sectors k scan =
  header.scanSectors disk sectors k scan := by
  induction sectors generalizing k scan with
  | zero => rfl
  | succ _ ih =>
    simp only [scanSectors, ih]
    rfl

/-- Zeros, but for the part of the first sector behind its entries. -/
def slackDisk (header : GuidPartitionTableHeader) : BlockDevice := fun lba =>
  let zeros := min sectorBytes (if lba = header.entriesLba.toNat then
    header.entriesPerSector * header.size.toNat else sectorBytes)
  some ⟨replicate zeros 0 ++ replicate (sectorBytes - zeros) 255, by simp [zeros]⟩

lemma slice_slackDisk (h : start + width ≤ header.entriesPerSector * header.size.toNat) :
  slice (header.slackDisk.bytesAt lba) start width = replicate width 0 := by
  refine slice_replicate_append ?_
  have hle := header.entriesPerSector_mul_le
  split <;> omega

lemma slackDisk_parses : ∀ entry ∈ header.chunk header.slackDisk k, Parses entry := by
  simp only [chunk, sectorEntries, mem_map, mem_range]
  rintro _ ⟨i, _, rfl⟩
  left
  have hfits : i * header.size.toNat + header.size.toNat ≤
    header.entriesPerSector * header.size.toNat := by
    rw [← Nat.succ_mul]
    exact Nat.mul_le_mul_right _ (by omega)
  rw [slice_slackDisk hfits, isEmptyPartitionEntry, take_replicate, all_replicate]
  simp

lemma not_readsArray_slackDisk (header : GuidPartitionTableHeader) (hadm : header.Admitted)
    (hmod : sectorBytes % header.size.toNat ≠ 0)
    (hlarge : sectorBytes < header.count.toNat * header.size.toNat)
    (hents : scan.entries = (range header.sectorCount).flatMap (header.chunk header.slackDisk)) :
    ¬ ReadsArray header.slackDisk header scan := by
  intro hreads
  have hpos := hadm.entriesPerSector_pos
  have hle := header.entriesPerSector_mul_le
  have hslack : header.entriesPerSector * header.size.toNat < sectorBytes := by
    refine Nat.lt_of_le_of_ne hle fun heq => hmod ?_
    rw [← heq, Nat.mul_mod_left]
  have hmore : header.entriesPerSector < header.count.toNat :=
    Nat.lt_of_mul_lt_mul_right (Nat.lt_trans hslack hlarge)
  have hsecs : 1 < header.sectorCount := by
    rw [sectorCount]
    simp only [sectorBytes] at hlarge ⊢
    omega
  -- the first entry of the second sector
  have hmem : (header.entriesPerSector, slice (header.slackDisk.bytesAt
    (header.entriesLba.toNat + 1)) 0 header.size.toNat) ∈ scan.entries := by
    rw [hents]
    refine mem_flatMap.2 ⟨1, mem_range.2 hsecs, mem_map.2 ⟨0, mem_range.2 (by omega), ?_⟩⟩
    rw [Nat.one_mul, Nat.add_zero, Nat.zero_mul]
  rw [hreads.entries_eq] at hmem
  obtain ⟨k, -, hk⟩ := mem_map.1 hmem
  obtain ⟨rfl, hslice⟩ := Prod.mk.inj hk
  have hsize := hadm.1
  have hsame := congrArg (take 1) hslice
  rw [take_slice (by omega), take_slice (by omega), slice_slackDisk (by
    rw [Nat.zero_add]
    exact Nat.le_trans (by omega) (Nat.le_mul_of_pos_left _ hpos)), arrayBytes,
    slice_take (by omega)] at hsame
  have hfirst := slice_flatMap (f := fun k => header.slackDisk.bytesAt
      (header.entriesLba.toNat + k)) (k := 0) (fun j _ => Sector.length_eq _)
    (Nat.lt_trans Nat.zero_lt_one hsecs) (Nat.add_one_le_iff.2 hslack)
  rw [Nat.zero_mul, Nat.zero_add] at hfirst
  have hbyte : slice (header.slackDisk.bytesAt (header.entriesLba.toNat + 0))
    (header.entriesPerSector * header.size.toNat) 1 = [255] := by
    simp only [BlockDevice.bytesAt, slackDisk, Option.map_some, Option.getD_some]
    rw [Nat.add_zero, if_pos rfl, Nat.min_eq_right hle, slice, drop_append,
      drop_of_length_le (by rw [length_replicate]), length_replicate, Nat.sub_self, nil_append,
      drop_zero, take_replicate, Nat.min_eq_left (by omega)]
    rfl
  rw [hfirst, hbyte] at hsame
  cases hsame

/-- **The scan reads the array as one run of bytes exactly when** entries fill a sector, the array
fits one sector, or its addresses overflow. -/
theorem partition_array_contiguous_iff (header : GuidPartitionTableHeader) :
    (∀ crc disk scan,
      Accepts disk (header.withCrc crc) scan → ReadsArray disk (header.withCrc crc) scan) ↔
      ¬ header.Admitted ∨
      sectorBytes % header.size.toNat = 0 ∨
      header.count.toNat * header.size.toNat ≤ sectorBytes ∨
      wordSize < header.entriesLba.toNat + header.sectorCount := by
  constructor
  · intro h
    by_contra hbad
    rw [not_or, not_or, not_or, not_not, Nat.not_le, Nat.not_lt] at hbad
    obtain ⟨hadm, hmod, hlarge, hlba⟩ := hbad
    obtain ⟨_, hrun, hsome⟩ := header.scanPartitionTable_returns header.slackDisk hadm
      (fun k _ => slackDisk_parses) hlba
    obtain ⟨scan, rfl⟩ := Option.isSome_iff_exists.1 (hsome fun _ => rfl)
    have hscan : (header.withCrc (finalizeCrc32 scan.partitionArrayCrc32)).scanPartitionTable
      header.slackDisk = .ok (some scan) := by
      have hsize : ¬ (header.size.toNat < 48 ∨ sectorBytes < header.size.toNat) := by
        rw [Admitted] at hadm
        omega
      rw [scanPartitionTable, scanSectors_withCrc]
      exact (if_neg hsize).trans ((if_neg (Nat.ne_of_gt hadm.entriesPerSector_pos)).trans hrun)
    obtain ⟨hentries, -⟩ := scanSectors_run hadm hrun (by simp)
    rw [← range_eq_range', nil_append] at hentries
    exact not_readsArray_slackDisk (header.withCrc (finalizeCrc32 scan.partitionArrayCrc32)) hadm
      hmod hlarge hentries (h _ _ _ ⟨hscan, rfl⟩)
  rintro hgood _ _ _ h
  obtain ⟨hadm, -, -, -, hreads⟩ := h.run
  rcases hgood with hnot | hmod | hsmall | hover
  · exact absurd hadm hnot
  · exact h.readsArray_of_full (Nat.div_mul_cancel (Nat.dvd_of_mod_eq_zero hmod))
  · have hpos : 0 < header.size.toNat := Nat.lt_of_lt_of_le (by decide) hadm.1
    have hone : header.sectorCount ≤ 1 := by
      rw [sectorCount]
      simp only [sectorBytes] at hsmall ⊢
      omega
    have hfits : header.count.toNat ≤ header.entriesPerSector :=
      (Nat.le_div_iff_mul_le hpos).2 hsmall
    refine h.readsArray (fun k hk => ?_) ?_
    · rw [Nat.lt_one_iff.1 (Nat.lt_of_lt_of_le hk hone), Nat.zero_mul, Nat.zero_mul, Nat.zero_mul]
    rcases Nat.eq_zero_or_pos header.count.toNat with hzero | hsome
    · exact hzero.trans_le (Nat.zero_le _)
    · have hsector := (sectorCount_pred_mul_lt hsome hadm).1
      exact hfits.trans (Nat.le_mul_of_pos_left _ hsector)
  · have hlba := header.entriesLba.toNat_lt
    have hlast := (hreads (header.sectorCount - 1)
      (show header.sectorCount - 1 < header.sectorCount by rw [wordSize] at hover; omega)).1
    have hlast : header.entriesLba.toNat + (header.sectorCount - 1) < wordSize := hlast
    rw [wordSize] at hover hlast
    omega

/-- Three entries of 192 bytes, two to a sector. -/
def gapHeader : GuidPartitionTableHeader := ⟨1, 0, 2, 3, 192, 0x2e6f0975⟩

/-- Sectors with zeros behind their entries. -/
def gapDisk : BlockDevice := fun _ =>
  some ⟨replicate 384 255 ++ replicate 128 0, by decide +kernel⟩

/-- The table is accepted, with a checksum that is not that of its bytes. -/
theorem wide_entries_skip_bytes :
    inspectPartitionTable gapDisk gapHeader = .ok (some (partitionOf 0 (replicate 192 255))) ∧
    gapHeader.partitionEntryArrayCrc32 ≠
      finalizeCrc32 (updateCrc32Bytes crc32Initial (gapHeader.arrayBytes gapDisk)) := by
  constructor <;> decide +kernel

/-! ### Selection -/

lemma partitionsOf_flatMap (l : List ℕ) (f : ℕ → List (ℕ × List UInt8)) :
  partitionsOf (l.flatMap f) = (l.map fun k => partitionsOf (f k)).flatten := by
  rw [partitionsOf, filter_flatMap, map_flatMap, flatMap_def]
  rfl

lemma nodup_partitionsOf (h : (entries.map Prod.fst).Nodup) : (partitionsOf entries).Nodup := by
  refine Nodup.of_map GuidPartitionTablePartition.index ?_
  rw [partitionsOf, map_map]
  exact h.sublist (filter_sublist.map Prod.fst)

/-- **With 128-byte entries the selected partition is the one that the whole array gives**: the
first of the preferred name, otherwise the first of the basic data type, otherwise the first,
**exactly when** in the first sector with a partition of that name no partition of the basic data
type comes before it.  None is selected only from empty entries. -/
theorem partition_selection_iff (disk : BlockDevice) (header : GuidPartitionTableHeader)
    (scan : TableScan) (hsize : header.size = 128) (h : Accepts disk header scan) :
    (inspectPartitionTable disk header =
       .ok
         (selectPartition
            (partitionsOf ((range header.count.toNat).map (header.arrayEntry disk)))) ↔
       ∀ sector,
         ((range header.sectorCount).map fun k => partitionsOf (header.chunk disk k)).find?
           (fun sector => sector.any (·.isNamed)) =
           some sector →
         sector.find? (·.isPreferred) = sector.find? (·.isNamed)) ∧
    (inspectPartitionTable disk header = .ok none ↔
       ∀ k < header.count.toNat, isEmptyPartitionEntry (header.arrayEntry disk k).2 = true) := by
  obtain ⟨_, hentries, -, hpartitions, -⟩ := h.run
  have hmap := (h.readsArray_of_full (by rw [entriesPerSector, hsize]; rfl)).entries_eq
  have hflat := partitionsOf_flatMap (range header.sectorCount) (header.chunk disk)
  rw [← hentries, hmap] at hflat
  have hnodup : (partitionsOf ((range header.count.toNat).map (header.arrayEntry disk))).Nodup := by
    refine nodup_partitionsOf ?_
    rw [map_map]
    exact (map_id _).symm ▸ nodup_range
  have hfound : inspectPartitionTable disk header = .ok (Selection.choose (·.isNamed)
    (·.isBasicData) (Selection.proposals (·.isNamed) (·.isBasicData)
      ((range header.sectorCount).map fun k => partitionsOf (header.chunk disk k)))) := by
    rw [inspectPartitionTable, h.scan_eq, ok_bind]
    dsimp only
    rw [if_neg (not_not.2 h.crc_eq), hpartitions, Selection.proposals, flatMap_map]
    rfl
  rw [hfound, Except.ok.injEq, Except.ok.injEq, Selection.choose_proposals_eq_none, ← hflat]
  constructor
  · rw [hflat] at hnodup ⊢
    exact Selection.choose_proposals_iff hnodup
  · rw [partitionsOf, map_eq_nil_iff, filter_eq_nil_iff]
    simp

/-- A basic data partition, and one of the preferred name after it. -/
def hiddenDisk : BlockDevice := fun _ =>
  some ⟨microsoftBasicDataTypeGuid ++ replicate 112 0 ++ replicate 16 1 ++ replicate 40 0 ++
    preferredPartitionName.flatMap ([·, 0]) ++ replicate 306 0, by decide +kernel⟩

def hiddenHeader : GuidPartitionTableHeader := ⟨1, 0, 2, 2, 128, 0xc1b63798⟩

/-- The partition of the preferred name is there, and the other one is selected. -/
theorem basic_data_hides_name :
    inspectPartitionTable hiddenDisk hiddenHeader =
      .ok (some (partitionOf 0 (hiddenHeader.arrayEntry hiddenDisk 0).2)) ∧
    (partitionOf 1 (hiddenHeader.arrayEntry hiddenDisk 1).2).isNamed = true ∧
    (partitionOf 0 (hiddenHeader.arrayEntry hiddenDisk 0).2).isNamed = false := by
  refine ⟨?_, ?_, ?_⟩ <;> decide +kernel

/-- A basic data partition in the first sector of the array; in the second one a partition of the
preferred name, behind another one that is neither. -/
def laterDisk : BlockDevice := fun lba =>
  if lba = 2 then some ⟨microsoftBasicDataTypeGuid ++ replicate 496 0, by decide +kernel⟩
  else some ⟨replicate 16 1 ++ replicate 112 0 ++ replicate 16 1 ++ replicate 40 0 ++
    preferredPartitionName.flatMap ([·, 0]) ++ replicate 306 0, by decide +kernel⟩

def laterHeader : GuidPartitionTableHeader := ⟨1, 0, 2, 6, 128, 0xe265d90f⟩

def laterScan : TableScan :=
  TableScan.advance
    (TableScan.advance { entriesRemaining := 6 } (laterHeader.chunk laterDisk 0))
    (laterHeader.chunk laterDisk 1)

/-- The last of six entries has the preferred name, and is selected. -/
theorem partition_selection_iff_later_sector :
    inspectPartitionTable laterDisk laterHeader =
      .ok (selectPartition (partitionsOf ((range 6).map (laterHeader.arrayEntry laterDisk)))) ∧
    selectPartition (partitionsOf ((range 6).map (laterHeader.arrayEntry laterDisk))) =
      some (partitionOf 5 (laterHeader.arrayEntry laterDisk 5).2) ∧
    (partitionOf 5 (laterHeader.arrayEntry laterDisk 5).2).isNamed = true := by
  refine ⟨(partition_selection_iff laterDisk laterHeader laterScan rfl ⟨?_, ?_⟩).1.2 ?_, ?_, ?_⟩
  · decide +kernel
  · decide +kernel
  · have hsecond : ((range 2).map fun k => partitionsOf (laterHeader.chunk laterDisk k)).find?
        (fun sector => sector.any (·.isNamed)) = some
        (partitionsOf (laterHeader.chunk laterDisk 1)) := by
      decide +kernel
    intro sector hsector
    cases hsecond.symm.trans hsector
    decide +kernel
  · decide +kernel
  · decide +kernel

end GuidPartitionTableHeader
end ManaOS
