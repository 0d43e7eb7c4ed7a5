/-
The backup boot sector of a FAT32 volume (`inspect_boot_sector` in `parser.rs`).

Every sector is read into one DMA buffer, and a slice of it shows what the buffer holds when used.

* `backup_validation_iff` (**backup**): when a validated backup agrees with the boot sector.
-/
import ManaOS.Lib.Slices
import ManaOS.Storage.FileAllocationTable

namespace ManaOS
open Slices List

/-- A slice of the DMA buffer, by what the buffer holds. -/
abbrev SectorView := Sector → List UInt8

/-- `from_raw_parts` at the data address. -/
def dataAddressView : SectorView := Sector.bytes

def bootSignature : ℕ := 0xaa55

/-- Offsets and sizes of the fields that `boot_sector_field_matches` compares. -/
def comparedFields : List (ℕ × ℕ) :=
  [(11, 2), (13, 1), (14, 2), (16, 1), (32, 4), (36, 4), (44, 4), (48, 2), (50, 2)]

def bootSectorFieldMatches (primarySector backupSector : List UInt8) : Bool := comparedFields.all
  fun field => slice primarySector field.1 field.2 == slice backupSector field.1 field.2

/-- What is logged about the backup. -/
inductive BackupReport
  | outsideReservedArea | unreadable | unsigned | validated | differs
  deriving DecidableEq

def validateBackupBootSector (disk : BlockDevice) (volume : FileAllocationTable32Volume)
  (primarySector : SectorView) : BackupReport :=
  if volume.backupBootSector = 0 ∨ volume.reservedSectorCount ≤ volume.backupBootSector then
    .outsideReservedArea
  else
    match disk volume.backupBootSector with
    | none => .unreadable
    -- the buffer after the second read, behind both views
    | some buffer =>
      let backupSector := dataAddressView
      if buffer.readLe 2 510 ≠ bootSignature then .unsigned
      else if bootSectorFieldMatches (primarySector buffer) (backupSector buffer) then .validated
      else .differs

/-- The inspection with its report; the information sector, read last, is only logged. -/
def inspectBootSector (disk : BlockDevice) : Option (FileAllocationTable32Volume × BackupReport) :=
  do
  let buffer ← disk 0
  let sector := dataAddressView
  if buffer.readLe 2 510 ≠ bootSignature then none
  else
    let volume ← parseVolume buffer
    return (volume, validateBackupBootSector disk volume sector)

/-- The disk has an accepted boot sector and a signed backup of it in the reserved area. -/
structure HasBackup (disk : BlockDevice) (volume : FileAllocationTable32Volume)
    (primary backup : Sector) : Prop where
  primary_eq : disk 0 = some primary
  primary_signed : primary.readLe 2 510 = bootSignature
  volume_eq : parseVolume primary = some volume
  backup_pos : volume.backupBootSector ≠ 0
  backup_lt : volume.backupBootSector < volume.reservedSectorCount
  backup_eq : disk volume.backupBootSector = some backup
  backup_signed : backup.readLe 2 510 = bootSignature

lemma bootSectorFieldMatches_self (bytes : List UInt8) : bootSectorFieldMatches bytes bytes =
  true := all_eq_true.2 fun _ _ => beq_self_eq_true _

lemma validateBackupBootSector_eq_validated {disk : BlockDevice}
  {volume : FileAllocationTable32Volume} :
  validateBackupBootSector disk volume dataAddressView = .validated ↔
    volume.backupBootSector ≠ 0 ∧ volume.backupBootSector < volume.reservedSectorCount ∧ ∃ backup,
    disk volume.backupBootSector = some backup ∧ backup.readLe 2 510 = bootSignature := by
  rw [validateBackupBootSector]
  split
  · next hout =>
    refine iff_of_false (by simp) fun h => ?_
    rcases hout with hzero | hle
    · exact h.1 hzero
    · exact absurd h.2.1 (Nat.not_lt.2 hle)
  next hin =>
  rw [not_or, Nat.not_le] at hin
  cases hdisk : disk volume.backupBootSector with
  | none => simp
  | some backup =>
    dsimp only
    rw [bootSectorFieldMatches_self]
    by_cases hsigned : backup.readLe 2 510 = bootSignature <;> simp [hsigned, hin]

/-- **A validated backup agrees with the boot sector on every compared field exactly when** any
signed backup in the reserved area does: the comparison itself never fails. -/
theorem backup_validation_iff (disk : BlockDevice) :
    (∀ volume primary backup,
      inspectBootSector disk = some (volume, .validated) →
      disk 0 = some primary →
      disk volume.backupBootSector = some backup →
      bootSectorFieldMatches primary.bytes backup.bytes = true) ↔
    ∀ volume primary backup,
      HasBackup disk volume primary backup →
      bootSectorFieldMatches primary.bytes backup.bytes = true := by
  constructor
  · intro h volume primary backup hbackup
    refine h volume primary backup ?_ hbackup.primary_eq hbackup.backup_eq
    have hvalid := validateBackupBootSector_eq_validated.2
      ⟨hbackup.backup_pos, hbackup.backup_lt, backup, hbackup.backup_eq, hbackup.backup_signed⟩
    simp [inspectBootSector, hbackup.primary_eq, hbackup.primary_signed, hbackup.volume_eq, hvalid]
  intro h volume primary backup hinspect hprimary hread
  refine h volume primary backup ?_
  simp only [inspectBootSector, hprimary, Option.bind_eq_bind, Option.bind_some] at hinspect
  split at hinspect
  · cases hinspect
  next hsigned =>
  obtain ⟨_, hvolume, hreport⟩ := Option.bind_eq_some_iff.1 hinspect
  obtain ⟨rfl, hvalid⟩ := Prod.mk.inj (Option.some.inj hreport)
  obtain ⟨hpos, hlt, _, hsector, hbackup⟩ := validateBackupBootSector_eq_validated.1 hvalid
  cases hread.symm.trans hsector
  exact ⟨hprimary, not_not.1 hsigned, hvolume, hpos, hlt, hread, hbackup⟩

/-- A volume whose backup, in sector one, has a signature and nothing else. -/
def staleBackupDisk : BlockDevice := fun lba =>
  if lba = 0 then
    some ⟨replicate 12 0 ++ [2, 1, 2, 0, 1] ++ replicate 15 0 ++ [16, 0, 0, 0, 1] ++
      replicate 7 0 ++ [2, 0, 0, 0, 0, 0, 1] ++ replicate 459 0 ++ [0x55, 0xaa], by decide +kernel⟩
  else some ⟨replicate 510 0 ++ [0x55, 0xaa], by decide +kernel⟩

/-- The backup is reported as validated, and it differs. -/
theorem stale_backup_validated :
    (inspectBootSector staleBackupDisk).map (fun found => (found.1.backupBootSector, found.2)) =
      some (1, .validated) ∧
    bootSectorFieldMatches ((staleBackupDisk 0).elim [] Sector.bytes)
      ((staleBackupDisk 1).elim [] Sector.bytes) =
      false := by
  constructor <;> decide +kernel

end ManaOS
