/-
Transfers through a partition to the drive (`driver/storage/partition.rs` and
`driver/storage/advanced_host_controller_interface`).

A checked request becomes a command FIS, with six bytes for the address, which the drive decodes.

* `transfer_confined_iff` (**transfers**): when the drive receives the request that was made.
-/
import ManaOS.Storage.FileAllocationTable

namespace ManaOS
open Checked

inductive BlockDeviceError
  | outOfRange | overflow | bufferMismatch | invalidTransferLength | deviceBusyTimeout
  | commandTimeout | taskFileError | unsupported
  deriving DecidableEq

inductive AhciTransferDirection
  | read | write

def AhciTransferDirection.ataCommand : AhciTransferDirection → UInt8
  | .read => 0x25
  | .write => 0x35

abbrev CommandFis := ℕ → UInt8

/-- `lba_byte` and `sector_count_byte`. -/
def shiftedByte (value shift : ℕ) : UInt8 := .ofNat (value / 2 ^ shift % 256)

/-- The bytes that `prepare_dma_command` writes into the FIS, by offset. -/
def fisWrites (lba sectorCount : ℕ) (direction : AhciTransferDirection) : List (ℕ × UInt8) :=
  [(0, 0x27), (1, 0x80), (2, direction.ataCommand), (4, shiftedByte lba 0), (5, shiftedByte lba 8),
  (6, shiftedByte lba 16), (7, 0x40), (8, shiftedByte lba 24), (9, shiftedByte lba 32),
  (10, shiftedByte lba 40), (12, shiftedByte sectorCount 0), (13, shiftedByte sectorCount 8)]

def prepareDmaCommand (fis : CommandFis) (lba sectorCount : ℕ)
  (direction : AhciTransferDirection) : CommandFis :=
  (fisWrites lba sectorCount direction).foldl
    (fun fis write => Function.update fis write.1 write.2) fis

/-- The address that the drive decodes. -/
def CommandFis.lba (fis : CommandFis) : ℕ := (fis 4).toNat + (fis 5).toNat * 2 ^ 8 +
  (fis 6).toNat * 2 ^ 16 + (fis 8).toNat * 2 ^ 24 + (fis 9).toNat * 2 ^ 32 + (fis 10).toNat * 2 ^ 40

/-- The sector count that the drive decodes: zero stands for the largest one. -/
def CommandFis.sectorCount (fis : CommandFis) : ℕ :=
  if (fis 12).toNat + (fis 13).toNat * 2 ^ 8 = 0 then 2 ^ 16
  else (fis 12).toNat + (fis 13).toNat * 2 ^ 8

def dataBufferBytes : ℕ := 16 * 4096

/-- The device with its DMA buffer, and how the port answers the next two waits. -/
structure AhciBlockDevice where
  dataAddress : ℕ
  commandFis : CommandFis
  waitUntilNotBusy : Except BlockDeviceError Unit
  waitForCommand : Except BlockDeviceError Unit

namespace AhciBlockDevice

/-- `maximum_transfer_sectors` of the buffer that `dma::allocate` makes. -/
def maximumTransferSectors : ℕ := dataBufferBytes / sectorBytes

/-- What a call returns, and the FIS of the command if one is issued. -/
abbrev Outcome := Except BlockDeviceError Unit × Option CommandFis

def issueDmaTransfer (device : AhciBlockDevice) (lba sectorCount : ℕ)
  (direction : AhciTransferDirection) : Outcome :=
  -- `validate_transfer`
  if sectorCount = 0 then (.error .invalidTransferLength, none)
  else match checkedMul sectorCount sectorBytes with
  | none => (.error .overflow, none)
  | some transferBytes =>
    if dataBufferBytes < transferBytes then (.error .invalidTransferLength, none)
    else match device.waitUntilNotBusy with
    | .error error => (.error error, none)
    | .ok () =>
      (device.waitForCommand, some (prepareDmaCommand device.commandFis lba sectorCount direction))

def logicalBlocks (device : AhciBlockDevice) (direction : AhciTransferDirection)
  (lba sectorCount dataAddress : ℕ) : Outcome :=
  -- `validate_data_buffer`
  if dataAddress ≠ device.dataAddress then (.error .bufferMismatch, none)
  else if sectorCount = 0 ∨ maximumTransferSectors < sectorCount then
    (.error .invalidTransferLength, none)
  else device.issueDmaTransfer lba sectorCount direction

/-- The device has room for the transfer, and its port takes the command. -/
structure Takes (device : AhciBlockDevice) (sectorCount dataAddress : ℕ) : Prop where
  pos : 0 < sectorCount
  le_max : sectorCount ≤ maximumTransferSectors
  buffer_eq : dataAddress = device.dataAddress
  idle : device.waitUntilNotBusy = .ok ()

lemma logicalBlocks_cases (device : AhciBlockDevice) (direction : AhciTransferDirection)
    (lba sectorCount dataAddress : ℕ) :
    (device.Takes sectorCount dataAddress ∧
     device.logicalBlocks direction lba sectorCount dataAddress =
       (device.waitForCommand, some
          (prepareDmaCommand device.commandFis lba sectorCount direction))) ∨
    ¬ device.Takes sectorCount dataAddress ∧
    ∃ error, device.logicalBlocks direction lba sectorCount dataAddress = (.error error, none) := by
  rw [logicalBlocks, issueDmaTransfer]
  split
  · exact .inr ⟨fun h => absurd h.buffer_eq ‹_›, _, rfl⟩
  split
  · next hcount =>
    refine .inr ⟨fun h => ?_, _, rfl⟩
    exact hcount.elim h.pos.ne' (Nat.not_lt.2 h.le_max)
  next hbuffer hcount =>
  have hcap : sectorCount * sectorBytes ≤ dataBufferBytes := by
    rw [maximumTransferSectors, dataBufferBytes, sectorBytes] at hcount
    rw [dataBufferBytes, sectorBytes]
    omega
  rw [if_neg fun hzero => hcount (.inl hzero), checkedMul,
    if_pos (Nat.lt_of_le_of_lt hcap (by decide))]
  dsimp only
  rw [if_neg (Nat.not_lt.2 hcap)]
  cases hwait : device.waitUntilNotBusy with
  | error error => exact .inr ⟨fun h => (by cases hwait.symm.trans h.idle), error, rfl⟩
  | ok => exact .inl ⟨⟨by omega, by omega, not_not.1 hbuffer, hwait⟩, rfl⟩

end AhciBlockDevice

/-- `PartitionBlockDevice`: the view of the sectors from one address to another. -/
structure PartitionBlockDevice where
  inner : AhciBlockDevice
  firstLba : ℕ
  sectorCount : ℕ

namespace PartitionBlockDevice

def new (inner : AhciBlockDevice) (firstLba lastLba : ℕ) : PartitionBlockDevice where
  inner
  firstLba
  sectorCount := ((checkedSub lastLba firstLba).bind (checkedAdd · 1)).getD 0

/-- `read_logical_blocks` and `write_logical_blocks`, which differ in the direction. -/
def logicalBlocks (partition : PartitionBlockDevice) (direction : AhciTransferDirection)
  (lba sectorCount dataAddress : ℕ) : AhciBlockDevice.Outcome :=
  if sectorCount = 0 then (.error .invalidTransferLength, none)
  else match checkedAdd lba (sectorCount - 1) with
  | none => (.error .overflow, none)
  | some lastLba =>
    if partition.sectorCount ≤ lastLba then (.error .outOfRange, none)
    else match checkedAdd partition.firstLba lba with
    | none => (.error .overflow, none)
    | some diskLba => partition.inner.logicalBlocks direction diskLba sectorCount dataAddress

def readLogicalBlocks (partition : PartitionBlockDevice) := partition.logicalBlocks .read

def writeLogicalBlocks (partition : PartitionBlockDevice) := partition.logicalBlocks .write

/-- The request lies in the partition, and the device takes it. -/
structure Issues (device : AhciBlockDevice) (firstLba lastLba lba sectorCount dataAddress : ℕ) :
    Prop extends device.Takes sectorCount dataAddress where
  inside : lba + sectorCount ≤ lastLba + 1 - firstLba
  countable : lastLba - firstLba + 1 < wordSize

variable {device : AhciBlockDevice} {firstLba lastLba lba sectorCount dataAddress : ℕ}
  {direction : AhciTransferDirection}

/-- The drive gets the request that was made, inside the partition, or the caller an error. -/
def Confined (firstLba lastLba lba sectorCount : ℕ) (outcome : AhciBlockDevice.Outcome) : Prop :=
  match outcome.2 with
  | none => ∃ error, outcome.1 = .error error
  | some fis => fis.lba = firstLba + lba ∧ fis.sectorCount = sectorCount ∧ firstLba ≤ fis.lba ∧
    fis.lba + fis.sectorCount ≤ lastLba + 1

lemma lba_prepareDmaCommand (fis : CommandFis) :
  (prepareDmaCommand fis lba sectorCount direction).lba = lba % 2 ^ 48 := by
  simp [prepareDmaCommand, fisWrites, CommandFis.lba, Function.update, shiftedByte]
  omega

lemma sectorCount_prepareDmaCommand (fis : CommandFis) (hpos : 0 < sectorCount)
  (hlt : sectorCount < 2 ^ 16) :
  (prepareDmaCommand fis lba sectorCount direction).sectorCount = sectorCount := by
  simp [prepareDmaCommand, fisWrites, CommandFis.sectorCount, Function.update, shiftedByte]
  split <;> omega

lemma sectorCount_new : (new device firstLba lastLba).sectorCount =
  if lastLba - firstLba + 1 < wordSize then lastLba + 1 - firstLba else 0 := by
  rw [new, checkedSub]
  split
  · rw [Option.bind_some, checkedAdd]
    split
    · exact (Nat.sub_add_comm ‹_›).symm
    · rfl
  · rw [if_pos (by rw [wordSize]; omega)]
    exact (Nat.sub_eq_zero_of_le (by omega)).symm

variable (device firstLba lba sectorCount dataAddress) in
/-- **The request is refused, or the command is issued.** -/
lemma logicalBlocks_cases (hlast : lastLba < wordSize) (direction : AhciTransferDirection) :
  let outcome := (new device firstLba lastLba).logicalBlocks direction lba sectorCount dataAddress
  (Issues device firstLba lastLba lba sectorCount dataAddress ∧ outcome = (device.waitForCommand,
    some (prepareDmaCommand device.commandFis (firstLba + lba) sectorCount direction))) ∨
  ¬ Issues device firstLba lastLba lba sectorCount dataAddress ∧
    ∃ error, outcome = (.error error, none) := by
  rw [logicalBlocks]
  split
  · exact .inr ⟨fun h => absurd ‹_› h.pos.ne', _, rfl⟩
  cases hadd : checkedAdd lba (sectorCount - 1) with
  | none =>
    rw [checkedAdd, ite_eq_right_iff] at hadd
    refine .inr ⟨fun h => ?_, _, rfl⟩
    have hins := h.inside
    cases hadd (by omega)
  | some _ =>
    obtain ⟨-, rfl⟩ := checkedAdd_eq_some.1 hadd
    dsimp only
    by_cases hout : (new device firstLba lastLba).sectorCount ≤ lba + (sectorCount - 1)
    · refine .inr ⟨fun h => ?_, _, if_pos hout⟩
      have hins := h.inside
      rw [sectorCount_new, if_pos h.countable] at hout
      omega
    rw [if_neg hout]
    rw [sectorCount_new] at hout
    split at hout
    · next hcount =>
      have hsum : checkedAdd (new device firstLba lastLba).firstLba lba = some (firstLba + lba) :=
        if_pos (show firstLba + lba < wordSize by omega)
      rw [hsum]
      rcases device.logicalBlocks_cases direction (firstLba + lba) sectorCount dataAddress with
        ⟨htakes, hissued⟩ | ⟨hnot, href⟩
      · exact .inl ⟨⟨htakes, by omega, hcount⟩, hissued⟩
      · exact .inr ⟨fun h => hnot h.toTakes, href⟩
    · omega

/-- **The drive receives the request that was made exactly when no command is issued or its first
sector has an address of 48 bits.** -/
theorem transfer_confined_iff (device : AhciBlockDevice) (direction : AhciTransferDirection)
    (firstLba lastLba lba : UInt64) (sectorCount : UInt16) (dataAddress : ℕ) :
    Confined firstLba.toNat lastLba.toNat lba.toNat sectorCount.toNat
      ((new device firstLba.toNat lastLba.toNat).logicalBlocks direction lba.toNat sectorCount.toNat
         dataAddress) ↔
      (Issues device firstLba.toNat lastLba.toNat lba.toNat sectorCount.toNat dataAddress →
       firstLba.toNat + lba.toNat < 2 ^ 48) := by
  rcases logicalBlocks_cases device firstLba.toNat lba.toNat sectorCount.toNat dataAddress
    lastLba.toNat_lt direction with ⟨hissues, heq⟩ | ⟨hnot, error, heq⟩
  · have hinside := hissues.inside
    have hpos := hissues.pos
    rw [heq, Confined, forall_prop_of_true hissues]
    dsimp only
    rw [lba_prepareDmaCommand, sectorCount_prepareDmaCommand _ hissues.pos sectorCount.toNat_lt]
    omega
  · rw [heq]
    exact iff_of_true ⟨error, rfl⟩ fun hissues => absurd hissues hnot

/-- A read of the first sector of a partition from `2 ^ 48` on reaches the first of the disk. -/
theorem high_partition_reads_first_sector :
    (((new ⟨0, fun _ => 0, .ok (), .ok ()⟩ (2 ^ 48) (2 ^ 48 + 7)).readLogicalBlocks 0 1 0).2.map fun
       fis => (fis.lba, fis.sectorCount)) =
      some (0, 1) := by
  decide

end PartitionBlockDevice
end ManaOS
