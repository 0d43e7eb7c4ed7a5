/-
The CRC-32 of the GUID partition table (`driver/storage/guid_partition_table/parser.rs`).

* `updateCrc32Bytes`, `calculateHeaderCrc32`: the register over bytes and over a header.
-/
import ManaOS.Memory.UserPointer

namespace ManaOS
open List

def crc32Initial : BitVec 32 := 0xffffffff

def crc32Polynomial : BitVec 32 := 0xedb88320

/-- One turn of the loop of `update_crc32`. -/
def shiftCrc32 (crc32 : BitVec 32) : BitVec 32 := let mask := 0 - (crc32 &&& 1)
  (crc32 >>> 1) ^^^ (crc32Polynomial &&& mask)

def updateCrc32 (crc32 : BitVec 32) (byte : UInt8) : BitVec 32 :=
  Nat.iterate shiftCrc32 8 (crc32 ^^^ byte.toBitVec.setWidth 32)

def updateCrc32Bytes (crc32 : BitVec 32) (bytes : List UInt8) : BitVec 32 :=
  bytes.foldl updateCrc32 crc32

def finalizeCrc32 (crc32 : BitVec 32) : BitVec 32 := ~~~crc32

def calculateHeaderCrc32 (sector : List UInt8) (headerSize : ℕ) : BitVec 32 :=
  finalizeCrc32 ((sector.take headerSize).zipIdx.foldl (fun crc32 entry =>
    updateCrc32 crc32 (if 16 ≤ entry.2 ∧ entry.2 < 20 then 0 else entry.1)) crc32Initial)

end ManaOS
