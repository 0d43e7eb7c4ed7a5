/-
User pointer validation and the copies between kernel and user memory
(`memory/user_pointer.rs`).

A validated range is a value; its bytes are read and written through the active address space.

* `copyFromUser`, `copyToUser`: the validated copies.
-/
import ManaOS.Memory.AddressSpace

namespace ManaOS
open Checked

/-- `to_ne_bytes` of an unsigned integer of the given size, least significant byte first. -/
def toBytes : (size value : ℕ) → List UInt8
  | 0, _ => []
  | size + 1, value => UInt8.ofNat (value % 256) :: toBytes size (value / 256)

lemma toBytes_length (size value : ℕ) : (toBytes size value).length = size := by
  induction size generalizing value with
  | zero => rfl
  | succ _ ih => rw [toBytes, List.length_cons, ih]

/-- `from_ne_bytes`, least significant byte first. -/
def fromBytes : List UInt8 → ℕ
  | [] => 0
  | byte :: rest => byte.toNat + 256 * fromBytes rest

lemma fromBytes_toBytes (size value : ℕ) : fromBytes (toBytes size value) = value % 256 ^ size := by
  induction size generalizing value with
  | zero =>
    rw [Nat.pow_zero, Nat.mod_one]
    rfl
  | succ size ih =>
    rw [toBytes, fromBytes, ih, Nat.pow_succ, Nat.mul_comm (256 ^ size), Nat.mod_mul,
      UInt8.toNat_ofNat_of_lt' (Nat.mod_lt _ (by decide))]

section
variable (mapper : PageMapper)
variable (memory : Memory)

/-- The byte the CPU reads at a virtual address of the active address space. -/
def Memory.userByte (address : ℕ) : UInt8 :=
  match mapper.translate memory.activeLevel4Frame address memory.tables with
  | some translation => memory.bytes translation.physicalAddress
  | none => 0

def Memory.userBytes (range : UserVirtualRange) : List UInt8 :=
  (List.range range.byteLen).map fun offset => memory.userByte mapper (range.start.asU64 + offset)

/-- Store bytes at consecutive virtual addresses of the active address space. -/
def Memory.storeUserBytes (memory : Memory) : ℕ → List UInt8 → Memory
  | _, [] => memory
  | address, byte :: rest =>
    let stored :=
      match mapper.translate memory.activeLevel4Frame address memory.tables with
      | some translation =>
        { memory with
          bytes := Function.update memory.bytes translation.physicalAddress byte }
      | none => memory
    stored.storeUserBytes (address + 1) rest

/-- `copy_from_user`: the bytes of a mapped readable range. -/
def copyFromUser (range : UserReadableRange) : Option (List UInt8) :=
  if isUserRangeMappedReadable mapper memory range then some (memory.userBytes mapper range.asRange)
  else none

/-- `copy_to_user`: a mapped writable range, to be filled by the caller. -/
def copyToUser (range : UserWritableRange) : Option UserVirtualRange :=
  if isUserRangeMappedWritable mapper memory range then some range.asRange else none

def copyUserByte (userPointer : UserVirtualAddress) : Option UInt8 :=
  (UserVirtualRange.new userPointer 1).bind fun range =>
    if isUserRangeMappedReadable mapper memory ⟨range⟩ then
      some (memory.userByte mapper userPointer.asU64)
    else none

/-- The loop of `copy_cstr_bytes_from_user` over the remaining offsets of the range. -/
def copyCstrFrom (memory : Memory) (start : UserVirtualAddress) :
  (remaining offset : ℕ) → Option (List UInt8)
  | 0, _ => none
  | remaining + 1, offset =>
    (start.checkedAdd offset).bind fun userPointer =>
      (copyUserByte mapper memory userPointer).bind fun byte =>
        if byte = 0 then some []
        else (copyCstrFrom memory start remaining (offset + 1)).map (byte :: ·)

def copyCstrBytesFromUser (userString : UserCString) : Option (List UInt8) :=
  let range := userString.asReadableRange.asRange
  copyCstrFrom mapper memory range.start range.byteLen 0

/-- `copy_cstr_from_user`: each byte is one character. -/
def copyCstrFromUser (userString : UserCString) : Option (List Char) := (copyCstrBytesFromUser
  mapper memory userString).map fun bytes => bytes.map fun byte => Char.ofNat byte.toNat

end
end ManaOS
