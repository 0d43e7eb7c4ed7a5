/-
A mapper that walks the tables as the `x86_64` crate documents it, to run the model.

A missing table is taken from the frame source; the flags of the page are passed on to it.

* `walkMapper`: the mapper of all concrete runs.
-/
import ManaOS.Memory.PageTable

namespace ManaOS
open Checked

def PageTables.set (tables : PageTables) (table : ℕ) (index : Fin 512) (entry : PageTableEntry) :
  PageTables := Function.update tables table (Function.update (tables table) index entry)

/-- The flags that `map_to` gives to the tables above a page. -/
def PageTableFlags.forParent (flags : PageTableFlags) : PageTableFlags where
  present := flags.present
  writable := flags.writable
  userAccessible := flags.userAccessible

namespace WalkMapper

/-- `map_to` from a table down a path of indices. -/
def mapTo (source : TableFrameSource) (frame : PhysicalFrameStart) (flags : PageTableFlags) :
  ℕ → List (Fin 512) → PageTables → PhysicalFrameAllocator →
  Panicking (Option MapToError × PageTables × PhysicalFrameAllocator)
  | _, [], tables, allocator => return (some .pageAlreadyMapped, tables, allocator)
  | table, [index], tables, allocator =>
    if (tables table index).isUnused then
      return (none, tables.set table index ⟨frame, flags⟩, allocator)
    else return (some .pageAlreadyMapped, tables, allocator)
  | table, index :: next :: rest, tables, allocator => do
      let entry := tables table index
      if entry.isUnused then do
        let (created, allocator) ← source allocator
        match created with
        | none => return (some .frameAllocationFailed, tables, allocator)
        | some child =>
          let tables := tables.set table index ⟨child, flags.forParent⟩
          let tables := Function.update tables child.asAddress zeroTable
          mapTo source frame flags child.asAddress (next :: rest) tables allocator
      else
        match entry.frame with
        | none => return (some .parentEntryHugePage, tables, allocator)
        | some child =>
          let tables :=
            tables.set table index { entry with flags := entry.flags.union flags.forParent }
          mapTo source frame flags child.asAddress (next :: rest) tables allocator

/-- `unmap` from a table down a path of indices. -/
def unmap : ℕ → List (Fin 512) → PageTables → Option PhysicalFrameStart × PageTables
  | _, [], tables => (none, tables)
  | table, [index], tables =>
    match (tables table index).frame with
    | none => (none, tables)
    | some frame => (some frame, tables.set table index .unused)
  | table, index :: next :: rest, tables =>
    match (tables table index).frame with
    | none => (none, tables)
    | some child => unmap child.asAddress (next :: rest) tables

/-- `translate` from a table down a path of indices; the flags are those of the leaf. -/
def translate (offset : ℕ) : ℕ → List (Fin 512) → PageTables → Option Translation
  | _, [], _ => none
  | table, [index], tables =>
    let entry := tables table index
    entry.frame.map fun frame => ⟨frame.asAddress + offset, entry.flags⟩
  | table, index :: next :: rest, tables =>
    match (tables table index).frame with
    | none => none
    | some child => translate offset child.asAddress (next :: rest) tables

end WalkMapper

def walkMapper : PageMapper where
  mapTo source root page frame flags tables allocator :=
    WalkMapper.mapTo source frame flags root.asAddress (tablePath page) tables allocator
  unmap root page tables := WalkMapper.unmap root.asAddress (tablePath page) tables
  translate root address tables :=
    WalkMapper.translate (address % pageSize) root.asAddress (tablePath address) tables

/-- A small machine after boot: 256 free frames, empty tables below the level-4 frame. -/
def bootMemory : Memory where
  allocator := ⟨[⟨2 * pageSize, 256⟩], [⟨⟨2 * pageSize, 256⟩, .free, .free⟩]⟩
  tables := fun _ => zeroTable
  bytes := fun _ => 0
  activeLevel4Frame := ⟨pageSize, rfl⟩
  kernelLevel4Frame := pageSize
  nextUserStackSlot := 0

end ManaOS
