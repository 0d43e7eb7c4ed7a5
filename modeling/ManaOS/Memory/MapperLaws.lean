/-
What is assumed of the mapper.

`PageMapper.Walks` states the documented behaviour of `map_to` and `unmap` of the `x86_64` crate.
The flags of the tables above a page, and what an error leaves behind, are left open.

* `walkMapper_walks`: the mapper of `WalkMapper` meets the laws.
-/
import ManaOS.Memory.WalkMapper

namespace ManaOS
open Checked PageTableEntry

/-- The outcomes of `map_to` from a table down a path of indices. -/
inductive MapsTo (source : TableFrameSource) (frame : PhysicalFrameStart)
    (flags : PageTableFlags) : ℕ → List (Fin 512) → PageTables → PhysicalFrameAllocator →
    Panicking (Option MapToError × PageTables × PhysicalFrameAllocator) → Prop
  | leaf {table index tables allocator} (hentry : tables table index = .unused) :
      MapsTo source frame flags table [index] tables allocator
        (.ok (none, tables.set table index ⟨frame, flags⟩, allocator))
  | mapped {table index tables tables' allocator} (hentry : tables table index ≠ .unused) :
      MapsTo source frame flags table [index] tables allocator
        (.ok (some .pageAlreadyMapped, tables', allocator))
  | panicked {table index next rest tables allocator message}
      (hentry : tables table index = .unused) (hsource : source allocator = .error message) :
      MapsTo source frame flags table (index :: next :: rest) tables allocator (.error message)
  | refused {table index next rest tables tables' allocator allocator'}
      (hentry : tables table index = .unused)
      (hsource : source allocator = .ok (none, allocator')) :
      MapsTo source frame flags table (index :: next :: rest) tables allocator
        (.ok (some .frameAllocationFailed, tables', allocator'))
  | created {table index next rest tables allocator allocator' child result}
      {parentFlags : PageTableFlags} (hentry : tables table index = .unused)
      (hsource : source allocator = .ok (some child, allocator'))
      (hpresent : parentFlags.present = true) (hhuge : parentFlags.hugePage = false)
      (hrest : MapsTo source frame flags child.asAddress (next :: rest) (Function.update (tables.set
        table index ⟨child, parentFlags⟩) child.asAddress zeroTable) allocator' result) :
      MapsTo source frame flags table (index :: next :: rest) tables allocator result
  | huge {table index next rest tables tables' allocator}
      (hentry : tables table index ≠ .unused) (hframe : (tables table index).frame = none) :
      MapsTo source frame flags table (index :: next :: rest) tables allocator
        (.ok (some .parentEntryHugePage, tables', allocator))
  | entered {table index next rest tables allocator child result}
      {parentFlags : PageTableFlags} (hframe : (tables table index).frame = some child)
      (hpresent : parentFlags.present = true) (hhuge : parentFlags.hugePage = false)
      (hrest : MapsTo source frame flags child.asAddress (next :: rest)
        (tables.set table index ⟨child, parentFlags⟩) allocator result) :
      MapsTo source frame flags table (index :: next :: rest) tables allocator result

/-- The documented behaviour of the mapper. -/
structure PageMapper.Walks (mapper : PageMapper) : Prop where
  mapTo : ∀ (source : TableFrameSource) (root : PhysicalFrameStart) (page : ℕ)
    (frame : PhysicalFrameStart) {flags : PageTableFlags} (tables : PageTables)
    (allocator : PhysicalFrameAllocator), flags.present = true → flags.hugePage = false →
    MapsTo source frame flags root.asAddress (tablePath page) tables allocator
      (mapper.mapTo source root page frame flags tables allocator)
  unmap : ∀ (root : PhysicalFrameStart) (page : ℕ) (tables : PageTables),
    mapper.unmap root page tables = WalkMapper.unmap root.asAddress (tablePath page) tables

lemma PageTableEntry.frame_eq_some {entry : PageTableEntry} {frame : PhysicalFrameStart} :
  entry.frame = some frame ↔
    entry.address = frame ∧ entry.flags.present = true ∧ entry.flags.hugePage = false := by
  rw [PageTableEntry.frame]
  cases entry.flags.present <;> cases entry.flags.hugePage <;> simp

lemma PageTableEntry.isUnused_iff {entry : PageTableEntry} :
  entry.isUnused = true ↔ entry = .unused := beq_iff_eq

lemma WalkMapper.mapsTo (source : TableFrameSource) (frame : PhysicalFrameStart)
    {flags : PageTableFlags} (hpres : flags.present = true) (table : ℕ) {path : List (Fin 512)}
    (hpath : path ≠ []) (tables : PageTables) (allocator : PhysicalFrameAllocator) :
    MapsTo source frame flags table path tables allocator
      (WalkMapper.mapTo source frame flags table path tables allocator) := by
  induction path generalizing table tables allocator with
  | nil => exact absurd rfl hpath
  | cons index path ih =>
    cases path with
    | nil =>
      rw [WalkMapper.mapTo]
      split_ifs with hent
      · exact .leaf (isUnused_iff.1 hent)
      · exact .mapped fun heq => hent (isUnused_iff.2 heq)
    | cons next rest =>
      have hrest : next :: rest ≠ [] := List.cons_ne_nil _ _
      rw [WalkMapper.mapTo]
      split_ifs with hent
      · have hunu := isUnused_iff.1 hent
        cases hsrc : source allocator with
        | error _ => exact .panicked hunu hsrc
        | ok created =>
          obtain ⟨_ | child, _⟩ := created
          · exact .refused hunu hsrc
          · have hpres' : flags.forParent.present = true := hpres
            exact .created hunu hsrc hpres' rfl (ih _ hrest _ _)
      have hused : tables table index ≠ .unused := fun heq =>
        hent (isUnused_iff.2 heq)
      cases hfrm : (tables table index).frame with
      | none => exact .huge hused hfrm
      | some child =>
        obtain ⟨haddr, hset, hsmall⟩ := frame_eq_some.1 hfrm
        have hentered := ih child.asAddress hrest (tables.set table index
          ⟨child, (tables table index).flags.union flags.forParent⟩) allocator
        have hpres' : ((tables table index).flags.union flags.forParent).present =
          true := Bool.or_eq_true_iff.2 (.inl hset)
        have hhuge' : ((tables table index).flags.union flags.forParent).hugePage =
          false := Bool.or_eq_false_iff.2 ⟨hsmall, rfl⟩
        simp only [haddr]
        exact .entered hfrm hpres' hhuge' hentered

/-- **The walking mapper meets the laws.** -/
theorem walkMapper_walks : walkMapper.Walks where
  mapTo source root _ frame _ tables allocator hpres _ :=
    WalkMapper.mapsTo source frame hpres root.asAddress (List.cons_ne_nil _ _) tables
      allocator
  unmap _ _ _ := rfl

end ManaOS
