/-
Calls on descriptor tables (`filesystem/descriptor.rs`, `filesystem/ramfs.rs`).

* `descriptor_tables_follow_policy` (**descriptors**): opening, closing, `execve` and spawning;
* `ram_write_behaves_iff` (**RAM files**): a write behaves exactly when the heap has room for it.
-/
import ManaOS.Filesystem.Descriptor
import Mathlib.Tactic.SplitIfs

namespace ManaOS
open Checked List

def standardDescriptorCount : ℕ := 3

structure SpawnDescriptorInheritanceSnapshot where
  inherited : ℕ
  standard : ℕ
  closeOnExec : ℕ
  deriving DecidableEq

namespace FileDescriptorTable
variable {table table' : FileDescriptorTable} {descriptor : ℕ} {node : FileNode}
  {openFile : OpenFile}

/-- The loop of `get_spawn_descriptor_inheritance_snapshot`, from a descriptor on. -/
def inheritanceFrom : (descriptor : ℕ) → List (Option OpenFile) →
  SpawnDescriptorInheritanceSnapshot → SpawnDescriptorInheritanceSnapshot
  | _, [], counts => counts
  | descriptor, none :: rest, counts => inheritanceFrom (descriptor + 1) rest counts
  | descriptor, some openFile :: rest, counts =>
    inheritanceFrom (descriptor + 1) rest
      (if openFile.closeOnExec then
        { counts with closeOnExec := saturatingAdd counts.closeOnExec 1 }
      else
        { counts with
          inherited := saturatingAdd counts.inherited 1
          standard :=
            if descriptor < standardDescriptorCount then saturatingAdd counts.standard 1
            else counts.standard })

def getSpawnDescriptorInheritanceSnapshot (table : FileDescriptorTable) :
  SpawnDescriptorInheritanceSnapshot := inheritanceFrom 0 table.entries ⟨0, 0, 0⟩

/-- What a descriptor stands for: the node, the offset and the flag. -/
def entry (table : FileDescriptorTable) (descriptor : ℕ) : Option OpenFile :=
  table.entries[descriptor]?.join

lemma getOpenFile_eq_ok : table.getOpenFile descriptor = .ok openFile ↔
  table.entry descriptor = some openFile := by
  rw [getOpenFile, entry]
  cases table.entries[descriptor]?.join <;> simp

lemma lt_length_of_entry (h : table.entry descriptor = some openFile) :
  descriptor < table.entries.length := by
  by_contra hge
  rw [entry, getElem?_eq_none (Nat.le_of_not_lt hge)] at h
  cases h

lemma entry_setEntry (h : descriptor < table.entries.length) (value : Option OpenFile) (i : ℕ) :
  (table.setEntry descriptor value).entry i = if i = descriptor then value else table.entry i := by
  rw [entry, setEntry, getElem?_set]
  split_ifs with h1 h2 h2
  · rfl
  · exact absurd h1.symm h2
  · exact absurd h2.symm h1
  · rfl

lemma getOpenFile_setOffset (h : table.getOpenFile descriptor = .ok openFile) (offset : ℕ) :
  (table.setOffset descriptor openFile offset).getOpenFile descriptor =
    .ok { openFile with offset } := by
  rw [getOpenFile_eq_ok, setOffset,
    entry_setEntry (lt_length_of_entry (getOpenFile_eq_ok.1 h)), if_pos rfl]

/-! ### Opening and closing -/

lemma isSome_of_full (hfull : table.entries.findIdx? Option.isNone = none)
  (h : i < table.entries.length) : (table.entry i).isSome := by
  rw [entry, getElem?_eq_getElem h]
  simpa using findIdx?_eq_none_iff.1 hfull _ (getElem_mem h)

/-- The descriptor is the least unused one, and only it changes. -/
structure Opens (table : FileDescriptorTable) (node : FileNode) (closeOnExec : Bool)
    (descriptor : ℕ) (table' : FileDescriptorTable) : Prop where
  bound : descriptor < maxOpenFiles
  unused : table.entry descriptor = none
  least : ∀ i < descriptor, (table.entry i).isSome
  entry_eq : ∀ i, table'.entry i = if i = descriptor then some ⟨node, 0, closeOnExec⟩
    else table.entry i

lemma opens_of_ok (h : table.openWithCloseOnExec node closeOnExec = .ok (descriptor, table')) :
  table.Opens node closeOnExec descriptor table' := by
  rw [openWithCloseOnExec] at h
  split at h
  · next _ hidx =>
    cases h
    obtain ⟨hlt, hnone, hbef⟩ := findIdx?_eq_some_iff_getElem.1 hidx
    refine ⟨hlt.trans_le table.length_le, ?_, fun i hi => ?_, entry_setEntry hlt _⟩
    · rw [entry, getElem?_eq_getElem hlt]
      exact Option.isNone_iff_eq_none.1 hnone
    · rw [entry, getElem?_eq_getElem (hi.trans hlt)]
      simpa [Option.isSome_iff_ne_none] using hbef i hi
  next hfull =>
  split at h
  · cases h
  next hroom =>
  cases h
  refine ⟨Nat.lt_of_not_le hroom, ?_, fun i hi => isSome_of_full hfull hi, fun i => ?_⟩
  · rw [entry, getElem?_eq_none (Nat.le_refl _)]
    rfl
  rw [entry, entry, getElem?_append]
  split_ifs with h1 h2 h2
  · omega
  · rfl
  · rw [h2, Nat.sub_self]
    rfl
  · rw [getElem?_eq_none (by simp; omega), getElem?_eq_none (by omega)]

lemma openWithCloseOnExec_eq_error {error : FileSystemError} :
  table.openWithCloseOnExec node closeOnExec = .error error ↔
    error = .tooManyOpenFiles ∧ ∀ i < maxOpenFiles, (table.entry i).isSome := by
  constructor
  · intro h
    rw [openWithCloseOnExec] at h
    split at h
    · cases h
    next hfull =>
    split at h
    · next hlen =>
      cases h
      exact ⟨rfl, fun i hi => isSome_of_full hfull (hi.trans_le hlen)⟩
    · cases h
  rintro ⟨rfl, hused⟩
  cases h : table.openWithCloseOnExec node closeOnExec with
  | ok _ =>
    have hopens := opens_of_ok h
    have hsome := hused _ hopens.bound
    rw [hopens.unused] at hsome
    cases hsome
  | error _ =>
    rw [openWithCloseOnExec] at h
    split at h
    · cases h
    · split at h <;> cases h
      rfl

lemma close_eq_ok : table.close descriptor = .ok table' ↔
  (table.entry descriptor).isSome ∧ table' = table.setEntry descriptor none := by
  rw [close, ← entry]
  cases table.entry descriptor <;> simp [eq_comm]

/-! ### The sweep and the inheritance -/

/-- The entry is open and stays so across a spawn. -/
def kept (entry : Option OpenFile) : Bool := entry.any fun openFile => !openFile.closeOnExec

/-- The entry is open and marked close-on-exec. -/
def marked (entry : Option OpenFile) : Bool := entry.any OpenFile.closeOnExec

lemma sweepEntries_eq (entries : List (Option OpenFile)) (closedCount : ℕ) :
    sweepEntries entries closedCount =
      (entries.map (Option.filter fun openFile => !openFile.closeOnExec), closedCount +
         entries.countP marked) := by
  induction entries generalizing closedCount with
  | nil => rfl
  | cons entry _ ih =>
    cases entry with
    | none => simp [sweepEntries, ih, marked]
    | some openFile =>
      cases hflag : openFile.closeOnExec <;>
        simp [sweepEntries, ih, hflag, marked, Option.filter, Nat.add_right_comm, Nat.add_assoc]

lemma countP_take_cons (entry : Option OpenFile) (rest : List (Option OpenFile)) :
    ((entry :: rest).take (standardDescriptorCount - descriptor)).countP kept =
      (rest.take (standardDescriptorCount - (descriptor + 1))).countP kept +
        if descriptor < standardDescriptorCount ∧ kept entry = true then 1 else 0 := by
  by_cases hstd : descriptor < standardDescriptorCount
  · rw [show standardDescriptorCount - descriptor = standardDescriptorCount - (descriptor + 1) + 1
      by omega, take_succ_cons, countP_cons]
    simp [hstd]
  · rw [Nat.sub_eq_zero_of_le (by omega), Nat.sub_eq_zero_of_le (by omega)]
    simp [hstd]

lemma inheritanceFrom_eq (descriptor : ℕ) (entries : List (Option OpenFile))
    (counts : SpawnDescriptorInheritanceSnapshot)
    (hinherited : counts.inherited + entries.length < wordSize)
    (hstd : counts.standard + entries.length < wordSize)
    (hclosed : counts.closeOnExec + entries.length < wordSize) :
    inheritanceFrom descriptor entries counts =
      ⟨counts.inherited + entries.countP kept, counts.standard + (entries.take
        (standardDescriptorCount - descriptor)).countP kept, counts.closeOnExec + entries.countP
        marked⟩ := by
  induction entries generalizing descriptor counts with
  | nil => simp [inheritanceFrom]
  | cons entry rest ih =>
    rw [length_cons] at hinherited hstd hclosed
    rw [countP_take_cons, countP_cons, countP_cons]
    cases entry with
    | none =>
      rw [inheritanceFrom, ih _ _ (by omega) (by omega) (by omega)]
      simp [kept, marked]
    | some file =>
      have hadd : ∀ {n : ℕ}, n + (rest.length + 1) < wordSize → saturatingAdd n 1 = n + 1 :=
        fun hn => saturatingAdd_of_lt (by omega)
      cases hflag : file.closeOnExec with
      | true =>
        rw [inheritanceFrom, if_pos hflag, hadd hclosed,
          ih _ _ (by dsimp only; omega) (by dsimp only; omega) (by dsimp only; omega)]
        simp [kept, marked, hflag]
        omega
      | false =>
        rw [inheritanceFrom, if_neg (by simp [hflag]), hadd hinherited, hadd hstd, ih]
        · simp [kept, marked, hflag]
          split_ifs <;> omega
        · dsimp only
          omega
        · dsimp only
          split_ifs <;> omega
        · dsimp only
          omega

/-- **Descriptor tables.**  Opening takes the least unused descriptor and fails exactly when all
are in use; closing frees one descriptor; the sweep of `execve` and the inheritance of `spawn`
keep the same descriptors as they are, and the counts of the inheritance are theirs.  Tables have
at most 64 entries whatever was done with them, so that this holds after every sequence of
calls. -/
theorem descriptor_tables_follow_policy (table : FileDescriptorTable) :
    (∀ node closeOnExec descriptor table',
      table.openWithCloseOnExec node closeOnExec = .ok (descriptor, table') →
      table.Opens node closeOnExec descriptor table') ∧
    (∀ node closeOnExec error,
      table.openWithCloseOnExec node closeOnExec = .error error ↔
        error = .tooManyOpenFiles ∧ ∀ i < maxOpenFiles, (table.entry i).isSome) ∧
    (∀ descriptor table',
      table.close descriptor = .ok table' →
      (table.entry descriptor).isSome ∧
      ∀ i, table'.entry i = if i = descriptor then none else table.entry i) ∧
    (∀ descriptor,
      (table.entry descriptor).isSome → ∃ table', table.close descriptor = .ok table') ∧
    (∀ i,
      table.inheritForSpawn.entry i =
        (table.entry i).filter fun openFile => !openFile.closeOnExec) ∧
    sweepEntries table.entries 0 =
      (table.inheritForSpawn.entries, table.getSpawnDescriptorInheritanceSnapshot.closeOnExec) ∧
    table.getSpawnDescriptorInheritanceSnapshot =
      ⟨table.entries.countP kept, (table.entries.take standardDescriptorCount).countP kept,
        table.entries.countP marked⟩ := by
  have hbound : table.entries.length < wordSize := table.length_le.trans_lt (by decide)
  have hcounts : table.getSpawnDescriptorInheritanceSnapshot = ⟨table.entries.countP kept,
    (table.entries.take standardDescriptorCount).countP kept, table.entries.countP marked⟩ := by
    rw [getSpawnDescriptorInheritanceSnapshot, inheritanceFrom_eq]
    · simp
    all_goals rwa [Nat.zero_add]
  refine ⟨fun _ _ _ _ => opens_of_ok, fun _ _ _ => openWithCloseOnExec_eq_error, ?_, ?_, ?_, ?_,
    hcounts⟩
  · intro descriptor _ h
    obtain ⟨hsome, rfl⟩ := close_eq_ok.1 h
    obtain ⟨_, hopen⟩ := Option.isSome_iff_exists.1 hsome
    exact ⟨hsome, entry_setEntry (lt_length_of_entry hopen) _⟩
  · exact fun descriptor hsome => ⟨_, close_eq_ok.2 ⟨hsome, rfl⟩⟩
  · intro i
    rw [entry, entry, inheritForSpawn, getElem?_map]
    cases table.entries[i]? <;> rfl
  · rw [sweepEntries_eq, hcounts, Nat.zero_add]
    rfl

/-! ### Writes to a RAM file -/

/-- The content with the buffer written at the offset, zeros filling a gap before it. -/
structure Overwrites (old : List UInt8) (offset : ℕ) (buffer new : List UInt8) : Prop where
  length_eq : new.length = max old.length (offset + buffer.length)
  getD_eq : ∀ i, new.getD i 0 =
    if offset ≤ i ∧ i < offset + buffer.length then buffer.getD (i - offset) 0 else old.getD i 0

/-- The content of the file is long enough, or the kernel heap can grow it, for a write at the
offset. -/
def Fits (files : FileState) (identity offset : ℕ) (buffer : List UInt8) : Prop :=
  offset + buffer.length ≤ (files.ramFiles identity).length ∨
    offset + buffer.length ≤ min (files.growable identity) heapSize

/-- A write that fits leaves the overwritten content, which fits the heap as well. -/
lemma writeInto_ok {files : FileState} {buffer : List UInt8} {identity offset : ℕ}
  (hdata : (files.ramFiles identity).length ≤ heapSize)
  (hfits : Fits files identity offset buffer) :
  ∃ new, writeInto (files.growable identity) (files.ramFiles identity) offset buffer = .ok new ∧
    Overwrites (files.ramFiles identity) offset buffer new ∧ new.length ≤ heapSize := by
  have hheap : heapSize ≤ vecCapacity := by decide
  have hbound : offset + buffer.length ≤ heapSize := by
    rcases hfits with hfits | hfits <;> omega
  have hrequired : saturatingAdd offset buffer.length = offset + buffer.length :=
    saturatingAdd_of_lt (hbound.trans_lt (by decide))
  have hvec : require ((files.ramFiles identity).length ≥ offset + buffer.length ||
      offset + buffer.length ≤ vecCapacity) "capacity overflow" = .ok () :=
    require_eq_ok.2 (by simp [hbound.trans hheap])
  have hgrow : require ((files.ramFiles identity).length ≥ offset + buffer.length ||
      offset + buffer.length ≤ min (files.growable identity) heapSize)
      "memory allocation failed" = .ok () := by
    rw [require_eq_ok, Bool.or_eq_true, decide_eq_true_iff, decide_eq_true_iff]
    exact hfits
  refine ⟨_, by rw [writeInto, hrequired, hvec, ok_bind, hgrow]; rfl, ⟨?_, ?_⟩, ?_⟩
  · simp
    omega
  · intro i
    simp only [getD_eq_getElem?_getD, getElem?_append, getElem?_take,
      getElem?_drop, getElem?_replicate, length_append, length_take, length_replicate]
    grind
  · simp
    omega

/-- A write that does not fit panics, whichever of the two checks it meets. -/
lemma writeInto_error {files : FileState} {buffer : List UInt8} {identity offset : ℕ}
  (hdata : (files.ramFiles identity).length ≤ heapSize)
  (hlarge : ¬ Fits files identity offset buffer) :
  ∃ message, writeInto (files.growable identity) (files.ramFiles identity) offset buffer =
    .error message := by
  rw [Fits, not_or] at hlarge
  have hword : heapSize < wordMax := by decide
  have hshort : ¬ (files.ramFiles identity).length ≥ saturatingAdd offset buffer.length := by
    rw [saturatingAdd]
    omega
  have hroom : ¬ saturatingAdd offset buffer.length ≤
      min (files.growable identity) heapSize := by
    rw [saturatingAdd]
    omega
  by_cases hvec : saturatingAdd offset buffer.length ≤ vecCapacity
  · refine ⟨"memory allocation failed", ?_⟩
    have hpass : require ((files.ramFiles identity).length ≥ saturatingAdd offset buffer.length ||
        saturatingAdd offset buffer.length ≤ vecCapacity) "capacity overflow" = .ok () :=
      require_eq_ok.2 (by simp [hvec])
    rw [writeInto, hpass, ok_bind, require_eq_error.2 ⟨by simp [hshort, hroom], rfl⟩]
    rfl
  · refine ⟨"capacity overflow", ?_⟩
    rw [writeInto, require_eq_error.2 ⟨by simp [hshort, hvec], rfl⟩]
    rfl

/-- The descriptor is open on the RAM file, whose content lies in the kernel heap. -/
structure RamOpen (identity descriptor : ℕ) (table : FileDescriptorTable) (files : FileState)
    (offset : ℕ) : Prop where
  isOpen : ∃ closeOnExec, table.getOpenFile descriptor =
    .ok ⟨.ramFile identity, offset, closeOnExec⟩
  content_le : (files.ramFiles identity).length ≤ heapSize

/-- Seeks, reads and writes on a descriptor, while other work takes and gives back heap. -/
inductive RamCalls (descriptor : ℕ) (table : FileDescriptorTable) (files : FileState) :
    FileDescriptorTable → FileState → Prop
  | start : RamCalls descriptor table files table files
  | heap {table₁ files₁} (calls : RamCalls descriptor table files table₁ files₁)
      (growable : ℕ → ℕ) : RamCalls descriptor table files table₁ { files₁ with growable }
  | seek {table₁ files₁ offset whence position table₂}
      (calls : RamCalls descriptor table files table₁ files₁)
      (hseek : table₁.seekFrom files₁ descriptor offset whence = .ok (position, table₂)) :
      RamCalls descriptor table files table₂ files₁
  | read {table₁ files₁ buffer outcome filled table₂ files₂}
      (calls : RamCalls descriptor table files table₁ files₁)
      (hread : table₁.read files₁ descriptor buffer = (outcome, filled, table₂, files₂)) :
      RamCalls descriptor table files table₂ files₂
  | write {table₁ files₁ buffer outcome table₂ files₂}
      (calls : RamCalls descriptor table files table₁ files₁)
      (hwrite : table₁.write files₁ descriptor buffer = .ok (outcome, table₂, files₂)) :
      RamCalls descriptor table files table₂ files₂

lemma write_ramFile {files : FileState} {buffer : List UInt8}
  (hopen : table.getOpenFile descriptor = .ok ⟨.ramFile identity, offset, closeOnExec⟩) :
  table.write files descriptor buffer =
    (writeInto (files.growable identity) (files.ramFiles identity) offset buffer).map fun data =>
      (.ok buffer.length, table.setOffset descriptor ⟨.ramFile identity, offset, closeOnExec⟩
        (saturatingAdd offset buffer.length),
        { files with ramFiles := Function.update files.ramFiles identity data }) := by
  rw [FileDescriptorTable.write, hopen]
  dsimp only [FileNode.writeAt]
  cases writeInto (files.growable identity) (files.ramFiles identity) offset buffer <;> rfl

lemma RamCalls.ramOpen {files files' : FileState}
  (hopen : RamOpen identity descriptor table files offset)
  (calls : RamCalls descriptor table files table' files') :
  ∃ offset', RamOpen identity descriptor table' files' offset' := by
  induction calls with
  | start => exact ⟨offset, hopen⟩
  | heap _ _ ih =>
    obtain ⟨offset1, hfile, hcont⟩ := ih
    exact ⟨offset1, hfile, hcont⟩
  | seek _ hseek ih =>
    obtain ⟨offset1, ⟨closeOnExec, hfile⟩, hcont⟩ := ih
    rw [seekFrom, hfile] at hseek
    dsimp only at hseek
    split at hseek
    · cases hseek
    · cases hseek
      exact ⟨_, ⟨_, getOpenFile_setOffset hfile _⟩, hcont⟩
  | read _ hread ih =>
    obtain ⟨offset1, ⟨closeOnExec, hfile⟩, hcont⟩ := ih
    rw [FileDescriptorTable.read, hfile] at hread
    cases hread
    exact ⟨_, ⟨_, getOpenFile_setOffset hfile _⟩, hcont⟩
  | @write _ files₁ buffer _ _ _ _ hwrite ih =>
    obtain ⟨offset1, ⟨_, hfile⟩, hcont⟩ := ih
    rw [write_ramFile hfile] at hwrite
    by_cases hfits : Fits files₁ identity offset1 buffer
    · obtain ⟨_, hnew, -, hlen⟩ := writeInto_ok hcont hfits
      rw [hnew] at hwrite
      cases hwrite
      refine ⟨_, ⟨_, getOpenFile_setOffset hfile _⟩, ?_⟩
      simpa using hlen
    · obtain ⟨_, herr⟩ := writeInto_error hcont hfits
      rw [herr] at hwrite
      cases hwrite

/-- **Writes to a RAM file.**  After any seeks, reads and writes, a write leaves the zero-extended
content with the buffer at the offset, exactly when the content is long enough or the kernel heap
can grow it; else it panics. -/
theorem ram_write_behaves_iff {files files' : FileState}
    (hopen : RamOpen identity descriptor table files start)
    (calls : RamCalls descriptor table files table' files') (buffer : List UInt8) :
    ∃ offset,
      RamOpen identity descriptor table' files' offset ∧
      ((∃ outcome table'' files'',
         table'.write files' descriptor buffer = .ok (outcome, table'', files'') ∧
         ((∃ error, outcome = .error error ∧ files'' = files') ∨
          (outcome = .ok buffer.length ∧
           Overwrites (files'.ramFiles identity) offset buffer (files''.ramFiles identity)))) ↔
         Fits files' identity offset buffer) := by
  obtain ⟨offset, hafter⟩ := calls.ramOpen hopen
  obtain ⟨⟨closeOnExec, hfile⟩, hcontent⟩ := hafter
  refine ⟨offset, ⟨⟨closeOnExec, hfile⟩, hcontent⟩, ?_⟩
  rw [write_ramFile hfile]
  by_cases hfits : Fits files' identity offset buffer
  · obtain ⟨_, hnew, hover, -⟩ := writeInto_ok hcontent hfits
    refine iff_of_true ?_ hfits
    rw [hnew]
    refine ⟨_, _, _, rfl, .inr ⟨rfl, ?_⟩⟩
    simpa using hover
  · obtain ⟨_, herr⟩ := writeInto_error hcontent hfits
    rw [herr]
    exact iff_of_false (fun ⟨_, _, _, hok, _⟩ => by cases hok) hfits

/-- A table whose descriptor zero is open on the first RAM file. -/
def ramTable : FileDescriptorTable := ⟨[some ⟨.ramFile 0, 0, false⟩], by decide⟩

/-- Empty RAM files, each of which may take the whole heap. -/
def emptyFiles : FileState := ⟨fun _ => [], [], fun _ => heapSize⟩

/-- A seek to the size of the kernel heap, then a write of one byte. -/
theorem write_past_heap_panics :
    ∃ table, RamCalls 0 ramTable emptyFiles table emptyFiles ∧
      table.write emptyFiles 0 [65] = .error "memory allocation failed" := by
  have hseek : ramTable.seekFrom emptyFiles 0 heapSize .start =
      .ok (heapSize, ramTable.setOffset 0 ⟨.ramFile 0, 0, false⟩ heapSize) := rfl
  exact ⟨_, .seek .start hseek, rfl⟩

/-- A first byte. -/
theorem ram_write_behaves_first_byte :
    RamOpen 0 0 ramTable emptyFiles 0 ∧
      ∃ outcome table files, ramTable.write emptyFiles 0 [65] = .ok (outcome, table, files) := by
  have hopen : RamOpen 0 0 ramTable emptyFiles 0 := ⟨⟨false, rfl⟩, Nat.zero_le _⟩
  obtain ⟨_, ⟨⟨_, hfile⟩, -⟩, hiff⟩ := ram_write_behaves_iff hopen .start [65]
  cases hfile
  obtain ⟨outcome, table, files, hwrite, -⟩ := hiff.2 (.inr (by decide))
  exact ⟨hopen, outcome, table, files, hwrite⟩

end FileDescriptorTable
end ManaOS
