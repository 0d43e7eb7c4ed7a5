/-
Listing a directory with `getdents64`.

The descriptor holds the number of entries already listed, and a call writes one record of fixed
size for each entry that its buffer has room for.

* `Memory.userByte_storeUserBytes`: what was stored in a span of user memory is read back, where
  no two of its addresses share a physical byte;
* `readDirectoryRecord_userDirectoryEntry`: a record says what its entry is;
* `getdents64_lists_directory` (**the listing**): whatever calls are made, they list a front part
  of the snapshot together, each entry once, in order and inside the buffer of its call.
-/
import ManaOS.Memory.MappingCalls
import ManaOS.Syscall.FileEffects
import Mathlib.Data.List.Induction

namespace ManaOS
open Checked

/-! ### Reading back what was stored -/

namespace Memory
variable (mapper : PageMapper) (memory : Memory)

/-- The physical byte behind a virtual address of the active address space. -/
def place (address : ℕ) : Option ℕ :=
  (mapper.translate memory.activeLevel4Frame address memory.tables).map
    Translation.physicalAddress

/-- The bytes that the CPU reads from an address on. -/
def bytesAt (start count : ℕ) : List UInt8 :=
  (List.range count).map fun offset => memory.userByte mapper (start + offset)

/-- Each address of the span has a physical byte, and none that an earlier address has. -/
def Separate (start count : ℕ) : Prop :=
  ∀ i < count, ∃ place, memory.place mapper (start + i) = some place ∧
    ∀ j < i, memory.place mapper (start + j) ≠ some place

variable {mapper memory} {data : List UInt8}

lemma place_of_sameTables {memory' : Memory} (h : memory.SameTables memory') (address : ℕ) :
    memory'.place mapper address = memory.place mapper address := by
  obtain ⟨_, rfl⟩ := h
  rfl

lemma userByte_of_place (h : memory.place mapper address = some found) :
    memory.userByte mapper address = memory.bytes found := by
  obtain ⟨_, htr, rfl⟩ := Option.map_eq_some_iff.1 h
  rw [userByte, htr]

/-- One byte is stored, then the others behind it. -/
lemma storeUserBytes_cons (h : memory.place mapper start = some found) (byte : UInt8) :
    memory.storeUserBytes mapper start (byte :: data) =
      { memory with bytes := Function.update memory.bytes found byte }.storeUserBytes mapper
        (start + 1) data := by
  obtain ⟨_, htr, rfl⟩ := Option.map_eq_some_iff.1 h
  rw [storeUserBytes, htr]

/-- **A store changes the physical bytes of its span only.** -/
lemma bytes_storeUserBytes_of_ne
    (h : ∀ i < data.length, memory.place mapper (start + i) ≠ some other) :
    (memory.storeUserBytes mapper start data).bytes other = memory.bytes other := by
  induction data generalizing memory start with
  | nil => rfl
  | cons byte rest ih =>
    have hrest : ∀ i < rest.length, memory.place mapper (start + 1 + i) ≠ some other := by
      intro i hi
      rw [Nat.add_assoc, Nat.add_comm 1]
      exact h (i + 1) (Nat.succ_lt_succ hi)
    rw [storeUserBytes]
    cases htr : mapper.translate memory.activeLevel4Frame start memory.tables with
    | none => exact ih hrest
    | some translation =>
      have hne : other ≠ translation.physicalAddress := by
        rintro rfl
        exact h 0 (Nat.succ_pos _) (by rw [place, Nat.add_zero, htr]; rfl)
      have hstored := @ih
        { memory with bytes := Function.update memory.bytes translation.physicalAddress byte }
        (start + 1) hrest
      exact hstored.trans (Function.update_of_ne hne _ _)

/-- **What was stored is read back**, where no two addresses share a physical byte. -/
lemma userByte_storeUserBytes (hsep : memory.Separate mapper start data.length)
    (hi : i < data.length) :
    (memory.storeUserBytes mapper start data).userByte mapper (start + i) = data[i] := by
  induction data generalizing memory start i with
  | nil => cases hi
  | cons byte rest ih =>
    obtain ⟨found, hfound, -⟩ := hsep 0 (Nat.succ_pos _)
    rw [Nat.add_zero] at hfound
    rw [storeUserBytes_cons hfound]
    generalize hstored : { memory with bytes := Function.update memory.bytes found byte } = stored
    have hplace : ∀ address, stored.place mapper address = memory.place mapper address := by
      subst hstored
      exact fun _ => rfl
    cases i with
    | zero =>
      have hkept : ∀ j < rest.length, stored.place mapper (start + 1 + j) ≠ some found := by
        intro j hj hsame
        obtain ⟨_, hat, hne⟩ := hsep (j + 1) (Nat.succ_lt_succ hj)
        rw [← Nat.add_assoc, Nat.add_right_comm, ← hplace, hsame] at hat
        cases hat
        exact hne 0 (Nat.succ_pos _) hfound
      have hat : (stored.storeUserBytes mapper (start + 1) rest).place mapper start =
          stored.place mapper start :=
        place_of_sameTables (sameTables_storeUserBytes mapper stored (start + 1) rest) start
      rw [Nat.add_zero start, userByte_of_place (hat.trans ((hplace start).trans hfound)),
        bytes_storeUserBytes_of_ne hkept, ← hstored]
      exact Function.update_self ..
    | succ i =>
      have hshift : ∀ j, start + (j + 1) = start + 1 + j := fun j => by omega
      rw [hshift i]
      refine ih (fun j hj => ?_) (Nat.lt_of_succ_lt_succ hi)
      obtain ⟨other, hat, hne⟩ := hsep (j + 1) (Nat.succ_lt_succ hj)
      refine ⟨other, by rw [hplace, ← hshift, hat], fun k hk => ?_⟩
      rw [hplace, ← hshift]
      exact hne (k + 1) (Nat.succ_lt_succ hk)

end Memory

/-! ### The records of a listing -/

/-- What a program reads in a record of `UserDirectoryEntry`: type, size and name. -/
def readDirectoryRecord (record : List UInt8) : ℕ × ℕ × List UInt8 :=
  (fromBytes (record.take 8), fromBytes ((record.drop 8).take 8),
    (record.drop 24).take (fromBytes ((record.drop 16).take 8)))

/-- What a record says of an entry; names are cut at the size of their field. -/
def DirectoryEntry.shown (entry : DirectoryEntry) : ℕ × ℕ × List UInt8 :=
  (fileTypeWord entry.metadata.fileType, entry.metadata.size % wordSize,
    entry.name.bytes.take directoryEntryNameBytes)

lemma readDirectoryRecord_append {fileType size nameLength rest : List UInt8}
    (htype : fileType.length = 8) (hsize : size.length = 8) (hname : nameLength.length = 8) :
    readDirectoryRecord (fileType ++ (size ++ (nameLength ++ rest))) =
      (fromBytes fileType, fromBytes size, rest.take (fromBytes nameLength)) := by
  have h16 : (fileType ++ (size ++ (nameLength ++ rest))).drop 16 = nameLength ++ rest := by
    rw [show 16 = fileType.length + size.length by omega, List.drop_length_add_append,
      List.drop_left]
  have h24 : (fileType ++ (size ++ (nameLength ++ rest))).drop 24 = rest := by
    rw [← List.drop_drop (i := 8) (j := 16), h16, List.drop_left' hname]
  rw [readDirectoryRecord, h16, h24, List.take_left' htype, List.drop_left' htype,
    List.take_left' hsize, List.take_left' hname]

/-- **A record says what its entry is**, with the name cut at the size of its field. -/
lemma readDirectoryRecord_userDirectoryEntry (entry : DirectoryEntry) :
    readDirectoryRecord (userDirectoryEntry entry) = entry.shown := by
  have htype : fileTypeWord entry.metadata.fileType % 256 ^ 8 =
      fileTypeWord entry.metadata.fileType := by
    cases entry.metadata.fileType <;> rfl
  have hname : (entry.name.bytes.take directoryEntryNameBytes).length % 256 ^ 8 =
      (entry.name.bytes.take directoryEntryNameBytes).length :=
    Nat.mod_eq_of_lt (Nat.lt_of_le_of_lt (List.length_take_le _ _) (by decide))
  rw [userDirectoryEntry, List.append_assoc, List.append_assoc, List.append_assoc,
    readDirectoryRecord_append (toBytes_length _ _) (toBytes_length _ _) (toBytes_length _ _),
    fromBytes_toBytes, fromBytes_toBytes, fromBytes_toBytes, htype, hname, List.take_left]
  rfl

lemma getElem?_flatMap_userDirectoryEntry {batch : List DirectoryEntry} (hi : i < batch.length)
    (hk : k < userDirectoryEntryBytes) :
    (batch.flatMap userDirectoryEntry)[i * userDirectoryEntryBytes + k]? =
      (userDirectoryEntry batch[i])[k]? := by
  induction batch generalizing i with
  | nil => cases hi
  | cons entry rest ih =>
    have hlen := Kernel.userDirectoryEntry_length entry
    rw [List.flatMap_cons]
    cases i with
    | zero =>
      rw [Nat.zero_mul, Nat.zero_add, List.getElem?_append_left (by omega)]
      rfl
    | succ i =>
      rw [Nat.add_mul, Nat.one_mul, List.getElem?_append_right (by omega),
        show i * userDirectoryEntryBytes + userDirectoryEntryBytes + k -
          (userDirectoryEntry entry).length = i * userDirectoryEntryBytes + k by omega]
      exact ih (Nat.lt_of_succ_lt_succ hi)

/-- **A batch in user memory**: it fits the buffer, a program reads its entries back, and no other
byte has changed. -/
structure Listed (mapper : PageMapper) (memory memory' : Memory) (call : ℕ × ℕ)
    (batch : List DirectoryEntry) : Prop where
  fits : batch.length * userDirectoryEntryBytes ≤ call.2
  shown : memory.Separate mapper call.1 (batch.length * userDirectoryEntryBytes) →
    ∀ i (hi : i < batch.length), readDirectoryRecord (memory'.bytesAt mapper
      (call.1 + i * userDirectoryEntryBytes) userDirectoryEntryBytes) = batch[i].shown
  kept : ∀ other, (∀ k < batch.length * userDirectoryEntryBytes,
    memory.place mapper (call.1 + k) ≠ some other) → memory'.bytes other = memory.bytes other
  tables : memory.SameTables memory'

/-- The store of the records puts the batch into memory. -/
lemma listed_storeUserBytes {mapper : PageMapper} {memory : Memory} {call : ℕ × ℕ}
    {batch : List DirectoryEntry} (hfits : batch.length * userDirectoryEntryBytes ≤ call.2) :
    Listed mapper memory (memory.storeUserBytes mapper call.1 (batch.flatMap userDirectoryEntry))
      call batch := by
  have htotal : (batch.flatMap userDirectoryEntry).length =
      batch.length * userDirectoryEntryBytes := by
    simp [List.length_flatMap, Kernel.userDirectoryEntry_length]
  refine ⟨hfits, fun hsep i hi => ?_, fun other hne => ?_,
    Memory.sameTables_storeUserBytes mapper _ _ _⟩
  · rw [← htotal] at hsep
    rw [← readDirectoryRecord_userDirectoryEntry]
    congr 1
    refine List.ext_getElem? fun k => ?_
    rw [Memory.bytesAt, List.getElem?_map]
    rcases Nat.lt_or_ge k userDirectoryEntryBytes with hk | hk
    · have hend : i * userDirectoryEntryBytes + k < (batch.flatMap userDirectoryEntry).length := by
        have hle := Nat.mul_le_mul_right userDirectoryEntryBytes (Nat.succ_le_of_lt hi)
        rw [Nat.succ_mul] at hle
        omega
      rw [List.getElem?_range hk, Option.map_some, Nat.add_assoc,
        Memory.userByte_storeUserBytes hsep hend, ← List.getElem?_eq_getElem hend]
      exact getElem?_flatMap_userDirectoryEntry hi hk
    · rw [List.getElem?_eq_none (by simpa using hk), List.getElem?_eq_none
        (by rw [Kernel.userDirectoryEntry_length]; exact hk)]
      rfl
  · refine Memory.bytes_storeUserBytes_of_ne fun k hk => hne k ?_
    rwa [← htotal]

/-! ### The calls -/

namespace Kernel
variable {entries : List DirectoryEntry} {kernel : Kernel}

/-- The current task has the descriptor open on the directory, after some entries. -/
def ListsAt (kernel : Kernel) (descriptor : ℕ) (entries : List DirectoryEntry)
  (position : ℕ) : Prop :=
  ∃ table closeOnExec, kernel.scheduler.currentFileDescriptorTable = .ok table ∧
    table.getOpenFile descriptor = .ok ⟨.directoryNode entries, position, closeOnExec⟩

lemma currentFileDescriptorTable_replaced {s : Scheduler}
  (h : s.currentFileDescriptorTable = .ok table) (table' : FileDescriptorTable) :
  (s.replaceCurrentFileDescriptorTable table').currentFileDescriptorTable = .ok table' := by
  simp only [Scheduler.currentFileDescriptorTable, bind_eq_ok, Scheduler.currentTask_eq_ok] at h
  obtain ⟨task, htask, -⟩ := h
  have haft := Scheduler.getElem?_modifyTask_self htask
    (f := fun task => { task with metadata := { task.metadata with fileDescriptors := table' } })
  rw [Scheduler.currentFileDescriptorTable, Scheduler.replaceCurrentFileDescriptorTable,
    Scheduler.currentTask_eq_ok.2 haft]
  rfl

lemma readDirectoryEntries_lists (hsize : entries.length < wordSize)
    (h : kernel.ListsAt descriptor entries position) (room : ℕ) (written : List UInt8) :
    ∃ kernel',
      readDirectoryEntries descriptor room written kernel =
        .ok
          (.ok (written ++ ((entries.drop position).take room).flatMap userDirectoryEntry),
             kernel') ∧
      kernel'.ListsAt descriptor entries (position + ((entries.drop position).take room).length) ∧
      kernel'.memory = kernel.memory := by
  induction room generalizing kernel position written with
  | zero => exact ⟨kernel, by simp [readDirectoryEntries], by simpa using h, rfl⟩
  | succ _ ih =>
    obtain ⟨table, closeOnExec, htab, hopen⟩ := h
    have hrepl := currentFileDescriptorTable_replaced htab
    cases hent : entries[position]? with
    | none =>
      simp only [readDirectoryEntries, withCurrentFileDescriptorTable, bind, Except.bind, htab,
        FileDescriptorTable.readDirectory, hopen, FileNode.listEntries, hent]
      rw [List.drop_of_length_le (List.getElem?_eq_none_iff.1 hent), List.take_nil,
        List.flatMap_nil, List.append_nil]
      exact ⟨_, rfl, ⟨table, closeOnExec, hrepl table, hopen⟩, rfl⟩
    | some _ =>
      obtain ⟨hlt, rfl⟩ := List.getElem?_eq_some_iff.1 hent
      simp only [readDirectoryEntries, withCurrentFileDescriptorTable, bind, Except.bind, htab,
        FileDescriptorTable.readDirectory, hopen, FileNode.listEntries, hent,
        saturatingAdd_of_lt (show position + 1 < wordSize by omega)]
      rw [List.drop_eq_getElem_cons hlt, List.take_succ_cons, List.flatMap_cons, List.length_cons,
        ← List.append_assoc, ← Nat.add_assoc, Nat.add_right_comm]
      exact ih ⟨_, closeOnExec, hrepl _, FileDescriptorTable.getOpenFile_setOffset hopen _⟩ _

section
variable (mapper : PageMapper) (descriptor : ℕ) (entries : List DirectoryEntry)

/-- A bad buffer changes nothing, a good one gets whole entries, and zero says that all have been
listed. -/
def Answer (kernel : Kernel) (call : ℕ × ℕ) (position : ℕ) (batch : List DirectoryEntry)
    (kernel' : Kernel) : Prop :=
  ∃ result, kernel.sysGetdents64 mapper descriptor call.1 call.2 = .ok (result, kernel') ∧
    ((batch = [] ∧ kernel' = kernel ∧
        (call.2 < userDirectoryEntryBytes ∧ result = errorInvalidArgument ∨
          kernel.copyOutputBuffer mapper call.1 call.2 = none ∧ result = errorBadAddress)) ∨
      ((kernel.copyOutputBuffer mapper call.1 call.2).isSome = true ∧
        userDirectoryEntryBytes ≤ call.2 ∧ result = batch.length * userDirectoryEntryBytes ∧
        (result = 0 ↔ entries.length ≤ position) ∧
        Listed mapper kernel.memory kernel'.memory call batch))

/-- Calls one after the other, with the entries that they list together. -/
inductive Listing (kernel : Kernel) : List (ℕ × ℕ) → List DirectoryEntry → Kernel → Prop
  | start : Listing kernel [] [] kernel
  | call {calls listed kernel1 call batch kernel2} (before : Listing kernel calls listed kernel1)
      (hanswer : Answer mapper descriptor entries kernel1 call listed.length batch kernel2) :
      Listing kernel (calls ++ [call]) (listed ++ batch) kernel2

end

lemma exists_answer (mapper : PageMapper) (hsize : entries.length < wordSize)
    (h : kernel.ListsAt descriptor entries position) (call : ℕ × ℕ) :
    ∃ batch kernel',
      Answer mapper descriptor entries kernel call position batch kernel' ∧
      batch <+: entries.drop position ∧
      kernel'.ListsAt descriptor entries (position + batch.length) := by
  by_cases hlen : call.2 < userDirectoryEntryBytes
  · refine ⟨[], kernel, ⟨_, ?_, .inl ⟨rfl, rfl, .inl ⟨hlen, rfl⟩⟩⟩, List.nil_prefix, h⟩
    rw [sysGetdents64, if_pos hlen]
    rfl
  cases hbuf : kernel.copyOutputBuffer mapper call.1 call.2 with
  | none =>
    refine ⟨[], kernel, ⟨_, ?_, .inl ⟨rfl, rfl, .inr ⟨hbuf, rfl⟩⟩⟩, List.nil_prefix, h⟩
    rw [sysGetdents64, if_neg hlen, hbuf]
    rfl
  | some buffer =>
    have hroom : 0 < buffer.bytes.length / userDirectoryEntryBytes := by
      rw [(copyOutputBuffer_length hbuf).1]
      exact Nat.div_pos (Nat.le_of_not_lt hlen) (by decide)
    obtain ⟨kernel1, hread, hat, hmem⟩ := readDirectoryEntries_lists hsize h
      (buffer.bytes.length / userDirectoryEntryBytes) []
    generalize hbatch : (entries.drop position).take
      (buffer.bytes.length / userDirectoryEntryBytes) = batch at hread hat
    have htotal : (batch.flatMap userDirectoryEntry).length =
        batch.length * userDirectoryEntryBytes := by
      simp [List.length_flatMap, userDirectoryEntry_length]
    have hfits : batch.length * userDirectoryEntryBytes ≤ call.2 := by
      have hle : batch.length ≤ buffer.bytes.length / userDirectoryEntryBytes := by
        rw [← hbatch]
        exact List.length_take_le _ _
      rw [(copyOutputBuffer_length hbuf).1] at hle
      exact (Nat.mul_le_mul_right _ hle).trans (Nat.div_mul_le_self _ _)
    have hstart : buffer.start = call.1 := by
      refine copyOutputBuffer_start hbuf ?_
      rw [(copyOutputBuffer_length hbuf).1]
      exact Nat.lt_of_lt_of_le (by decide) (Nat.le_of_not_lt hlen)
    refine ⟨batch, kernel1.storeBuffer mapper buffer (batch.flatMap userDirectoryEntry),
      ⟨_, ?_, .inr ⟨by rw [hbuf]; rfl, Nat.le_of_not_lt hlen, rfl, ?_, ?_⟩⟩,
      hbatch ▸ List.take_prefix .., hat⟩
    · rw [sysGetdents64, if_neg hlen, hbuf]
      dsimp only
      rw [hread, ← htotal]
      rfl
    · rw [Nat.mul_eq_zero, or_iff_left (by decide), ← hbatch, List.length_take, List.length_drop]
      omega
    · rw [storeBuffer, hmem, hstart]
      exact listed_storeUserBytes hfits

/-- **Listing a directory.**  Whatever calls are made on a descriptor at the start of a directory,
they all return, and together they list a front part of the snapshot, each entry once and in
order. -/
theorem getdents64_lists_directory (mapper : PageMapper) (descriptor : ℕ)
  (entries : List DirectoryEntry) (hsize : entries.length < wordSize) (kernel : Kernel)
  (h : kernel.ListsAt descriptor entries 0) (calls : List (ℕ × ℕ)) :
  ∃ listed kernel', Listing mapper descriptor entries kernel calls listed kernel' ∧
    listed <+: entries ∧ kernel'.ListsAt descriptor entries listed.length := by
  induction calls using List.reverseRecOn with
  | nil => exact ⟨[], kernel, .start, List.nil_prefix, h⟩
  | append_singleton _ call ih =>
    obtain ⟨listed, _, hrun, hfront, hat⟩ := ih
    obtain ⟨batch, kernel2, hanswer, hbatch, _⟩ := exists_answer mapper hsize hat call
    refine ⟨listed ++ batch, kernel2, .call hrun hanswer, ?_, by rwa [List.length_append]⟩
    obtain ⟨_, rfl⟩ := hfront
    rw [List.drop_left] at hbatch
    exact (List.prefix_append_right_inj listed).2 hbatch

/-- A directory with two entries. -/
def twoEntries : List DirectoryEntry :=
  [⟨['a'], .regular, 5, false⟩, ⟨['b'], .directory, 0, false⟩]

/-- The current task has mapped one page and has opened the directory. -/
def listingKernel : Panicking Kernel := do
  let (space, memory) ← createUserAddressSpace bootMemory
  let (_, _, memory, _) ← UserMappings.new.mapPrivate walkMapper space memory
    (UserMappings.onePagePlan .any) UserMappings.keepZero ()
  return { bootKernel with
    memory := switchToUserAddressSpace memory space
    scheduler := Scheduler.new.replaceCurrentFileDescriptorTable
      ⟨[some ⟨.directoryNode twoEntries, 0, false⟩], by decide⟩ }

/-- A refused call, then a buffer for two entries: the two results. -/
def listingResults : Panicking (ℕ × ℕ) := do
  let kernel ← listingKernel
  let (refused, kernel) ← kernel.sysGetdents64 walkMapper 0 0 0
  let (result, _) ← kernel.sysGetdents64 walkMapper 0 userMappingBase 160
  return (refused, result)

lemma Listing.of_no_calls {mapper : PageMapper}
    (h : Listing mapper descriptor entries kernel [] listed kernel') :
    listed = [] ∧ kernel' = kernel := by
  generalize hcalls : ([] : List (ℕ × ℕ)) = all at h
  cases h with
  | start => exact ⟨rfl, rfl⟩
  | call => exact absurd hcalls.symm (List.append_ne_nil_of_right_ne_nil _ (List.cons_ne_nil _ _))

/-- The last call of a listing. -/
lemma Listing.last {mapper : PageMapper} {calls : List (ℕ × ℕ)} {call : ℕ × ℕ}
    (h : Listing mapper descriptor entries kernel (calls ++ [call]) listed kernel') :
    ∃ before kernel1 batch, Listing mapper descriptor entries kernel calls before kernel1 ∧
      Answer mapper descriptor entries kernel1 call before.length batch kernel' ∧
      listed = before ++ batch := by
  generalize hcalls : calls ++ [call] = all at h
  cases h with
  | start => cases calls <;> cases hcalls
  | call before hanswer =>
    obtain ⟨rfl, hcall⟩ := List.append_inj' hcalls rfl
    cases hcall
    exact ⟨_, _, _, before, hanswer, rfl⟩

set_option maxRecDepth 100000 in
/-- The refused call lists nothing and the next one the whole directory. -/
theorem getdents64_lists_directory_two :
    ∃ kernel listed kernel',
      listingKernel = .ok kernel ∧
      kernel.ListsAt 0 twoEntries 0 ∧
      Listing walkMapper 0 twoEntries kernel ([(0, 0)] ++ [(userMappingBase, 160)]) listed kernel' ∧
      listed = twoEntries := by
  have hrun : listingResults = .ok (errorInvalidArgument, 160) := by decide +kernel
  simp only [listingResults, bind_eq_ok, Prod.exists, pure_eq_ok, Prod.mk.injEq] at hrun
  obtain ⟨kernel, hkernel, _, kernel1, hfirst, _, kernel2, hsecond, -, rfl⟩ := hrun
  have hlists : kernel.ListsAt 0 twoEntries 0 := by
    have hstart := hkernel
    simp only [listingKernel, bind_eq_ok, Prod.exists, pure_eq_ok] at hstart
    obtain ⟨_, _, -, _, _, _, _, -, rfl⟩ := hstart
    exact ⟨_, _, rfl, rfl⟩
  obtain ⟨listed, kernel', hlisting, hfront, -⟩ := getdents64_lists_directory walkMapper 0
    twoEntries (by decide) kernel hlists ([(0, 0)] ++ [(userMappingBase, 160)])
  refine ⟨kernel, listed, kernel', hkernel, hlists, hlisting, ?_⟩
  obtain ⟨before, _, batch, hbefore, ⟨_, hcall, hend⟩, rfl⟩ := hlisting.last
  have hrefused : Listing walkMapper 0 twoEntries kernel ([] ++ [(0, 0)]) before _ := hbefore
  obtain ⟨_, _, _, hnone, ⟨_, hcall0, hend0⟩, rfl⟩ := hrefused.last
  obtain ⟨rfl, rfl⟩ := hnone.of_no_calls
  obtain ⟨rfl, rfl, -⟩ | ⟨-, hlarge, -⟩ := hend0
  · cases hfirst.symm.trans hcall0
    cases hsecond.symm.trans hcall
    obtain ⟨-, -, ⟨hsmall, -⟩ | ⟨-, hbad⟩⟩ | ⟨-, -, hcount, -⟩ := hend
    · exact absurd hsmall (by decide)
    · exact absurd hbad (by decide)
    · refine hfront.eq_of_length ?_
      rw [userDirectoryEntryBytes] at hcount
      change batch.length = 2
      omega
  · exact absurd hlarge (by decide)

end Kernel
end ManaOS
