/-
What the file handlers do.

Most touch user memory, files and the caller's descriptors only, and return no sentinel.

* `Quiet`, `Handled`: what such a handler leaves alone.
-/
import ManaOS.Filesystem.DescriptorCalls
import ManaOS.Lib.Outcomes
import ManaOS.Syscall.Dispatch
import ManaOS.Task.Calls

namespace ManaOS
open Checked

/-! ### Results -/

/-- A result that is none of the three sentinels. -/
def Plain (result : ℕ) : Prop := result < userExecveSentinel ∨ userExitSentinel < result

instance (result : ℕ) : Decidable (Plain result) := inferInstanceAs (Decidable (_ ∨ _))

lemma plain_of_lt (h : result < 2 ^ 63) : Plain result :=
  .inl (Nat.lt_trans h (by decide))

lemma plain_zero : Plain 0 := by decide

lemma plain_filesystemErrorToLinux (error : FileSystemError) :
  Plain (filesystemErrorToLinux error) := by
  cases error <;> decide

lemma plain_spawnErrorToLinux (error : UserProgramSpawnError) :
    Plain (spawnErrorToLinux error) := by
  cases error <;> decide

lemma plain_userMappingErrorToLinux (error : UserMappingError) :
  Plain (userMappingErrorToLinux error) := by
  cases error <;> decide

lemma Plain.ne (h : Plain result) :
  result ≠ userExitSentinel ∧ result ≠ userBlockSentinel ∧ result ≠ userExecveSentinel := by
  have hexit : userExitSentinel = userBlockSentinel + 1 := by decide
  have hblock : userBlockSentinel = userExecveSentinel + 1 := by decide
  rcases h with h | h <;> refine ⟨?_, ?_, ?_⟩ <;> rintro rfl <;> omega

lemma plain_syscallResult {result : FileSystemResult ℕ}
  (h : ∀ value, result = .ok value → Plain value) :
  Plain (syscallResult (result.mapError filesystemErrorToLinux)) := by
  cases result with
  | error error => exact plain_filesystemErrorToLinux error
  | ok value => exact h value rfl

/-! ### Quiet handlers -/

/-- Only bytes of physical memory have changed. -/
def Memory.SameTables (memory memory' : Memory) : Prop :=
  ∃ bytes, memory' = { memory with bytes }

lemma Memory.SameTables.refl (memory : Memory) : memory.SameTables memory := ⟨memory.bytes, rfl⟩

lemma Memory.SameTables.trans {memory : Memory} (h : memory.SameTables memory')
  (h' : memory'.SameTables memory'') : memory.SameTables memory'' := by
  obtain ⟨_, rfl⟩ := h
  obtain ⟨bytes', rfl⟩ := h'
  exact ⟨bytes', rfl⟩

lemma Memory.sameTables_storeUserBytes (mapper : PageMapper) (memory : Memory) (address : ℕ)
  (data : List UInt8) : memory.SameTables (memory.storeUserBytes mapper address data) := by
  induction data generalizing memory address with
  | nil => exact .refl _
  | cons _ _ ih =>
    rw [storeUserBytes]
    cases mapper.translate memory.activeLevel4Frame address memory.tables with
    | none => exact ih _ _
    | some _ => exact Memory.SameTables.trans ⟨_, rfl⟩ (ih _ _)

namespace Kernel
variable {mapper : PageMapper} {kernel kernel' : Kernel}

/-- A handler that leaves task views, tables, allocator and selectors as they were. -/
structure Quiet (mapper : PageMapper) (kernel kernel' : Kernel) : Prop where
  calls : kernel.scheduler.Calls mapper kernel'.scheduler
  view : kernel.scheduler.SameView kernel'.scheduler
  memory : kernel.memory.SameTables kernel'.memory
  selectors : kernel'.selectors = kernel.selectors

lemma Quiet.refl (kernel : Kernel) : Quiet mapper kernel kernel := ⟨.refl, .refl _, .refl _, rfl⟩

lemma Quiet.trans (h : Quiet mapper kernel kernel')
  (h' : Quiet mapper kernel' kernel'') : Quiet mapper kernel kernel'' := ⟨h.calls.trans h'.calls,
    h.view.trans h'.view, h.memory.trans h'.memory, h'.selectors.trans h.selectors⟩

lemma quiet_storeBuffer (kernel : Kernel) (buffer : UserBuffer) (data : List UInt8) :
  Quiet mapper kernel (kernel.storeBuffer mapper buffer data) :=
  ⟨.refl, .refl _, Memory.sameTables_storeUserBytes mapper _ _ _, rfl⟩

lemma quiet_replaceCurrentFileDescriptorTable (kernel : Kernel) (table : FileDescriptorTable)
  (fileSystem : FileSystem) :
  Quiet mapper kernel { kernel with
    scheduler := kernel.scheduler.replaceCurrentFileDescriptorTable table, fileSystem } :=
  ⟨.single (.replaceCurrentFileDescriptorTable _ _),
    Scheduler.sameView_replaceCurrentFileDescriptorTable _ _, .refl _, rfl⟩

lemma withCurrentFileDescriptorTable_ok {α : Type} {operation : FileDescriptorTable → FileState →
    Panicking (FileSystemResult α × FileDescriptorTable × FileState)} {value : Except ℕ α}
  (h : kernel.withCurrentFileDescriptorTable operation = .ok (value, kernel')) :
  ∃ table table' files' outcome, kernel.scheduler.currentFileDescriptorTable = .ok table ∧
    operation table kernel.fileSystem.files = .ok (outcome, table', files') ∧
    value = outcome.mapError filesystemErrorToLinux ∧
    kernel' = { kernel with
      scheduler := kernel.scheduler.replaceCurrentFileDescriptorTable table'
      fileSystem := { kernel.fileSystem with files := files' } } := by
  simp only [withCurrentFileDescriptorTable, bind_eq_ok, Prod.exists] at h
  obtain ⟨table, htab, outcome, table', files', hop, h⟩ := h
  cases h
  exact ⟨table, table', files', outcome, htab, hop, rfl, rfl⟩

lemma withCurrentFileDescriptorTable_quiet {α : Type} {operation : FileDescriptorTable → FileState →
    Panicking (FileSystemResult α × FileDescriptorTable × FileState)} {value : Except ℕ α}
  (h : kernel.withCurrentFileDescriptorTable operation = .ok (value, kernel')) :
  Quiet mapper kernel kernel' := by
  obtain ⟨_, _, _, _, -, -, -, rfl⟩ := withCurrentFileDescriptorTable_ok h
  exact quiet_replaceCurrentFileDescriptorTable _ _ _

/-! ### Sizes -/

end Kernel

lemma UserVirtualRange.byteLen_lt (range : UserVirtualRange) : range.byteLen < 2 ^ 63 := by
  have h := range.le_end
  have hend : userSpaceEnd < 2 ^ 63 := by decide
  omega

lemma UserVirtualRange.byteLen_of_fromSyscallArguments {userPointer byteLen : ℕ}
  (h : fromSyscallArguments userPointer byteLen = some range) : range.byteLen = byteLen := by
  rw [fromSyscallArguments, Option.bind_eq_some_iff] at h
  obtain ⟨_, -, h⟩ := h
  rw [new] at h
  split at h
  · cases h
    rfl
  · cases h

variable {buffer : List UInt8} {table : FileDescriptorTable}

lemma FileDescriptorTable.write_ok
    (h : table.write files descriptor buffer = .ok (.ok value, table', files')) :
    value = buffer.length := by
  rw [write] at h
  split at h
  · cases h
  next openFile ho =>
  simp only [bind_eq_ok, Prod.exists] at h
  obtain ⟨outcome, _, hwrite, h⟩ := h
  cases outcome with
  | error _ => cases h
  | ok _ =>
    cases h
    cases hn : openFile.node <;> simp only [hn, FileNode.writeAt, pure_eq, bind_eq_ok] at hwrite
    case ramFile identity =>
      obtain ⟨_, -, hwrite⟩ := hwrite
      cases hwrite
      rfl
    all_goals
      cases hwrite
      try rfl

lemma readFrom_le (data : List UInt8) (offset : ℕ) (buffer : List UInt8) :
  (readFrom data offset buffer).1 ≤ buffer.length := by
  rw [readFrom]
  split
  · exact Nat.zero_le _
  · exact Nat.min_le_right _ _

lemma FileNode.readAt_le {node : FileNode}
    (h : node.readAt files offset buffer = (.ok count, filled, files')) :
    count ≤ buffer.length := by
  cases node with
  | consoleDevice => cases h
  | keyboardInputDevice =>
    simp only [readAt] at h
    split at h
    · cases h
      exact Nat.zero_le _
    split at h
    · cases h
    · cases h
      exact Nat.min_le_right _ _
  | nullDevice =>
    cases h
    exact Nat.zero_le _
  | ramFile _ =>
    cases h
    exact readFrom_le _ _ _
  | directoryNode _ => cases h
  | readOnlyFile _ =>
    cases h
    exact readFrom_le _ _ _
  | readOnlyBackendFile _ _ backend =>
    simp only [readAt] at h
    split at h
    · next _ _ hread =>
      cases h
      exact backend.count_le (by rw [hread])
    · cases h

lemma FileDescriptorTable.read_le
    (h : table.read files descriptor buffer = (.ok count, filled, table', files')) :
    count ≤ buffer.length := by
  rw [read] at h
  split at h
  · cases h
  next _ ho =>
  split at h
  · cases h
  · next hread =>
    cases h
    exact FileNode.readAt_le hread

namespace Kernel
variable {mapper : PageMapper} {kernel kernel' : Kernel} {result : ℕ}
variable {userPointer fileDescriptor : ℕ} {buffer : UserBuffer}

lemma copyInputBuffer_length {byteLen : ℕ} {buffer : List UInt8}
  (h : kernel.copyInputBuffer mapper userPointer byteLen = some buffer) :
  buffer.length < 2 ^ 63 := by
  rw [copyInputBuffer] at h
  split at h
  · cases h
    decide
  rw [Option.bind_eq_some_iff] at h
  obtain ⟨range, -, h⟩ := h
  rw [copyFromUser] at h
  split at h
  · cases h
    rw [Memory.userBytes, List.length_map, List.length_range]
    exact range.asRange.byteLen_lt
  · cases h

lemma userBuffer_length (h : kernel.userBuffer mapper range = some buffer) :
  buffer.bytes.length = range.asRange.byteLen := by
  rw [userBuffer, Option.map_eq_some_iff] at h
  obtain ⟨_, hcopy, rfl⟩ := h
  rw [copyToUser] at hcopy
  split at hcopy
  · cases hcopy
    rw [Memory.userBytes, List.length_map, List.length_range]
  · cases hcopy

lemma copyOutputBuffer_length {byteLen : ℕ}
  (h : kernel.copyOutputBuffer mapper userPointer byteLen = some buffer) :
  buffer.bytes.length = byteLen ∧ byteLen < 2 ^ 63 := by
  rw [copyOutputBuffer] at h
  split at h
  · next hzero =>
    cases h
    subst hzero
    exact ⟨rfl, by decide⟩
  rw [Option.bind_eq_some_iff] at h
  obtain ⟨_, hrg, h⟩ := h
  rw [outputBufferRange, UserWritableRange.fromSyscallArguments, Option.map_eq_some_iff] at hrg
  obtain ⟨span, hspan, rfl⟩ := hrg
  have hlen := UserVirtualRange.byteLen_of_fromSyscallArguments hspan
  refine ⟨(userBuffer_length h).trans hlen, ?_⟩
  rw [← hlen]
  exact span.byteLen_lt

lemma copyOutputBuffer_start (h : kernel.copyOutputBuffer mapper userPointer byteLen = some buffer)
  (hpos : 0 < buffer.bytes.length) : buffer.start = userPointer := by
  rw [copyOutputBuffer] at h
  split at h
  · cases h
    exact absurd hpos (Nat.lt_irrefl _)
  simp only [outputBufferRange, UserWritableRange.fromSyscallArguments,
    UserVirtualRange.fromSyscallArguments, UserVirtualRange.new, userBuffer, copyToUser,
    Option.bind_eq_some_iff, Option.map_eq_some_iff, Option.ite_none_right_eq_some,
    Option.dite_none_right_eq_some] at h
  obtain ⟨range, ⟨span, ⟨start, hst, hbnd, hspan⟩, hrg⟩, span', ⟨-, hsame⟩, rfl⟩ := h
  have hsame : range.asRange = span' := by simpa using hsame
  rw [← hsame, ← hrg]
  have hspan : UserVirtualRange.mk start byteLen hbnd.1 hbnd.2 = span := by
    simpa using hspan
  rw [← hspan]
  exact UserVirtualAddress.new_eq_some.1 hst

/-! ### File handlers -/

/-- A quiet handler with a plain result. -/
structure Handled (mapper : PageMapper) (kernel : Kernel) (result : ℕ) (kernel' : Kernel) :
    Prop where
  quiet : Quiet mapper kernel kernel'
  plain : Plain result

lemma handled_of_plain (h : Plain result) : Handled mapper kernel result kernel := ⟨.refl _, h⟩

/-- Every outcome of the computation is that of a quiet handler with a plain result. -/
abbrev Handles (mapper : PageMapper) (kernel : Kernel) (x : Panicking (ℕ × Kernel)) : Prop :=
  Ensures (fun ended => Handled mapper kernel ended.1 ended.2) x

lemma handles_plain (h : Plain result) : Handles mapper kernel (pure (result, kernel)) :=
  .pure (handled_of_plain h)

lemma handles_operation {operation : FileDescriptorTable → FileState →
    Panicking (FileSystemResult ℕ × FileDescriptorTable × FileState)}
  (hplain : ∀ table files, Ensures (fun ended => ∀ value, ended.1 = .ok value → Plain value)
    (operation table files)) :
  Handles mapper kernel (do
    let (result, kernel) ← kernel.withCurrentFileDescriptorTable operation
    return (syscallResult result, kernel)) := by
  refine .bind_pair (P := fun ended => Quiet mapper kernel ended.2 ∧ Plain (syscallResult ended.1))
    ⟨fun hop => ?_⟩ fun _ _ h => .pure ⟨h.1, h.2⟩
  obtain ⟨_, _, _, _, -, hrun, hval, -⟩ := withCurrentFileDescriptorTable_ok hop
  refine ⟨withCurrentFileDescriptorTable_quiet hop, ?_⟩
  rw [hval]
  exact plain_syscallResult fun value hok => (hplain _ _).holds hrun value hok

section FileHandlers
variable (mapper : PageMapper) (kernel : Kernel)

lemma sysWrite_handled (fileDescriptor userPointer length : ℕ) :
  Handles mapper kernel (kernel.sysWrite mapper fileDescriptor userPointer length) := by
  rw [sysWrite]
  split
  · exact handles_plain (by decide)
  next _ hbuf =>
  refine handles_operation fun table files => ⟨?_⟩
  rintro ⟨outcome, _, _⟩ hwrite value hval
  obtain rfl : outcome = .ok value := hval
  rw [FileDescriptorTable.write_ok hwrite]
  exact plain_of_lt (copyInputBuffer_length hbuf)

lemma sysOpen_handled (userPathPointer flags : ℕ) :
  Handles mapper kernel (kernel.sysOpen mapper userPathPointer flags) := by
  rw [sysOpen]
  split
  · exact handles_plain (by decide)
  refine .after fun resolved => handles_operation fun table files => ?_
  split
  · exact .pure fun value hval => by cases hval
  next _ _ hdesc =>
  refine .pure fun value hval => ?_
  cases hval
  rw [FileSystem.openWithCloseOnExecIn] at hdesc
  cases hn : kernel.fileSystem.getNode resolved with
  | error _ =>
    rw [hn] at hdesc
    cases hdesc
  | ok _ =>
    rw [hn] at hdesc
    have hlt := (FileDescriptorTable.opens_of_ok hdesc).bound
    exact plain_of_lt (Nat.lt_trans hlt (by decide))

lemma sysOpenat_handled (directory userPathPointer flags : ℕ) :
  Handles mapper kernel (kernel.sysOpenat mapper directory userPathPointer flags) :=
  .ite (fun _ => handles_plain (by decide)) fun _ => sysOpen_handled ..

lemma sysChdir_handled (userPathPointer : ℕ) :
  Handles mapper kernel (kernel.sysChdir mapper userPathPointer) := by
  rw [sysChdir]
  split
  · exact handles_plain (by decide)
  refine .after fun resolved => ?_
  split
  · exact handles_plain (plain_filesystemErrorToLinux _)
  refine .ite (fun _ => .pure ⟨⟨?_, ?_, .refl _, rfl⟩, plain_zero⟩) fun _ =>
    handles_plain (by decide)
  · exact .single (.setCurrentWorkingDirectory _ _)
  · exact Scheduler.sameView_modifyTask fun _ _ => rfl

lemma sysGetcwd_handled (userBufferPointer bufferLength : ℕ) :
  Handles mapper kernel (kernel.sysGetcwd mapper userBufferPointer bufferLength) := by
  refine .after fun directory => ?_
  dsimp only
  split
  · exact handles_plain (by decide)
  refine .ite (fun _ => handles_plain (by decide)) fun _ => ?_
  split
  · exact handles_plain (by decide)
  · next _ hbuf =>
    exact .pure ⟨quiet_storeBuffer _ _ _, plain_of_lt (copyOutputBuffer_length hbuf).2⟩

lemma sysClose_handled (fileDescriptor : ℕ) :
  Handles mapper kernel (kernel.sysClose fileDescriptor) := by
  refine handles_operation fun table files => ?_
  split
  · exact .pure fun value hval => by cases hval
  · refine .pure fun value hval => ?_
    cases hval
    exact plain_zero

lemma sysFstat_handled (fileDescriptor userStatPointer : ℕ) :
  Handles mapper kernel (kernel.sysFstat mapper fileDescriptor userStatPointer) := by
  rw [sysFstat]
  split
  · exact handles_plain (by decide)
  refine .bind_pair (P := fun ended => Quiet mapper kernel ended.2 ∧ ∀ error,
    ended.1 = .error error → Plain error) ⟨fun hop => ?_⟩ fun value _ h => ?_
  · obtain ⟨_, _, _, outcome, -, -, hval, -⟩ := withCurrentFileDescriptorTable_ok hop
    refine ⟨withCurrentFileDescriptorTable_quiet hop, fun error herr => ?_⟩
    rw [hval] at herr
    cases outcome <;> cases herr
    exact plain_filesystemErrorToLinux _
  · cases value with
    | error error => exact .pure ⟨h.1, h.2 error rfl⟩
    | ok _ => exact .pure ⟨h.1.trans (quiet_storeBuffer _ _ _), plain_zero⟩

end FileHandlers

lemma readIntoBuffer_ok
    (h : kernel.readIntoBuffer mapper fileDescriptor buffer = .ok (value, kernel')) :
    Quiet mapper kernel kernel' ∧
    (∀ count, value = .ok count → count ≤ buffer.bytes.length) ∧
    ∀ error, value = .error error → ∃ cause, error = filesystemErrorToLinux cause := by
  simp only [readIntoBuffer, bind_eq_ok] at h
  obtain ⟨table, -, h⟩ := h
  cases hread : table.read kernel.fileSystem.files fileDescriptor buffer.bytes with
  | mk outcome rest =>
    obtain ⟨filled, table', _⟩ := rest
    rw [hread] at h
    cases h
    refine ⟨(quiet_replaceCurrentFileDescriptorTable _ table' _).trans
      (quiet_storeBuffer _ buffer filled), ?_, ?_⟩
    · intro _ hcnt
      cases outcome with
      | error error => cases hcnt
      | ok value =>
        cases hcnt
        exact FileDescriptorTable.read_le hread
    intro error herr
    cases outcome with
    | error cause =>
      cases herr
      exact ⟨cause, rfl⟩
    | ok _ => cases herr

lemma userDirectoryEntry_length (entry : DirectoryEntry) :
  (userDirectoryEntry entry).length = userDirectoryEntryBytes := by
  have hname : (entry.name.bytes.take directoryEntryNameBytes).length ≤
    directoryEntryNameBytes := by
    rw [List.length_take]
    exact Nat.min_le_left _ _
  simp only [userDirectoryEntry, List.length_append, toBytes_length, List.length_replicate]
  rw [userDirectoryEntryBytes]
  rw [directoryEntryNameBytes] at hname ⊢
  omega

lemma readDirectoryEntries_ok {remaining : ℕ}
    (h : readDirectoryEntries fileDescriptor remaining written kernel = .ok (value, kernel')) :
    Quiet mapper kernel kernel' ∧
    (∀ bytes,
      value = .ok bytes → bytes.length ≤ written.length + remaining * userDirectoryEntryBytes) ∧
    ∀ error, value = .error error → Plain error := by
  induction remaining generalizing written kernel with
  | zero =>
    cases h
    exact ⟨.refl _, by rintro _ ⟨⟩; omega, by rintro _ ⟨⟩⟩
  | succ _ ih =>
    simp only [readDirectoryEntries, bind_eq_ok, Prod.exists] at h
    obtain ⟨_, _, hop, h⟩ := h
    have hqt : Quiet mapper kernel _ := withCurrentFileDescriptorTable_quiet hop
    obtain ⟨_, _, _, outcome, -, -, rfl, -⟩ := withCurrentFileDescriptorTable_ok hop
    cases outcome with
    | ok entry =>
      cases entry with
      | some _ =>
        obtain ⟨hrest, hlen, herr⟩ := ih h
        refine ⟨hqt.trans hrest, fun bytes hbytes => ?_, herr⟩
        have hle := hlen bytes hbytes
        rw [List.length_append, userDirectoryEntry_length] at hle
        rw [Nat.add_mul]
        omega
      | none =>
        cases h
        exact ⟨hqt, by rintro _ ⟨⟩; omega, by rintro _ ⟨⟩⟩
    | error error =>
      simp only [Except.mapError] at h
      split at h
      · cases h
        exact ⟨hqt, by rintro _ ⟨⟩, by rintro _ ⟨⟩; exact plain_filesystemErrorToLinux error⟩
      · cases h
        exact ⟨hqt, by rintro _ ⟨⟩; omega, by rintro _ ⟨⟩⟩

lemma sysGetdents64_handled (mapper : PageMapper) (kernel : Kernel)
  (fileDescriptor userPointer length : ℕ) :
  Handles mapper kernel (kernel.sysGetdents64 mapper fileDescriptor userPointer length) := by
  refine .ite (fun _ => handles_plain (by decide)) fun _ => ?_
  split
  · exact handles_plain (by decide)
  next buffer hbuf =>
  refine ⟨fun h => ?_⟩
  obtain ⟨⟨value, _⟩, hread, h⟩ := bind_eq_ok.1 h
  obtain ⟨hqt, hlen, herr⟩ := readDirectoryEntries_ok hread
  cases value with
  | error _ =>
    cases h
    exact ⟨hqt, herr _ rfl⟩
  | ok written =>
    cases h
    refine ⟨hqt.trans (quiet_storeBuffer _ _ _), plain_of_lt ?_⟩
    have hle := hlen written rfl
    have hbytes := copyOutputBuffer_length hbuf
    have hrounds := Nat.div_mul_le_self buffer.bytes.length userDirectoryEntryBytes
    rw [List.length_nil] at hle
    omega

lemma sysLseek_quiet {offset whence : ℕ}
  (h : kernel.sysLseek fileDescriptor offset whence = .ok (result, kernel')) :
  Quiet mapper kernel kernel' := by
  rw [sysLseek] at h
  split at h
  · cases h
    exact .refl _
  · obtain ⟨⟨_, _⟩, hop, h⟩ := bind_eq_ok.1 h
    cases h
    exact withCurrentFileDescriptorTable_quiet hop

end Kernel
end ManaOS
