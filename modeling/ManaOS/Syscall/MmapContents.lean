/-
The bytes of a mapping that `mmap` returns.

`initialize_mapping_page` reads each page of a private file mapping at its offset, the last page up
to the requested length only.

* `mmap_contents` (**contents**): the bytes of the pages that a call has mapped.
-/
import ManaOS.Boot
import ManaOS.Memory.MappingContents
import ManaOS.Syscall.Effects

namespace ManaOS
open Checked List

/-- Reading the node copies its contents to the front of the buffer, as far as they go. -/
def FileNode.Copies (node : FileNode) (files : FileState) (data : List UInt8) : Prop :=
  ∀ offset buffer, node.readAt files offset buffer =
    (.ok (min buffer.length (data.length - offset)), (data.drop offset).take buffer.length ++
        buffer.drop (min buffer.length (data.length - offset)), files)

lemma readFrom_eq (data : List UInt8) (offset : ℕ) (buffer : List UInt8) :
    readFrom data offset buffer =
      (min buffer.length (data.length - offset), (data.drop offset).take buffer.length ++
         buffer.drop (min buffer.length (data.length - offset))) := by
  rw [readFrom]
  split
  · next hle =>
    rw [Nat.sub_eq_zero_of_le hle, Nat.min_zero, drop_eq_nil_of_le hle, take_nil,
      drop_zero, nil_append]
  · dsimp only
    rw [Nat.min_comm, ← length_drop, ← take_eq_take_min]

lemma FileNode.copies_readOnlyFile (files : FileState) (data : List UInt8) :
  (FileNode.readOnlyFile data).Copies files data := by
  intro _ _
  rw [readAt, readFrom_eq]

/-! ### Pages -/

/-- The bytes of one page of a mapping of a file, before the zeros behind them. -/
def filePage (data : List UInt8) (offset length pageIndex : ℕ) : List UInt8 :=
  let pageLength := min (length - pageIndex * pageSize) pageSize
  let readOffset := offset + pageIndex * pageSize
  (data.drop readOffset).take pageLength ++
    List.replicate (pageLength - min pageLength (data.length - readOffset)) 0

lemma length_filePage_le (data : List UInt8) (offset length pageIndex : ℕ) :
  (filePage data offset length pageIndex).length ≤ pageSize := by
  rw [filePage, length_append, length_take, length_drop, length_replicate]
  omega

lemma getD_append_zeros (bytes : List UInt8) (count offset : ℕ) :
  (bytes ++ List.replicate count 0).getD offset 0 = bytes.getD offset 0 := by
  rw [getD_eq_getElem?_getD, getD_eq_getElem?_getD, getElem?_append]
  split
  · rfl
  · next hge =>
    rw [getElem?_eq_none (Nat.le_of_not_lt hge), getElem?_replicate]
    split <;> rfl

lemma getD_filePage (data : List UInt8) (offset length : ℕ) (i : ℕ) :
  (filePage data offset length (i / pageSize)).getD (i % pageSize) 0 =
    if i < length then data.getD (offset + i) 0 else 0 := by
  have hsplit := Nat.div_add_mod' i pageSize
  have hlt : i % pageSize < pageSize := Nat.mod_lt _ (by decide)
  rw [filePage, getD_append_zeros, getD_eq_getElem?_getD, getD_eq_getElem?_getD, getElem?_take]
  by_cases hi : i < length
  · have hshown : i % pageSize < min (length - i / pageSize * pageSize) pageSize := by omega
    rw [if_pos hshown, if_pos hi, getElem?_drop, Nat.add_assoc, hsplit]
  · have hbehind : ¬ i % pageSize < min (length - i / pageSize * pageSize) pageSize := by omega
    rw [if_neg hbehind, if_neg hi]
    rfl

lemma initializes_anonymous (length : ℕ) (files : FileState) :
  Initializes (initializeMappingPage .anonymous) length (fun captured => captured.2 = files)
    fun pageIndex => List.replicate (min (length - pageIndex * pageSize) pageSize) 0 := by
  refine ⟨fun {captured captured' pageIndex filled} hheld hout => ?_, fun pageIndex => ?_⟩
  · rw [pageOutcome] at hout
    split at hout
    · cases hout
      exact ⟨rfl, hheld⟩
    next hzero =>
    cases hout
    rw [Nat.eq_zero_of_not_pos hzero]
    exact ⟨rfl, hheld⟩
  · rw [length_replicate]
    exact Nat.min_le_right _ _

lemma initializes_filePrivate {table : FileDescriptorTable}
    (hopen : table.getOpenFile fileDescriptor = .ok openFile)
    (hcopies : openFile.node.Copies files data) (offset length : ℕ) :
    Initializes (initializeMappingPage (.filePrivate table fileDescriptor offset)) length
      (fun captured => captured.2 = files) (filePage data offset length) := by
  refine ⟨fun {captured captured' pageIndex filled} hheld hout => ?_,
    length_filePage_le data offset length⟩
  rw [pageOutcome] at hout
  split at hout
  · rw [initializeMappingPage] at hout
    split at hout
    · cases hout
    next _ hoff =>
    obtain ⟨_, hbytes, hsum⟩ := Option.bind_eq_some_iff.1 hoff
    obtain ⟨-, rfl⟩ := checkedMul_eq_some.1 hbytes
    obtain ⟨-, rfl⟩ := checkedAdd_eq_some.1 hsum
    simp only [FileDescriptorTable.readAt, hopen, hheld, hcopies _ _] at hout
    cases hout
    rw [length_replicate, drop_replicate]
    exact ⟨rfl, rfl⟩
  · next hzero =>
    cases hout
    rw [filePage, Nat.eq_zero_of_not_pos hzero]
    exact ⟨by simp, hheld⟩

/-! ### The syscall -/

namespace Kernel

lemma userSpaceEnd_le_filesystemErrorToLinux (error : FileSystemError) :
  userSpaceEnd ≤ filesystemErrorToLinux error := by
  cases error <;> decide

lemma userSpaceEnd_le_mmapResult : userSpaceEnd ≤ mmapResult captured (.error error) := by
  cases error with
  | initializationFailed =>
    rw [mmapResult]
    cases captured.1 with
    | none => decide
    | some cause => exact userSpaceEnd_le_filesystemErrorToLinux cause
  | invalidRequest => exact (by decide : userSpaceEnd ≤ userMappingErrorToLinux .invalidRequest)
  | addressInUse => exact (by decide : userSpaceEnd ≤ userMappingErrorToLinux .addressInUse)
  | outOfMemory => exact (by decide : userSpaceEnd ≤ userMappingErrorToLinux .outOfMemory)

variable {mapper : PageMapper} {kernel kernel' : Kernel} {result : ℕ}
  {requestedAddress length protection flags fileDescriptor offset : ℕ}

lemma userSpaceEnd_le_mappingSource
    (h : kernel.mappingSourceFromArguments fileDescriptor offset flags = .ok (.error error)) :
    userSpaceEnd ≤ error := by
  rw [mappingSourceFromArguments] at h
  split at h
  · cases h
  split at h
  · cases h
    decide
  obtain ⟨_, -, h⟩ := bind_eq_ok.1 h
  split at h
  · next cause _ =>
    cases h
    exact userSpaceEnd_le_filesystemErrorToLinux cause
  split at h
  · cases h
  · cases h
    decide
  · cases h
    decide

lemma sysMmap_mapped (hsucc : result < userSpaceEnd)
    (h : kernel.sysMmap mapper requestedAddress length protection flags fileDescriptor offset =
        .ok (result, kernel')) :
    ∃ source placement mappingLength current runtime space allocation mappings captured',
      UserMappingLength.fromSyscallArgument length = some mappingLength ∧
      kernel.mappingSourceFromArguments fileDescriptor offset flags = .ok (.ok source) ∧
      kernel.scheduler.CurrentUser current runtime ∧
      runtime.addressSpace = some space ∧
      runtime.mappings.mapPrivate mapper space kernel.memory
        ⟨placement, mappingLength, protWrite protection, source.userMappingSource⟩
        (initializeMappingPage source) (none, kernel.fileSystem.files) =
        .ok (.ok allocation, mappings, kernel'.memory, captured') ∧
      result = allocation.start.asU64 := by
  have hinv : ¬ errorInvalidArgument < userSpaceEnd := by decide
  have hmissing : ¬ errorNotImplemented < userSpaceEnd := by decide
  rw [sysMmap] at h
  split at h
  · next placement mappingLength _ hlen =>
    split at h
    · cases h
      exact absurd hsucc hinv
    obtain ⟨source, hsrc, h⟩ := bind_eq_ok.1 h
    cases source with
    | error error =>
      cases h
      exact absurd hsucc (Nat.not_lt.2 (userSpaceEnd_le_mappingSource hsrc))
    | ok source =>
      simp only at h
      split at h
      · cases h
        exact absurd hsucc hmissing
      obtain ⟨⟨_, _, _, _, _⟩, hmap, h⟩ := bind_eq_ok.1 h
      cases h
      rcases Scheduler.processCurrentUserMapping_ok hmap with ⟨rfl, -⟩ |
        ⟨current, runtime, space, allocation, mappings, hcur, hsp, hprivate, rfl, -⟩
      · exact absurd hsucc (Nat.not_lt.2 userSpaceEnd_le_mmapResult)
      cases allocation with
      | error _ => exact absurd hsucc (Nat.not_lt.2 userSpaceEnd_le_mmapResult)
      | ok allocation =>
        exact ⟨source, placement, mappingLength, current, runtime, space, allocation,
          mappings, _, hlen, hsrc, hcur, hsp, hprivate, rfl⟩
  · cases h
    exact absurd hsucc hinv

lemma mappingSourceFromArguments_ok
    (h : kernel.mappingSourceFromArguments fileDescriptor offset flags = .ok (.ok source)) :
    (flags.testBit mapAnonymousBit = true ∧ source = .anonymous) ∨
    (flags.testBit mapAnonymousBit = false ∧
     ∃ table,
       kernel.scheduler.currentFileDescriptorTable = .ok table ∧
       source = .filePrivate table fileDescriptor offset) := by
  rw [mappingSourceFromArguments] at h
  split at h
  · next hanonymous =>
    cases h
    exact .inl ⟨hanonymous, rfl⟩
  next hfile =>
  split at h
  · cases h
  obtain ⟨table, htab, h⟩ := bind_eq_ok.1 h
  split at h
  · cases h
  split at h
  · cases h
    exact .inr ⟨by simpa using hfile, table, htab, rfl⟩
  · cases h
  · cases h

/-- **The bytes of a mapping.**  A call that returns an address has mapped the pages of the
requested length.  A file mapping shows the file from its offset on, up to the requested length
and the end of the file, and zeros behind; an anonymous mapping is all zero. -/
theorem mmap_contents (hmapper : mapper.Walks) {s : PageState} (hmemory : kernel.memory.Realizes s)
  {current : Task} {runtime : UserTaskRuntime}
  (hcurrent : kernel.scheduler.CurrentUser current runtime) {space : UserAddressSpace}
  (hspace : runtime.addressSpace = some space)
  (hroot : s.place space.level4Frame.asAddress = some (space.level4Frame.asAddress, []))
  (hbacked : runtime.mappings.Backed s space.level4Frame.asAddress)
  (hok : kernel.sysMmap mapper requestedAddress length protection flags fileDescriptor offset =
    .ok (result, kernel')) (hsuccess : result < userSpaceEnd) :
  ∃ pageCount, pageCountForLength length = some pageCount ∧
    (flags.testBit mapAnonymousBit = true → ∀ i < pageCount.asU64 * pageSize,
      kernel'.memory.byteAt space.level4Frame.asAddress (result + i) = some 0) ∧
    (flags.testBit mapAnonymousBit = false → ∀ openFile data,
      current.metadata.fileDescriptors.getOpenFile fileDescriptor = .ok openFile →
      openFile.node.Copies kernel.fileSystem.files data → ∀ i < pageCount.asU64 * pageSize,
      kernel'.memory.byteAt space.level4Frame.asAddress (result + i) =
        some (if i < length then data.getD (offset + i) 0 else 0)) := by
  obtain ⟨_, _, _, found, foundRuntime, foundSpace, _, _,
    _, hlength, hsource, hfound, hfoundSpace, hprivate, rfl⟩ := sysMmap_mapped hsuccess hok
  obtain rfl : found = current := Option.some.inj (hfound.current_eq.symm.trans hcurrent.current_eq)
  obtain rfl : foundRuntime = runtime := TaskKind.user.inj (hfound.kind.symm.trans hcurrent.kind)
  obtain rfl : foundSpace = space := Option.some.inj (hfoundSpace.symm.trans hspace)
  rw [UserMappingLength.fromSyscallArgument, Option.map_eq_some_iff] at hlength
  obtain ⟨pageCount, hcount, rfl⟩ := hlength
  refine ⟨pageCount, hcount, ?_⟩
  have hheld : ((none, kernel.fileSystem.files) : MappingCapture).2 = kernel.fileSystem.files := rfl
  rcases mappingSourceFromArguments_ok hsource with ⟨hanonymous, rfl⟩ |
    ⟨hfile, table, htable, rfl⟩
  · refine ⟨fun _ i hi => ?_, fun hnot => absurd (hanonymous.symm.trans hnot) (by decide)⟩
    have hinitializes := initializes_anonymous length kernel.fileSystem.files
    obtain ⟨start, hstart, hpages⟩ := UserMappings.mapPrivate_contents hmapper hmemory hroot
      hbacked hprivate hinitializes hheld
    rw [hstart, byteAt_of_pageContents hpages hi, ← nil_append (List.replicate _ _),
      getD_append_zeros]
    rfl
  refine ⟨fun hnot => absurd (hfile.symm.trans hnot) (by decide),
    fun _ openFile data hopen hcopies i hi => ?_⟩
  obtain rfl : table = found.metadata.fileDescriptors := by
    rw [Scheduler.currentFileDescriptorTable,
      Scheduler.currentTask_eq_ok.2 hfound.current_eq] at htable
    cases htable
    rfl
  have hinitializes := initializes_filePrivate hopen hcopies offset length
  obtain ⟨_, hstart, hpages⟩ := UserMappings.mapPrivate_contents hmapper hmemory hroot
    hbacked hprivate hinitializes hheld
  rw [hstart, byteAt_of_pageContents hpages hi, getD_filePage]

/-- The runtime of a task with an empty address space. -/
def emptyRuntime (space : UserAddressSpace) : UserTaskRuntime where
  addressSpace := some space
  savedFrame := {}
  heap := ⟨⟨userProgramBase, userProgramBase_ne_zero, userProgramBase_lt_end⟩,
    ⟨userProgramBase, userProgramBase_ne_zero, userProgramBase_lt_end⟩,
    ⟨⟨userProgramBase, userProgramBase_ne_zero, userProgramBase_lt_end⟩, userProgramBase_aligned⟩⟩
  mappings := .new

/-- A running task with a file of three bytes as descriptor zero. -/
def mappingTask (space : UserAddressSpace) : Task :=
  ⟨⟨1, some 0, none, ['/'], ⟨[some ⟨.readOnlyFile [10, 20, 30], 0, false⟩], by decide⟩⟩, .running,
    .user (emptyRuntime space), .new, none⟩

def mappingKernel (space : UserAddressSpace) (memory : Memory) : Kernel :=
  { bootKernel with
    memory
    userRuntimeFrameAllocator := true
    scheduler :=
      { Scheduler.new with
        tasks := [.bootstrap, mappingTask space]
        currentIndex := 1
        nextTaskIdentifier := 2
        activeUserTaskIdentifiers := [1] } }

set_option maxRecDepth 100000 in
/-- A mapping of 5000 bytes of the file shows the three bytes and then zeros, also in its second
page. -/
theorem mmap_contents_three_bytes : ∃ (space : UserAddressSpace) (memory : Memory)
  (result : ℕ) (kernel' : Kernel), createUserAddressSpace bootMemory = .ok (space, memory) ∧
  (mappingKernel space memory).sysMmap walkMapper 0 5000 3 2 0 0 = .ok (result, kernel') ∧
  result = userMappingBase ∧
  kernel'.memory.byteAt space.level4Frame.asAddress (result + 1) = some 20 ∧
  kernel'.memory.byteAt space.level4Frame.asAddress (result + 3) = some 0 ∧
  kernel'.memory.byteAt space.level4Frame.asAddress (result + 6000) = some 0 := by
  obtain ⟨space, memory, s, hcreate, hmemory, hroot, -⟩ := UserMappings.exists_bootSpace
  have hrun : (createUserAddressSpace bootMemory >>= fun created => ((mappingKernel created.1
    created.2).sysMmap walkMapper 0 5000 3 2 0 0).map Prod.fst) = .ok userMappingBase := by
    decide +kernel
  rw [hcreate, ok_bind] at hrun
  obtain ⟨⟨result, kernel'⟩, hok, hresult⟩ := map_eq_ok.1 hrun
  obtain rfl : result = userMappingBase := hresult
  have hcurrent : (mappingKernel space memory).scheduler.CurrentUser (mappingTask space)
    (emptyRuntime space) := ⟨rfl, rfl⟩
  obtain ⟨_, hcount, -, hfile⟩ := mmap_contents walkMapper_walks hmemory hcurrent rfl hroot
    (UserMappings.backed_new s _) hok (by decide)
  have htwo : pageCountForLength 5000 = some ⟨2, by decide, by decide⟩ := by decide
  cases hcount.symm.trans htwo
  have hbytes := hfile (by decide) _ _ rfl (FileNode.copies_readOnlyFile _ _)
  exact ⟨space, memory, _, kernel', hcreate, hok, rfl, hbytes 1 (by decide), hbytes 3 (by decide),
    hbytes 6000 (by decide)⟩

end Kernel
end ManaOS
